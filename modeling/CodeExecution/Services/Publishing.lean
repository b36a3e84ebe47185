import CodeExecution.Services.Printing

/-! The platform with the `publishQueue` of each sandbox, whose links add and publish one chunk each. -/

namespace CodeExecution

/-- One call of `publishChunk` or of `publishSystemChunk`. -/
structure Posting where
  worker : WorkerId
  /-- How many sandboxes the worker had started. -/
  attempt : Nat
  /-- `publishSystemChunk` was called, which the worker does with its completion marker. -/
  completes : Bool
  entry : StreamEntry
  timestamp : Timestamp
  deriving DecidableEq, Repr

/-- A `runInSandbox` call in progress. -/
structure SandboxCall where
  output : SandboxOutput
  /-- A `data` event has come. -/
  printed : Bool
  /-- The links of `publishQueue` that have not settled, in their order. -/
  links : List Posting
  /-- XADD of the first of them has resolved, and PUBLISH comes next. -/
  announcing : Bool
  /-- Once the child has closed: how many links `await publishQueue` still waits for. -/
  awaited : Option Nat
  deriving DecidableEq, Repr

/-- The first link of `publishQueue` has settled. -/
def SandboxCall.settleLink (call : SandboxCall) : SandboxCall :=
  { call with
    links := call.links.drop 1
    announcing := false
    awaited := call.awaited.map fun count => count - 1 }

/-- The platform, its sandboxes, and what was posted, added and published for each job. -/
structure Publishing where
  platform : Platform
  sandboxes : WorkerId → Option SandboxCall
  attempts : WorkerId → Nat
  /-- The calls of `publishChunk` and `publishSystemChunk`, in their order. -/
  calls : JobId → List Posting
  /-- Everything that was ever added to `jobs:streams:{jobId}`. -/
  entries : JobId → List Posting
  /-- Everything that was ever published on that channel. -/
  channel : JobId → List Posting

/-- One thing that happens on the platform or in a sandbox. -/
inductive PublishingLabel where
  | platform (label : Label)
  /-- A `data` event of the program that a worker executes. -/
  | output (worker : WorkerId) (event : OutputEvent)
  /-- The awaited Redis call of the first link of a worker's `publishQueue`. -/
  | link (worker : WorkerId) (outcome : CallOutcome)
  /-- The `close` event of the child, which comes after its last `data` event. -/
  | close (worker : WorkerId)
  deriving DecidableEq

namespace Publishing

/-- The platform before the first request, and empty streams. -/
def initial : Publishing where
  platform := .initial
  sandboxes := fun _ => none
  attempts := fun _ => 0
  calls := fun _ => []
  entries := fun _ => []
  channel := fun _ => []

variable (state : Publishing)

/-- The posting of a completion marker. -/
def marker (worker : WorkerId) (chunk : StreamChunk) : Posting where
  worker := worker
  attempt := state.attempts worker
  completes := true
  entry := (chunk.type, Utf16.encode chunk.data.toList)
  timestamp := chunk.timestamp

/-- The posting of a chunk of output. -/
def chunk (worker : WorkerId) (entry : StreamEntry) : Posting where
  worker := worker
  attempt := state.attempts worker
  completes := false
  entry := entry
  timestamp := state.platform.store.now

/-- A sandbox settles in the two ways that `runInSandbox` has. -/
def settles : Label → Bool
  | .sandbox worker (some result) =>
    -- The `close` handler has awaited `publishQueue`.
    (state.sandboxes worker).any fun call => call.awaited = some 0 ∧
      result.stdout = String.ofList call.output.stdout ∧
      result.stderr = String.ofList call.output.stderr ∧
      result.outputTruncated = call.output.outputTruncated ∧
      result.streamOutputLimitExceeded = call.output.streamOutputLimitExceeded
  | .sandbox worker none =>
    -- The child could not be spawned, so it has printed nothing.
    (state.sandboxes worker).any fun call => !call.printed
  | _ => true

/-- The sandboxes after a label of the platform. -/
def sandboxesAfter : Label → WorkerId → Option SandboxCall
  | .launch worker =>
    Function.update state.sandboxes worker (some ⟨.initial, false, [], false, none⟩)
  -- With the process of the worker, its queue is gone.
  | .sandbox worker _ | .workerCrash worker => Function.update state.sandboxes worker none
  | _ => state.sandboxes

/-- The number of sandboxes started, after a label of the platform. -/
def attemptsAfter : Label → WorkerId → Nat
  | .launch worker => Function.update state.attempts worker (state.attempts worker + 1)
  | _ => state.attempts

/-- The command of `publishSystemChunk` that a label of the platform sends, and if it has its effect. -/
def announced : Label → Option (StreamCall × JobId × Posting × Bool)
  | .worker worker outcome =>
    match state.platform.workers worker with
    | .running point =>
      match point.effect worker state.platform.store with
      | .stream call jobId chunk =>
        some (call, jobId, state.marker worker chunk, outcome.applied)
      | _ => none
    | .absent | .crashed => none
  | _ => none

/-- Some postings are added to a log. -/
def extend (log : JobId → List Posting) (jobId : JobId) (postings : List Posting) :
    JobId → List Posting :=
  Function.update log jobId (log jobId ++ postings)

/-- The three logs after a worker's call about a completion marker. -/
def withAnnounced : Option (StreamCall × JobId × Posting × Bool) → Publishing
  | some (.xadd, jobId, posting, applied) => { state with
      calls := extend state.calls jobId [posting]
      entries := extend state.entries jobId (if applied then [posting] else []) }
  | some (.publish, jobId, posting, applied) =>
    { state with channel := extend state.channel jobId (if applied then [posting] else []) }
  -- An EXPIRE adds nothing to the stream.
  | some (.expire, _, _, _) | none => state

/-- The sandbox of a worker has moved on. -/
def withSandbox (worker : WorkerId) (call : SandboxCall) : Publishing :=
  { state with sandboxes := Function.update state.sandboxes worker (some call) }

/-- The platform has moved on by a label. -/
def withPlatform (label : Label) (platform : Platform) : Publishing :=
  { state.withAnnounced (state.announced label) with
    platform
    sandboxes := state.sandboxesAfter label
    attempts := state.attemptsAfter label }

/-- One step, where the label is enabled. -/
def step : PublishingLabel → Option Publishing
  | .platform label =>
    if state.settles label then
      (state.platform.step label).map (state.withPlatform label)
    else none
  | .output worker event =>
    match state.sandboxes worker, state.platform.executing? worker with
    | some call, some jobId =>
      if call.awaited = none then
        let output := call.output.handleOutput event
        -- The chunks of one event are chained in their order.
        let postings :=
          (output.published.drop call.output.published.length).map (state.chunk worker)
        some ({ state with calls := extend state.calls jobId postings }.withSandbox worker
          { call with output, printed := true, links := call.links ++ postings })
      else none
    | _, _ => none
  | .link worker outcome =>
    match state.sandboxes worker, state.platform.executing? worker with
    | some call, some jobId =>
      if call.links = [] then none
      else
        let sent := if outcome.applied then call.links.take 1 else []
        if call.announcing then
          some ({ state with channel := extend state.channel jobId sent }.withSandbox worker
            call.settleLink)
        else
          -- An XADD that rejects skips the PUBLISH of its link.
          some ({ state with entries := extend state.entries jobId sent }.withSandbox worker
            (match outcome with
              | .resolves => { call with announcing := true }
              | .rejects _ => call.settleLink))
    | _, _ => none
  | .close worker =>
    (state.sandboxes worker).bind fun call =>
      if call.awaited = none then
        some (state.withSandbox worker { call with awaited := some call.links.length })
      else none

/-- Everything that the step of a label can do, with its guard. -/
inductive Stepped (state : Publishing) : PublishingLabel → Publishing → Prop
  | platform {label : Label} {platform : Platform} (settled : state.settles label = true)
      (moved : state.platform.step label = some platform) :
      Stepped state (.platform label) (state.withPlatform label platform)
  | output {worker : WorkerId} {event : OutputEvent} {call : SandboxCall} {jobId : JobId}
      {output : SandboxOutput} {postings : List Posting}
      (going : state.sandboxes worker = some call)
      (executes : state.platform.executing? worker = some jobId) (running : call.awaited = none)
      (handled : output = call.output.handleOutput event)
      (posted : postings =
        (output.published.drop call.output.published.length).map (state.chunk worker)) :
      Stepped state (.output worker event)
        ({ state with calls := extend state.calls jobId postings }.withSandbox worker
          { call with output, printed := true, links := call.links ++ postings })
  | publish {worker : WorkerId} {outcome : CallOutcome} {call : SandboxCall} {jobId : JobId}
      {sent : List Posting} (going : state.sandboxes worker = some call)
      (executes : state.platform.executing? worker = some jobId) (waits : call.links ≠ [])
      (announcing : call.announcing = true)
      (sends : sent = if outcome.applied then call.links.take 1 else []) :
      Stepped state (.link worker outcome)
        ({ state with channel := extend state.channel jobId sent }.withSandbox worker
          call.settleLink)
  | xadd {worker : WorkerId} {outcome : CallOutcome} {call after : SandboxCall} {jobId : JobId}
      {sent : List Posting} (going : state.sandboxes worker = some call)
      (executes : state.platform.executing? worker = some jobId) (waits : call.links ≠ [])
      (announcing : call.announcing = false)
      (settles : after = match outcome with
        | .resolves => { call with announcing := true }
        | .rejects _ => call.settleLink)
      (sends : sent = if outcome.applied then call.links.take 1 else []) :
      Stepped state (.link worker outcome)
        ({ state with entries := extend state.entries jobId sent }.withSandbox worker after)
  | close {worker : WorkerId} {call : SandboxCall} (going : state.sandboxes worker = some call)
      (running : call.awaited = none) :
      Stepped state (.close worker)
        (state.withSandbox worker { call with awaited := some call.links.length })

/-- Nothing else comes of a step. -/
theorem step_cases {state next : Publishing} {label : PublishingLabel}
    (stepped : state.step label = some next) : Stepped state label next := by
  -- The guard of each label is the test that `step` makes.
  cases label with
  | platform label =>
    simp only [step] at stepped
    split at stepped
    · next settled =>
      obtain ⟨platform, moved, rfl⟩ := Option.map_eq_some_iff.mp stepped
      exact .platform settled moved
    · simp at stepped
  | output worker event =>
    simp only [step] at stepped
    split at stepped
    · next going executes =>
      split at stepped
      · next running =>
        obtain rfl := Option.some.inj stepped
        exact .output going executes running rfl rfl
      · simp at stepped
    · simp at stepped
  | link worker outcome =>
    simp only [step] at stepped
    split at stepped
    · next going executes =>
      split at stepped
      · simp at stepped
      · next waits =>
        split at stepped
        · next announcing =>
          obtain rfl := Option.some.inj stepped
          exact .publish going executes waits announcing rfl
        · next added =>
          obtain rfl := Option.some.inj stepped
          exact .xadd going executes waits ((Bool.not_eq_true _).mp added) rfl rfl
    · simp at stepped
  | close worker =>
    obtain ⟨call, going, stepped⟩ := Option.bind_eq_some_iff.mp stepped
    split at stepped
    · next running =>
      obtain rfl := Option.some.inj stepped
      exact .close going running
    · simp at stepped

end Publishing

/-- The platform with its `publishQueue`s as a labelled machine. -/
def publishing : Machine Publishing PublishingLabel where
  step := Publishing.step

end CodeExecution

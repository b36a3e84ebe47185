import CodeExecution.Services.SandboxRun

/-! The platform with the whole `runInSandbox` call of every worker beside it. -/

namespace CodeExecution

/-- The worker sees of a resolution what its fields say. -/
theorem SandboxResolution.gives_iff {resolution : SandboxResolution} {result : SandboxResult} :
    resolution.Gives result ↔ result.exitCode = resolution.exitCode ∧
      result.stdout = String.ofList resolution.output.stdout ∧
      result.stderr = String.ofList resolution.output.stderr ∧
      result.timedOut = resolution.timedOut ∧ result.oomKilled = resolution.oomKilled ∧
      result.outputTruncated = resolution.output.outputTruncated ∧
      result.streamOutputLimitExceeded = resolution.output.streamOutputLimitExceeded ∧
      result.executionTimeMs = resolution.executionTimeMs ∧
      result.memoryUsedBytes.map .finite = resolution.output.memoryUsedBytes := by
  constructor
  -- The fields of the structure are these nine equations.
  · intro own
    exact ⟨own.exitCode, own.stdout, own.stderr, own.timedOut, own.oomKilled, own.outputTruncated,
      own.streamOutputLimitExceeded, own.executionTimeMs, own.memoryUsedBytes⟩
  · intro own
    obtain ⟨code, out, err, timed, oom, cut, limit, time, memory⟩ := own
    exact ⟨code, out, err, timed, oom, cut, limit, time, memory⟩

instance (resolution : SandboxResolution) (result : SandboxResult) :
    Decidable (resolution.Gives result) :=
  decidable_of_iff _ SandboxResolution.gives_iff.symm

/-- The platform, the call that each worker is inside, and the entries of all streams. -/
structure Sandboxed where
  platform : Platform
  calls : WorkerId → Option SandboxRun
  /-- `jobs:streams:{jobId}` with its data in code units, oldest entry first. -/
  entries : JobId → List StreamEntry

/-- One thing that happens on the platform or to a call. -/
inductive SandboxedLabel where
  | platform (label : Label)
  /-- An event of a worker's call, other than those of `publishQueue`. -/
  | sandbox (worker : WorkerId) (event : SandboxEvent)
  /-- A link of a worker's `publishQueue` settles, with or without the effect of its XADD. -/
  | link (worker : WorkerId) (added : Bool)
  deriving DecidableEq

namespace Sandboxed

/-- No worker has called `runInSandbox`. -/
def initial : Sandboxed where
  platform := .initial
  calls := fun _ => none
  entries := fun _ => []

variable (state : Sandboxed)

/-- The worker goes on with what its call has settled to. -/
def settles : Label → Bool
  | .sandbox worker settled =>
    match (state.calls worker).map SandboxRun.promise, settled with
    | some (.resolved resolution), some result => resolution.Gives result
    | some .rejected, none => true
    | _, _ => false
  | _ => true

/-- The calls after a label of the platform. -/
def callsAfter : Label → WorkerId → Option SandboxRun
  | .launch worker => Function.update state.calls worker (some (.start 0))
  -- With the process of the worker, its call is gone.
  | .sandbox worker _ | .workerCrash worker => Function.update state.calls worker none
  | _ => state.calls

/-- The call of a worker has moved on. -/
def withCall (worker : WorkerId) (call : SandboxRun) : Sandboxed :=
  { state with calls := Function.update state.calls worker (some call) }

/-- One step, where the label is enabled. -/
def step : SandboxedLabel → Option Sandboxed
  | .platform label =>
    if state.settles label then
      (state.platform.step label).map fun platform =>
        { platform
          calls := state.callsAfter label
          entries := (state.platform.effect label).addEntry state.entries }
    else none
  | .sandbox worker event =>
    if event = .link then none
    else (state.calls worker).bind fun call => (call.step event).map (state.withCall worker)
  | .link worker added =>
    match state.calls worker, state.platform.executing? worker with
    | some call, some jobId =>
      match call.output.published[call.settledLinks]?, call.step .link with
      | some chunk, some after =>
        let entries := if added then [chunk] else []
        some ({ state with
          entries := Function.update state.entries jobId (state.entries jobId ++ entries) }.withCall
            worker after)
      | _, _ => none
    | _, _ => none

/-- Everything that the step of a label can do, with its guard. -/
inductive Stepped (state : Sandboxed) : SandboxedLabel → Sandboxed → Prop
  | platform {label : Label} {platform : Platform} (settled : state.settles label = true)
      (moved : state.platform.step label = some platform) :
      Stepped state (.platform label)
        { platform
          calls := state.callsAfter label
          entries := (state.platform.effect label).addEntry state.entries }
  | sandbox {worker : WorkerId} {event : SandboxEvent} {call after : SandboxRun}
      (other : event ≠ .link) (going : state.calls worker = some call)
      (moved : call.step event = some after) :
      Stepped state (.sandbox worker event) (state.withCall worker after)
  | link {worker : WorkerId} {added : Bool} {call after : SandboxRun} {jobId : JobId}
      {chunk : StreamEntry} (going : state.calls worker = some call)
      (executes : state.platform.executing? worker = some jobId)
      (next : call.output.published[call.settledLinks]? = some chunk)
      (moved : call.step .link = some after) :
      Stepped state (.link worker added)
        ({ state with
          entries := Function.update state.entries jobId
            (state.entries jobId ++ if added then [chunk] else []) }.withCall worker after)

/-- Nothing else comes of a step. -/
theorem step_cases {state next : Sandboxed} {label : SandboxedLabel}
    (stepped : state.step label = some next) : Stepped state label next := by
  -- The guard of each label is the test that `step` makes.
  cases label with
  | platform label =>
    simp only [step, Option.ite_none_right_eq_some] at stepped
    obtain ⟨settled, stepped⟩ := stepped
    obtain ⟨platform, moved, rfl⟩ := Option.map_eq_some_iff.mp stepped
    exact .platform settled moved
  | sandbox worker event =>
    simp only [step, Option.ite_none_left_eq_some] at stepped
    obtain ⟨other, stepped⟩ := stepped
    obtain ⟨call, going, stepped⟩ := Option.bind_eq_some_iff.mp stepped
    obtain ⟨after, moved, rfl⟩ := Option.map_eq_some_iff.mp stepped
    exact .sandbox other going moved
  | link worker added =>
    simp only [step] at stepped
    split at stepped
    · next going executes =>
      split at stepped
      · next found moved =>
        obtain rfl := Option.some.inj stepped
        exact .link going executes found moved
      · simp at stepped
    · simp at stepped

end Sandboxed

/-- The platform with its calls as a labelled machine. -/
def sandboxed : Machine Sandboxed SandboxedLabel where
  step := Sandboxed.step

end CodeExecution

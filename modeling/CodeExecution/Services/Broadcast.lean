import CodeExecution.Effects

/-! The output streams as a whole: what sandboxes append to them, and how Redis shortens them. -/

namespace CodeExecution

/-- `STREAM_RETENTION_COUNT`, to which every XADD trims its stream. -/
def streamRetentionCount : Nat := 1000

/-- The test of the gateway for the message that ends a stream. -/
def StreamChunk.isCompletion (chunk : StreamChunk) : Bool :=
  chunk.type = .system ∧ chunk.data = "EXECUTION_COMPLETE"

@[simp] theorem completionChunk_isCompletion (timestamp : Timestamp) :
    (completionChunk timestamp).isCompletion = true := rfl

/-- The only system message that `runInSandbox` itself publishes. -/
def outputLimitMessage : String :=
  "OUTPUT_LIMIT_EXCEEDED: container killed after exceeding 1 MB stream output cap"

/-- The chunks that `publishChunk` is called with: program output, or the message about the limit. -/
def StreamChunk.fromSandbox (chunk : StreamChunk) : Bool :=
  match chunk.type with
  | .stdout | .stderr => true
  | .system => chunk.data = outputLimitMessage

/-- Nothing that a program prints ends its stream. -/
theorem StreamChunk.fromSandbox_isCompletion {chunk : StreamChunk}
    (printed : chunk.fromSandbox = true) : chunk.isCompletion = false := by
  -- Only system messages are looked at, and the sandbox has another text for its own.
  obtain ⟨type, data, timestamp⟩ := chunk
  cases type with
  | stdout | stderr => simp [isCompletion]
  | system =>
    obtain rfl : data = outputLimitMessage := by simpa [fromSandbox] using printed
    have other : outputLimitMessage ≠ "EXECUTION_COMPLETE" := by decide
    simp [isCompletion, other]

/-- One thing that happens on the platform or to its streams. -/
inductive BroadcastLabel where
  | platform (label : Label)
  /-- XADD of `publishChunk` inside `runInSandbox`. -/
  | append (worker : WorkerId) (chunk : StreamChunk)
  /-- PUBLISH of `publishChunk` inside `runInSandbox`. -/
  | announce (worker : WorkerId) (chunk : StreamChunk)
  /-- MAXLEN removes the oldest entry of a stream. -/
  | trim (jobId : JobId)
  /-- A stream key reaches its time to live. -/
  | streamExpires (jobId : JobId)
  deriving DecidableEq

/-- The stream without its oldest entry. -/
def Store.trimStream (store : Store) (jobId : JobId) : Store :=
  { store with streams := Function.update store.streams jobId (store.streams jobId).tail }

/-- The stream key is gone, and its expiry with it. -/
def Store.dropStream (store : Store) (jobId : JobId) : Store :=
  { store with
    streams := Function.update store.streams jobId []
    expiring := Function.update store.expiring jobId false }

namespace Platform

/-- One step of the platform or of its streams, where the label is enabled. -/
def broadcastStep (state : Platform) : BroadcastLabel → Option Platform
  | .platform label => state.step label
  | .append worker chunk =>
    -- `runInSandbox` returns after its last chunk is published.
    match state.executing? worker with
    | some jobId =>
      if chunk.fromSandbox then some { state with store := state.store.appendStream jobId chunk }
      else none
    | none => none
  | .announce worker chunk =>
    match state.executing? worker with
    | some jobId =>
      if chunk.fromSandbox then some { state with store := state.store.publish jobId chunk }
      else none
    | none => none
  | .trim jobId =>
    -- The trimming is approximate, so more entries may stay for a while.
    if streamRetentionCount < (state.store.streams jobId).length then
      some { state with store := state.store.trimStream jobId }
    else none
  | .streamExpires jobId =>
    if state.store.expiring jobId then some { state with store := state.store.dropStream jobId }
    else none

end Platform

/-- The platform with its streams as a labelled machine. -/
def broadcast : Machine Platform BroadcastLabel where
  step := Platform.broadcastStep

/-- What a label that is not one of the platform does. -/
inductive Platform.Streamed (state : Platform) : BroadcastLabel → Platform → Prop
  | append {worker : WorkerId} {chunk : StreamChunk} {jobId : JobId}
      (printed : chunk.fromSandbox = true) :
      Streamed state (.append worker chunk)
        { state with store := state.store.appendStream jobId chunk }
  | announce {worker : WorkerId} {chunk : StreamChunk} {jobId : JobId}
      (printed : chunk.fromSandbox = true) :
      Streamed state (.announce worker chunk)
        { state with store := state.store.publish jobId chunk }
  | trim {jobId : JobId} (long : streamRetentionCount < (state.store.streams jobId).length) :
      Streamed state (.trim jobId) { state with store := state.store.trimStream jobId }
  | streamExpires {jobId : JobId} (expiring : state.store.expiring jobId = true) :
      Streamed state (.streamExpires jobId) { state with store := state.store.dropStream jobId }

/-- A step is one of the platform, or changes one stream alone. -/
theorem Platform.broadcastStep_cases {state next : Platform} {label : BroadcastLabel}
    (stepped : state.broadcastStep label = some next) :
    (∃ own, label = .platform own ∧ state.step own = some next) ∨ Streamed state label next := by
  -- The guard of each label is the test that the step makes.
  cases label with
  | platform own => exact .inl ⟨own, rfl, stepped⟩
  | append worker chunk =>
    simp only [broadcastStep] at stepped
    repeat' split at stepped
    · next printed => obtain rfl := Option.some.inj stepped; exact .inr (.append printed)
    all_goals simp at stepped
  | announce worker chunk =>
    simp only [broadcastStep] at stepped
    repeat' split at stepped
    · next printed => obtain rfl := Option.some.inj stepped; exact .inr (.announce printed)
    all_goals simp at stepped
  | trim jobId =>
    simp only [broadcastStep] at stepped
    split at stepped
    · next long => obtain rfl := Option.some.inj stepped; exact .inr (.trim long)
    · simp at stepped
  | streamExpires jobId =>
    simp only [broadcastStep] at stepped
    split at stepped
    · next expiring => obtain rfl := Option.some.inj stepped; exact .inr (.streamExpires expiring)
    · simp at stepped

end CodeExecution

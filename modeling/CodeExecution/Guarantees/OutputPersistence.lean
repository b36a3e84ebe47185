import CodeExecution.Proofs.Sandbox

/-! The result of a program: which outputs the result transaction can store. -/

namespace CodeExecution

/-! ## The setting -/

/-- The values of a program's output that Postgres takes: TEXT without U+0000, and a BIGINT. -/
def insertAccepts (output : SandboxOutput) : Bool :=
  '\x00' ∉ output.stdout ∧ '\x00' ∉ output.stderr ∧
    ∀ number ∈ output.memoryUsedBytes, number.Below (2 ^ 63)

/-- What `runInSandbox` resolves with: what its program has printed, and how its container has ended. -/
def resultOf (output : SandboxOutput) (exitCode : Option Int) (timedOut oomKilled : Bool)
    (executionTimeMs : Nat) : SandboxResult where
  exitCode := exitCode
  stdout := String.ofList output.stdout
  stderr := String.ofList output.stderr
  timedOut := timedOut
  oomKilled := oomKilled
  outputTruncated := output.outputTruncated
  streamOutputLimitExceeded := output.streamOutputLimitExceeded
  executionTimeMs := executionTimeMs
  memoryUsedBytes :=
    match output.memoryUsedBytes with
    | some (.finite number) => some number
    -- Infinity is not stored, because the INSERT rejects it.
    | some .infinity | none => none

/--
Where the worker goes on after a sandbox when no call fails by itself.

Only the INSERT rejects, and only if it does not accept what the program has printed.
-/
def afterTransaction (worker : WorkerId) (store : Store) (job : QueuePayload) (output : SandboxOutput)
    (result : SandboxResult) : Option WorkerPoint := do
  let (begins, store) ← (WorkerPoint.persist .connect job result).resolve worker store
  let (inserts, store) ← begins.resolve worker store
  if insertAccepts output then
    let (updates, store) ← inserts.resolve worker store
    let (commits, store) ← updates.resolve worker store
    let (after, _) ← commits.resolve worker store
    return after
  else
    let rollsBack ← inserts.handler
    let (after, _) ← rollsBack.resolve worker store
    return after

/--
What a program must not print for its result to be stored.

Only what it prints up to the limit of the stream counts, its memory reports aside.
-/
structure Storable (events : List OutputEvent) : Prop where
  /-- No null byte in the first 64 KiB of an output. -/
  text : ∀ stream, 0 ∉ (Utf8.encode (shownOn stream
    (withinLimit maxStreamOutputBytes events))).take maxResultOutputBytes
  /-- The last memory report is not rounded to `2 ^ 63` or more. -/
  memory : ∀ digits, lastReported (heard maxStreamOutputBytes events) = some digits →
    Nat.ofDigitChars 10 digits 0 < 2 ^ 63 - 512

/-! ## The stored result -/

/-- The INSERT takes the values just where the program has printed nothing of this kind. -/
theorem insertAccepts_iff (events : List OutputEvent) :
    insertAccepts (sandboxOutput events) = true ↔ Storable events := by
  -- Both texts are read off the printed bytes, and the number off the last report.
  have null : ∀ stream, '\x00' ∈ (sandboxOutput events).accumulator stream ↔
      0 ∈ (Utf8.encode (shownOn stream (withinLimit maxStreamOutputBytes events))).take
        maxResultOutputBytes := by
    intro stream
    rw [sandboxOutput_accumulator, persisted, Utf8.null_mem_decode]
  have range : ∀ digits, (parseInt digits).Below (2 ^ 63) ↔
      Nat.ofDigitChars 10 digits 0 < 2 ^ 63 - 512 := by
    intro digits
    have large : 54 ≤ 63 := by decide
    exact Binary64.round_below_iff _ large (by decide)
  rw [insertAccepts, decide_eq_true_iff, sandboxOutput_memory]
  constructor
  · intro accepted
    obtain ⟨stdout, stderr, memory⟩ := accepted
    refine ⟨fun stream found => ?_, fun digits last => ?_⟩
    · cases stream with
      | stdout => exact stdout ((null .stdout).mpr found)
      | stderr => exact stderr ((null .stderr).mpr found)
    · exact (range digits).mp (memory _ (by rw [last]; rfl))
  · intro storable
    refine ⟨fun found => storable.text .stdout ((null .stdout).mp found),
      fun found => storable.text .stderr ((null .stderr).mp found), fun number reported => ?_⟩
    obtain ⟨digits, last, rfl⟩ := Option.map_eq_some_iff.mp reported
    exact (range digits).mpr (storable.memory digits last)

/-- The worker acknowledges a job whose values are accepted, and retries any other one. -/
theorem afterTransaction_eq (worker : WorkerId) {store : Store} {job : QueuePayload}
    (output : SandboxOutput) (result : SandboxResult)
    (stored : store.hasSubmission job.jobId = true) :
    afterTransaction worker store job output result =
      some (if insertAccepts output then .acknowledge job else requeueWithBackoff job) := by
  -- The transaction ends with the acknowledgement, or with the catch block.
  cases accepted : insertAccepts output with
  | true => simp [afterTransaction, WorkerPoint.resolve, stored, accepted]
  | false => simp [afterTransaction, WorkerPoint.resolve, WorkerPoint.handler, accepted]

/-- A retry does not begin with an acknowledgement. -/
theorem requeueWithBackoff_ne (job : QueuePayload) : requeueWithBackoff job ≠ .acknowledge job := by
  unfold requeueWithBackoff
  split <;> nofun

end CodeExecution

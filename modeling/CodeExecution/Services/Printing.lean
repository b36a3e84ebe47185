import CodeExecution.Services.Sandbox

/-! The platform with the sandboxes of its workers: data events, and the chunks that reach the streams. -/

namespace CodeExecution

/-- An entry of a stream: its type, and its data in code units. -/
abbrev StreamEntry := ChunkType × List UInt16

/-- The data that some entries have for an output, put together. -/
def dataOn (stream : OutputStream) (entries : List StreamEntry) : List UInt16 :=
  (entries.filter fun entry => entry.1 = stream.chunkType).flatMap Prod.snd

/-- A `runInSandbox` call in progress. -/
structure Execution where
  output : SandboxOutput
  /-- The number of chunks that `publishQueue` has added to the stream. -/
  added : Nat
  deriving DecidableEq, Repr

/-- The chunk that `publishQueue` adds next. -/
def Execution.nextChunk (execution : Execution) : Option StreamEntry :=
  execution.output.published[execution.added]?

/-- What `runInSandbox` resolves with: the outputs, once all their chunks are added. -/
def Execution.settles (execution : Execution) (result : SandboxResult) : Bool :=
  -- The other fields of the result are not made from what was printed, except for the memory.
  execution.added = execution.output.published.length ∧
    result.stdout = String.ofList execution.output.stdout ∧
    result.stderr = String.ofList execution.output.stderr ∧
    result.outputTruncated = execution.output.outputTruncated ∧
    result.streamOutputLimitExceeded = execution.output.streamOutputLimitExceeded

/-- The platform, the sandboxes of its workers, and the entries of all streams. -/
structure Printing where
  platform : Platform
  executions : WorkerId → Option Execution
  /-- `jobs:streams:{jobId}` with its data in code units, oldest entry first. -/
  entries : JobId → List StreamEntry

/-- One thing that happens on the platform or in a sandbox. -/
inductive PrintingLabel where
  | platform (label : Label)
  /-- A `data` event of the program that a worker executes. -/
  | output (worker : WorkerId) (event : OutputEvent)
  /-- XADD of the next chunk of a worker's `publishQueue`. -/
  | add (worker : WorkerId)
  deriving DecidableEq

/-- The entries after an effect on the platform: workers add their completion markers. -/
def Effect.addEntry (entries : JobId → List StreamEntry) : Effect → JobId → List StreamEntry
  | .stream .xadd jobId chunk =>
    Function.update entries jobId (entries jobId ++ [(chunk.type, Utf16.encode chunk.data.toList)])
  | _ => entries

namespace Printing

/-- The platform before the first request, and empty streams. -/
def initial : Printing where
  platform := .initial
  executions := fun _ => none
  entries := fun _ => []

/-- A sandbox that resolves has come to its end. -/
def settles (state : Printing) : Label → Bool
  | .sandbox worker (some result) =>
    (state.executions worker).any fun execution => execution.settles result
  | _ => true

/-- The sandboxes after a label of the platform. -/
def executionsAfter (state : Printing) : Label → WorkerId → Option Execution
  | .launch worker => Function.update state.executions worker (some ⟨.initial, 0⟩)
  -- With the process of the worker, its handlers and its queue are gone.
  | .sandbox worker _ | .workerCrash worker => Function.update state.executions worker none
  | _ => state.executions

/-- The sandbox of a worker has moved on. -/
def withExecution (state : Printing) (worker : WorkerId) (execution : Execution) : Printing :=
  { state with executions := Function.update state.executions worker (some execution) }

/-- An entry is added to the stream of a job. -/
def addEntry (state : Printing) (jobId : JobId) (entry : StreamEntry) : Printing :=
  { state with entries := Function.update state.entries jobId (state.entries jobId ++ [entry]) }

/-- One step, where the label is enabled. -/
def step (state : Printing) : PrintingLabel → Option Printing
  | .platform label =>
    if state.settles label then
      (state.platform.step label).map fun platform =>
        { platform
          executions := state.executionsAfter label
          entries := (state.platform.effect label).addEntry state.entries }
    else none
  | .output worker event =>
    (state.executions worker).map fun execution =>
      state.withExecution worker { execution with output := execution.output.handleOutput event }
  | .add worker =>
    match state.executions worker, state.platform.executing? worker with
    | some execution, some jobId =>
      execution.nextChunk.map fun chunk =>
        (state.addEntry jobId chunk).withExecution worker { execution with added := execution.added + 1 }
    | _, _ => none

/-- Everything that the step of a label can do, with its guard. -/
inductive Stepped (state : Printing) : PrintingLabel → Printing → Prop
  | platform {label : Label} {platform : Platform} (settled : state.settles label = true)
      (moved : state.platform.step label = some platform) :
      Stepped state (.platform label)
        { platform
          executions := state.executionsAfter label
          entries := (state.platform.effect label).addEntry state.entries }
  | output {worker : WorkerId} {event : OutputEvent} {execution : Execution}
      (going : state.executions worker = some execution) :
      Stepped state (.output worker event) (state.withExecution worker
        { execution with output := execution.output.handleOutput event })
  | add {worker : WorkerId} {execution : Execution} {jobId : JobId} {chunk : StreamEntry}
      (going : state.executions worker = some execution)
      (executes : state.platform.executing? worker = some jobId)
      (next : execution.nextChunk = some chunk) :
      Stepped state (.add worker) ((state.addEntry jobId chunk).withExecution worker
        { execution with added := execution.added + 1 })

/-- Nothing else comes of a step. -/
theorem step_cases {state next : Printing} {label : PrintingLabel}
    (stepped : state.step label = some next) : Stepped state label next := by
  -- The guard of each label is the test that `step` makes.
  cases label with
  | platform label =>
    simp only [step] at stepped
    split at stepped
    · next settled =>
      obtain ⟨platform, moved, rfl⟩ := Option.map_eq_some_iff.mp stepped
      exact .platform settled moved
    · simp at stepped
  | output worker event =>
    obtain ⟨execution, going, rfl⟩ := Option.map_eq_some_iff.mp stepped
    exact .output going
  | add worker =>
    simp only [step] at stepped
    split at stepped
    · next going executes =>
      obtain ⟨chunk, added, rfl⟩ := Option.map_eq_some_iff.mp stepped
      exact .add going executes added
    · simp at stepped

end Printing

/-- The platform with its sandboxes as a labelled machine. -/
def printing : Machine Printing PrintingLabel where
  step := Printing.step

end CodeExecution

import CodeExecution.Effects
import CodeExecution.Settings

/-! Who wrote which column last, as a reader who joins the two tables could be told. -/

namespace CodeExecution

/-- The columns of a job that must tell the same story. -/
inductive Column where
  | status
  | exitCode
  | stdout
  | stderr
  | errorMessage
  | errorCategory
  deriving DecidableEq, Repr

/-- The columns of `submission_results` among them. -/
def resultColumns : List Column :=
  [.exitCode, .stdout, .stderr, .errorMessage, .errorCategory]

/-- The processes that write rows. -/
inductive Writer where
  | handler (jobId : JobId)
  | worker (worker : WorkerId)
  | scan (lockId : LockId)
  | startup
  deriving DecidableEq, Repr

/-- The process whose call a label is. -/
def Label.writer? : Label → Option Writer
  | .gateway jobId _ => some (.handler jobId)
  | .worker mover _ => some (.worker mover)
  | .scan lockId _ => some (.scan lockId)
  | .startup _ => some .startup
  | _ => none

/-- The columns of a job that an effect writes. -/
def Effect.columns (store : Store) (jobId : JobId) : Effect → List Column
  | .submit payload => if payload.jobId = jobId then [.status] else []
  | .claim claimed =>
    if claimed = jobId ∧ store.statusOf jobId = some .pending then [.status] else []
  | .markFailed written | .requeueRow written _ => if written = jobId then [.status] else []
  | .resetRunning => if store.statusOf jobId = some .running then [.status] else []
  | .insertFailure written =>
    if written = jobId then
      -- The conflict clause of the handler rewrites the error columns alone.
      if (store.results.lookup jobId).isSome then [.errorMessage, .errorCategory]
      else resultColumns
    else []
  | .commitResult written _ => if written = jobId then .status :: resultColumns else []
  | .commitDeadLetter letter => if letter.jobId = jobId then .status :: resultColumns else []
  | _ => []

/-- The last writer of each column of each job. -/
abbrev Authors := JobId → Column → Option Writer

/-- The authors after a step. -/
def Authors.track (state : Platform) (label : Label) (authors : Authors) : Authors :=
  fun jobId column =>
    if column ∈ (state.effect label).columns state.store jobId then label.writer?
    else authors jobId column

/-- The platform with the last writer of every column. -/
abbrev authoredPlatform : Machine (Platform × Authors) Label :=
  platform.tracking Authors.track

/-- Nothing has been written yet. -/
def unwritten : Platform × Authors :=
  (.initial, fun _ _ => none)

/-- The rows of `submission_results` that a join finds for a job. -/
def Store.resultsOf (store : Store) (jobId : JobId) : List ResultRow :=
  store.results.select fun row => row.jobId = jobId

/-- What a reader of a job relies on: it is over exactly if it has a result, all from one writer. -/
structure RowsAgree (authored : Platform × Authors) (jobId : JobId) : Prop where
  /-- A terminal status comes with one result row, and any other status with none. -/
  paired : (authored.1.store.resultsOf jobId).length = if jobClosed authored.1 jobId then 1 else 0
  /-- One writer has written the status and the result. -/
  author : jobClosed authored.1 jobId = true →
    ∃ writer, ∀ column, authored.2 jobId column = some writer

/--
No handler marks its job as failed, and no job that is over is requeued.

These two writes change a status without the result that belongs to it.
-/
def writesTogether (state : Platform) (label : Label) : Bool :=
  match state.effect label with
  | .markFailed _ => false
  | .requeueRow jobId _ => !jobClosed state jobId
  | _ => true

end CodeExecution

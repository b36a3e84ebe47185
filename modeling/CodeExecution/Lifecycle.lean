import CodeExecution.Contracts
import CodeExecution.Library.Machine

/-! The life of one job as its row tells it: an abstract machine without processes, lists or calls. -/

namespace CodeExecution

/-- The decisive columns of a row, or nothing where there is no row. -/
abbrev JobRecord := Option (SubmissionStatus × Nat)

/-- A job is open while its row has a status that is not terminal. -/
def JobRecord.IsOpen (record : JobRecord) : Prop :=
  ∃ status retryCount, record = some (status, retryCount) ∧ status.isTerminal = false

/-- A job is closed once its row has a terminal status. -/
def JobRecord.IsClosed (record : JobRecord) : Prop :=
  ∃ status retryCount, record = some (status, retryCount) ∧ status.isTerminal = true

/-- A PENDING row is open. -/
theorem JobRecord.isOpen_pending {record : JobRecord} {retryCount : Nat}
    (waiting : record = some (.pending, retryCount)) : record.IsOpen :=
  -- PENDING is one of the two statuses that are not terminal.
  ⟨.pending, retryCount, waiting, rfl⟩

/-- A RUNNING row is open. -/
theorem JobRecord.isOpen_running {record : JobRecord} {retryCount : Nat}
    (running : record = some (.running, retryCount)) : record.IsOpen :=
  -- RUNNING is one of the two statuses that are not terminal.
  ⟨.running, retryCount, running, rfl⟩

/-- A closed job is not open. -/
theorem JobRecord.IsClosed.not_open {record : JobRecord} (closed : record.IsClosed) :
    ¬ record.IsOpen := by
  -- The same status cannot be terminal and not terminal.
  intro opened
  obtain ⟨status, retryCount, found, notTerminal⟩ := opened
  obtain ⟨status', retryCount', found', terminal⟩ := closed
  rw [found] at found'
  obtain ⟨rfl, rfl⟩ : status = status' ∧ retryCount = retryCount' := by simpa using found'
  simp [notTerminal] at terminal

/-! ## Phases -/

/-- The writes that move a job through its life. -/
inductive Phase where
  /-- The insertion of the row. -/
  | submit
  /-- The claim, from PENDING to RUNNING. -/
  | claim
  /-- Back to PENDING, for another attempt. -/
  | retry (retryCount : Nat)
  /-- A terminal status. -/
  | close (status : SubmissionStatus)
  deriving DecidableEq, Repr

/-- What a write does to the row, whatever the row is. -/
def Phase.apply : Phase → JobRecord → JobRecord
  | .submit, _ => some (.pending, 0)
  -- The claim is the only write with a condition on the old status.
  | .claim, record => record.map fun row => if row.1 = .pending then (.running, row.2) else row
  | .retry retryCount, record => record.map fun _ => (.pending, retryCount)
  | .close status, record => record.map fun row => (status, row.2)

/-- The rows on which a write is part of a job's life. -/
def Phase.allowed : Phase → JobRecord → Bool
  | .submit, record => record.isNone
  | .claim, some (status, _) => status = .pending
  -- A job that is over has no further phase.
  | .retry _, some (status, _) => !status.isTerminal
  | .close final, some (status, _) => final.isTerminal && !status.isTerminal
  | .claim, none | .retry _, none | .close _, none => false

/-- The life of a job as a labelled machine. -/
def lifecycle : Machine JobRecord Phase where
  step record phase := if phase.allowed record then some (phase.apply record) else none

/-- A phase that is allowed is a step. -/
theorem lifecycle_step {phase : Phase} {record : JobRecord} (allowed : phase.allowed record = true) :
    lifecycle.step record phase = some (phase.apply record) := by
  -- The guard is the only obstacle.
  simp [lifecycle, allowed]

/-- No phase follows a terminal status. -/
theorem lifecycle_closed {record : JobRecord} (closed : record.IsClosed) (phase : Phase) :
    lifecycle.step record phase = none := by
  -- Each guard asks for no row, or for a status that is not terminal.
  obtain ⟨status, retryCount, rfl, terminal⟩ := closed
  cases phase with
  | submit => rfl
  | claim => cases status <;> first | rfl | simp [SubmissionStatus.isTerminal] at terminal
  | retry next => simp [lifecycle, Phase.allowed, terminal]
  | close final => simp [lifecycle, Phase.allowed, terminal]

/-- The life of a job ends with its terminal status. -/
theorem lifecycle_absorbing {allowed : JobRecord → Phase → Prop} {phases : List Phase}
    {record later : JobRecord} (closed : record.IsClosed)
    (run : lifecycle.Runs allowed record phases later) : later = record := by
  -- The first step of a longer run would be refused.
  refine run.preserves (fun reached => reached = record) rfl ?_
  intro _ phase next starts _ stepped
  subst starts
  simp [lifecycle_closed closed phase] at stepped

end CodeExecution

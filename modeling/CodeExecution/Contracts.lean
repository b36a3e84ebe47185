import Mathlib.Logic.Basic

/-! The shared contracts: statuses and their transitions, queue payloads, stream chunks, and limits. -/

namespace CodeExecution

/-- A submission's UUID, which also keys its queue payloads and its stream. -/
abbrev JobId := String

/-- A worker's UUID, drawn once when its process starts. -/
abbrev WorkerId := String

/-- The random identifier one reaper scan writes into the lock key. -/
abbrev LockId := String

/-- A string that a client sends, in UTF-16 units: a surrogate of it may stand alone. -/
abbrev ClientText := List UInt16

/-- Milliseconds since the epoch, which is what an ISO timestamp spells. -/
abbrev Timestamp := Nat

/-- The five values the status column may hold. -/
inductive SubmissionStatus where
  | pending
  | running
  | completed
  | failed
  | timeout
  deriving DecidableEq, Repr

/-- Membership in `TERMINAL_STATUSES`. -/
def SubmissionStatus.isTerminal : SubmissionStatus → Bool
  -- A job in one of these three statuses is over.
  | .completed | .failed | .timeout => true
  | .pending | .running => false

/-- A missing row reads as `undefined`, which is not a terminal status. -/
def isTerminalStatus (status : Option SubmissionStatus) : Bool :=
  -- Only a status that is there can be terminal.
  status.any SubmissionStatus.isTerminal

/-- The classification stored beside a failed result. -/
inductive ErrorCategory where
  | syntaxError
  | runtimeError
  | oom
  | timeout
  | workerCrash
  | unknown
  deriving DecidableEq, Repr

/-- The two languages a sandbox image exists for. -/
inductive Language where
  | python
  | javascript
  deriving DecidableEq, Repr

/-- A payload's optional `userId`, which JSON may leave out or spell as null. -/
inductive UserIdField where
  | absent
  | null
  | value (userId : ClientText)
  deriving DecidableEq, Repr

/-- One job as it travels through the Redis lists. -/
structure QueuePayload where
  jobId : JobId
  userId : UserIdField
  code : ClientText
  language : Language
  retryCount : Nat
  submittedAt : Timestamp
  deriving DecidableEq, Repr

/-- The payload of the next attempt: a copy with the new count. -/
def QueuePayload.withRetry (job : QueuePayload) (retryCount : Nat) : QueuePayload :=
  -- All other fields are spread from the old payload.
  { job with retryCount }

@[simp] theorem QueuePayload.withRetry_jobId (job : QueuePayload) (retryCount : Nat) :
    (job.withRetry retryCount).jobId = job.jobId := rfl

@[simp] theorem QueuePayload.withRetry_retryCount (job : QueuePayload) (retryCount : Nat) :
    (job.withRetry retryCount).retryCount = retryCount := rfl

/-- One job as it is kept in the dead-letter list. -/
structure DLQPayload where
  jobId : JobId
  userId : UserIdField
  code : ClientText
  language : Language
  retryCount : Nat
  submittedAt : Timestamp
  failedAt : Timestamp
  reason : String
  deriving DecidableEq, Repr

/-- Where a stream chunk comes from. -/
inductive ChunkType where
  | stdout
  | stderr
  | system
  deriving DecidableEq, Repr

/-- One message of a job's output stream. -/
structure StreamChunk where
  type : ChunkType
  data : String
  timestamp : Timestamp
  deriving DecidableEq, Repr

/-- The number of retries after which a job is dead-lettered. -/
def maxRetryCount : Nat := 3

/-- A list element: the JSON text of a payload, or text that `JSON.parse` rejects. -/
inductive Entry where
  | payload (job : QueuePayload)
  | malformed (text : String)
  deriving DecidableEq, Repr

/-- The job an element belongs to, where it can be parsed. -/
def Entry.jobId? : Entry → Option JobId
  -- Unparsable text names no job.
  | .payload job => some job.jobId
  | .malformed _ => none

/-- The jobs named along a list, one for each element that can be parsed. -/
def jobsIn (entries : List Entry) : List JobId :=
  -- The order of the list is kept.
  entries.filterMap Entry.jobId?

@[simp] theorem jobsIn_nil : jobsIn [] = [] := rfl

@[simp] theorem jobsIn_payload (job : QueuePayload) (entries : List Entry) :
    jobsIn (.payload job :: entries) = job.jobId :: jobsIn entries := rfl

@[simp] theorem jobsIn_malformed (text : String) (entries : List Entry) :
    jobsIn (.malformed text :: entries) = jobsIn entries := rfl

@[simp] theorem jobsIn_append (front back : List Entry) :
    jobsIn (front ++ back) = jobsIn front ++ jobsIn back := by
  -- Naming the jobs of a concatenation concatenates the names.
  simp [jobsIn]

/-- A job is named along a list exactly when one of its payloads is there. -/
theorem mem_jobsIn {entries : List Entry} {jobId : JobId} :
    jobId ∈ jobsIn entries ↔ ∃ job, .payload job ∈ entries ∧ job.jobId = jobId := by
  -- Only payloads name a job.
  constructor
  · intro named
    obtain ⟨entry, member, same⟩ := List.mem_filterMap.mp named
    cases entry with
    | payload job => exact ⟨job, member, by simpa [Entry.jobId?] using same⟩
    | malformed text => simp [Entry.jobId?] at same
  · intro lists
    obtain ⟨job, member, rfl⟩ := lists
    exact List.mem_filterMap.mpr ⟨.payload job, member, rfl⟩

/-- One list has no payloads beyond another's, counted with multiplicity for each job. -/
structure Thinner (after before : List Entry) : Prop where
  payloads : ∀ job, .payload job ∈ after → .payload job ∈ before
  counts : ∀ jobId, (jobsIn after).count jobId ≤ (jobsIn before).count jobId

/-- Every list is thinner than itself. -/
theorem Thinner.refl (entries : List Entry) : Thinner entries entries :=
  ⟨fun _ member => member, fun _ => Nat.le_refl _⟩

/-- Leaving elements out makes a list thinner. -/
theorem Thinner.of_sublist {after before : List Entry} (kept : after.Sublist before) :
    Thinner after before where
  payloads := fun _ member => kept.subset member
  counts := fun jobId => (kept.filterMap Entry.jobId?).count_le jobId

/-- Unparsable text adds no payload. -/
theorem Thinner.malformed (text : String) (entries : List Entry) :
    Thinner (.malformed text :: entries) entries where
  payloads := fun job member => by simpa using member
  counts := fun jobId => by simp

/-- Removing one element by value removes one mention of its job. -/
theorem count_jobsIn_erase {entries : List Entry} {job : QueuePayload}
    (member : .payload job ∈ entries) (jobId : JobId) :
    (jobsIn (entries.erase (.payload job))).count jobId + (if job.jobId = jobId then 1 else 0) =
      (jobsIn entries).count jobId := by
  -- The search passes the other elements until it meets the first equal one.
  induction entries with
  | nil => simp at member
  | cons first rest ih =>
    by_cases same : first = .payload job
    · subst same
      simp [List.count_cons]
    · have inRest : .payload job ∈ rest := by simpa [Ne.symm same] using member
      rw [List.erase_cons_tail (by simpa using same)]
      cases first with
      | malformed text => simpa using ih inRest
      | payload other =>
        have counted := ih inRest
        simp only [jobsIn_payload, List.count_cons]
        omega

/-- A job that is mentioned once at most has one payload along the list. -/
theorem payload_unique {entries : List Entry} {first second : QueuePayload}
    (once : (jobsIn entries).count first.jobId ≤ 1) (member : .payload first ∈ entries)
    (member' : .payload second ∈ entries) (same : second.jobId = first.jobId) : second = first := by
  -- Another payload of the job would still be there after the removal of the first.
  by_cases equal : second = first
  · exact equal
  · have counted := count_jobsIn_erase member first.jobId
    have left : .payload second ∈ entries.erase (.payload first) :=
      (List.mem_erase_of_ne (by simpa using equal)).mpr member'
    have positive : 0 < (jobsIn (entries.erase (.payload first))).count first.jobId :=
      List.count_pos_iff.mpr (mem_jobsIn.mpr ⟨second, left, same⟩)
    simp only [if_true] at counted
    omega

end CodeExecution

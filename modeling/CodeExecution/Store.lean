import Mathlib.Logic.Function.Basic
import CodeExecution.Lifecycle
import CodeExecution.Library.KeyedTable

/-! The two stores the services share: the Postgres tables and the Redis keys, with the commands sent to them. -/

namespace CodeExecution

/-- How an awaited call ends: a rejected call may still have taken effect on the server. -/
inductive CallOutcome where
  | resolves
  | rejects (applied : Bool)
  deriving DecidableEq, Repr

/-- Whether the call has taken effect on the server. -/
def CallOutcome.applied : CallOutcome → Bool
  | .resolves => true
  | .rejects applied => applied

/--
One awaited call of a service.

The resolved call gives the next point and store, and the rejected one continues at the handler.
-/
def awaitCall {Point Store : Type} (outcome : CallOutcome) (resolved : Option (Point × Store))
    (handler : Option Point) (store : Store) : Option (Point × Store) :=
  match outcome with
  | .resolves => resolved
  | .rejects false => handler.map fun point => (point, store)
  -- The effect is there, but the reply is lost.
  | .rejects true => resolved.bind fun after => handler.map fun point => (point, after.2)

/-- The three ways an awaited call can go. -/
theorem awaitCall_cases {Point Store : Type} {outcome : CallOutcome}
    {resolved : Option (Point × Store)} {handler : Option Point} {store : Store}
    {after : Point × Store} (went : awaitCall outcome resolved handler store = some after) :
    (outcome = .resolves ∧ resolved = some after) ∨
    (outcome = .rejects false ∧ ∃ point, handler = some point ∧ after = (point, store)) ∨
    (outcome = .rejects true ∧ ∃ reply point, resolved = some reply ∧ handler = some point ∧
      after = (point, reply.2)) := by
  -- A rejected call continues at the handler, with or without the effect.
  rcases outcome with _ | _ | _
  · exact .inl ⟨rfl, went⟩
  · obtain ⟨point, handled, rfl⟩ := Option.map_eq_some_iff.mp went
    exact .inr (.inl ⟨rfl, point, handled, rfl⟩)
  · obtain ⟨reply, replied, continued⟩ := Option.bind_eq_some_iff.mp went
    obtain ⟨point, handled, rfl⟩ := Option.map_eq_some_iff.mp continued
    exact .inr (.inr ⟨rfl, reply, point, replied, handled, rfl⟩)

/-- The store after an awaited call depends only on whether the call took effect. -/
theorem awaitCall_store {Point Store : Type} {outcome : CallOutcome}
    {resolved : Option (Point × Store)} {handler : Option Point} {store : Store}
    {after : Point × Store} (went : awaitCall outcome resolved handler store = some after) :
    (outcome.applied = true ∧ ∃ reply, resolved = some reply ∧ after.2 = reply.2 ∧
      (outcome = .resolves → after = reply)) ∨
    (outcome.applied = false ∧ after.2 = store) := by
  -- A call takes effect when it resolves, and when only its reply is lost.
  rcases awaitCall_cases went with ⟨rfl, replied⟩ | ⟨rfl, point, _, rfl⟩ |
    ⟨rfl, reply, point, replied, _, rfl⟩
  · exact .inl ⟨rfl, after, replied, rfl, fun _ => rfl⟩
  · exact .inr ⟨rfl, rfl⟩
  · exact .inl ⟨rfl, reply, replied, rfl, by simp⟩

/-- The calls of a transaction on its own connection, whose writes appear at the commit. -/
inductive TxPoint where
  | connect
  | begin
  | insertResult
  | updateStatus
  | commit
  | rollback
  deriving DecidableEq, Repr

/-- One row of `submissions`. -/
structure SubmissionRow where
  id : JobId
  userId : Option ClientText
  language : Language
  sourceCode : ClientText
  status : SubmissionStatus
  retryCount : Nat
  createdAt : Timestamp
  updatedAt : Timestamp
  deriving DecidableEq, Repr

/-- One row of `submission_results`, whose `job_id` is unique. -/
structure ResultRow where
  jobId : JobId
  exitCode : Option Int
  stdout : String
  stderr : String
  errorMessage : Option String
  errorCategory : Option ErrorCategory
  executionTimeMs : Option Nat
  memoryUsedBytes : Option Nat
  outputTruncated : Bool
  streamOutputLimitExceeded : Bool
  deriving DecidableEq, Repr

/-- Everything the services share, and the clock they read. -/
structure Store where
  now : Timestamp
  submissions : KeyedTable SubmissionRow.id
  results : KeyedTable ResultRow.jobId
  /-- `jobs:queue:pending`, leftmost element first. -/
  pending : List Entry
  /-- `jobs:queue:processing:{workerId}`, leftmost element first. -/
  processing : WorkerId → List Entry
  /-- `jobs:queue:dead-letter`, leftmost element first. -/
  deadLetter : List DLQPayload
  /-- `jobs:streams:{jobId}`, oldest entry first. -/
  streams : JobId → List StreamChunk
  /-- Messages published on the channel of each job, oldest first. -/
  published : JobId → List StreamChunk
  /-- Stream keys with an expiry set. -/
  expiring : JobId → Bool
  /-- The value of `reaper:lock`. -/
  reaperLock : Option LockId

namespace Store

/-- Empty tables and no Redis key. -/
def empty : Store where
  now := 0
  submissions := .empty SubmissionRow.id
  results := .empty ResultRow.jobId
  pending := []
  processing := fun _ => []
  deadLetter := []
  streams := fun _ => []
  published := fun _ => []
  expiring := fun _ => false
  reaperLock := none

/-- `SELECT status FROM submissions WHERE id = $1`. -/
def statusOf (store : Store) (id : JobId) : Option SubmissionStatus :=
  -- A job without a row has no status.
  (store.submissions.lookup id).map SubmissionRow.status

/-- The two columns that the services decide on: status and retry count. -/
def recordOf (store : Store) (id : JobId) : JobRecord :=
  (store.submissions.lookup id).map fun row => (row.status, row.retryCount)

theorem statusOf_eq (store : Store) (id : JobId) :
    store.statusOf id = (store.recordOf id).map Prod.fst := by
  -- Both read the same row.
  simp [statusOf, recordOf, Function.comp_def]

/-! ## Postgres commands -/

/-- `UPDATE submissions SET ... , updated_at = NOW() WHERE ...`, which never writes the key. -/
def updateSubmissions (store : Store) (condition : SubmissionRow → Bool)
    (change : SubmissionRow → SubmissionRow) : Store :=
  { store with
    submissions := store.submissions.updateWhere condition
      (fun row => { change row with id := row.id, updatedAt := store.now }) fun _ => rfl }

/-- `INSERT INTO submissions`. -/
def insertSubmission (store : Store) (row : SubmissionRow) : Store :=
  { store with submissions := store.submissions.insert row }

/-- The rows that the worker's claim would update. -/
def claimable (store : Store) (id : JobId) : List SubmissionRow :=
  -- The optimistic lock is the condition on the old status.
  store.submissions.select fun row => row.id = id ∧ row.status = .pending

/-- The worker's claim: `SET status = RUNNING WHERE id = $2 AND status = PENDING`. -/
def claim (store : Store) (id : JobId) : Store :=
  store.updateSubmissions (fun row => row.id = id ∧ row.status = .pending)
    fun row => { row with status := .running }

/-- `SET status = $1 WHERE id = $2`, with no condition on the old status. -/
def setStatus (store : Store) (id : JobId) (status : SubmissionStatus) : Store :=
  store.updateSubmissions (fun row => row.id = id) fun row => { row with status }

/-- `SET status = PENDING, retry_count = $2 WHERE id = $3`, with no condition on the old status. -/
def requeueRow (store : Store) (id : JobId) (retryCount : Nat) : Store :=
  store.updateSubmissions (fun row => row.id = id)
    fun row => { row with status := .pending, retryCount }

/-- `SET status = PENDING WHERE status = RUNNING`, over the whole table. -/
def resetRunning (store : Store) : Store :=
  store.updateSubmissions (fun row => row.status = .running)
    fun row => { row with status := .pending }

/-- The foreign key of `submission_results`: a result needs its submission. -/
def hasSubmission (store : Store) (id : JobId) : Bool :=
  (store.submissions.lookup id).isSome

/-- `INSERT INTO submission_results ... ON CONFLICT (job_id) DO UPDATE SET ...`. -/
def upsertResult (store : Store) (fresh : ResultRow) (merge : ResultRow → ResultRow) : Store :=
  -- The conflict branch rewrites the row that is there, and an insertion needs none to be there.
  if (store.results.lookup fresh.jobId).isSome then
    { store with
      results := store.results.updateWhere (fun row => row.jobId = fresh.jobId)
        (fun row => { merge row with jobId := row.jobId }) fun _ => rfl }
  else { store with results := store.results.insert fresh }

/-! ## Redis commands -/

/-- `LPUSH jobs:queue:pending`. -/
def pushPending (store : Store) (entry : Entry) : Store :=
  { store with pending := entry :: store.pending }

/-- The move half of `BRPOPLPUSH`: the rightmost pending element goes to the left of a worker's list. -/
def moveToProcessing (store : Store) (worker : WorkerId) (entry : Entry) : Store :=
  { store with
    pending := store.pending.dropLast
    processing := Function.update store.processing worker (entry :: store.processing worker) }

/-- `LREM jobs:queue:processing:{worker} 1 entry`. -/
def removeProcessing (store : Store) (worker : WorkerId) (entry : Entry) : Store :=
  { store with
    processing := Function.update store.processing worker
      ((store.processing worker).erase entry) }

/-- `DEL jobs:queue:processing:{worker}`. -/
def deleteProcessing (store : Store) (worker : WorkerId) : Store :=
  { store with processing := Function.update store.processing worker [] }

/-- `LPUSH jobs:queue:dead-letter`. -/
def pushDeadLetter (store : Store) (letter : DLQPayload) : Store :=
  { store with deadLetter := letter :: store.deadLetter }

/-- `XADD` to a job's stream, below the retention count. -/
def appendStream (store : Store) (id : JobId) (chunk : StreamChunk) : Store :=
  { store with streams := Function.update store.streams id (store.streams id ++ [chunk]) }

/-- `PUBLISH` on a job's channel. -/
def publish (store : Store) (id : JobId) (chunk : StreamChunk) : Store :=
  { store with published := Function.update store.published id (store.published id ++ [chunk]) }

/-- `EXPIRE` on a job's stream key. -/
def expireStream (store : Store) (id : JobId) : Store :=
  { store with expiring := Function.update store.expiring id true }

/-- A successful `SET reaper:lock ... NX`. -/
def acquireLock (store : Store) (lockId : LockId) : Store :=
  { store with reaperLock := some lockId }

/-- The release script: delete the key only while it holds this identifier. -/
def releaseLock (store : Store) (lockId : LockId) : Store :=
  if store.reaperLock = some lockId then { store with reaperLock := none } else store

/-! ## What the commands do to the decisive columns -/

@[simp] theorem recordOf_updateSubmissions (store : Store) (condition : SubmissionRow → Bool)
    (change : SubmissionRow → SubmissionRow) (id : JobId) :
    (store.updateSubmissions condition change).recordOf id =
      (store.submissions.lookup id).map fun row =>
        if condition row then ((change row).status, (change row).retryCount)
        else (row.status, row.retryCount) := by
  -- The update happens in place, and the two columns are read from the changed row.
  simp only [recordOf, updateSubmissions, KeyedTable.lookup_updateWhere, Option.map_map]
  congr 1
  funext row
  simp only [Function.comp_apply]
  split <;> rfl

/-- Inserting a row under a free key adds its record. -/
theorem recordOf_insertSubmission {store : Store} (row : SubmissionRow)
    (free : store.recordOf row.id = none) (id : JobId) :
    (store.insertSubmission row).recordOf id =
      if id = row.id then some (row.status, row.retryCount) else store.recordOf id := by
  -- The key is free, so the row is stored and no other row moves.
  have absent : store.submissions.lookup row.id = none := by simpa [recordOf] using free
  simp only [recordOf, insertSubmission, KeyedTable.lookup_insert _ _ _ absent]
  by_cases same : id = row.id
  · simp [same]
  · simp [same, Ne.symm same]

/-- A claim turns the job's PENDING record into a RUNNING one. -/
@[simp] theorem recordOf_claim (store : Store) (claimed id : JobId) :
    (store.claim claimed).recordOf id =
      (store.recordOf id).map fun record =>
        if id = claimed ∧ record.1 = .pending then (.running, record.2) else record := by
  -- The row that is read under a key carries that key.
  rw [claim, recordOf_updateSubmissions]
  simp only [recordOf, Option.map_map]
  cases found : store.submissions.lookup id with
  | none => rfl
  | some row => simp [KeyedTable.key_of_lookup found]

@[simp] theorem recordOf_setStatus (store : Store) (written id : JobId)
    (status : SubmissionStatus) :
    (store.setStatus written status).recordOf id =
      (store.recordOf id).map fun record =>
        if id = written then (status, record.2) else record := by
  -- The row that is read under a key carries that key.
  rw [setStatus, recordOf_updateSubmissions]
  simp only [recordOf, Option.map_map]
  cases found : store.submissions.lookup id with
  | none => rfl
  | some row => simp [KeyedTable.key_of_lookup found]

@[simp] theorem recordOf_requeueRow (store : Store) (written id : JobId) (retryCount : Nat) :
    (store.requeueRow written retryCount).recordOf id =
      (store.recordOf id).map fun record =>
        if id = written then (.pending, retryCount) else record := by
  -- The row that is read under a key carries that key.
  rw [requeueRow, recordOf_updateSubmissions]
  simp only [recordOf, Option.map_map]
  cases found : store.submissions.lookup id with
  | none => rfl
  | some row => simp [KeyedTable.key_of_lookup found]

@[simp] theorem recordOf_resetRunning (store : Store) (id : JobId) :
    store.resetRunning.recordOf id =
      (store.recordOf id).map fun record =>
        if record.1 = .running then (.pending, record.2) else record := by
  -- Every RUNNING row is rewritten, whatever its key.
  rw [resetRunning, recordOf_updateSubmissions]
  simp [recordOf, Function.comp_def]

/-- Writing a result touches no other part of the store. -/
theorem upsertResult_eq (store : Store) (fresh : ResultRow) (merge : ResultRow → ResultRow) :
    ∃ results, store.upsertResult fresh merge = { store with results } := by
  -- Both branches replace the results alone.
  unfold upsertResult
  split
  · exact ⟨_, rfl⟩
  · exact ⟨_, rfl⟩

/-- The result stored for a job after an upsert. -/
theorem results_upsertResult (store : Store) (fresh : ResultRow) (merge : ResultRow → ResultRow)
    (id : JobId) : (store.upsertResult fresh merge).results.lookup id =
      if id = fresh.jobId then
        some ((store.results.lookup id).elim fresh fun row => { merge row with jobId := row.jobId })
      else store.results.lookup id := by
  -- The upsert decides on the row that is there, exactly as the conflict clause does.
  unfold upsertResult
  split
  · next taken =>
    obtain ⟨row, found⟩ := Option.isSome_iff_exists.mp taken
    have same := KeyedTable.key_of_lookup found
    by_cases isTarget : id = fresh.jobId
    · simp [isTarget, found, same]
    · rw [if_neg isTarget, KeyedTable.lookup_updateWhere]
      cases other : store.results.lookup id with
      | none => rfl
      | some stored =>
        have key : stored.jobId = id := KeyedTable.key_of_lookup other
        simp [key, isTarget]
  · next free =>
    have absent : store.results.lookup fresh.jobId = none := by simpa using free
    rw [KeyedTable.lookup_insert _ _ _ absent]
    by_cases isTarget : id = fresh.jobId
    · simp [isTarget, absent]
    · simp [isTarget, Ne.symm isTarget]

/-- The claim matches a row exactly when the job is PENDING. -/
theorem claimable_length (store : Store) (id : JobId) :
    (store.claimable id).length = if store.statusOf id = some .pending then 1 else 0 := by
  -- A key has one row at most, and the optimistic lock then looks at its status.
  have keyed : store.claimable id =
      (store.submissions.select fun row => row.id = id).filter fun row => row.status = .pending := by
    simp [claimable, KeyedTable.select, List.filter_filter, Bool.and_comm]
  rw [keyed, KeyedTable.select_key, statusOf]
  cases store.submissions.lookup id with
  | none => rfl
  | some row => by_cases waiting : row.status = .pending <;> simp [waiting]

end Store

/-! ## Jobs that are still listed -/

/-- Some job list has an element of the job. -/
def Store.Lists (store : Store) (jobId : JobId) : Prop :=
  jobId ∈ jobsIn store.pending ∨ ∃ worker, jobId ∈ jobsIn (store.processing worker)

/-- Only the job lists are read. -/
theorem Store.Lists.of_same {store after : Store} {jobId : JobId} (lists : store.Lists jobId)
    (pending : after.pending = store.pending) (processing : after.processing = store.processing) :
    after.Lists jobId := by
  rw [Store.Lists, pending, processing]
  exact lists

/-- A job that is listed after an LREM was listed before it. -/
theorem Store.Lists.of_removed {store : Store} {worker : WorkerId} {entry : Entry} {jobId : JobId}
    (lists : (store.removeProcessing worker entry).Lists jobId) : store.Lists jobId := by
  -- The shorter list is a sublist of the old one.
  rcases lists with queued | ⟨owner, listed⟩
  · exact .inl queued
  · refine .inr ⟨owner, ?_⟩
    by_cases isOwner : owner = worker
    · subst isOwner
      have shorter : jobId ∈ jobsIn ((store.processing owner).erase entry) := by
        simpa [Store.removeProcessing] using listed
      exact (List.erase_sublist.filterMap Entry.jobId?).subset shorter
    · simpa [Store.removeProcessing, isOwner] using listed

end CodeExecution

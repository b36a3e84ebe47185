import CodeExecution.Library.Custody
import CodeExecution.Settings

/-! Who may act on a job, what each of them relies on, and which list elements are already spent. -/

namespace CodeExecution

/-- The parties that may hold a job. -/
inductive Holder where
  /-- The handler that received the job. -/
  | handler
  /-- The pending list. -/
  | queue
  /-- A worker, through its processing list or its own program point. -/
  | worker (worker : WorkerId)
  deriving DecidableEq

/-- What a holder relies on about the job's row. -/
inductive Reliance where
  /-- PENDING, with this retry count. -/
  | waiting (retryCount : Nat)
  /-- Not terminal. -/
  | active
  /-- Terminal. -/
  | closed
  /-- There is a row. -/
  | stored
  /-- PENDING or FAILED. -/
  | failable
  /-- No row could satisfy it. -/
  | impossible
  deriving DecidableEq

/-- The rows that satisfy a reliance. -/
def Reliance.Holds : Reliance → JobRecord → Prop
  | .waiting retryCount, record => record = some (.pending, retryCount)
  | .active, record => record.IsOpen
  | .closed, record => record.IsClosed
  | .stored, record => ∃ columns, record = some columns
  | .failable, record =>
    ∃ status retryCount, record = some (status, retryCount) ∧ (status = .pending ∨ status = .failed)
  | .impossible, _ => False

/-- Whatever a reliance asks for, it asks for a row. -/
theorem Reliance.Holds.stored {reliance : Reliance} {record : JobRecord}
    (held : reliance.Holds record) : ∃ columns, record = some columns := by
  -- Each satisfiable reliance names the columns of the row.
  cases reliance with
  | waiting retryCount => exact ⟨_, held⟩
  | active | closed => obtain ⟨status, retryCount, found, _⟩ := held; exact ⟨_, found⟩
  | stored => exact held
  | failable => obtain ⟨status, retryCount, found, _⟩ := held; exact ⟨_, found⟩
  | impossible => exact held.elim

/-- A job has a terminal status where its row is closed. -/
theorem Store.terminal_iff_closed {store : Store} {jobId : JobId} :
    isTerminalStatus (store.statusOf jobId) = true ↔ (store.recordOf jobId).IsClosed := by
  -- The status is the first column of the record.
  rw [Store.statusOf_eq, isTerminalStatus]
  cases store.recordOf jobId with
  | none => simp [JobRecord.IsClosed]
  | some columns => simp [JobRecord.IsClosed, Prod.ext_iff]

/-- A job that tests as closed has a terminal row. -/
theorem closed_of_jobClosed {state : Platform} {jobId : JobId}
    (closed : jobClosed state jobId = true) :
    (state.store.recordOf jobId).IsClosed :=
  -- The test is one of the status of the row.
  Store.terminal_iff_closed.mp closed

/-- A job with a terminal status has a terminal row. -/
theorem closed_of_status {store : Store} {jobId : JobId} {status : SubmissionStatus}
    (ended : store.statusOf jobId = some status) (terminal : status.isTerminal = true) :
    (store.recordOf jobId).IsClosed := by
  -- The status is the first column of the record.
  rw [Store.statusOf_eq] at ended
  obtain ⟨⟨_, retryCount⟩, found, rfl⟩ := Option.map_eq_some_iff.mp ended
  exact ⟨_, retryCount, found, terminal⟩

/-- All jobs of elements that test as closed have terminal rows. -/
theorem closed_of_allClosed {state : Platform} {entries : List Entry}
    (closed : allClosed state entries = true) {jobId : JobId} (member : jobId ∈ jobsIn entries) :
    (state.store.recordOf jobId).IsClosed :=
  -- The test covers every job named along the list.
  closed_of_jobClosed (List.all_eq_true.mp closed jobId member)

/-! ## Calls that leave all jobs alone -/

/-- Two stores with the same submissions, the same job lists and the same lock. -/
structure Store.SameJobs (after before : Store) : Prop where
  submissions : after.submissions = before.submissions
  pending : after.pending = before.pending
  processing : after.processing = before.processing
  reaperLock : after.reaperLock = before.reaperLock

/-- A store holds the same jobs as itself. -/
theorem Store.SameJobs.refl (store : Store) : store.SameJobs store :=
  ⟨rfl, rfl, rfl, rfl⟩

/-- The decisive columns are read from the submissions. -/
theorem Store.SameJobs.recordOf_eq {after before : Store} (same : after.SameJobs before) :
    after.recordOf = before.recordOf := by
  -- Nothing else of the store is read.
  funext jobId
  simp [Store.recordOf, same.submissions]

/-- The stream calls leave all jobs alone. -/
theorem StreamCall.effect_sameJobs (call : StreamCall) (jobId : JobId) (chunk : StreamChunk)
    (store : Store) : (call.effect jobId chunk store).SameJobs store := by
  -- Streams, channels and expiries are keys of their own.
  cases call <;> exact ⟨rfl, rfl, rfl, rfl⟩

/-- The dead-letter list is a key of its own. -/
theorem Store.pushDeadLetter_sameJobs (store : Store) (letter : DLQPayload) :
    (store.pushDeadLetter letter).SameJobs store :=
  ⟨rfl, rfl, rfl, rfl⟩

/-- Results are a table of their own. -/
theorem Store.upsertResult_sameJobs (store : Store) (fresh : ResultRow)
    (merge : ResultRow → ResultRow) : (store.upsertResult fresh merge).SameJobs store := by
  -- Only the results are replaced.
  obtain ⟨results, written⟩ := store.upsertResult_eq fresh merge
  rw [written]
  exact ⟨rfl, rfl, rfl, rfl⟩

/-! ## What a program point relies on -/

/-- The reliance of a handler on its job. -/
def PostPoint.reliance : PostPoint → Option Reliance
  -- Between the insertion and the push, the handler alone knows of the job.
  | .enqueue _ => some (.waiting 0)
  | .markFailed _ => some .failable
  | .idle | .insert _ | .depth _ | .insertFailure _ | .answered _ | .crashed => none

/-- The reliance of a running worker on the job it works for. -/
def WorkerPoint.reliance : WorkerPoint → Option (JobId × Reliance)
  | .claim job => some (job.jobId, .waiting job.retryCount)
  -- These three points are behind a rejected claim.
  | .statusCheck job | .repush job | .discard job => some (job.jobId, .impossible)
  | .launch job | .executing job | .persist _ job _ => some (job.jobId, .active)
  | .acknowledge job | .complete _ _ job => some (job.jobId, .closed)
  | .requeue .update job | .exhausted job => some (job.jobId, .active)
  | .requeue .push job => some (job.jobId, .waiting (job.retryCount + 1))
  -- The next copy is already queued, so only the old element is left to remove.
  | .pop | .requeue .remove _ | .deadLetter .rollback _ => none
  | .deadLetter _ letter => some (letter.jobId, .active)
  | .deadLetterPush letter | .deadLetterComplete _ _ letter => some (letter.jobId, .closed)

/-- The payload that a running worker still has in its own processing list. -/
def WorkerPoint.listed? : WorkerPoint → Option QueuePayload
  | .claim job | .statusCheck job | .repush job | .discard job | .launch job | .executing job
  | .persist _ job _ | .acknowledge job | .requeue _ job | .exhausted job => some job
  | .pop | .complete _ _ _ | .deadLetter _ _ | .deadLetterPush _ | .deadLetterComplete _ _ _ => none

/-- The job whose old element a running worker is about to remove after requeueing it. -/
def WorkerPoint.spentJob? : WorkerPoint → Option JobId
  | .requeue .remove job => some job.jobId
  | _ => none

/-- The reliance of a recovery on its current job. -/
def RecoverPoint.reliance : RecoverPoint → Option (JobId × Reliance)
  | .reset cursor => some (cursor.job.jobId, .active)
  | .push cursor => some (cursor.job.jobId, .waiting (cursor.job.retryCount + 1))
  | .deadLetter .rollback _ _ => none
  | .deadLetter _ letter _ => some (letter.jobId, .active)
  | .deadLetterPush letter _ => some (letter.jobId, .closed)
  | .list | .check _ | .delete _ => none

/-- The job of a recovery's letter is the job of its current iteration. -/
def RecoverPoint.letterMatches : RecoverPoint → Prop
  | .deadLetter _ letter cursor | .deadLetterPush letter cursor => letter.jobId = cursor.job.jobId
  | .list | .check _ | .reset _ | .push _ | .delete _ => True

/-! ## Stakes -/

/--
An element of a processing list is spent once its job has been handed on.

The owner is about to remove it, or a recovery has it among the visited elements.
-/
def Spent (state : Platform) (worker : WorkerId) (jobId : JobId) : Prop :=
  (∃ point, state.workers worker = .running point ∧ point.spentJob? = some jobId) ∨
  ∃ lockId point rest, state.scans lockId = .recover point worker rest ∧
    jobId ∈ jobsIn point.visited

/-- A holder's interest in a job. -/
inductive Stake (state : Platform) : Holder → JobId → Reliance → Prop where
  /-- A handler at work. -/
  | handler {jobId : JobId} {reliance : Reliance}
      (relies : (state.posts jobId).reliance = some reliance) :
      Stake state .handler jobId reliance
  /-- An element of the pending list. -/
  | queued {job : QueuePayload} (member : .payload job ∈ state.store.pending) :
      Stake state .queue job.jobId (.waiting job.retryCount)
  /-- An unspent element of a processing list. -/
  | listed {worker : WorkerId} {job : QueuePayload}
      (member : .payload job ∈ state.store.processing worker)
      (unspent : ¬ Spent state worker job.jobId) :
      Stake state (.worker worker) job.jobId .stored
  /-- A running worker at work. -/
  | working {worker : WorkerId} {point : WorkerPoint} {jobId : JobId} {reliance : Reliance}
      (running : state.workers worker = .running point)
      (relies : point.reliance = some (jobId, reliance)) :
      Stake state (.worker worker) jobId reliance
  /-- A recovery that acts for a dead worker. -/
  | recovering {lockId : LockId} {point : RecoverPoint} {worker : WorkerId}
      {rest : List WorkerId} {jobId : JobId} {reliance : Reliance}
      (recovers : state.scans lockId = .recover point worker rest)
      (relies : point.reliance = some (jobId, reliance)) :
      Stake state (.worker worker) jobId reliance

/-- Stakes are read from the lists and from the program points. -/
theorem Stake.of_same {state next : Platform} {holder : Holder} {jobId : JobId}
    {reliance : Reliance} (staked : Stake next holder jobId reliance)
    (pending : next.store.pending = state.store.pending)
    (processing : next.store.processing = state.store.processing)
    (workers : next.workers = state.workers) (posts : next.posts = state.posts)
    (scans : ∀ lockId point worker rest, next.scans lockId = .recover point worker rest ↔
      state.scans lockId = .recover point worker rest) : Stake state holder jobId reliance := by
  -- The same elements are spent, because the same recoveries are at work.
  have spent : ∀ owner other, Spent next owner other ↔ Spent state owner other := by
    intro owner other
    simp only [Spent, workers, scans]
  cases staked with
  | handler relies => exact .handler (posts ▸ relies)
  | queued member => exact .queued (pending ▸ member)
  | listed member unspent =>
    exact .listed (processing ▸ member) fun earlier => unspent ((spent _ _).mpr earlier)
  | working running relies => exact .working (workers ▸ running) relies
  | recovering recovers relies => exact .recovering ((scans _ _ _ _).mp recovers) relies

/-- What a handler at this point says about its job. -/
def PostPoint.Facts (record : JobRecord) (jobId : JobId) : PostPoint → Prop
  | .idle => record = none
  | .insert payload => payload.jobId = jobId ∧ payload.retryCount = 0 ∧ record = none
  | .enqueue payload => payload.jobId = jobId ∧ payload.retryCount = 0
  | .depth payload | .markFailed payload | .insertFailure payload => payload.jobId = jobId
  | .answered _ | .crashed => True

/-- What a recovery at this point says about the worker it acts for. -/
structure RecoverPoint.Facts (state : Platform) (point : RecoverPoint) (worker : WorkerId)
    (rest : List WorkerId) : Prop where
  crashed : state.workers worker = .crashed
  restCrashed : ∀ other ∈ rest, state.workers other = .crashed
  snapshot : ∀ entries, point.snapshot? = some entries → state.store.processing worker = entries
  letterMatches : point.letterMatches
  rolledBack : ∀ entries, point.rolledBack? = some entries →
    ∀ jobId ∈ jobsIn entries, (state.store.recordOf jobId).IsClosed

/-- A scan in its critical section owns the lock key. -/
def Locked (state : Platform) : Prop :=
  ∀ lockId, (state.scans lockId).critical = true → state.store.reaperLock = some lockId

/-- Without a scan in its critical section there is no owner to speak of. -/
theorem Locked.of_uncritical {state : Platform}
    (uncritical : ∀ lockId, (state.scans lockId).critical = false) : Locked state :=
  fun lockId critical => by simp [uncritical lockId] at critical

/-- The key holds one identifier, so one scan at most is in its critical section. -/
theorem Locked.alone {state : Platform} (locked : Locked state) {first second : LockId}
    (critical : (state.scans first).critical = true)
    (critical' : (state.scans second).critical = true) : first = second := by
  have owner := locked first critical
  rw [locked second critical'] at owner
  exact (Option.some.inj owner).symm

/-- Where the owner of the key is gone, no scan is in its critical section. -/
theorem Locked.uncritical {state : Platform} (locked : Locked state)
    (abandoned : abandonedLock state = true) (lockId : LockId) :
    (state.scans lockId).critical = false := by
  -- A scan in its critical section would be the owner.
  cases critical : (state.scans lockId).critical with
  | false => rfl
  | true => simp [abandonedLock, locked lockId critical, critical] at abandoned

/-- The invariant of runs in which no failure separates a hand-over from its acknowledgement. -/
structure Orderly (state : Platform) : Prop where
  /-- Reliances hold, and an open job has one holder. -/
  sound : Custody.Sound JobRecord.IsOpen Reliance.Holds (Stake state) state.store.recordOf
  /-- An open job is queued once at most. -/
  queuedOnce : ∀ jobId, (state.store.recordOf jobId).IsOpen →
    (jobsIn state.store.pending).count jobId ≤ 1
  /-- An open job is listed once at most by each worker. -/
  listedOnce : ∀ worker jobId, (state.store.recordOf jobId).IsOpen →
    (jobsIn (state.store.processing worker)).count jobId ≤ 1
  /-- Listed jobs have rows, whether their elements are spent or not. -/
  listedStored : ∀ worker job, .payload job ∈ state.store.processing worker →
    ∃ columns, state.store.recordOf job.jobId = some columns
  /-- A worker's own job is in its own list until it removes it. -/
  ownListed : ∀ worker point job, state.workers worker = .running point →
    point.listed? = some job → .payload job ∈ state.store.processing worker
  /-- A worker that has not started has no list. -/
  absentEmpty : ∀ worker, state.workers worker = .absent → state.store.processing worker = []
  /-- Handlers work on the job they were keyed by. -/
  posts : ∀ jobId, (state.posts jobId).Facts (state.store.recordOf jobId) jobId
  /-- Recoveries act for crashed workers, on their unchanged lists. -/
  scans : ∀ lockId point worker rest, state.scans lockId = .recover point worker rest →
    point.Facts state worker rest
  /-- Scans exclude each other by the lock key. -/
  locked : Locked state

/-! ## What a step keeps -/

/-- A handler's facts only ask whether there is a row. -/
theorem PostPoint.Facts.of_rows {record record' : JobRecord} {jobId : JobId} {point : PostPoint}
    (facts : point.Facts record jobId) (rows : record' = none ↔ record = none) :
    point.Facts record' jobId := by
  -- Only the points up to the insertion speak of the row at all.
  cases point with
  | idle => exact rows.mpr facts
  | insert payload => exact ⟨facts.1, facts.2.1, rows.mpr facts.2.2⟩
  | _ => exact facts

/-- A recovery's facts are about the workers, the list of its dead worker, and closed rows. -/
theorem RecoverPoint.Facts.of_same {state next : Platform} {point : RecoverPoint}
    {worker : WorkerId} {rest : List WorkerId} (facts : point.Facts state worker rest)
    (workers : next.workers = state.workers)
    (processing : next.store.processing = state.store.processing)
    (closed : ∀ jobId, (state.store.recordOf jobId).IsClosed →
      (next.store.recordOf jobId).IsClosed) : point.Facts next worker rest where
  -- No field looks at anything else.
  crashed := by simpa [workers] using facts.crashed
  restCrashed := by simpa [workers] using facts.restCrashed
  snapshot := by simpa [processing] using facts.snapshot
  letterMatches := facts.letterMatches
  rolledBack := fun entries left jobId member =>
    closed jobId (facts.rolledBack entries left jobId member)

/-- A row that was there is still there, where no row goes away. -/
theorem JobRecord.stored_of_kept {record record' : JobRecord}
    (stored : ∃ columns, record = some columns) (kept : record' = none → record = none) :
    ∃ columns, record' = some columns := by
  rw [← Option.isSome_iff_exists, ← Option.ne_none_iff_isSome] at stored ⊢
  exact fun gone => stored (kept gone)

/-- Writing the row of one open job opens no other job. -/
theorem opened_of_written {before after : JobId → JobRecord} {jobId : JobId}
    (isOpen : (before jobId).IsOpen)
    (others : ∀ other, other ≠ jobId → after other = before other) (other : JobId)
    (isOpen' : (after other).IsOpen) : (before other).IsOpen := by
  by_cases same : other = jobId
  · subst same; exact isOpen
  · rwa [others other same] at isOpen'

/-- Writing the row of one open job adds no row and takes none away. -/
theorem rows_of_written {before after : JobId → JobRecord} {jobId : JobId}
    (isOpen : (before jobId).IsOpen) (stored : ∃ columns, after jobId = some columns)
    (others : ∀ other, other ≠ jobId → after other = before other) (other : JobId) :
    after other = none ↔ before other = none := by
  -- The written job has its row before and behind the write.
  by_cases same : other = jobId
  · subst same
    obtain ⟨status, retryCount, found, _⟩ := isOpen
    obtain ⟨columns, found'⟩ := stored
    simp [found, found']
  · rw [others other same]

/-- A handler or a running worker is not a dead worker. -/
theorem Holder.ne_crashed {state : Platform} {holder : Holder} {worker : WorkerId}
    (crashed : state.workers worker = .crashed)
    (alive : holder = .handler ∨ ∃ owner point, holder = .worker owner ∧
      state.workers owner = .running point) : holder ≠ .worker worker := by
  intro gone
  subst gone
  -- Whoever runs has not crashed.
  rcases alive with impossible | ⟨owner, running, same, runs⟩
  · simp at impossible
  · obtain rfl : worker = owner := by simpa using same
    simp [crashed] at runs

namespace Orderly

variable {state next : Platform}

/-- A step that changes no row, no job list and no point of a party keeps the platform orderly. -/
theorem of_same (orderly : Orderly state)
    (records : next.store.recordOf = state.store.recordOf)
    (pending : next.store.pending = state.store.pending)
    (processing : next.store.processing = state.store.processing)
    (workers : next.workers = state.workers) (posts : next.posts = state.posts)
    (scans : ∀ lockId point worker rest, next.scans lockId = .recover point worker rest ↔
      state.scans lockId = .recover point worker rest)
    (locked : Locked next) : Orderly next where
  sound := by
    -- Every stake afterwards is an old one.
    rw [records]
    refine orderly.sound.retain (fun _ => id) (fun _ _ => id) ?_
    intro holder jobId reliance staked
    exact .inl (staked.of_same pending processing workers posts scans)
  queuedOnce := by simpa [records, pending] using orderly.queuedOnce
  listedOnce := by simpa [records, processing] using orderly.listedOnce
  listedStored := by simpa [records, processing] using orderly.listedStored
  ownListed := by simpa [workers, processing] using orderly.ownListed
  absentEmpty := by simpa [workers, processing] using orderly.absentEmpty
  posts := by simpa [records, posts] using orderly.posts
  scans := fun lockId point worker rest recovers =>
    (orderly.scans lockId point worker rest ((scans _ _ _ _).mp recovers)).of_same workers
      processing (by simp [records])
  locked := locked

/-- A handler that is about to insert a row has a free key. -/
theorem insert_fresh (orderly : Orderly state) {key : JobId} {payload : QueuePayload}
    (inserts : state.posts key = .insert payload) : state.store.recordOf payload.jobId = none := by
  have facts := orderly.posts key
  rw [inserts] at facts
  rw [facts.1]
  exact facts.2.2

/-- A handler that is about to mark a job as failed has a stake in it. -/
theorem markFailed_stake (orderly : Orderly state) {key : JobId} {payload : QueuePayload}
    (gives : state.posts key = .markFailed payload) :
    Stake state .handler payload.jobId .failable := by
  -- The handler works under the job's own key.
  have facts := orderly.posts key
  rw [gives] at facts
  obtain rfl : payload.jobId = key := facts
  exact .handler (by simp [gives, PostPoint.reliance])

/-- An open job that somebody holds outside the queue is not queued. -/
theorem unqueued (orderly : Orderly state) {jobId : JobId} {holder : Holder} {reliance : Reliance}
    (isOpen : (state.store.recordOf jobId).IsOpen) (held : Stake state holder jobId reliance)
    (outside : holder ≠ .queue) : (jobsIn state.store.pending).count jobId = 0 := by
  -- A queued copy would make the queue a second holder.
  rw [List.count_eq_zero, mem_jobsIn]
  intro waits
  obtain ⟨other, queued, same⟩ := waits
  have staked : Stake state .queue other.jobId (.waiting other.retryCount) := .queued queued
  exact outside (orderly.sound.sole isOpen held _ _ (same ▸ staked)).symm

/-- After the push of a job that was not queued, open jobs are still queued once at most. -/
theorem queuedOnce_push (orderly : Orderly state) {job : QueuePayload}
    (unqueued : (jobsIn state.store.pending).count job.jobId = 0) (jobId : JobId)
    (isOpen : (state.store.recordOf jobId).IsOpen) :
    (jobsIn (state.store.pushPending (.payload job)).pending).count jobId ≤ 1 := by
  have once := orderly.queuedOnce jobId isOpen
  -- The pushed job is queued once now, and any other one as often as before.
  by_cases same : job.jobId = jobId
  · subst same
    simp [Store.pushPending, unqueued]
  · simpa [Store.pushPending, List.count_cons, same] using once

end Orderly

end CodeExecution

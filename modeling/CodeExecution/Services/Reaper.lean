import CodeExecution.Services.Worker

/-! The system monitor: `runReaperScan` with its recovery loop, and the recovery at startup. -/

namespace CodeExecution

/-- The position of the loop over the elements that LRANGE returned. -/
structure Cursor where
  /-- Elements the loop has finished with. -/
  visited : List Entry
  /-- The payload of the current iteration. -/
  job : QueuePayload
  /-- Elements the loop has not reached. -/
  todo : List Entry
  deriving DecidableEq, Repr

/-- The elements finished with once the current iteration ends. -/
def Cursor.visitedNext (cursor : Cursor) : List Entry :=
  cursor.visited ++ [.payload cursor.job]

/-- Where `recoverJobsFromDeadWorker` stands; each point is its next awaited call. -/
inductive RecoverPoint where
  /-- `LRANGE` of the dead worker's list. -/
  | list
  /-- `SELECT status` of the current job. -/
  | check (cursor : Cursor)
  /-- `UPDATE submissions SET status = PENDING, retry_count`. -/
  | reset (cursor : Cursor)
  /-- `LPUSH jobs:queue:pending`. -/
  | push (cursor : Cursor)
  /-- The transaction of the reaper's `sendToDLQ`. -/
  | deadLetter (point : TxPoint) (letter : DLQPayload) (cursor : Cursor)
  /-- `LPUSH jobs:queue:dead-letter`. -/
  | deadLetterPush (letter : DLQPayload) (cursor : Cursor)
  /-- `DEL` of the dead worker's list. -/
  | delete (visited : List Entry)
  deriving DecidableEq, Repr

/-- The next iteration of the loop, passing over elements that cannot be parsed. -/
def RecoverPoint.visit (visited : List Entry) : List Entry → RecoverPoint
  | [] => .delete visited
  | .payload job :: todo => .check { visited, job, todo }
  | .malformed text :: todo => RecoverPoint.visit (visited ++ [.malformed text]) todo

/-- The loop moves on from the current iteration. -/
def Cursor.advance (cursor : Cursor) : RecoverPoint :=
  .visit cursor.visitedNext cursor.todo

/-- Where one call of `runReaperScan` stands. -/
inductive ScanPoint where
  /-- The scan has not been called. -/
  | idle
  /-- `SET reaper:lock {lockId} PX NX`. -/
  | acquire
  /-- The two SCAN loops over processing lists and heartbeats. -/
  | detect
  /-- Recovery of one dead worker, with the dead workers still to come. -/
  | recover (point : RecoverPoint) (worker : WorkerId) (rest : List WorkerId)
  /-- The release script of the finally block. -/
  | release
  /-- The scan has returned. -/
  | finished
  deriving DecidableEq, Repr

/-- Workers with a processing list but without a heartbeat, each listed once. -/
def deadWorkerIds (processingWorkerIds aliveWorkerIds : List WorkerId) : List WorkerId :=
  -- The two sets are built first, which drops duplicated SCAN results.
  processingWorkerIds.eraseDups.filter fun worker => worker ∉ aliveWorkerIds

/-- The loop over the dead workers, ending in the finally block. -/
def ScanPoint.recoverAll : List WorkerId → ScanPoint
  | [] => .release
  | worker :: rest => .recover .list worker rest

/-- A recovery starts by listing the elements of the first dead worker. -/
theorem ScanPoint.recoverAll_recover {dead rest : List WorkerId} {point : RecoverPoint}
    {worker : WorkerId} (starts : ScanPoint.recoverAll dead = .recover point worker rest) :
    point = .list ∧ dead = worker :: rest := by
  -- Without dead workers the scan goes on to its release.
  cases dead with
  | nil => simp [ScanPoint.recoverAll] at starts
  | cons first others =>
    obtain ⟨rfl, rfl, rfl⟩ : RecoverPoint.list = point ∧ first = worker ∧ others = rest := by
      simpa [ScanPoint.recoverAll] using starts
    exact ⟨rfl, rfl⟩

/-- The reason the reaper gives when it dead-letters a job. -/
def deadWorkerReason (worker : WorkerId) : String :=
  "Worker " ++ worker ++ " died. Exceeded max retry count (" ++ toString maxRetryCount ++ ")."

/-- The next awaited call of a recovery when it resolves; nothing follows the final DEL. -/
def RecoverPoint.resolve (worker : WorkerId) (store : Store) :
    RecoverPoint → Option (Option RecoverPoint × Store)
  | .list => some (some (.visit [] (store.processing worker)), store)
  | .check cursor =>
    if isTerminalStatus (store.statusOf cursor.job.jobId) then some (some cursor.advance, store)
    else if cursor.job.retryCount + 1 > maxRetryCount then
      let letter := deadLetterPayload cursor.job (deadWorkerReason worker) store.now
      some (some (.deadLetter .connect letter cursor), store)
    else some (some (.reset cursor), store)
  | .reset cursor =>
    some (some (.push cursor),
      store.requeueRow cursor.job.jobId (cursor.job.retryCount + 1))
  | .push cursor =>
    some (some cursor.advance,
      store.pushPending (.payload (cursor.job.withRetry (cursor.job.retryCount + 1))))
  | .deadLetter .connect letter cursor => some (some (.deadLetter .begin letter cursor), store)
  | .deadLetter .begin letter cursor =>
    some (some (.deadLetter .updateStatus letter cursor), store)
  | .deadLetter .updateStatus letter cursor =>
    some (some (.deadLetter .insertResult letter cursor), store)
  | .deadLetter .insertResult letter cursor =>
    if store.hasSubmission letter.jobId then
      some (some (.deadLetter .commit letter cursor), store)
    else none
  | .deadLetter .commit letter cursor =>
    some (some (.deadLetterPush letter cursor), store.commitDeadLetter letter)
  -- The rollback is followed by the error that caused it.
  | .deadLetter .rollback _ _ => none
  | .deadLetterPush letter cursor =>
    some (some cursor.advance, store.pushDeadLetter letter)
  | .delete _ => some (none, store.deleteProcessing worker)

/-- What a call of a recovery can lead to: the point behind it, and the store after it. -/
inductive RecoverPoint.Resolved (worker : WorkerId) (store : Store) :
    RecoverPoint → Option RecoverPoint → Store → Prop
  | list : Resolved worker store .list (some (.visit [] (store.processing worker))) store
  /-- The job is over, so its element is passed over. -/
  | skip {cursor : Cursor}
      (terminal : isTerminalStatus (store.statusOf cursor.job.jobId) = true) :
      Resolved worker store (.check cursor) (some cursor.advance) store
  /-- The job is open, and has no retries left. -/
  | exhausts {cursor : Cursor}
      (isOpen : isTerminalStatus (store.statusOf cursor.job.jobId) = false)
      (spent : maxRetryCount < cursor.job.retryCount + 1) :
      Resolved worker store (.check cursor) (some (.deadLetter .connect
        (deadLetterPayload cursor.job (deadWorkerReason worker) store.now) cursor)) store
  /-- The job is open, and is requeued. -/
  | retries {cursor : Cursor}
      (isOpen : isTerminalStatus (store.statusOf cursor.job.jobId) = false)
      (within : cursor.job.retryCount + 1 ≤ maxRetryCount) :
      Resolved worker store (.check cursor) (some (.reset cursor)) store
  | reset {cursor : Cursor} :
      Resolved worker store (.reset cursor) (some (.push cursor))
        (store.requeueRow cursor.job.jobId (cursor.job.retryCount + 1))
  | push {cursor : Cursor} :
      Resolved worker store (.push cursor) (some cursor.advance)
        (store.pushPending (.payload (cursor.job.withRetry (cursor.job.retryCount + 1))))
  | connect {letter : DLQPayload} {cursor : Cursor} :
      Resolved worker store (.deadLetter .connect letter cursor)
        (some (.deadLetter .begin letter cursor)) store
  | begin {letter : DLQPayload} {cursor : Cursor} :
      Resolved worker store (.deadLetter .begin letter cursor)
        (some (.deadLetter .updateStatus letter cursor)) store
  | updateStatus {letter : DLQPayload} {cursor : Cursor} :
      Resolved worker store (.deadLetter .updateStatus letter cursor)
        (some (.deadLetter .insertResult letter cursor)) store
  /-- The foreign key has found the row. -/
  | insertResult {letter : DLQPayload} {cursor : Cursor}
      (stored : store.hasSubmission letter.jobId = true) :
      Resolved worker store (.deadLetter .insertResult letter cursor)
        (some (.deadLetter .commit letter cursor)) store
  | commit {letter : DLQPayload} {cursor : Cursor} :
      Resolved worker store (.deadLetter .commit letter cursor)
        (some (.deadLetterPush letter cursor)) (store.commitDeadLetter letter)
  | sendLetter {letter : DLQPayload} {cursor : Cursor} :
      Resolved worker store (.deadLetterPush letter cursor) (some cursor.advance)
        (store.pushDeadLetter letter)
  | delete {visited : List Entry} :
      Resolved worker store (.delete visited) none (store.deleteProcessing worker)

/-- Nothing else comes of a call that resolves. -/
theorem RecoverPoint.resolve_cases {worker : WorkerId} {store : Store} {point : RecoverPoint}
    {next : Option RecoverPoint} {after : Store}
    (resolved : point.resolve worker store = some (next, after)) :
    RecoverPoint.Resolved worker store point next after := by
  -- Two calls have branches of their own: the status check, and the INSERT with its foreign key.
  cases point with
  | check cursor =>
    simp only [resolve] at resolved
    split at resolved
    · next terminal =>
      obtain ⟨rfl, rfl⟩ := Prod.mk.inj (Option.some.inj resolved)
      exact .skip terminal
    · next notTerminal =>
      have isOpen : isTerminalStatus (store.statusOf cursor.job.jobId) = false := by
        simpa using notTerminal
      split at resolved
      · next spent =>
        obtain ⟨rfl, rfl⟩ := Prod.mk.inj (Option.some.inj resolved)
        exact .exhausts isOpen spent
      · next within =>
        obtain ⟨rfl, rfl⟩ := Prod.mk.inj (Option.some.inj resolved)
        exact .retries isOpen (Nat.le_of_not_lt within)
  | deadLetter call letter cursor =>
    cases call with
    | insertResult =>
      simp only [resolve] at resolved
      split at resolved
      · next stored =>
        obtain ⟨rfl, rfl⟩ := Prod.mk.inj (Option.some.inj resolved)
        exact .insertResult stored
      · simp at resolved
    | rollback => simp [resolve] at resolved
    | connect | begin | updateStatus | commit =>
      obtain ⟨rfl, rfl⟩ := Prod.mk.inj (Option.some.inj resolved)
      constructor
  | list | reset _ | push _ | deadLetterPush _ _ | delete _ =>
    obtain ⟨rfl, rfl⟩ := Prod.mk.inj (Option.some.inj resolved)
    constructor

/-- Where a scan stands once a call of its recovery has resolved. -/
def ScanPoint.recoverNext (worker : WorkerId) (rest : List WorkerId) : Option RecoverPoint → ScanPoint
  | some point => .recover point worker rest
  -- After the final DEL the loop takes the next dead worker.
  | none => .recoverAll rest

/-- The next awaited call of a scan when it resolves. -/
def ScanPoint.resolve (lockId : LockId) (store : Store) : ScanPoint → Option (ScanPoint × Store)
  | .acquire =>
    -- NX writes the key only while it is absent.
    if store.reaperLock = none then some (.detect, store.acquireLock lockId)
    else some (.finished, store)
  | .recover (.deadLetter .rollback _ _) _ _ => some (.release, store)
  | .recover point worker rest =>
    (point.resolve worker store).map fun reply => (.recoverNext worker rest reply.1, reply.2)
  | .release => some (.finished, store.releaseLock lockId)
  | .idle | .detect | .finished => none

/-- What a call of a scan can lead to: the point behind it, and the store after it. -/
inductive ScanPoint.Resolved (lockId : LockId) (store : Store) : ScanPoint → ScanPoint → Store → Prop
  | acquires (free : store.reaperLock = none) :
      Resolved lockId store .acquire .detect (store.acquireLock lockId)
  /-- Another scan holds the lock. -/
  | yields (taken : store.reaperLock ≠ none) : Resolved lockId store .acquire .finished store
  | rollback {letter : DLQPayload} {cursor : Cursor} {worker : WorkerId} {rest : List WorkerId} :
      Resolved lockId store (.recover (.deadLetter .rollback letter cursor) worker rest) .release store
  | recover {point : RecoverPoint} {worker : WorkerId} {rest : List WorkerId}
      {next : Option RecoverPoint} {after : Store}
      (resolved : point.resolve worker store = some (next, after)) :
      Resolved lockId store (.recover point worker rest) (.recoverNext worker rest next) after
  | release : Resolved lockId store .release .finished (store.releaseLock lockId)

/-- Nothing else comes of a call that resolves. -/
theorem ScanPoint.resolve_cases {lockId : LockId} {store : Store} {point next : ScanPoint}
    {after : Store} (resolved : point.resolve lockId store = some (next, after)) :
    ScanPoint.Resolved lockId store point next after := by
  -- The rollback is the one point of a recovery with a branch of its own.
  unfold resolve at resolved
  split at resolved
  · split at resolved
    · next free =>
      obtain ⟨rfl, rfl⟩ := Prod.mk.inj (Option.some.inj resolved)
      exact .acquires free
    · next taken =>
      obtain ⟨rfl, rfl⟩ := Prod.mk.inj (Option.some.inj resolved)
      exact .yields taken
  · obtain ⟨rfl, rfl⟩ := Prod.mk.inj (Option.some.inj resolved)
    exact .rollback
  · obtain ⟨⟨following, store⟩, replied, same⟩ := Option.map_eq_some_iff.mp resolved
    obtain ⟨rfl, rfl⟩ := Prod.mk.inj same
    exact .recover replied
  · obtain ⟨rfl, rfl⟩ := Prod.mk.inj (Option.some.inj resolved)
    exact .release
  all_goals simp at resolved

/-- The elements a recovery has finished with. -/
def RecoverPoint.visited : RecoverPoint → List Entry
  | .check cursor | .reset cursor | .push cursor | .deadLetter _ _ cursor
  | .deadLetterPush _ cursor => cursor.visited
  | .delete visited => visited
  | .list => []

/-- The elements a recovery has read, which are those of the dead worker's list. -/
def RecoverPoint.snapshot? : RecoverPoint → Option (List Entry)
  | .check cursor | .reset cursor | .push cursor | .deadLetter _ _ cursor
  | .deadLetterPush _ cursor => some (cursor.visited ++ .payload cursor.job :: cursor.todo)
  | .delete visited => some visited
  | .list => none

/-- Between the acquired lock and the release a scan is in its critical section. -/
def ScanPoint.critical : ScanPoint → Bool
  | .detect | .recover _ _ _ | .release => true
  | .idle | .acquire | .finished => false

/-- The elements a recovery leaves behind once its transaction has been rolled back. -/
def RecoverPoint.rolledBack? : RecoverPoint → Option (List Entry)
  -- The rollback is followed by an exception that ends the scan.
  | .deadLetter .rollback _ cursor => some cursor.visited
  | _ => none

/-- Where a scan goes on when its next call rejects. -/
def ScanPoint.handler : ScanPoint → Option ScanPoint
  -- The lock is acquired outside the try block, and released in its finally block.
  | .acquire | .release => some .finished
  | .recover (.deadLetter .connect _ _) _ _ | .recover (.deadLetter .rollback _ _) _ _ =>
    some .release
  | .recover (.deadLetter _ letter cursor) worker rest =>
    some (.recover (.deadLetter .rollback letter cursor) worker rest)
  | .detect | .recover _ _ _ => some .release
  | .idle | .finished => none

/-- Where `recoverOrphanedJobsOnStartup` stands; each point is its next awaited call. -/
inductive StartupPoint where
  /-- The monitor has not been restarted. -/
  | idle
  /-- The bulk `UPDATE` from RUNNING to PENDING. -/
  | resetRunning
  /-- `LLEN jobs:queue:pending`. -/
  | checkDepth
  /-- `SELECT ... WHERE status = PENDING ORDER BY created_at ASC`. -/
  | selectPending
  /-- `LPUSH` of the payloads of the remaining rows. -/
  | rehydrate (row : SubmissionRow) (rest : List SubmissionRow)
  /-- The recovery has returned normally. -/
  | finished
  /-- The recovery has thrown, which ends the process. -/
  | failed
  deriving DecidableEq, Repr

/-- The payload rebuilt from a row. -/
def payloadOfRow (row : SubmissionRow) : QueuePayload where
  jobId := row.id
  userId := match row.userId with
    | none => .null
    | some userId => .value userId
  code := row.sourceCode
  language := row.language
  retryCount := row.retryCount
  submittedAt := row.createdAt

/-- The loop over the selected rows. -/
def StartupPoint.rehydrateAll : List SubmissionRow → StartupPoint
  | [] => .finished
  | row :: rest => .rehydrate row rest

/-- The orders in which Postgres may return the PENDING rows: ties are free. -/
def Store.pendingRows (store : Store) (rows : List SubmissionRow) : Prop :=
  rows.Perm (store.submissions.select fun row => row.status = .pending) ∧
    rows.Pairwise fun earlier later => earlier.createdAt ≤ later.createdAt

instance (store : Store) (rows : List SubmissionRow) : Decidable (store.pendingRows rows) :=
  inferInstanceAs (Decidable (_ ∧ _))

/-- The next awaited call of the startup recovery when it resolves. -/
def StartupPoint.resolve (store : Store) : StartupPoint → Option (StartupPoint × Store)
  | .resetRunning => some (.checkDepth, store.resetRunning)
  | .checkDepth => some (if store.pending.length = 0 then .selectPending else .finished, store)
  | .rehydrate row rest =>
    some (.rehydrateAll rest, store.pushPending (.payload (payloadOfRow row)))
  | .idle | .selectPending | .finished | .failed => none

/-- The startup recovery has no handler of its own. -/
def StartupPoint.handler : StartupPoint → Option StartupPoint
  | .resetRunning | .checkDepth | .selectPending | .rehydrate _ _ => some .failed
  | .idle | .finished | .failed => none

end CodeExecution

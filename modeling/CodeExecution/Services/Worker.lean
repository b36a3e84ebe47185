import Mathlib.Data.List.Infix
import CodeExecution.Store

/-! The execution worker's `processQueue` loop, with the retry path of its catch block. -/

namespace CodeExecution

/-- What `runInSandbox` resolves with, as far as the worker reads it. -/
structure SandboxResult where
  exitCode : Option Int
  stdout : String
  stderr : String
  timedOut : Bool
  oomKilled : Bool
  outputTruncated : Bool
  streamOutputLimitExceeded : Bool
  executionTimeMs : Nat
  memoryUsedBytes : Option Nat
  deriving DecidableEq, Repr

/-- `String.prototype.includes`. -/
def includes (text pattern : String) : Bool :=
  pattern.toList <:+: text.toList

/-- The exit code as a template literal prints it. -/
def showExitCode : Option Int → String
  | none => "null"
  | some code => toString code

/-- Final status, error message and error category of a finished sandbox. -/
def finalOutcome (result : SandboxResult) :
    SubmissionStatus × Option String × Option ErrorCategory :=
  -- The tests are made in this order, so a timeout hides every other cause.
  if result.timedOut then
    (.timeout, some "Execution timed out (limit: 5 seconds)", some .timeout)
  else if result.streamOutputLimitExceeded then
    (.failed, some "Stream output limit exceeded (limit: 1 MB)", some .runtimeError)
  else if result.oomKilled then
    (.failed, some "Out of Memory: container killed by OOM limiter (128MB)", some .oom)
  else if result.exitCode ≠ some 0 then
    (.failed, some ("Execution failed with exit code " ++ showExitCode result.exitCode),
      if includes result.stderr "SyntaxError" || includes result.stderr "IndentationError" then
        some .syntaxError
      else some .runtimeError)
  else (.completed, none, none)

/-- Every finished sandbox gives a terminal status. -/
theorem finalOutcome_terminal (result : SandboxResult) :
    (finalOutcome result).1.isTerminal = true := by
  -- Each of the five branches names a terminal status.
  unfold finalOutcome
  repeat' split
  all_goals rfl

/-- No finished sandbox counts as the crash of a worker. -/
theorem finalOutcome_category (result : SandboxResult) :
    (finalOutcome result).2.2 ≠ some .workerCrash := by
  -- The branches name the other categories, or none.
  unfold finalOutcome
  repeat' split
  all_goals simp

/-- The result row of a finished sandbox. -/
def sandboxResultRow (jobId : JobId) (result : SandboxResult) : ResultRow where
  jobId := jobId
  exitCode := result.exitCode
  stdout := result.stdout
  stderr := result.stderr
  errorMessage := (finalOutcome result).2.1
  errorCategory := (finalOutcome result).2.2
  executionTimeMs := some result.executionTimeMs
  memoryUsedBytes := result.memoryUsedBytes
  outputTruncated := result.outputTruncated
  streamOutputLimitExceeded := result.streamOutputLimitExceeded

/-- The committed result transaction: the upsert and the status update together. -/
def Store.commitResult (store : Store) (jobId : JobId) (result : SandboxResult) : Store :=
  (store.upsertResult (sandboxResultRow jobId result) fun _ => sandboxResultRow jobId result).setStatus
    jobId (finalOutcome result).1

/-- The result transaction writes a result and a status, and nothing else. -/
theorem Store.commitResult_eq (store : Store) (jobId : JobId) (result : SandboxResult) :
    ∃ results, store.commitResult jobId result =
      ({ store with results } : Store).setStatus jobId (finalOutcome result).1 := by
  obtain ⟨results, written⟩ := store.upsertResult_eq (sandboxResultRow jobId result)
    fun _ => sandboxResultRow jobId result
  exact ⟨results, by rw [commitResult, written]⟩

/-- The result row of a dead-lettered job. -/
def deadLetterResultRow (letter : DLQPayload) : ResultRow where
  jobId := letter.jobId
  exitCode := none
  stdout := ""
  stderr := ""
  errorMessage := some ("Dead Letter: " ++ letter.reason)
  errorCategory := some .workerCrash
  executionTimeMs := none
  memoryUsedBytes := none
  outputTruncated := false
  streamOutputLimitExceeded := false

/-- The committed transaction of both copies of `sendToDLQ`. -/
def Store.commitDeadLetter (store : Store) (letter : DLQPayload) : Store :=
  -- On conflict the timing and memory columns keep their old values.
  (store.upsertResult (deadLetterResultRow letter) fun row =>
    { deadLetterResultRow letter with
      executionTimeMs := row.executionTimeMs
      memoryUsedBytes := row.memoryUsedBytes }).setStatus letter.jobId .failed

/-- The dead-letter transaction writes a result and the status FAILED, and nothing else. -/
theorem Store.commitDeadLetter_eq (store : Store) (letter : DLQPayload) :
    ∃ results, store.commitDeadLetter letter =
      ({ store with results } : Store).setStatus letter.jobId .failed := by
  obtain ⟨results, written⟩ := store.upsertResult_eq (deadLetterResultRow letter) fun row =>
    { deadLetterResultRow letter with
      executionTimeMs := row.executionTimeMs
      memoryUsedBytes := row.memoryUsedBytes }
  exact ⟨results, by rw [commitDeadLetter, written]⟩

/-- The dead-letter transaction leaves the job lists alone. -/
theorem Store.commitDeadLetter_lists (store : Store) (letter : DLQPayload) :
    (store.commitDeadLetter letter).pending = store.pending ∧
      (store.commitDeadLetter letter).processing = store.processing := by
  obtain ⟨results, written⟩ := store.commitDeadLetter_eq letter
  rw [written]
  exact ⟨rfl, rfl⟩

/-- The dead-letter payload of a job. -/
def deadLetterPayload (job : QueuePayload) (reason : String) (failedAt : Timestamp) : DLQPayload where
  jobId := job.jobId
  userId := job.userId
  code := job.code
  language := job.language
  retryCount := job.retryCount
  submittedAt := job.submittedAt
  failedAt := failedAt
  reason := reason

/-- The reason the worker gives when it dead-letters a job. -/
def exhaustedReason : String :=
  "Exceeded maximum retry count of " ++ toString maxRetryCount

/-- The three calls of `publishSystemChunk`. -/
inductive StreamCall where
  | xadd
  | publish
  | expire
  deriving DecidableEq, Repr

/-- The effect of one call of `publishSystemChunk`. -/
def StreamCall.effect (jobId : JobId) (chunk : StreamChunk) (store : Store) : StreamCall → Store
  | .xadd => store.appendStream jobId chunk
  | .publish => store.publish jobId chunk
  | .expire => store.expireStream jobId

/-- The call after this one, if there is one. -/
def StreamCall.next : StreamCall → Option StreamCall
  | .xadd => some .publish
  | .publish => some .expire
  | .expire => none

/-- The completion marker written at a given time. -/
def completionChunk (timestamp : Timestamp) : StreamChunk where
  type := .system
  data := "EXECUTION_COMPLETE"
  timestamp := timestamp

/-- The three calls of a requeue below the retry limit. -/
inductive RequeueCall where
  /-- `UPDATE submissions SET retry_count, status = PENDING`, followed by the backoff. -/
  | update
  /-- `LPUSH jobs:queue:pending`. -/
  | push
  /-- `LREM jobs:queue:processing:{workerId}`. -/
  | remove
  deriving DecidableEq, Repr

/-- Where a running worker stands; each point but the sandbox ones is its next awaited call. -/
inductive WorkerPoint where
  /-- `BRPOPLPUSH` at the head of the loop. -/
  | pop
  /-- The claiming `UPDATE`. -/
  | claim (job : QueuePayload)
  /-- `SELECT status` after a rejected claim. -/
  | statusCheck (job : QueuePayload)
  /-- `LPUSH` of the raw payload back to the pending list. -/
  | repush (job : QueuePayload)
  /-- `LREM` after a rejected claim. -/
  | discard (job : QueuePayload)
  /-- Claimed, with `runInSandbox` about to be called. -/
  | launch (job : QueuePayload)
  /-- Inside `runInSandbox`. -/
  | executing (job : QueuePayload)
  /-- The result transaction. -/
  | persist (point : TxPoint) (job : QueuePayload) (result : SandboxResult)
  /-- `LREM` after the result is committed. -/
  | acknowledge (job : QueuePayload)
  /-- The completion marker of the normal path. -/
  | complete (call : StreamCall) (chunk : StreamChunk) (job : QueuePayload)
  /-- `requeueWithBackoff` below the retry limit. -/
  | requeue (call : RequeueCall) (job : QueuePayload)
  /-- `LREM` of `requeueWithBackoff` once the retries are exhausted. -/
  | exhausted (job : QueuePayload)
  /-- The transaction of the worker's `sendToDLQ`. -/
  | deadLetter (point : TxPoint) (letter : DLQPayload)
  /-- `LPUSH jobs:queue:dead-letter`. -/
  | deadLetterPush (letter : DLQPayload)
  /-- The completion marker of `sendToDLQ`. -/
  | deadLetterComplete (call : StreamCall) (chunk : StreamChunk) (letter : DLQPayload)
  deriving DecidableEq, Repr

/-- The entry of `requeueWithBackoff`, which is all that the loop's catch block runs. -/
def requeueWithBackoff (job : QueuePayload) : WorkerPoint :=
  if job.retryCount + 1 > maxRetryCount then .exhausted job else .requeue .update job

/-- The next awaited call of worker `worker` when it resolves. -/
def WorkerPoint.resolve (worker : WorkerId) (store : Store) :
    WorkerPoint → Option (WorkerPoint × Store)
  | .pop =>
    match store.pending.getLast? with
    -- The two second timeout replies with null.
    | none => some (.pop, store)
    | some (.payload job) => some (.claim job, store.moveToProcessing worker (.payload job))
    -- `JSON.parse` throws before `job` is set, so the catch block only logs.
    | some (.malformed text) => some (.pop, store.moveToProcessing worker (.malformed text))
  | .claim job =>
    some (if (store.claimable job.jobId).length = 0 then .statusCheck job else .launch job,
      store.claim job.jobId)
  | .statusCheck job =>
    some (if isTerminalStatus (store.statusOf job.jobId) then .discard job else .repush job, store)
  | .repush job => some (.discard job, store.pushPending (.payload job))
  | .discard job => some (.pop, store.removeProcessing worker (.payload job))
  | .persist .connect job result => some (.persist .begin job result, store)
  | .persist .begin job result => some (.persist .insertResult job result, store)
  | .persist .insertResult job result =>
    if store.hasSubmission job.jobId then some (.persist .updateStatus job result, store) else none
  | .persist .updateStatus job result => some (.persist .commit job result, store)
  | .persist .commit job result => some (.acknowledge job, store.commitResult job.jobId result)
  | .persist .rollback job _ => some (requeueWithBackoff job, store)
  | .acknowledge job =>
    some (.complete .xadd (completionChunk store.now) job,
      store.removeProcessing worker (.payload job))
  | .complete call chunk job =>
    some (match call.next with
      | some next => .complete next chunk job
      | none => .pop, call.effect job.jobId chunk store)
  | .requeue .update job =>
    some (.requeue .push job, store.requeueRow job.jobId (job.retryCount + 1))
  | .requeue .push job =>
    some (.requeue .remove job, store.pushPending (.payload (job.withRetry (job.retryCount + 1))))
  | .requeue .remove job => some (.pop, store.removeProcessing worker (.payload job))
  | .exhausted job =>
    some (.deadLetter .connect (deadLetterPayload job exhaustedReason store.now),
      store.removeProcessing worker (.payload job))
  | .deadLetter .connect letter => some (.deadLetter .begin letter, store)
  | .deadLetter .begin letter => some (.deadLetter .updateStatus letter, store)
  | .deadLetter .updateStatus letter => some (.deadLetter .insertResult letter, store)
  | .deadLetter .insertResult letter =>
    if store.hasSubmission letter.jobId then some (.deadLetter .commit letter, store) else none
  | .deadLetter .commit letter => some (.deadLetterPush letter, store.commitDeadLetter letter)
  | .deadLetter .rollback _ => some (.pop, store)
  | .deadLetterPush letter =>
    some (.deadLetterComplete .xadd (completionChunk store.now) letter,
      store.pushDeadLetter letter)
  | .deadLetterComplete call chunk letter =>
    some (match call.next with
      | some next => .deadLetterComplete next chunk letter
      | none => .pop, call.effect letter.jobId chunk store)
  | .launch _ | .executing _ => none

/-- What a call of a worker can lead to: the point behind it, and the store after it. -/
inductive WorkerPoint.Resolved (worker : WorkerId) (store : Store) :
    WorkerPoint → WorkerPoint → Store → Prop
  /-- Nothing is pending within the two seconds. -/
  | timeout (empty : store.pending.getLast? = none) : Resolved worker store .pop .pop store
  | pop {job : QueuePayload} (last : store.pending.getLast? = some (.payload job)) :
      Resolved worker store .pop (.claim job) (store.moveToProcessing worker (.payload job))
  /-- The element has been moved, and cannot be parsed. -/
  | unparsed {text : String} (last : store.pending.getLast? = some (.malformed text)) :
      Resolved worker store .pop .pop (store.moveToProcessing worker (.malformed text))
  | claim {job : QueuePayload} (claimable : (store.claimable job.jobId).length ≠ 0) :
      Resolved worker store (.claim job) (.launch job) (store.claim job.jobId)
  /-- The job has no PENDING row. -/
  | unclaimed {job : QueuePayload} (unclaimable : (store.claimable job.jobId).length = 0) :
      Resolved worker store (.claim job) (.statusCheck job) (store.claim job.jobId)
  | duplicate {job : QueuePayload} (terminal : isTerminalStatus (store.statusOf job.jobId) = true) :
      Resolved worker store (.statusCheck job) (.discard job) store
  | postponed {job : QueuePayload} (isOpen : isTerminalStatus (store.statusOf job.jobId) = false) :
      Resolved worker store (.statusCheck job) (.repush job) store
  | repush {job : QueuePayload} :
      Resolved worker store (.repush job) (.discard job) (store.pushPending (.payload job))
  | discard {job : QueuePayload} :
      Resolved worker store (.discard job) .pop (store.removeProcessing worker (.payload job))
  | connect {job : QueuePayload} {result : SandboxResult} :
      Resolved worker store (.persist .connect job result) (.persist .begin job result) store
  | begin {job : QueuePayload} {result : SandboxResult} :
      Resolved worker store (.persist .begin job result) (.persist .insertResult job result) store
  /-- The foreign key has found the row. -/
  | insertResult {job : QueuePayload} {result : SandboxResult}
      (stored : store.hasSubmission job.jobId = true) :
      Resolved worker store (.persist .insertResult job result)
        (.persist .updateStatus job result) store
  | updateStatus {job : QueuePayload} {result : SandboxResult} :
      Resolved worker store (.persist .updateStatus job result) (.persist .commit job result) store
  | commit {job : QueuePayload} {result : SandboxResult} :
      Resolved worker store (.persist .commit job result) (.acknowledge job)
        (store.commitResult job.jobId result)
  /-- After a ROLLBACK the job is retried. -/
  | rollback {job : QueuePayload} {result : SandboxResult} :
      Resolved worker store (.persist .rollback job result) (requeueWithBackoff job) store
  | acknowledge {job : QueuePayload} :
      Resolved worker store (.acknowledge job) (.complete .xadd (completionChunk store.now) job)
        (store.removeProcessing worker (.payload job))
  | complete {call following : StreamCall} {chunk : StreamChunk} {job : QueuePayload}
      (follows : call.next = some following) :
      Resolved worker store (.complete call chunk job) (.complete following chunk job)
        (call.effect job.jobId chunk store)
  | completed {chunk : StreamChunk} {job : QueuePayload} :
      Resolved worker store (.complete .expire chunk job) .pop
        (StreamCall.expire.effect job.jobId chunk store)
  | requeueUpdate {job : QueuePayload} :
      Resolved worker store (.requeue .update job) (.requeue .push job)
        (store.requeueRow job.jobId (job.retryCount + 1))
  | requeuePush {job : QueuePayload} :
      Resolved worker store (.requeue .push job) (.requeue .remove job)
        (store.pushPending (.payload (job.withRetry (job.retryCount + 1))))
  | requeueRemove {job : QueuePayload} :
      Resolved worker store (.requeue .remove job) .pop
        (store.removeProcessing worker (.payload job))
  | exhausted {job : QueuePayload} :
      Resolved worker store (.exhausted job)
        (.deadLetter .connect (deadLetterPayload job exhaustedReason store.now))
        (store.removeProcessing worker (.payload job))
  | letterConnect {letter : DLQPayload} :
      Resolved worker store (.deadLetter .connect letter) (.deadLetter .begin letter) store
  | letterBegin {letter : DLQPayload} :
      Resolved worker store (.deadLetter .begin letter) (.deadLetter .updateStatus letter) store
  | letterUpdate {letter : DLQPayload} :
      Resolved worker store (.deadLetter .updateStatus letter)
        (.deadLetter .insertResult letter) store
  /-- The foreign key has found the row. -/
  | letterInsert {letter : DLQPayload} (stored : store.hasSubmission letter.jobId = true) :
      Resolved worker store (.deadLetter .insertResult letter) (.deadLetter .commit letter) store
  | letterCommit {letter : DLQPayload} :
      Resolved worker store (.deadLetter .commit letter) (.deadLetterPush letter)
        (store.commitDeadLetter letter)
  | letterRollback {letter : DLQPayload} :
      Resolved worker store (.deadLetter .rollback letter) .pop store
  | sendLetter {letter : DLQPayload} :
      Resolved worker store (.deadLetterPush letter)
        (.deadLetterComplete .xadd (completionChunk store.now) letter) (store.pushDeadLetter letter)
  | letterComplete {call following : StreamCall} {chunk : StreamChunk} {letter : DLQPayload}
      (follows : call.next = some following) :
      Resolved worker store (.deadLetterComplete call chunk letter)
        (.deadLetterComplete following chunk letter) (call.effect letter.jobId chunk store)
  | letterCompleted {chunk : StreamChunk} {letter : DLQPayload} :
      Resolved worker store (.deadLetterComplete .expire chunk letter) .pop
        (StreamCall.expire.effect letter.jobId chunk store)

/-- Nothing else comes of a call that resolves. -/
theorem WorkerPoint.resolve_cases {worker : WorkerId} {store : Store} {point next : WorkerPoint}
    {after : Store} (resolved : point.resolve worker store = some (next, after)) :
    WorkerPoint.Resolved worker store point next after := by
  -- The calls follow the loop; some have two branches, and the sandbox is not called here.
  cases point with
  | pop =>
    simp only [resolve] at resolved
    split at resolved <;> obtain ⟨rfl, rfl⟩ := Prod.mk.inj (Option.some.inj resolved)
    · next empty => exact .timeout empty
    · next last => exact .pop last
    · next last => exact .unparsed last
  | claim job =>
    obtain ⟨rfl, rfl⟩ := Prod.mk.inj (Option.some.inj resolved)
    split
    · next unclaimable => exact .unclaimed unclaimable
    · next claimable => exact .claim claimable
  | statusCheck job =>
    obtain ⟨rfl, rfl⟩ := Prod.mk.inj (Option.some.inj resolved)
    split
    · next terminal => exact .duplicate terminal
    · next notTerminal => exact .postponed (by simpa using notTerminal)
  | persist call job result =>
    cases call with
    | insertResult =>
      simp only [resolve] at resolved
      split at resolved
      · next stored =>
        obtain ⟨rfl, rfl⟩ := Prod.mk.inj (Option.some.inj resolved)
        exact .insertResult stored
      · simp at resolved
    | connect | begin | updateStatus | commit | rollback =>
      obtain ⟨rfl, rfl⟩ := Prod.mk.inj (Option.some.inj resolved)
      constructor
  | complete call chunk job =>
    obtain ⟨rfl, rfl⟩ := Prod.mk.inj (Option.some.inj resolved)
    cases call with
    | xadd | publish => exact .complete rfl
    | expire => exact .completed
  | requeue call job =>
    cases call <;> obtain ⟨rfl, rfl⟩ := Prod.mk.inj (Option.some.inj resolved) <;> constructor
  | deadLetter call letter =>
    cases call with
    | insertResult =>
      simp only [resolve] at resolved
      split at resolved
      · next stored =>
        obtain ⟨rfl, rfl⟩ := Prod.mk.inj (Option.some.inj resolved)
        exact .letterInsert stored
      · simp at resolved
    | connect | begin | updateStatus | commit | rollback =>
      obtain ⟨rfl, rfl⟩ := Prod.mk.inj (Option.some.inj resolved)
      constructor
  | deadLetterComplete call chunk letter =>
    obtain ⟨rfl, rfl⟩ := Prod.mk.inj (Option.some.inj resolved)
    cases call with
    | xadd | publish => exact .letterComplete rfl
    | expire => exact .letterCompleted
  | launch job | executing job => simp [resolve] at resolved
  | repush job | discard job | acknowledge job | exhausted job | deadLetterPush letter =>
    obtain ⟨rfl, rfl⟩ := Prod.mk.inj (Option.some.inj resolved)
    constructor

/-- Where the worker goes on when its next call rejects. -/
def WorkerPoint.handler : WorkerPoint → Option WorkerPoint
  -- Without a parsed job the catch block only logs.
  | .pop => some .pop
  | .claim job | .statusCheck job | .repush job | .discard job => some (requeueWithBackoff job)
  -- A failed connection throws at once, and a failed statement rolls back first.
  | .persist .connect job _ | .persist .rollback job _ => some (requeueWithBackoff job)
  | .persist _ job result => some (.persist .rollback job result)
  -- The outer catch block covers the calls after the commit too.
  | .acknowledge job | .complete _ _ job => some (requeueWithBackoff job)
  -- A failure while handling a failure is logged and dropped.
  | .requeue _ _ | .exhausted _ => some .pop
  | .deadLetter .connect _ | .deadLetter .rollback _ => some .pop
  | .deadLetter _ letter => some (.deadLetter .rollback letter)
  | .deadLetterPush _ | .deadLetterComplete _ _ _ => some .pop
  | .launch _ | .executing _ => none

/-- Where the worker goes on when `runInSandbox` settles. -/
def WorkerPoint.sandboxSettled (result : Option SandboxResult) : WorkerPoint → Option WorkerPoint
  | .executing job =>
    match result with
    | some result => some (.persist .connect job result)
    -- A rejected launch is caught like a failed call.
    | none => some (requeueWithBackoff job)
  | _ => none

end CodeExecution

import CodeExecution.Proofs.RowWrites
import CodeExecution.Settings

/-! The retry path of a worker: what a failure inside it leaves of the job. -/

namespace CodeExecution

/-! ## The path -/

/-- The worker's own calls up to the head of its loop, with any outcome, and its crash. -/
def retrying (worker : WorkerId) (state : Platform) : Label → Bool
  | .worker mover _ => mover = worker ∧ state.workers worker ≠ .running .pop
  | .workerCrash mover => mover = worker
  | .clock _ => true
  | _ => false

/-- The points of the retry path behind its list calls. -/
def WorkerPoint.settling : WorkerPoint → Bool
  | .pop | .deadLetter _ _ | .deadLetterPush _ | .deadLetterComplete _ _ _ => true
  | _ => false

/-- What holds at each point of the retry path as long as the job is not lost. -/
def RetryPath (worker : WorkerId) (job : QueuePayload) (state : Platform) : Prop :=
  match state.workers worker with
  | .running (.requeue .remove own) => own = job ∧ job.jobId ∈ jobsIn state.store.pending
  | .running (.requeue _ own) => own = job ∧ state.store.Lists job.jobId
  -- The LREM of the exhausted branch comes first, so another element has to be there.
  | .running (.exhausted own) =>
    own = job ∧ (state.store.removeProcessing worker (.payload job)).Lists job.jobId
  | .running point => point.settling = true ∧ state.store.Lists job.jobId
  | .crashed => state.store.Lists job.jobId
  | .absent => False

/-- Wherever the path stands, the job is listed. -/
theorem RetryPath.lists {worker : WorkerId} {job : QueuePayload} {state : Platform}
    (path : RetryPath worker job state) : state.store.Lists job.jobId := by
  -- Each point of the path says so in its own way.
  unfold RetryPath at path
  split at path
  · exact .inl path.2
  · exact path.2
  · exact path.2.of_removed
  · exact path.2
  · exact path
  · exact path.elim

/-- At a settling point of a running worker, the path only asks for the job to be listed. -/
theorem RetryPath.of_settling {worker : WorkerId} {job : QueuePayload} {state : Platform}
    {point : WorkerPoint} {store : Store} (settles : point.settling = true)
    (lists : store.Lists job.jobId) :
    RetryPath worker job (state.withWorker worker (point, store)) := by
  -- All settling points come under the same case of the definition.
  have running : (state.withWorker worker (point, store)).workers worker = .running point := by simp
  unfold RetryPath
  rw [running]
  cases point <;> first | exact ⟨settles, lists⟩ | simp [WorkerPoint.settling] at settles

/-- The dead-letter transaction and the completion marker leave the job lists alone. -/
theorem WorkerPoint.settling_resolve {worker : WorkerId} {point : WorkerPoint} {store : Store}
    {after : WorkerPoint × Store} (settles : point.settling = true) (leaves : point ≠ .pop)
    (resolved : point.resolve worker store = some after) : after.1.settling = true ∧
      after.2.pending = store.pending ∧ after.2.processing = store.processing := by
  -- Only tables, letters and streams are written behind the list calls.
  obtain ⟨next, later⟩ := after
  cases WorkerPoint.resolve_cases resolved with
  | timeout | pop | unparsed => exact absurd rfl leaves
  | letterConnect | letterBegin | letterUpdate | letterInsert | letterRollback | sendLetter =>
    exact ⟨rfl, rfl, rfl⟩
  | @letterCommit letter => exact ⟨rfl, store.commitDeadLetter_lists letter⟩
  | @letterComplete call => cases call <;> exact ⟨rfl, rfl, rfl⟩
  | letterCompleted => exact ⟨rfl, rfl, rfl⟩
  | _ => simp [WorkerPoint.settling] at settles

/-- A failure behind the list calls leads to the rollback, or back to the loop. -/
theorem WorkerPoint.settling_handler {point after : WorkerPoint} (settles : point.settling = true)
    (handled : point.handler = some after) : after.settling = true := by
  -- Inside the transaction the ROLLBACK comes first.
  cases point with
  | deadLetter call letter => cases call <;> obtain rfl := Option.some.inj handled <;> rfl
  | pop | deadLetterPush _ | deadLetterComplete _ _ _ =>
    obtain rfl := Option.some.inj handled
    rfl
  | _ => simp [WorkerPoint.settling] at settles

/--
A call keeps to the path when its reply does.

An exception leads behind the list calls, with or without the effect of the call.
-/
theorem RetryPath.of_call {worker : WorkerId} {job : QueuePayload} {state : Platform}
    {point : WorkerPoint} {outcome : CallOutcome} {reply after : WorkerPoint × Store}
    (lists : state.store.Lists job.jobId)
    (resolves : point.resolve worker state.store = some reply)
    (keeps : RetryPath worker job (state.withWorker worker reply))
    (settles : ∀ handled, point.handler = some handled → handled.settling = true)
    (went : awaitCall outcome (point.resolve worker state.store) point.handler state.store =
      some after) : RetryPath worker job (state.withWorker worker after) := by
  -- A lost reply is an exception after the effect, and there the job is still listed.
  rcases awaitCall_cases went with ⟨_, resolved⟩ | ⟨_, _, handled, rfl⟩ |
    ⟨_, _, _, resolved, handled, rfl⟩
  · obtain rfl := Option.some.inj (resolves.symm.trans resolved)
    exact keeps
  · exact of_settling (settles _ handled) lists
  · obtain rfl := Option.some.inj (resolves.symm.trans resolved)
    exact of_settling (settles _ handled) keeps.lists

/-- Every call of the path keeps to it, whether it resolves, rejects, or loses its reply. -/
theorem RetryPath.call {worker : WorkerId} {job : QueuePayload} {state : Platform}
    {point : WorkerPoint} {outcome : CallOutcome} {after : WorkerPoint × Store}
    (path : RetryPath worker job state) (running : state.workers worker = .running point)
    (leaves : point ≠ .pop)
    (went : awaitCall outcome (point.resolve worker state.store) point.handler state.store =
      some after) : RetryPath worker job (state.withWorker worker after) := by
  have lists := path.lists
  unfold RetryPath at path
  rw [running] at path
  cases point with
  | requeue call own =>
    -- A failure inside the branch is dropped, and the loop goes on.
    have dropped : ∀ handled : WorkerPoint, (WorkerPoint.requeue call own).handler = some handled →
        handled.settling = true := by
      intro handled isPop
      obtain rfl := Option.some.inj isPop
      rfl
    cases call with
    | update =>
      obtain ⟨rfl, _⟩ := path
      have kept : (state.store.requeueRow own.jobId (own.retryCount + 1)).Lists own.jobId :=
        lists.of_same rfl rfl
      exact of_call lists rfl (by simpa [RetryPath] using kept) dropped went
    | push =>
      obtain ⟨rfl, _⟩ := path
      -- Once the next copy is pushed, the job is pending.
      have queued : own.jobId ∈ jobsIn
          (state.store.pushPending (.payload (own.withRetry (own.retryCount + 1)))).pending := by
        simp [Store.pushPending]
      exact of_call lists rfl (by simpa [RetryPath] using queued) dropped went
    | remove =>
      obtain ⟨rfl, queued⟩ := path
      have resolves : (WorkerPoint.requeue .remove own).resolve worker state.store =
          some (.pop, state.store.removeProcessing worker (.payload own)) := rfl
      exact of_call lists resolves (of_settling rfl (.inl queued)) dropped went
  | exhausted own =>
    obtain ⟨rfl, other⟩ := path
    have resolves : (WorkerPoint.exhausted own).resolve worker state.store =
        some (.deadLetter .connect (deadLetterPayload own exhaustedReason state.store.now),
          state.store.removeProcessing worker (.payload own)) := rfl
    refine of_call lists resolves (of_settling rfl other) (fun handled isPop => ?_) went
    obtain rfl := Option.some.inj isPop
    rfl
  | pop => exact absurd rfl leaves
  | deadLetter _ _ | deadLetterPush _ | deadLetterComplete _ _ _ =>
    -- Behind the list calls the lists stay as they are.
    rcases awaitCall_cases went with ⟨_, resolved⟩ | ⟨_, _, handled, rfl⟩ |
      ⟨_, _, _, resolved, handled, rfl⟩
    · obtain ⟨settles, pending, processing⟩ := WorkerPoint.settling_resolve rfl leaves resolved
      exact of_settling settles (lists.of_same pending processing)
    · exact of_settling (WorkerPoint.settling_handler rfl handled) lists
    · obtain ⟨_, pending, processing⟩ := WorkerPoint.settling_resolve rfl leaves resolved
      exact of_settling (WorkerPoint.settling_handler rfl handled) (lists.of_same pending processing)
  | _ => simp [WorkerPoint.settling] at path

/-- A step of the retry path keeps to it. -/
theorem RetryPath.step {worker : WorkerId} {job : QueuePayload} {state next : Platform}
    {label : Label} (path : RetryPath worker job state) (permitted : retrying worker state label = true)
    (stepped : platform.step state label = some next) : RetryPath worker job next := by
  -- Only the worker itself moves; a crash leaves the lists as they are.
  cases Platform.step_cases stepped with
  | clock now => exact path
  | @worker mover outcome _ _ running went =>
    obtain ⟨rfl, leaves⟩ : mover = worker ∧ state.workers worker ≠ .running .pop := by
      simpa [retrying] using permitted
    exact path.call running (fun isPop => leaves (isPop ▸ running)) went
  | @workerCrash mover =>
    obtain rfl : mover = worker := by simpa [retrying] using permitted
    simpa [RetryPath] using path.lists
  | _ => simp [retrying] at permitted

/-! ## The guarantee -/

/-- The entries under which the retry path cannot lose the job. -/
def retriesSafely (store : Store) (worker : WorkerId) (job : QueuePayload) : Prop :=
  if job.retryCount + 1 ≤ maxRetryCount then store.Lists job.jobId
  else (store.removeProcessing worker (.payload job)).Lists job.jobId

/--
The retry path of a RUNNING job never loses it, wherever it is cut short, exactly in two cases.

Either the job is listed and has retries left, or it is listed apart from the element that the LREM
of the exhausted branch removes.
-/
theorem retry_path_keeps_job (state : Platform) (worker : WorkerId) (job : QueuePayload)
    (entered : state.workers worker = .running (requeueWithBackoff job))
    (claimed : state.store.statusOf job.jobId = some .running) :
    (∀ trace next, platform.Runs (fun state label => retrying worker state label = true) state
        trace next → next.store.Lists job.jobId ∨ jobClosed next job.jobId = true) ↔
      retriesSafely state.store worker job := by
  constructor
  · intro safe
    unfold retriesSafely
    split
    · -- The job is listed when the path is entered.
      rcases safe [] state .nil with lists | closed
      · exact lists
      · simp [jobClosed, claimed, isTerminalStatus, SubmissionStatus.isTerminal] at closed
    · next exhausted =>
      -- The job is listed after the LREM, when the row is still RUNNING.
      have at_ : state.workers worker = .running (.exhausted job) := by
        rw [entered, requeueWithBackoff, if_pos (by omega)]
      have removed : platform.step state (.worker worker .resolves) = some (state.withWorker worker
          (.deadLetter .connect (deadLetterPayload job exhaustedReason state.store.now),
            state.store.removeProcessing worker (.payload job))) := by
        simp [platform, Platform.step, at_, awaitCall, WorkerPoint.resolve]
      have permitted : retrying worker state (.worker worker .resolves) = true := by
        simp [retrying, at_]
      rcases safe _ _ (.snoc .nil permitted removed) with lists | closed
      · exact lists
      · have unwritten : (state.store.removeProcessing worker (.payload job)).statusOf job.jobId =
            some .running := claimed
        simp [jobClosed, unwritten, isTerminalStatus, SubmissionStatus.isTerminal] at closed
  · intro safely trace next run
    left
    refine RetryPath.lists (run.preserves (RetryPath worker job) ?_ fun _ _ _ path permitted stepped =>
      path.step permitted stepped)
    -- The entry is one of the two branches.
    unfold RetryPath
    rw [entered]
    unfold requeueWithBackoff
    unfold retriesSafely at safely
    split at safely
    · rw [if_neg (by omega)]
      exact ⟨rfl, safely⟩
    · rw [if_pos (by omega)]
      exact ⟨rfl, safely⟩

/-! ## An exhausted job -/

/-- A job with all retries used, or none. -/
def attemptAt (retryCount : Nat) : QueuePayload where
  jobId := "job"
  userId := .absent
  code := oneLiner
  language := .python
  retryCount := retryCount
  submittedAt := 0

/-- A worker enters the retry path of a RUNNING job whose only element is in its own list. -/
def retryEntered (job : QueuePayload) : Platform :=
  { Platform.initial with
    store :=
      { Store.empty with
        submissions := (KeyedTable.empty SubmissionRow.id).insert
          { submissionRow job with status := .running, retryCount := job.retryCount }
        processing := Function.update (fun _ => []) "w" [.payload job] }
    workers := Function.update (fun _ => .absent) "w" (.running (requeueWithBackoff job)) }

/-- The guarantee for a first attempt, which is below the limit. -/
theorem retry_path_keeps_job_example :
    (retryEntered (attemptAt 0)).workers "w" = .running (.requeue .update (attemptAt 0)) ∧
    ∀ trace next, platform.Runs (fun state label => retrying "w" state label = true)
      (retryEntered (attemptAt 0)) trace next →
      next.store.Lists "job" ∨ jobClosed next "job" = true := by
  -- The entry meets the condition, because retries are left.
  refine ⟨rfl, (retry_path_keeps_job (retryEntered (attemptAt 0)) "w" (attemptAt 0) ?_ ?_).mpr ?_⟩
  · simp [retryEntered]
  · decide
  · unfold retriesSafely
    rw [if_pos (by decide)]
    exact .inr ⟨"w", by decide⟩

/-- At the limit the LREM comes first, and a rejected connection leaves nothing of the job. -/
theorem retry_path_loses_job :
    (retryEntered (attemptAt 3)).workers "w" = .running (requeueWithBackoff (attemptAt 3)) ∧
    (retryEntered (attemptAt 3)).store.statusOf "job" = some .running ∧
    (retryEntered (attemptAt 3)).store.Lists "job" ∧
    ∃ next, platform.Runs (fun state label => retrying "w" state label = true)
      (retryEntered (attemptAt 3)) [.worker "w" .resolves, .worker "w" (.rejects false)] next ∧
      next.workers "w" = .running .pop ∧ ¬ next.store.Lists "job" ∧
      jobClosed next "job" = false := by
  -- The LREM takes the only element, and then the connection is rejected.
  refine ⟨by simp [retryEntered], by decide, .inr ⟨"w", by decide⟩, ?_⟩
  refine ⟨_, .snoc (.snoc .nil (by decide) rfl) (by decide) rfl, by simp, ?_, by decide⟩
  intro lists
  rcases lists with queued | ⟨owner, listed⟩
  · simp [retryEntered, Store.removeProcessing, Store.empty] at queued
  · simp [retryEntered, Store.removeProcessing] at listed

end CodeExecution

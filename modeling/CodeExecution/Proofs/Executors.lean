import CodeExecution.Proofs.Engagement
import CodeExecution.Proofs.OrderlyRuns

/-! Workers between claim and commit: their jobs are RUNNING, and nobody else writes the rows. -/

namespace CodeExecution

/-- Jobs that live workers are engaged in are RUNNING. -/
def Claimed (state : Platform) : Prop :=
  ∀ worker point jobId, state.workers worker = .running point → point.engaged? = some jobId →
    state.store.statusOf jobId = some .running

/-- An engaged worker relies on an open job. -/
theorem WorkerPoint.engaged_reliance {point : WorkerPoint} {jobId : JobId}
    (engaged : point.engaged? = some jobId) : point.reliance = some (jobId, .active) := by
  -- These are the three kinds of points between claim and commit.
  unfold WorkerPoint.engaged? at engaged
  split at engaged
  all_goals first | (obtain rfl := Option.some.inj engaged; rfl) | simp at engaged

variable {state next : Platform} {label : Label}

/-- Whoever writes the row of an open job has a stake in it. -/
theorem Orderly.writer_stake (orderly : Orderly state) {jobId : JobId} {phase : Phase}
    (isOpen : (state.store.recordOf jobId).IsOpen) (writes : state.Writes label jobId phase) :
    (∃ reliance, Stake state .handler jobId reliance) ∨
    (∃ worker outcome reliance, label = .worker worker outcome ∧
      Stake state (.worker worker) jobId reliance) ∨
    ∃ worker reliance, state.workers worker = .crashed ∧
      Stake state (.worker worker) jobId reliance := by
  -- A recovery acts for a crashed worker, and no open job is inserted again.
  cases writes with
  | submit inserts =>
    obtain ⟨_, _, found, _⟩ := isOpen
    simp [orderly.insert_fresh inserts] at found
  | markFailed gives => exact .inl ⟨.failable, orderly.markFailed_stake gives⟩
  | claim running | commit running | requeue running | deadLetter running =>
    exact .inr (.inl ⟨_, _, _, rfl, .working running rfl⟩)
  | recoverRequeue recovers | recoverDeadLetter recovers =>
    exact .inr (.inr ⟨_, _, (orderly.scans _ _ _ _ recovers).crashed, .recovering recovers rfl⟩)

/-- While a live worker holds an open job, only its own calls write the job's row. -/
theorem Orderly.own_write (orderly : Orderly state) {worker : WorkerId} {point : WorkerPoint}
    (running : state.workers worker = .running point) {jobId : JobId} {reliance : Reliance}
    (staked : Stake state (.worker worker) jobId reliance)
    (isOpen : (state.store.recordOf jobId).IsOpen) {phase : Phase}
    (writes : state.Writes label jobId phase) : ∃ outcome, label = .worker worker outcome := by
  -- An open job has one holder.
  have sole := orderly.sound.sole isOpen staked
  rcases orderly.writer_stake isOpen writes with
    ⟨_, own⟩ | ⟨mover, outcome, _, rfl, own⟩ | ⟨dead, _, crashed, own⟩
  · simpa using sole _ _ own
  · obtain rfl : mover = worker := by simpa using sole _ _ own
    exact ⟨outcome, rfl⟩
  · obtain rfl : dead = worker := by simpa using sole _ _ own
    simp [running] at crashed

/-- A clean supervised step keeps the jobs of engaged workers RUNNING. -/
theorem Claimed.step (claimed : Claimed state) (orderly : Orderly state)
    (watched : supervised state label = true) (clean : cleanFailure state label = true)
    (stepped : platform.step state label = some next) : Claimed next := by
  -- The worker has just claimed the job, or was engaged in it before.
  intro worker point jobId running engaged
  rcases Platform.step_worker stepped running with
    ⟨before, notMover⟩ | ⟨outcome, before, after, rfl, runs, went, rfl⟩ |
    ⟨job, rfl, runs, rfl, rfl⟩ | ⟨result, before, rfl, runs, settled, rfl⟩ | ⟨rfl, _, rfl, rfl⟩
  · -- The worker did not move, and nobody else writes its row.
    have relied := WorkerPoint.engaged_reliance engaged
    have isOpen : (state.store.recordOf jobId).IsOpen :=
      orderly.sound.relied _ _ _ (.working before relied)
    have unwritten : next.store.recordOf jobId = state.store.recordOf jobId := by
      rcases Platform.step_recordOf stepped (fun _ => ne_startup_of_supervised watched) jobId with
        kept | ⟨phase, writes, _⟩
      · exact kept
      · obtain ⟨outcome, isOwn⟩ := orderly.own_write before (.working before relied) isOpen writes
        exact absurd isOwn (notMover outcome)
    rw [Store.statusOf_eq, unwritten, ← Store.statusOf_eq]
    exact claimed worker point jobId before engaged
  · rcases awaitCall_cases went with ⟨rfl, resolved⟩ | ⟨rfl, _, handled, same⟩ |
      ⟨rfl, ⟨_, _⟩, _, resolved, handled, same⟩
    · rcases WorkerPoint.engaged_resolve resolved engaged with
        ⟨job, rfl, rfl, _, rfl⟩ | ⟨was, rfl⟩
      · have waiting : state.store.recordOf job.jobId = some (.pending, job.retryCount) :=
          orderly.sound.relied _ _ _ (.working runs rfl)
        simp [Store.statusOf_eq, waiting]
      · exact claimed worker before jobId runs was
    · obtain ⟨rfl, rfl⟩ := Prod.mk.inj same
      obtain ⟨call, job, result, rfl, rfl⟩ := WorkerPoint.engaged_handler handled engaged
      exact claimed worker _ job.jobId runs rfl
    · obtain ⟨rfl, rfl⟩ := Prod.mk.inj same
      obtain ⟨call, job, result, rfl, rfl⟩ := WorkerPoint.engaged_handler handled engaged
      have was := claimed worker _ job.jobId runs rfl
      cases WorkerPoint.resolve_cases resolved with
      | commit => simp [cleanFailure, runs] at clean
      | connect | begin | insertResult | updateStatus | rollback => exact was
  · exact claimed worker _ jobId runs engaged
  · cases before with
    | executing job =>
      cases result with
      | some result =>
        obtain rfl := Option.some.inj settled
        exact claimed worker _ jobId runs engaged
      | none =>
        obtain rfl := Option.some.inj settled
        unfold requeueWithBackoff at engaged
        split at engaged <;> simp [WorkerPoint.engaged?] at engaged
    | _ => simp [WorkerPoint.sandboxSettled] at settled
  · simp [WorkerPoint.engaged?] at engaged

/-- In every supervised run with clean failures, the jobs of engaged workers are RUNNING. -/
theorem Claimed.reached {trace : List Label}
    (run : platform.Runs cleanlySupervised Platform.initial trace state) : Claimed state := by
  -- Orderliness of the earlier state feeds the step lemma.
  refine run.preserves_trace (fun _ reached => Claimed reached) ?_ ?_
  · intro worker point jobId running
    simp [Platform.initial] at running
  · intro _ _ _ _ earlier claimed permitted stepped
    exact claimed.step (Orderly.reached earlier) permitted.1 permitted.2 stepped

/-- Two live workers that rely on the same open job are one. -/
theorem Orderly.one_executor (orderly : Orderly state) {first second : WorkerId} {jobId : JobId}
    (executes : state.executing? first = some jobId)
    (executes' : state.executing? second = some jobId) : first = second := by
  -- Both have a stake in the job, which is open.
  obtain ⟨job, runs, rfl⟩ := Platform.executing_iff.mp executes
  obtain ⟨job', runs', same⟩ := Platform.executing_iff.mp executes'
  have staked : Stake state (.worker first) job.jobId .active := .working runs rfl
  have staked' : Stake state (.worker second) job.jobId .active :=
    .working runs' (by simp [WorkerPoint.reliance, same])
  have isOpen : (state.store.recordOf job.jobId).IsOpen := orderly.sound.relied _ _ _ staked
  simpa using orderly.sound.exclusive _ isOpen _ _ _ _ staked staked'

end CodeExecution

import CodeExecution.Proofs.WorkerSteps
import CodeExecution.Proofs.GatewaySteps
import CodeExecution.Proofs.ScanSteps
import CodeExecution.Proofs.RowWrites

/-! Supervised runs without unclean failures are orderly, and move every job through its life. -/

namespace CodeExecution

variable {state next : Platform} {label : Label}

/-- A worker that starts or dies keeps the platform orderly, unless it dies between push and removal. -/
theorem Orderly.worker_resets (orderly : Orderly state) {worker : WorkerId} {fresh : WorkerState}
    (alive : state.workers worker ≠ .crashed) (present : fresh ≠ .absent)
    (idle : ∀ point, fresh = .running point → point = .pop)
    (ended : ∀ point jobId, state.workers worker = .running point →
      point.spentJob? = some jobId → ¬ (state.store.recordOf jobId).IsOpen) :
    Orderly { state with workers := Function.update state.workers worker fresh } := by
  -- The worker gives up what its point held, and its elements are its own as before.
  have recovered : ∀ lockId point dead rest, state.scans lockId = .recover point dead rest →
      dead ≠ worker ∧ worker ∉ rest := by
    intro lockId point dead rest recovers
    have facts := orderly.scans lockId point dead rest recovers
    exact ⟨fun same => alive (same ▸ facts.crashed), fun member => alive (facts.restCrashed _ member)⟩
  refine {
    sound := ?_
    queuedOnce := orderly.queuedOnce
    listedOnce := orderly.listedOnce
    listedStored := orderly.listedStored
    ownListed := ?_
    absentEmpty := ?_
    posts := orderly.posts
    scans := ?_
    locked := orderly.locked }
  · refine orderly.sound.retain (fun _ => id) (fun _ _ => id) ?_
    intro holder jobId reliance staked
    cases staked with
    | handler relies => exact .inl (.handler relies)
    | queued member => exact .inl (.queued member)
    | @listed owner job member unspent =>
      by_cases spent : Spent state owner job.jobId
      · -- The owner was about to remove the element, so its job is over.
        refine .inr ⟨orderly.listedStored owner job member, fun isOpen => ?_⟩
        rcases spent with ⟨point, running, spends⟩ | ⟨lockId, point, rest, recovers, was⟩
        · by_cases same : owner = worker
          · subst same
            exact absurd isOpen (ended point job.jobId running spends)
          · exact absurd (.inl ⟨point, by simpa [same] using running, spends⟩) unspent
        · exact absurd (.inr ⟨lockId, point, rest, recovers, was⟩) unspent
      · exact .inl (.listed member spent)
    | @working owner point _ _ running relies =>
      by_cases same : owner = worker
      · subst same
        obtain rfl : fresh = .running point := by simpa using running
        obtain rfl := idle point rfl
        simp [WorkerPoint.reliance] at relies
      · exact .inl (.working (by simpa [same] using running) relies)
    | recovering recovers relies => exact .inl (.recovering recovers relies)
  · intro owner point job running listed
    by_cases same : owner = worker
    · subst same
      obtain rfl : fresh = .running point := by simpa using running
      obtain rfl := idle point rfl
      simp [WorkerPoint.listed?] at listed
    · exact orderly.ownListed owner point job (by simpa [same] using running) listed
  · intro owner absent
    by_cases same : owner = worker
    · subst same
      exact absurd (by simpa using absent) present
    · exact orderly.absentEmpty owner (by simpa [same] using absent)
  · intro lockId point dead rest recovers
    have facts := orderly.scans lockId point dead rest recovers
    obtain ⟨other, others⟩ := recovered lockId point dead rest recovers
    refine ⟨by simpa [other] using facts.crashed, ?_, facts.snapshot, facts.letterMatches,
      facts.rolledBack⟩
    intro later member
    have different : later ≠ worker := fun same => others (same ▸ member)
    simpa [different] using facts.restCrashed later member

/-- The clock concerns nobody's job. -/
theorem Orderly.unlisted (orderly : Orderly state) {now : Timestamp} {reaperLock : Option LockId}
    (owned : ∀ lockId, (state.scans lockId).critical → reaperLock = some lockId) :
    Orderly { state with store := { state.store with now, reaperLock } } := by
  -- All lists, rows and program points are the same.
  exact orderly.of_same rfl rfl rfl rfl rfl (fun _ _ _ _ => Iff.rfl) owned

/-- Every supervised step keeps the platform orderly, unless it fails in an unclean way. -/
theorem Orderly.step (orderly : Orderly state) (watched : supervised state label = true)
    (clean : cleanFailure state label = true) (stepped : platform.step state label = some next) :
    Orderly next := by
  -- One case for each label, by the lemma about that label's calls.
  cases Platform.step_cases stepped with
  | clock now => exact orderly.unlisted orderly.locked
  | lockExpires =>
    exact orderly.unlisted fun lockId critical =>
      absurd critical (by simp [orderly.locked.uncritical watched lockId])
  | post idle => exact orderly.post_receive idle _ _ _ _
  | gateway went => exact orderly.post_call clean went
  | gatewayCrash jobId => exact orderly.post_stops (.inl rfl)
  | workerStart absent =>
    exact orderly.worker_resets (by simp [absent]) (by simp) (by simp [eq_comm]) (by simp [absent])
  | worker running went => exact orderly.worker_call running clean went
  | launch running => exact orderly.worker_launch running
  | sandbox running settled => exact orderly.worker_settles running settled
  | @workerCrash worker point running =>
    -- A clean crash leaves no element behind whose next copy is pending.
    refine orderly.worker_resets (by simp [running]) (by simp) (by simp) ?_
    intro point' jobId running' spends
    obtain rfl : point = point' := by simpa [running] using running'
    simp only [cleanFailure, cleanCrash, running] at clean
    unfold WorkerPoint.spentJob? at spends
    split at spends
    · obtain rfl := Option.some.inj spends
      exact (closed_of_jobClosed clean).not_open
    · simp at spends
  | scanStart idle => exact orderly.scan_outside (by simp [idle, ScanPoint.critical]) rfl
  | scan went => exact orderly.scan_call clean went
  | detect detecting => exact orderly.scan_detect detecting watched
  | scanDies | startupBegin | startup | startupSelect => simp [supervised] at watched

/-- The platform starts orderly. -/
theorem Orderly.initial : Orderly Platform.initial := by
  -- There is no row, no element and nobody at work.
  refine {
    sound := ⟨?_, ?_⟩
    queuedOnce := by simp [Platform.initial, Store.empty]
    listedOnce := by simp [Platform.initial, Store.empty]
    listedStored := by simp [Platform.initial, Store.empty]
    ownListed := by simp [Platform.initial]
    absentEmpty := by simp [Platform.initial, Store.empty]
    posts := fun _ => rfl
    scans := by simp [Platform.initial]
    locked := .of_uncritical fun _ => rfl }
  · intro holder jobId reliance staked
    cases staked with
    | handler relies => simp [Platform.initial, PostPoint.reliance] at relies
    | queued member => simp [Platform.initial, Store.empty] at member
    | listed member _ => simp [Platform.initial, Store.empty] at member
    | working running _ => simp [Platform.initial] at running
    | recovering recovers _ => simp [Platform.initial] at recovers
  · intro jobId stored
    obtain ⟨_, _, found, _⟩ := stored
    simp [Store.recordOf, Platform.initial, Store.empty] at found

/-- The settings of a supervised run in which every failure is clean. -/
def cleanlySupervised (state : Platform) (label : Label) : Prop :=
  supervised state label = true ∧ cleanFailure state label = true

/-- Where every call resolves, only such a crash could be unclean. -/
theorem cleanlySupervised_of_crashesCleanly {state : Platform} {label : Label}
    (permitted : crashesCleanly state label = true) : cleanlySupervised state label := by
  -- The guard on failed calls never applies.
  cases label with
  | workerCrash worker => exact ⟨rfl, permitted⟩
  | gateway key outcome | worker worker outcome | scan lockId outcome =>
    obtain rfl : outcome = .resolves := by simpa [crashesCleanly, launchFaults] using permitted
    exact ⟨rfl, rfl⟩
  | detect _ _ _ | lockExpires => exact ⟨permitted, rfl⟩
  | gatewayCrash _ | scanDies _ | startupBegin | startup _ | startupSelect _ =>
    simp [crashesCleanly, launchFaults, supervised] at permitted
  | _ => exact ⟨rfl, rfl⟩

/-- Every state that a supervised run with clean failures reaches is orderly. -/
theorem Orderly.reached {trace : List Label}
    (run : platform.Runs cleanlySupervised Platform.initial trace state) : Orderly state :=
  -- The step lemma carries the invariant along the run.
  run.preserves Orderly Orderly.initial fun _ _ _ orderly permitted stepped =>
    orderly.step permitted.1 permitted.2 stepped

/-! ## Every step moves each job through its life -/

/-- A write either is the next phase of its job's life, or writes what is there already. -/
theorem Orderly.write_allowed (orderly : Orderly state) {target : JobId} {phase : Phase}
    (writes : state.Writes label target phase) :
    phase.allowed (state.store.recordOf target) = true ∨
      phase.apply (state.store.recordOf target) = state.store.recordOf target := by
  -- Whoever writes a row relies on what the phase asks for.
  have of_open : ∀ {record : JobRecord}, record.IsOpen → ∀ retryCount,
      (Phase.retry retryCount).allowed record = true := by
    intro _ opened _
    obtain ⟨status, retryCount, rfl, notTerminal⟩ := opened
    simp [Phase.allowed, notTerminal]
  have closes : ∀ {record : JobRecord}, record.IsOpen → ∀ {status : SubmissionStatus},
      status.isTerminal = true → (Phase.close status).allowed record = true := by
    intro _ opened final terminal
    obtain ⟨status, retryCount, rfl, notTerminal⟩ := opened
    simp [Phase.allowed, notTerminal, terminal]
  cases writes with
  | @submit jobId _ payload inserts =>
    have facts := orderly.posts jobId
    rw [inserts] at facts
    exact .inl (by simpa [Phase.allowed, facts.1] using facts.2.2)
  | @markFailed jobId _ payload gives =>
    have held : Stake state .handler payload.jobId .failable := by
      have facts := orderly.posts jobId
      rw [gives] at facts
      obtain rfl : payload.jobId = jobId := facts
      exact .handler (by simp [gives, PostPoint.reliance])
    -- An earlier reply may have been lost, and then the row is FAILED already.
    obtain ⟨status, retryCount, found, rfl | rfl⟩ := orderly.sound.relied _ _ _ held
    · exact .inl (by simp [found, Phase.allowed, SubmissionStatus.isTerminal])
    · exact .inr (by simp [found, Phase.apply])
  | @claim _ _ job running =>
    have waiting : state.store.recordOf job.jobId = some (.pending, job.retryCount) :=
      orderly.sound.relied _ _ _ (.working running rfl)
    exact .inl (by simp [waiting, Phase.allowed])
  | @commit _ _ _ result running =>
    exact .inl (closes (orderly.sound.relied _ _ _ (.working running rfl))
      (finalOutcome_terminal result))
  | requeue running => exact .inl (of_open (orderly.sound.relied _ _ _ (.working running rfl)) _)
  | deadLetter running =>
    exact .inl (closes (orderly.sound.relied _ _ _ (.working running rfl)) rfl)
  | recoverRequeue recovers =>
    exact .inl (of_open (orderly.sound.relied _ _ _ (.recovering recovers rfl)) _)
  | recoverDeadLetter recovers =>
    exact .inl (closes (orderly.sound.relied _ _ _ (.recovering recovers rfl)) rfl)

/-- While the other services run, the monitor does not start. -/
theorem ne_startup_of_supervised (watched : supervised state label = true)
    (outcome : CallOutcome) : label ≠ .startup outcome := by
  intro same
  subst same
  simp [supervised] at watched

/-- A step of an orderly platform moves each job by one phase of its life, or not at all. -/
theorem Orderly.lifecycle_step (orderly : Orderly state) (watched : supervised state label = true)
    (stepped : platform.step state label = some next) (jobId : JobId) :
    next.store.recordOf jobId = state.store.recordOf jobId ∨
      ∃ phase, lifecycle.step (state.store.recordOf jobId) phase = some (next.store.recordOf jobId) := by
  -- The written job takes its phase, and all other jobs wait.
  rcases Platform.step_recordOf stepped (fun _ => ne_startup_of_supervised watched) jobId with
    kept | ⟨phase, writes, written⟩
  · exact .inl kept
  · rw [written]
    rcases orderly.write_allowed writes with allowed | unchanged
    · exact .inr ⟨phase, CodeExecution.lifecycle_step allowed⟩
    · exact .inl unchanged

/-- Seen from one job, an orderly platform is the abstract life of a job. -/
theorem Orderly.refines_lifecycle (orderly : Orderly state) {trace : List Label}
    (run : platform.Runs cleanlySupervised state trace next) (jobId : JobId) :
    ∃ phases, lifecycle.Runs (fun _ _ => True) (state.store.recordOf jobId) phases
      (next.store.recordOf jobId) :=
  -- Every intermediate state is orderly, so every step is a phase or no change.
  run.simulates lifecycle (fun reached => reached.store.recordOf jobId)
    fun _ _ _ _ earlier permitted stepped =>
      have reached := earlier.preserves Orderly orderly fun _ _ _ orderly permitted stepped =>
        orderly.step permitted.1 permitted.2 stepped
      reached.lifecycle_step permitted.1 stepped jobId

/-- From an orderly state, a closed job keeps its row through every supervised run with clean failures. -/
theorem Orderly.keeps_closed (orderly : Orderly state) {trace : List Label}
    (run : platform.Runs cleanlySupervised state trace next) {jobId : JobId}
    (closed : (state.store.recordOf jobId).IsClosed) :
    next.store.recordOf jobId = state.store.recordOf jobId := by
  -- The job's own run is a run of the life cycle, which a closed job does not leave.
  obtain ⟨phases, lived⟩ := orderly.refines_lifecycle run jobId
  exact lifecycle_absorbing closed lived

/-- No transaction ends a job that is closed. -/
theorem Orderly.effect_unfinished (orderly : Orderly state) {jobId : JobId}
    (closed : (state.store.recordOf jobId).IsClosed) (label : Label) :
    (state.effect label).finishes? ≠ some jobId := by
  -- Whoever commits a transaction relies on an open job.
  intro finishes
  cases made : state.effect label with
  | commitResult committed result =>
    obtain rfl : committed = jobId := by simpa [made, Effect.finishes?] using finishes
    obtain ⟨worker, _, job, rfl, running, rfl⟩ := Platform.effect_commitResult made
    exact closed.not_open (orderly.sound.relied _ _ _ (.working running rfl))
  | commitDeadLetter letter =>
    obtain rfl : letter.jobId = jobId := by simpa [made, Effect.finishes?] using finishes
    rcases Platform.effect_commitDeadLetter made with
      ⟨sender, _, _, running⟩ | ⟨lockId, _, cursor, owner, rest, _, recovers⟩
    · exact closed.not_open (orderly.sound.relied _ _ _ (.working running rfl))
    · exact closed.not_open (orderly.sound.relied _ _ _ (.recovering recovers rfl))
  | _ => simp [made, Effect.finishes?] at finishes

/-- A terminal status is kept in the same runs. -/
theorem Orderly.keeps_status (orderly : Orderly state) {trace : List Label}
    (run : platform.Runs cleanlySupervised state trace next) {jobId : JobId}
    {status : SubmissionStatus} (ended : state.store.statusOf jobId = some status)
    (terminal : status.isTerminal = true) : next.store.statusOf jobId = some status := by
  rw [Store.statusOf_eq, orderly.keeps_closed run (closed_of_status ended terminal),
    ← Store.statusOf_eq, ended]

end CodeExecution

import CodeExecution.Guarantees.Payloads
import CodeExecution.Proofs.Sparing
import CodeExecution.Proofs.StartupAlone

/-! The startup recovery: what it does beside live workers, and what it brings back. -/

namespace CodeExecution

/-! ## Beside live workers -/

/--
A restarting monitor makes no executed job claimable, as long as it spares the jobs of live workers.

The platform may have gone through any run before, and every interleaving of the recovery with workers
and handlers is covered, with further restarts too.
-/
theorem startup_spares_executors {before trace : List Label} {start state : Platform}
    (reached : platform.Runs (fun _ _ => True) .initial before start) (charge : SoleCharge start)
    (run : platform.Runs (fun state label => besideRecovery state label = true ∧ sparing state label)
      start trace state) :
    (∀ worker point jobId, state.workers worker = .running point →
      point.engaged? = some jobId → ¬ Claimable state jobId) ∧
    ∀ first second jobId, state.executing? first = some jobId →
      state.executing? second = some jobId → first = second := by
  -- Jobs in charge have rows in every reachable state, and each step keeps them with one worker.
  have charged := run.preserves_trace (fun _ reached => SoleCharge reached) charge
    fun _ _ _ _ earlier charge permitted stepped => by
      have genuine := (AllGenuine.reached (reached.append earlier.unguarded)).1
      exact charge.step (fun _ _ _ running own => genuine.inCharge running own) permitted.1
        permitted.2 stepped
  constructor
  · intro worker point jobId running engaged claimable
    have own := WorkerPoint.inCharge_of_engaged engaged
    exact (charged.apart worker point jobId running own claimable.1).not_claimable claimable
  · intro first second jobId executes executes'
    obtain ⟨job, running, rfl⟩ := Platform.executing_iff.mp executes
    obtain ⟨job', running', same⟩ := Platform.executing_iff.mp executes'
    exact charged.sole first second _ _ job.jobId running running' rfl (congrArg some same)

/-- Neither the bulk update nor the bulk read. -/
def withoutBulk (state : Platform) : Label → Bool
  | .startupSelect _ => false
  | .startup outcome => state.startup ≠ .resetRunning && besideRecovery state (.startup outcome)
  | label => besideRecovery state label

/-- Where no row is reset and none is read, everybody is spared. -/
theorem sparing_of_withoutBulk {state : Platform} {label : Label}
    (permitted : withoutBulk state label = true) :
    besideRecovery state label = true ∧ sparing state label := by
  -- These two calls are the ones that have to spare somebody.
  cases label with
  | startupSelect rows => simp [withoutBulk] at permitted
  | startup outcome =>
    obtain ⟨elsewhere, beside⟩ : state.startup ≠ .resetRunning ∧
        besideRecovery state (.startup outcome) = true := by simpa [withoutBulk] using permitted
    exact ⟨beside, fun _ _ _ _ _ at_ => absurd at_ elsewhere⟩
  | _ => exact ⟨permitted, fun _ _ _ _ _ => trivial⟩

/-- The guarantee where another job is pending, so that an executed job stays out of reach. -/
theorem startup_spares_executors_example : ∃ start state,
    CrashStopRuns .initial (submission "job" ++ takingUp "w1" ++ submission "next") start ∧
    platform.Runs (fun state label => besideRecovery state label = true ∧ sparing state label) start
      (.startupBegin :: .startup .resolves :: .startup .resolves :: takingUp "w2") state ∧
    state.executing? "w1" = some "job" ∧ state.store.statusOf "job" = some .pending ∧
    state.executing? "w2" = some "next" ∧ ¬ Claimable state "job" := by
  -- The runs are executed, and the last part is the guarantee's.
  have executed : ((platform.guardedRun (fun state label => crashStop state label = true) .initial
      (submission "job" ++ takingUp "w1" ++ submission "next")).bind fun start =>
        (platform.step start .startupBegin).bind fun begun =>
          (platform.step begun (.startup .resolves)).bind fun reset =>
            (platform.guardedRun (fun state label => withoutBulk state label = true) reset
              (.startup .resolves :: takingUp "w2")).map fun state =>
                (start.startup, state.executing? "w1", state.store.statusOf "job",
                  state.executing? "w2")) =
      some (.idle, some "job", some .pending, some "next") := by decide
  obtain ⟨start, earlier, executed⟩ := Option.bind_eq_some_iff.mp executed
  obtain ⟨begun, restarts, executed⟩ := Option.bind_eq_some_iff.mp executed
  obtain ⟨reset, resets, executed⟩ := Option.bind_eq_some_iff.mp executed
  obtain ⟨state, later, shown⟩ := Option.map_eq_some_iff.mp executed
  obtain ⟨idle, executes, waiting, others⟩ : start.startup = .idle ∧
      state.executing? "w1" = some "job" ∧ state.store.statusOf "job" = some .pending ∧
      state.executing? "w2" = some "next" := by simpa using shown
  have before : CrashStopRuns .initial _ start := Machine.runs_iff_guardedRun.mpr earlier
  have orderly := Orderly.reached (CrashStopRuns.clean before)
  have unread : start.startup.carried = [] := by rw [idle]; rfl
  -- At the bulk update the jobs of live workers are out of reach, as they were before the restart.
  have restarted : Orderly begun := by
    obtain rfl := Option.some.inj restarts
    exact orderly.of_same rfl rfl rfl rfl rfl (fun _ _ _ _ => Iff.rfl) orderly.locked
  have unreadThen : begun.startup.carried = [] := by
    obtain rfl := Option.some.inj restarts
    rfl
  have run : platform.Runs (fun state label => besideRecovery state label = true ∧ sparing state label)
      start (.startupBegin :: .startup .resolves :: .startup .resolves :: takingUp "w2") state :=
    .cons ⟨rfl, fun _ _ _ _ _ => trivial⟩ restarts
      (.cons ⟨rfl, fun _ _ _ running own _ _ => restarted.outOfReach unreadThen running own⟩ resets
        ((Machine.runs_iff_guardedRun.mpr later).imp fun _ _ => sparing_of_withoutBulk))
  obtain ⟨job, running, same⟩ := Platform.executing_iff.mp executes
  exact ⟨start, state, before, run, executes, waiting, others,
    (startup_spares_executors before.unguarded (orderly.soleCharge unread) run).1 "w1" _ "job"
      running (congrArg some same)⟩

/-- A restart beside a live worker lets another one execute the same job. -/
theorem startup_two_executors : ∃ middle begun state,
    CrashStopRuns .initial (submission "job" ++ takingUp "w1") middle ∧
    platform.step middle .startupBegin = some begun ∧
    platform.Runs (fun state label => besideRecovery state label = true) begun
      ([.startup .resolves, .startup .resolves,
        .startupSelect [submissionRow (submittedPayload "job")], .startup .resolves] ++
        takingUp "w2") state ∧
    state.executing? "w1" = some "job" ∧ state.executing? "w2" = some "job" := by
  -- The bulk update resets the row of the job that w1 is executing, and the bulk read finds it.
  have executed : ((platform.guardedRun (fun state label => crashStop state label = true) .initial
      (submission "job" ++ takingUp "w1")).bind fun middle =>
        (platform.step middle .startupBegin).bind fun begun =>
          (platform.guardedRun (fun state label => besideRecovery state label = true) begun
            ([.startup .resolves, .startup .resolves,
              .startupSelect [submissionRow (submittedPayload "job")], .startup .resolves] ++
              takingUp "w2")).map fun state => (state.executing? "w1", state.executing? "w2")) =
      some (some "job", some "job") := by decide
  obtain ⟨middle, earlier, executed⟩ := Option.bind_eq_some_iff.mp executed
  obtain ⟨begun, restarts, executed⟩ := Option.bind_eq_some_iff.mp executed
  obtain ⟨state, run, both⟩ := Option.map_eq_some_iff.mp executed
  obtain ⟨executes, executes'⟩ := Prod.mk.inj both
  exact ⟨middle, begun, state, Machine.runs_iff_guardedRun.mpr earlier, restarts,
    Machine.runs_iff_guardedRun.mpr run, executes, executes'⟩

/-! ## On its own -/

/--
Without anybody else acting, a recovery that returns leaves no row RUNNING.

It leaves no PENDING row without an element in some list exactly when the pending list was empty, or
every open row was listed before.
-/
theorem startup_recovery_complete {start begun state : Platform} {trace : List Label}
    (restarts : platform.step start .startupBegin = some begun)
    (run : platform.Runs (fun _ label => startupAlone label = true) begun trace state)
    (returned : state.startup = .finished) :
    (∀ jobId, state.store.statusOf jobId ≠ some .running) ∧
    ((∀ jobId, state.store.statusOf jobId = some .pending → state.store.Lists jobId) ↔
      start.store.pending = [] ∨ ∀ jobId, start.store.statusOf jobId = some .pending ∨
        start.store.statusOf jobId = some .running → start.store.Lists jobId) := by
  obtain rfl := Option.some.inj restarts
  have phase := run.preserves (fun reached => StartupAlone start.store reached.store reached.startup)
    (.resetting (fun _ => rfl) rfl rfl) fun _ _ _ phase permitted stepped =>
      phase.step permitted stepped
  rw [returned] at phase
  generalize at_ : StartupPoint.finished = point at phase
  cases phase with
  | checking rows pending processing decided =>
    subst at_
    have filled : start.store.pending ≠ [] := by simpa using decided
    refine ⟨fun jobId => (statusOf_reset (rows jobId)).1, ?_⟩
    -- The lists are those of the start, and so are the open rows.
    rw [or_iff_right filled]
    refine forall_congr' fun jobId => ?_
    rw [(statusOf_reset (rows jobId)).2, Store.Lists, Store.Lists, pending, processing]
  | rehydrating left rows empty covered =>
    obtain rfl : left = [] := by
      cases left with
      | nil => rfl
      | cons _ _ => simp [StartupPoint.rehydrateAll] at at_
    refine ⟨fun jobId => (statusOf_reset (rows jobId)).1, fun _ => .inl empty, ?_⟩
    intro _ jobId waiting
    rcases covered jobId waiting with lists | ⟨_, member, _⟩
    · exact lists
    · simp at member
  | resetting | failed => simp at at_

/-- No worker starts. -/
def withoutWorkers : Label → Bool
  | .workerStart _ => false
  | _ => true

/-- The recovery on its own starts no worker. -/
theorem withoutWorkers_of_alone {label : Label} (permitted : startupAlone label = true) :
    withoutWorkers label = true := by
  cases label with
  | workerStart _ => simp [startupAlone] at permitted
  | _ => rfl

/-- Where no worker has started, only the pending list has elements. -/
def Unstaffed (state : Platform) : Prop :=
  ∀ worker, (∀ point, state.workers worker ≠ .running point) ∧ state.store.processing worker = []

/-- Labels that start no worker leave the platform without any. -/
theorem Unstaffed.run {start state : Platform} {allowed : Platform → Label → Prop}
    {trace : List Label} (unstaffed : Unstaffed start)
    (run : platform.Runs allowed start trace state)
    (without : ∀ state label, allowed state label → withoutWorkers label = true) :
    Unstaffed state := by
  refine run.preserves Unstaffed unstaffed fun state label next nobody permitted stepped worker => ?_
  constructor
  · intro point running
    rcases Platform.step_worker stepped running with ⟨was, _⟩ | ⟨_, _, _, _, was, _⟩ |
      ⟨_, _, was, _⟩ | ⟨_, _, _, was, _⟩ | ⟨rfl, _⟩
    · exact (nobody worker).1 _ was
    · exact (nobody worker).1 _ was
    · exact (nobody worker).1 _ was
    · exact (nobody worker).1 _ was
    · simpa [withoutWorkers] using without _ _ permitted
  · -- Only a running worker brings an element into its list.
    refine List.eq_nil_iff_forall_not_mem.mpr fun entry member => ?_
    rcases Platform.step_arrivals stepped member with held | ⟨running, _⟩
    · simp [(nobody worker).2] at held
    · exact (nobody worker).1 _ running

/-- Without workers, a job is listed only while it is pending. -/
theorem Unstaffed.not_lists {state : Platform} {jobId : JobId} (unstaffed : Unstaffed state)
    (absent : jobId ∉ jobsIn state.store.pending) : ¬ state.store.Lists jobId := by
  intro lists
  rcases lists with queued | ⟨worker, held⟩
  · exact absent queued
  · simp [(unstaffed worker).2] at held

/-- The platform starts without workers. -/
theorem unstaffed_initial : Unstaffed .initial := fun _ => ⟨fun _ => nofun, rfl⟩

/-- A handler that dies between its INSERT and its LPUSH. -/
def unqueuedSubmission (jobId : JobId) : List Label :=
  [.post jobId oneLiner .python none, .gateway jobId .resolves, .gatewayCrash jobId]

/-- The guarantee where the pending list is empty, so that a row without a payload gets one. -/
theorem startup_recovery_complete_example : ∃ start begun state,
    platform.Runs (fun _ label => withoutWorkers label = true) .initial (unqueuedSubmission "job")
      start ∧
    ¬ start.store.Lists "job" ∧ platform.step start .startupBegin = some begun ∧
    platform.Runs (fun _ label => startupAlone label = true) begun
      [.startup .resolves, .startup .resolves,
        .startupSelect [submissionRow (submittedPayload "job")], .startup .resolves] state ∧
    state.store.statusOf "job" = some .pending ∧
    ∀ jobId, state.store.statusOf jobId = some .pending → state.store.Lists jobId := by
  -- The runs are executed, and the empty list is the guarantee's condition.
  have executed : ((platform.guardedRun (fun _ label => withoutWorkers label = true) .initial
      (unqueuedSubmission "job")).bind fun start =>
        (platform.step start .startupBegin).bind fun begun =>
          (platform.guardedRun (fun _ label => startupAlone label = true) begun
            [.startup .resolves, .startup .resolves,
              .startupSelect [submissionRow (submittedPayload "job")], .startup .resolves]).map
                fun state => (start.store.pending, state.startup, state.store.statusOf "job")) =
      some ([], .finished, some .pending) := by decide
  obtain ⟨start, earlier, executed⟩ := Option.bind_eq_some_iff.mp executed
  obtain ⟨begun, restarts, executed⟩ := Option.bind_eq_some_iff.mp executed
  obtain ⟨state, later, shown⟩ := Option.map_eq_some_iff.mp executed
  obtain ⟨empty, returned, waiting⟩ : start.store.pending = [] ∧ state.startup = .finished ∧
      state.store.statusOf "job" = some .pending := by simpa using shown
  have before := Machine.runs_iff_guardedRun.mpr earlier
  have run := Machine.runs_iff_guardedRun.mpr later
  have unlisted : ¬ start.store.Lists "job" :=
    (unstaffed_initial.run before fun _ _ permitted => permitted).not_lists (by simp [empty])
  exact ⟨start, begun, state, before, unlisted, restarts, run, waiting,
    (startup_recovery_complete restarts run returned).2.mpr (.inl empty)⟩

/-- With another job pending, a PENDING row without a payload gets none. -/
theorem startup_leaves_unqueued : ∃ start begun state,
    platform.Runs (fun _ label => withoutWorkers label = true) .initial
      (unqueuedSubmission "job" ++ submission "next") start ∧
    platform.step start .startupBegin = some begun ∧
    platform.Runs (fun _ label => startupAlone label = true) begun
      [.startup .resolves, .startup .resolves] state ∧
    state.startup = .finished ∧ state.store.statusOf "job" = some .pending ∧
    ¬ state.store.Lists "job" := by
  -- The pending list is not empty, so the recovery returns without reading the rows.
  have executed : ((platform.guardedRun (fun _ label => withoutWorkers label = true) .initial
      (unqueuedSubmission "job" ++ submission "next")).bind fun start =>
        (platform.step start .startupBegin).bind fun begun =>
          (platform.guardedRun (fun _ label => startupAlone label = true) begun
            [.startup .resolves, .startup .resolves]).map fun state =>
              (jobsIn state.store.pending, state.startup, state.store.statusOf "job")) =
      some (["next"], .finished, some .pending) := by decide
  obtain ⟨start, earlier, executed⟩ := Option.bind_eq_some_iff.mp executed
  obtain ⟨begun, restarts, executed⟩ := Option.bind_eq_some_iff.mp executed
  obtain ⟨state, later, shown⟩ := Option.map_eq_some_iff.mp executed
  obtain ⟨queued, returned, waiting⟩ : jobsIn state.store.pending = ["next"] ∧
      state.startup = .finished ∧ state.store.statusOf "job" = some .pending := by simpa using shown
  have before := Machine.runs_iff_guardedRun.mpr earlier
  have run := Machine.runs_iff_guardedRun.mpr later
  obtain rfl := Option.some.inj restarts
  have nobody : Unstaffed start := unstaffed_initial.run before fun _ _ permitted => permitted
  have restarted : Unstaffed (start.withStartup (.resetRunning, start.store)) := nobody
  have unlisted : ¬ state.store.Lists "job" :=
    (restarted.run run fun _ _ permitted => withoutWorkers_of_alone permitted).not_lists
      (by simp [queued])
  exact ⟨start, _, state, before, rfl, run, returned, waiting, unlisted⟩

end CodeExecution

import CodeExecution.Proofs.Bootstrap

/-! The bootstrap of a monitor: when it leaves each open job with one pending payload. -/

namespace CodeExecution

/-- The job waits in the pending list once, and in no processing list. -/
def QueuedOnce (store : Store) (jobId : JobId) : Prop :=
  (jobsIn store.pending).count jobId = 1 ∧ ∀ worker, jobId ∉ jobsIn (store.processing worker)

/-- What a restart on its own makes of the store, once it has returned. -/
structure Restarted (start store : Store) : Prop where
  processing : store.processing = start.processing
  hasOpen : ∀ jobId, store.hasOpen jobId = start.hasOpen jobId
  /-- An open job is pushed where the pending list was empty. -/
  pending : ∀ jobId, start.hasOpen jobId = true → (jobsIn store.pending).count jobId =
    if start.pending = [] then 1 else (jobsIn start.pending).count jobId

/-- A restart that returns has these effects. -/
theorem Restarted.of_run {start begun booted : Platform} {trace : List Label}
    (restarts : platform.step start .startupBegin = some begun)
    (run : platform.Runs (fun _ label => startupAlone label = true) begun trace booted)
    (returned : booted.startup = .finished) : Restarted start.store booted.store := by
  -- The two invariants of the recovery run along together.
  obtain rfl := Option.some.inj restarts
  obtain ⟨phase, counted⟩ := run.preserves
    (fun reached => CountedAlone start.store reached.store reached.startup)
    ⟨.resetting (fun _ => rfl) rfl rfl,
      .inr ⟨rfl, fun _ => ⟨rfl, rfl⟩, by simp [StartupPoint.unread]⟩⟩
    fun _ _ _ counted permitted stepped => counted.step permitted stepped
  rw [returned] at phase counted
  have pushed := counted.resolve_left (by simp)
  refine ⟨pushed.processing, fun jobId => (hasOpen_reset (phase.reset jobId)).1, ?_⟩
  intro jobId isOpen
  obtain ⟨same, waiting⟩ := hasOpen_reset (phase.reset jobId)
  split
  · next empty =>
    have once := pushed.once empty rfl jobId
    rw [if_pos (waiting (same.trans isOpen))] at once
    simpa [StartupPoint.unpushed] using once
  · next filled => rw [(pushed.untouched (.inl filled)).1]

/--
A bootstrap on its own leaves each open job queued once, exactly under a condition on the lists.

The condition is about the jobs that are open and have no exhausted payload in a list that the scan is
told of. No list that it is not told of may have a payload of such a job.
Where the pending list was empty, neither may one that it is told of; otherwise, these and the pending
list together must have exactly one.
-/
theorem bootstrap_enqueues_once {start begun booted state : Platform} {boot scan : List Label}
    {lockId : LockId} {dead : List WorkerId}
    (restarts : platform.step start .startupBegin = some begun)
    (recovers : platform.Runs (fun _ label => startupAlone label = true) begun boot booted)
    (returned : booted.startup = .finished)
    (idle : booted.scans lockId = .idle) (free : booted.store.reaperLock = none)
    (scans : platform.Runs (fun _ label => scanAlone lockId dead label = true) booted scan state)
    (finished : state.scans lockId = .finished) :
    (∀ jobId, state.store.hasOpen jobId = true → QueuedOnce state.store jobId) ↔
      ∀ jobId, start.store.hasOpen jobId = true →
        exhaustedIn (dead.flatMap start.store.processing) jobId = false →
        (∀ worker, worker ∉ dead → jobId ∉ jobsIn (start.store.processing worker)) ∧
        if start.store.pending = [] then jobId ∉ jobsIn (dead.flatMap start.store.processing)
        else (jobsIn (start.store.pending ++ dead.flatMap start.store.processing)).count jobId = 1 := by
  have restarted := Restarted.of_run restarts recovers returned
  have alone := scans.preserves
    (fun reached => ScannedAlone booted.store dead reached.store (reached.scans lockId)) ?_
    fun _ _ _ reached permitted stepped => reached.step permitted stepped
  · rw [finished] at alone
    -- At the end no element is left, so the fate of a job is its count.
    have lists : ∀ worker, state.store.processing worker =
        if worker ∈ dead then [] else start.store.processing worker := fun worker => by
      rw [← restarted.processing]
      simpa [ScanPoint.owners, imp_false] using alone.lists worker
    have fates : ∀ jobId, (if state.store.hasOpen jobId = true then
        some ((jobsIn state.store.pending).count jobId) else none) =
        booted.store.fate (dead.flatMap start.store.processing) jobId := by
      intro jobId
      rw [← restarted.processing, ← alone.fate jobId]
      simp [Store.fate, ScanPoint.left, ScanPoint.owners, exhaustedIn]
    have queued : ∀ jobId, (state.store.hasOpen jobId = true → QueuedOnce state.store jobId) ↔
        ∀ count, booted.store.fate (dead.flatMap start.store.processing) jobId = some count →
          count = 1 ∧ ∀ worker, worker ∉ dead → jobId ∉ jobsIn (start.store.processing worker) := by
      intro jobId
      rw [← fates jobId]
      cases isOpen : state.store.hasOpen jobId with
      | false => simp
      | true =>
        have elsewhere (worker : WorkerId) : jobId ∉ jobsIn (state.store.processing worker) ↔
            (worker ∉ dead → jobId ∉ jobsIn (start.store.processing worker)) := by
          rw [lists worker]
          by_cases listed : worker ∈ dead <;> simp [listed]
        simp [QueuedOnce, elsewhere]
    simp only [queued]
    refine forall_congr' fun jobId => ?_
    rw [Store.fate, restarted.hasOpen jobId]
    cases isOpen : start.store.hasOpen jobId with
    | false => simp
    | true =>
      cases exhausts : exhaustedIn (dead.flatMap start.store.processing) jobId with
      | true => simp
      | false =>
        rw [restarted.pending jobId isOpen]
        by_cases empty : start.store.pending = []
        · simp [empty, List.count_eq_zero, and_comm]
        · simp [empty, List.count_append, and_comm]
  · -- At first all lists are there.
    rw [idle]
    exact ⟨fun _ => rfl, fun worker => by simp [ScanPoint.owners], fun _ => id, by simp, by simp,
      fun _ => free⟩

/-- A worker that was never started has no list. -/
theorem processing_of_unstarted {allowed : Platform → Label → Prop} {trace : List Label}
    {state : Platform} {worker : WorkerId} (run : platform.Runs allowed .initial trace state)
    (unstarted : .workerStart worker ∉ trace) :
    state.workers worker = .absent ∧ state.store.processing worker = [] := by
  -- Only a worker that runs brings elements into its list.
  refine run.preserves_trace (fun trace reached => Label.workerStart worker ∉ trace →
    reached.workers worker = .absent ∧ reached.store.processing worker = []) ?_ ?_ unstarted
  · exact fun _ => ⟨rfl, rfl⟩
  · intro trace reached label next _ ih _ stepped unstarted
    simp only [List.mem_append, List.mem_singleton, not_or] at unstarted
    obtain ⟨absent, empty⟩ := ih unstarted.1
    refine ⟨Platform.step_absent stepped absent (Ne.symm unstarted.2), ?_⟩
    refine List.eq_nil_iff_forall_not_mem.mpr fun entry member => ?_
    rcases Platform.step_arrivals stepped member with held | ⟨running, _⟩
    · simp [empty] at held
    · simp [absent] at running

/-- A worker takes the job up and dies, and another job is submitted. -/
def orphanBesidePending : List Label :=
  submission "job" ++ takingUp "w" ++ [.workerCrash "w"] ++ submission "next"

/-- The guarantee for an orphan beside a pending job. -/
theorem bootstrap_enqueues_once_example : ∃ start begun booted state,
    CrashStopRuns .initial orphanBesidePending start ∧ start.workers "w" = .crashed ∧
    platform.step start .startupBegin = some begun ∧
    platform.Runs (fun _ label => startupAlone label = true) begun
      [.startup .resolves, .startup .resolves] booted ∧
    platform.Runs (fun _ label => scanAlone "s" ["w"] label = true) booted
      (detecting "s" "w" ++ scanCalls "s" 6) state ∧
    ∀ jobId, state.store.hasOpen jobId = true → QueuedOnce state.store jobId := by
  -- The three runs are executed one after another.
  have executed : ((platform.guardedRun (fun state label => crashStop state label = true) .initial
      orphanBesidePending).bind fun start => (platform.step start .startupBegin).bind fun begun =>
        (platform.guardedRun (fun _ label => startupAlone label = true) begun
          [.startup .resolves, .startup .resolves]).bind fun booted =>
            (platform.guardedRun (fun _ label => scanAlone "s" ["w"] label = true) booted
              (detecting "s" "w" ++ scanCalls "s" 6)).map fun state =>
                (start.store.submissions.rows.map SubmissionRow.id,
                  start.store.pending ++ start.store.processing "w",
                  (decide (start.workers "w" = .crashed ∧ start.store.pending ≠ [] ∧
                    booted.startup = .finished ∧ booted.scans "s" = .idle ∧
                    booted.store.reaperLock = none ∧ state.scans "s" = .finished)))) =
      some (["job", "next"], [.payload (submittedPayload "next"), .payload (submittedPayload "job")],
        true) := by decide
  obtain ⟨start, earlier, executed⟩ := Option.bind_eq_some_iff.mp executed
  obtain ⟨begun, restarts, executed⟩ := Option.bind_eq_some_iff.mp executed
  obtain ⟨booted, recovers, executed⟩ := Option.bind_eq_some_iff.mp executed
  obtain ⟨state, scans, shown⟩ := Option.map_eq_some_iff.mp executed
  simp only [Prod.mk.injEq, decide_eq_true_eq] at shown
  obtain ⟨keys, listed, crashed, filled, returned, idle, free, finished⟩ := shown
  have before : CrashStopRuns .initial orphanBesidePending start :=
    Machine.runs_iff_guardedRun.mpr earlier
  refine ⟨start, begun, booted, state, before, crashed, restarts,
    Machine.runs_iff_guardedRun.mpr recovers, Machine.runs_iff_guardedRun.mpr scans, ?_⟩
  refine (bootstrap_enqueues_once restarts (Machine.runs_iff_guardedRun.mpr recovers) returned idle
    free (Machine.runs_iff_guardedRun.mpr scans) finished).mpr fun jobId isOpen _ => ⟨?_, ?_⟩
  · -- The other workers have no lists.
    intro worker other
    have empty : start.store.processing worker = [] := by
      refine (processing_of_unstarted before ?_).2
      simpa [orphanBesidePending, submission, takingUp, workerCalls] using other
    simp [empty]
  · -- The two jobs have one payload each.
    rw [if_neg filled]
    simp only [List.flatMap_cons, List.flatMap_nil, List.append_nil, listed]
    have key : jobId = "job" ∨ jobId = "next" := by
      cases found : start.store.submissions.lookup jobId with
      | none => simp [Store.hasOpen, Store.statusOf, found] at isOpen
      | some row =>
        obtain rfl := KeyedTable.key_of_lookup found
        have stored := List.mem_map_of_mem (f := SubmissionRow.id) (KeyedTable.mem_rows_iff.mpr found)
        simpa [keys] using stored
    rcases key with rfl | rfl <;> decide

/-- A job whose worker died is queued twice where the pending list was empty. -/
theorem bootstrap_enqueues_twice : ∃ start begun booted state,
    CrashStopRuns .initial (submission "job" ++ takingUp "w" ++ [.workerCrash "w"]) start ∧
    start.workers "w" = .crashed ∧ platform.step start .startupBegin = some begun ∧
    platform.Runs (fun _ label => startupAlone label = true) begun
      [.startup .resolves, .startup .resolves,
        .startupSelect [submissionRow (submittedPayload "job")], .startup .resolves] booted ∧
    booted.startup = .finished ∧
    platform.Runs (fun _ label => scanAlone "s" ["w"] label = true) booted
      (detecting "s" "w" ++ scanCalls "s" 6) state ∧
    state.scans "s" = .finished ∧ state.store.hasOpen "job" = true ∧
    (jobsIn state.store.pending).count "job" = 2 := by
  -- The recovery pushes a payload of its row, and the scan pushes the one in the dead list.
  have executed : ((platform.guardedRun (fun state label => crashStop state label = true) .initial
      (submission "job" ++ takingUp "w" ++ [.workerCrash "w"])).bind fun start =>
        (platform.step start .startupBegin).bind fun begun =>
          (platform.guardedRun (fun _ label => startupAlone label = true) begun
            [.startup .resolves, .startup .resolves,
              .startupSelect [submissionRow (submittedPayload "job")],
              .startup .resolves]).bind fun booted =>
                (platform.guardedRun (fun _ label => scanAlone "s" ["w"] label = true) booted
                  (detecting "s" "w" ++ scanCalls "s" 6)).map fun state =>
                    (start.workers "w", booted.startup, state.scans "s",
                      state.store.hasOpen "job", (jobsIn state.store.pending).count "job")) =
      some (.crashed, .finished, .finished, true, 2) := by decide
  obtain ⟨start, earlier, executed⟩ := Option.bind_eq_some_iff.mp executed
  obtain ⟨begun, restarts, executed⟩ := Option.bind_eq_some_iff.mp executed
  obtain ⟨booted, recovers, executed⟩ := Option.bind_eq_some_iff.mp executed
  obtain ⟨state, scans, shown⟩ := Option.map_eq_some_iff.mp executed
  simp only [Prod.mk.injEq] at shown
  obtain ⟨crashed, returned, finished, isOpen, twice⟩ := shown
  exact ⟨start, begun, booted, state, Machine.runs_iff_guardedRun.mpr earlier, crashed, restarts,
    Machine.runs_iff_guardedRun.mpr recovers, returned, Machine.runs_iff_guardedRun.mpr scans,
    finished, isOpen, twice⟩

end CodeExecution

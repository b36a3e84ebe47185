import CodeExecution.Proofs.Executors

/-! Failing sandboxes: one worker at a time executes a job, as long as no stale copy is left behind. -/

namespace CodeExecution

/--
Where no worker crashes between the two copies of a requeued job, a job has one executor at most.

Whoever is engaged in a job finds it RUNNING until its own commit.
-/
theorem single_executor {trace : List Label} {state : Platform}
    (run : platform.Runs (fun state label => crashesCleanly state label = true) Platform.initial
      trace state) :
    (∀ first second jobId, state.executing? first = some jobId →
      state.executing? second = some jobId → first = second) ∧
    ∀ worker point jobId, state.workers worker = .running point →
      point.engaged? = some jobId → state.store.statusOf jobId = some .running := by
  -- Such a run is orderly.
  have clean : platform.Runs cleanlySupervised Platform.initial trace state :=
    run.imp fun _ _ => cleanlySupervised_of_crashesCleanly
  exact ⟨fun _ _ _ executes executes' => (Orderly.reached clean).one_executor executes executes',
    Claimed.reached clean⟩

/-- The guarantee in a run whose sandbox fails once, so that another worker takes the job over. -/
theorem single_executor_example : ∃ state,
    platform.Runs (fun state label => crashesCleanly state label = true) Platform.initial
      (submission "job" ++ takingUp "w1" ++ [.sandbox "w1" none] ++ workerCalls "w1" 3 ++
        takingUp "w2") state ∧
    state.executing? "w2" = some "job" ∧ state.store.statusOf "job" = some .running := by
  -- The run is executed up to the second sandbox, and the status is the guarantee's.
  obtain ⟨state, run, executes⟩ := Machine.runs_of_guardedRun platform
    (fun state label => crashesCleanly state label = true) Platform.initial
    (submission "job" ++ takingUp "w1" ++ [.sandbox "w1" none] ++ workerCalls "w1" 3 ++
      takingUp "w2")
    (fun state => state.executing? "w2") (some "job") (by decide)
  obtain ⟨job, running, same⟩ := Platform.executing_iff.mp executes
  exact ⟨state, run, executes, (single_executor run).2 "w2" _ "job" running (by
    simp [WorkerPoint.engaged?, same])⟩

/-- Two workers execute the same job after a crash that left two copies of it. -/
theorem two_executors : ∃ state,
    platform.Runs (fun state label => launchFaults state label = true) Platform.initial
      (submission "job" ++ takingUp "w1" ++ [.sandbox "w1" none] ++ workerCalls "w1" 2 ++
        [.workerCrash "w1"] ++ takingUp "w2" ++ detecting "s" "w1" ++ scanCalls "s" 4 ++
        takingUp "w3") state ∧
    state.executing? "w2" = some "job" ∧ state.executing? "w3" = some "job" := by
  -- The scan finds the old copy in the dead list, and resets the row that w2 has claimed.
  obtain ⟨state, run, both⟩ := Machine.runs_of_guardedRun platform
    (fun state label => launchFaults state label = true) Platform.initial
    (submission "job" ++ takingUp "w1" ++ [.sandbox "w1" none] ++ workerCalls "w1" 2 ++
      [.workerCrash "w1"] ++ takingUp "w2" ++ detecting "s" "w1" ++ scanCalls "s" 4 ++
      takingUp "w3")
    (fun state => (state.executing? "w2", state.executing? "w3")) (some "job", some "job")
    (by decide)
  obtain ⟨executes, executes'⟩ := Prod.mk.inj both
  exact ⟨state, run, executes, executes'⟩

end CodeExecution

import CodeExecution.Proofs.Coverage

/-! Crash-stop recovery while no scan outlives its lock, and what a scan does that outlives it. -/

namespace CodeExecution

/--
Crash-stop recovery is correct in every state of a run in which no scan outlives its lock.

An enqueued job that is not over is on some list, a job has one unacknowledged live worker at most,
and a terminal status stays.
-/
theorem crash_stop_recovery {trace : List Label} {state : Platform}
    (run : LockKeptRuns .initial trace state) :
    (∀ jobId, (state.posts jobId).pushed = true →
      isTerminalStatus (state.store.statusOf jobId) = false →
      jobId ∈ jobsIn state.store.pending ∨
        ∃ worker, jobId ∈ jobsIn (state.store.processing worker)) ∧
    (∀ first second point point' jobId, state.workers first = .running point →
      state.workers second = .running point' → point.unacknowledged? = some jobId →
      point'.unacknowledged? = some jobId → first = second) ∧
    ∀ later next jobId status, LockKeptRuns state later next →
      state.store.statusOf jobId = some status → status.isTerminal = true →
      next.store.statusOf jobId = some status := by
  -- The three parts are the coverage, the sole holders, and the end of a job's life.
  have run := run.crashStop
  refine ⟨fun _ => enqueued_listed run, SoleHolders.reached run, ?_⟩
  intro later next jobId status continued ended terminal
  have orderly := Orderly.reached (CrashStopRuns.clean run)
  exact orderly.keeps_status (CrashStopRuns.clean_later run continued.crashStop) ended terminal

/-- A worker crashes with a job, the job is recovered, and another worker finishes it. -/
def recoveredRun : List Label :=
  submission "job" ++ takingUp "w1" ++ [.workerCrash "w1"] ++ detecting "s" "w1" ++
    scanCalls "s" 6 ++ takingUp "w2" ++ [.sandbox "w2" (some cleanExit)] ++ workerCalls "w2" 5

/-- The guarantee in a run that recovers a job and finishes it. -/
theorem crash_stop_recovery_example : ∃ state, LockKeptRuns .initial recoveredRun state ∧
    state.store.statusOf "job" = some .completed ∧
    ∀ later next, LockKeptRuns state later next → next.store.statusOf "job" = some .completed := by
  -- The status that the run reaches is kept by the guarantee.
  obtain ⟨state, run, ended⟩ := Machine.runs_of_guardedRun platform
    (fun state label => untimedCrashStop state label = true ∧ lockOutlasts state label = true)
    Platform.initial recoveredRun (fun state => state.store.statusOf "job") (some .completed) (by decide)
  exact ⟨state, run, ended, fun later next continued =>
    (crash_stop_recovery run).2.2 later next "job" .completed continued ended rfl⟩

/--
A scan has read the list of a crashed worker when its lock runs out, and another scan takes over.

The second one requeues the job and is done; the first one has found it open and has yet to requeue it.
-/
def outlivedRun : List Label :=
  submission "job" ++ takingUp "w1" ++ [.workerCrash "w1"] ++ detecting "s1" "w1" ++
    scanCalls "s1" 2 ++ [.lockExpires] ++ detecting "s2" "w1" ++ scanCalls "s2" 6

/--
A scan that outlives its lock gives a job two executors, and takes a terminal status back.

Every call resolves, only the worker that has crashed is seen dead, and the monitor is not restarted.
-/
theorem outlived_lock_breaks_recovery :
    (∃ state, platform.Runs (fun state label => untimedCrashStop state label = true) .initial
        (outlivedRun ++ takingUp "w2" ++ scanCalls "s1" 2 ++ takingUp "w3") state ∧
      state.executing? "w2" = some "job" ∧ state.executing? "w3" = some "job") ∧
    ∃ state next, platform.Runs (fun state label => untimedCrashStop state label = true) .initial
        (outlivedRun ++ takingUp "w2" ++ [.sandbox "w2" (some cleanExit)] ++ workerCalls "w2" 5) state ∧
      platform.Runs (fun state label => untimedCrashStop state label = true) state (scanCalls "s1" 1)
        next ∧
      state.store.statusOf "job" = some .completed ∧ next.store.statusOf "job" = some .pending := by
  constructor
  · -- Both copies of the payload are claimed, as each scan has reset the row.
    obtain ⟨state, run, both⟩ := Machine.runs_of_guardedRun platform
      (fun state label => untimedCrashStop state label = true) Platform.initial
      (outlivedRun ++ takingUp "w2" ++ scanCalls "s1" 2 ++ takingUp "w3")
      (fun state => (state.executing? "w2", state.executing? "w3")) (some "job", some "job") (by decide)
    obtain ⟨executes, executes'⟩ := Prod.mk.inj both
    exact ⟨state, run, executes, executes'⟩
  · -- The first scan has found the job open, and resets its row after the result is committed.
    obtain ⟨state, run, seen⟩ := Machine.runs_of_guardedRun platform
      (fun state label => untimedCrashStop state label = true) Platform.initial
      (outlivedRun ++ takingUp "w2" ++ [.sandbox "w2" (some cleanExit)] ++ workerCalls "w2" 5)
      (fun state => (state.store.statusOf "job",
        (platform.guardedRun (fun state label => untimedCrashStop state label = true) state
          (scanCalls "s1" 1)).map fun next => next.store.statusOf "job"))
      (some .completed, some (some .pending)) (by decide)
    obtain ⟨ended, continues⟩ := Prod.mk.inj seen
    obtain ⟨next, executed, reset⟩ := Option.map_eq_some_iff.mp continues
    exact ⟨state, next, run, Machine.runs_iff_guardedRun.mpr executed, ended, reset⟩

/--
Where no scan outlives its lock, every pending payload belongs to a PENDING row.

So a claim always matches exactly one row, and the branch behind a rejected claim is not reached.
-/
theorem pending_payloads_claimable {trace : List Label} {state : Platform}
    (run : LockKeptRuns .initial trace state) :
    (∀ job, .payload job ∈ state.store.pending →
      state.store.statusOf job.jobId = some .pending) ∧
    (∀ worker job, state.workers worker = .running (.claim job) →
      (state.store.claimable job.jobId).length = 1) ∧
    ∀ worker job, state.workers worker ≠ .running (.statusCheck job) ∧
      state.workers worker ≠ .running (.repush job) ∧
      state.workers worker ≠ .running (.discard job) := by
  -- The pending list and the claiming worker rely on exactly this.
  have orderly := Orderly.reached run.crashStop.clean
  refine ⟨?_, fun worker job running => orderly.worker_claims running, ?_⟩
  · intro job queued
    have waiting : state.store.recordOf job.jobId = some (.pending, job.retryCount) :=
      orderly.sound.relied _ _ _ (.queued queued)
    rw [Store.statusOf_eq, waiting]
    rfl
  · intro worker job
    exact ⟨fun running => orderly.worker_possible running rfl,
      fun running => orderly.worker_possible running rfl,
      fun running => orderly.worker_possible running rfl⟩

/-- The guarantee in a run that has requeued a crashed worker's job. -/
theorem pending_payloads_claimable_example : ∃ state,
    LockKeptRuns .initial (submission "job" ++ takingUp "w1" ++ [.workerCrash "w1"] ++
      detecting "s" "w1" ++ scanCalls "s" 4) state ∧
    state.store.pending.length = 1 ∧ ∀ job, .payload job ∈ state.store.pending →
      state.store.statusOf job.jobId = some .pending := by
  -- The run is executed, and the status is the guarantee's.
  obtain ⟨state, run, queued⟩ := Machine.runs_of_guardedRun platform
    (fun state label => untimedCrashStop state label = true ∧ lockOutlasts state label = true)
    Platform.initial (submission "job" ++ takingUp "w1" ++ [.workerCrash "w1"] ++
      detecting "s" "w1" ++ scanCalls "s" 4)
    (fun state => state.store.pending.length) 1 (by decide)
  exact ⟨state, run, queued, (pending_payloads_claimable run).1⟩

/--
A scan that outlives its lock leaves a pending payload under a RUNNING row, whose claim is refused.

The worker that pops it next gets to the branch of the state machine race, and pushes it again.
-/
theorem outlived_lock_strands_payload : ∃ state next,
    platform.Runs (fun state label => untimedCrashStop state label = true) .initial
      (outlivedRun ++ scanCalls "s1" 2 ++ takingUp "w2") state ∧
    platform.Runs (fun state label => untimedCrashStop state label = true) state
      (.workerStart "w3" :: workerCalls "w3" 3) next ∧
    .payload ((submittedPayload "job").withRetry 1) ∈ state.store.pending ∧
    state.store.statusOf "job" = some .running ∧
    next.workers "w3" = .running (.repush ((submittedPayload "job").withRetry 1)) := by
  -- Each scan has pushed a copy, and the first copy has been claimed.
  obtain ⟨state, run, seen⟩ := Machine.runs_of_guardedRun platform
    (fun state label => untimedCrashStop state label = true) Platform.initial
    (outlivedRun ++ scanCalls "s1" 2 ++ takingUp "w2")
    (fun state => (state.store.pending, state.store.statusOf "job",
      (platform.guardedRun (fun state label => untimedCrashStop state label = true) state
        (.workerStart "w3" :: workerCalls "w3" 3)).map fun next => next.workers "w3"))
    ([.payload ((submittedPayload "job").withRetry 1)], some .running,
      some (.running (.repush ((submittedPayload "job").withRetry 1)))) (by decide)
  simp only [Prod.mk.injEq] at seen
  obtain ⟨queued, claimed, continues⟩ := seen
  obtain ⟨next, executed, refused⟩ := Option.map_eq_some_iff.mp continues
  exact ⟨state, next, run, Machine.runs_iff_guardedRun.mpr executed, by simp [queued], claimed, refused⟩

end CodeExecution

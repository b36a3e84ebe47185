import CodeExecution.Proofs.Executors

/-! Crash-stop runs: no retry path is entered, so they are orderly, and no open job is lost. -/

namespace CodeExecution

variable {state next : Platform} {label : Label} {trace : List Label}

/-! ## Routine program points -/

/-- The points a worker stands at while no call rejects and no sandbox fails. -/
def WorkerPoint.routine : WorkerPoint → Bool
  | .pop | .claim _ | .statusCheck _ | .repush _ | .discard _ | .launch _ | .executing _
  | .acknowledge _ | .complete _ _ _ => true
  | .persist call _ _ => call ≠ .rollback
  | .requeue _ _ | .exhausted _ | .deadLetter _ _ | .deadLetterPush _
  | .deadLetterComplete _ _ _ => false

/-- The points a handler stands at while no call rejects and no gateway dies. -/
def PostPoint.routine : PostPoint → Bool
  | .idle | .insert _ | .enqueue _ | .depth _ | .answered _ => true
  | .markFailed _ | .insertFailure _ | .crashed => false

/-- No worker is on the retry path, and no handler in its catch block. -/
structure Routine (state : Platform) : Prop where
  workers : ∀ worker point, state.workers worker = .running point → point.routine = true
  posts : ∀ jobId, (state.posts jobId).routine = true

/-- Calls that resolve stay on the routine path of a worker. -/
theorem WorkerPoint.routine_resolve {worker : WorkerId} {before point : WorkerPoint}
    {store after : Store} (resolved : before.resolve worker store = some (point, after))
    (routine : before.routine = true) : point.routine = true := by
  -- The routine points are closed under the calls of the loop.
  cases WorkerPoint.resolve_cases resolved with
  | rollback | requeueUpdate | requeuePush | exhausted | letterConnect | letterBegin | letterUpdate
  | letterInsert | letterCommit | sendLetter | letterComplete =>
    simp [WorkerPoint.routine] at routine
  | _ => rfl

/-- Calls that resolve stay on the routine path of a handler. -/
theorem PostPoint.routine_resolve {before : PostPoint} {store : Store} {after : PostPoint × Store}
    (resolved : before.resolve store = some after) (routine : before.routine = true) :
    after.1.routine = true := by
  -- Only the catch block leads elsewhere.
  obtain ⟨next, later⟩ := after
  cases PostPoint.resolve_cases resolved with
  | insert | enqueue | depth => rfl
  | markFailed | insertFailure => simp [PostPoint.routine] at routine

/-- Crash-stop steps keep all processes on their routine paths. -/
theorem Routine.step (routine : Routine state) (setting : crashStop state label = true)
    (stepped : platform.step state label = some next) : Routine next where
  workers := by
    -- No call rejects, and no launch fails.
    intro worker point running
    rcases Platform.step_worker stepped running with
      ⟨before, _⟩ | ⟨outcome, before, after, rfl, runs, went, rfl⟩ | ⟨job, rfl, runs, rfl, rfl⟩ |
      ⟨result, before, rfl, runs, settled, rfl⟩ | ⟨rfl, _, rfl, rfl⟩
    · exact routine.workers worker point before
    · obtain rfl : outcome = .resolves := by simpa [crashStop, launchFaults] using setting
      exact WorkerPoint.routine_resolve went (routine.workers worker before runs)
    · rfl
    · obtain ⟨result, rfl⟩ := Option.isSome_iff_exists.mp setting
      cases before with
      | executing job => obtain rfl := Option.some.inj settled; rfl
      | _ => simp [WorkerPoint.sandboxSettled] at settled
    · rfl
  posts := by
    -- No call rejects, and no gateway dies.
    intro jobId
    rcases Platform.step_post stepped jobId with
      ⟨same, _⟩ | ⟨code, language, userId, rfl, _, rfl⟩ | ⟨outcome, after, rfl, went, rfl⟩ | ⟨rfl, _⟩
    · rw [same]; exact routine.posts jobId
    · simp [receivePost, PostPoint.routine]
    · obtain rfl : outcome = .resolves := by simpa [crashStop, launchFaults] using setting
      simpa using PostPoint.routine_resolve went (routine.posts jobId)
    · simp [crashStop, launchFaults] at setting

/-- On the routine path, a crash never falls between two copies of a job. -/
theorem Routine.cleanlySupervised (routine : Routine state) (setting : crashStop state label = true) :
    cleanlySupervised state label := by
  -- Nobody is about to remove the old element of a requeued job.
  cases label with
  | workerCrash worker =>
    refine ⟨rfl, ?_⟩
    show cleanCrash state worker = true
    unfold cleanCrash
    split
    · next job running => simpa [WorkerPoint.routine] using routine.workers worker _ running
    · rfl
  | gateway key outcome | worker worker outcome | scan lockId outcome =>
    obtain rfl : outcome = .resolves := by simpa [crashStop, launchFaults] using setting
    exact ⟨rfl, rfl⟩
  | detect _ _ _ | lockExpires => exact ⟨setting, rfl⟩
  | gatewayCrash _ | scanDies _ | startupBegin | startup _ | startupSelect _ =>
    simp [crashStop, launchFaults, supervised] at setting
  | _ => exact ⟨rfl, rfl⟩

/-- The runs of the crash-stop setting. -/
abbrev CrashStopRuns (start : Platform) (trace : List Label) (state : Platform) : Prop :=
  platform.Runs (fun state label => crashStop state label = true) start trace state

/-- Runs in which scans may take any time, and whose steps all keep the lock for its scan. -/
abbrev LockKeptRuns (start : Platform) (trace : List Label) (state : Platform) : Prop :=
  platform.Runs (fun state label => untimedCrashStop state label = true ∧ lockOutlasts state label = true)
    start trace state

/-- They are the crash-stop runs. -/
theorem LockKeptRuns.crashStop {start : Platform} (run : LockKeptRuns start trace state) :
    CrashStopRuns start trace state :=
  run.imp fun _ _ => crashStop_iff.mpr

/-- Crash-stop runs stay on the routine paths. -/
theorem Routine.reached (run : CrashStopRuns .initial trace state) : Routine state := by
  -- Nothing has started at first.
  refine run.preserves Routine ⟨?_, fun _ => rfl⟩ fun _ _ _ routine setting stepped =>
    routine.step setting stepped
  intro worker point running
  simp [Platform.initial] at running

/-- Crash-stop runs are supervised runs with clean failures. -/
theorem CrashStopRuns.clean (run : CrashStopRuns .initial trace state) :
    platform.Runs CodeExecution.cleanlySupervised .initial trace state :=
  run.weaken Routine (fun _ _ earlier => Routine.reached earlier)
    fun _ _ routine setting => routine.cleanlySupervised setting

/-- The same from any state that a crash-stop run has reached. -/
theorem CrashStopRuns.clean_later {middle : Platform} {later : List Label}
    (run : CrashStopRuns .initial trace middle) (continued : CrashStopRuns middle later state) :
    platform.Runs CodeExecution.cleanlySupervised middle later state :=
  continued.weaken Routine (fun _ _ earlier => Routine.reached (run.append earlier))
    fun _ _ routine setting => routine.cleanlySupervised setting

end CodeExecution

import CodeExecution.Guarantees.Recovery

/-! Bounded attempts: how often a job is started, and when it is given up. -/

namespace CodeExecution

/--
Where no scan outlives its lock, the attempts at each job are bounded by the crashes of its holders.

A job is dead-lettered after exactly one crash more than there are retries, and the pending payload
counts the retries that the row counts.
-/
theorem attempts_bounded {trace : List Label} {state : Platform}
    (run : LockKeptRuns .initial trace state) (jobId : JobId) :
    startsOf jobId (platform.observe notices .initial trace) ≤
      1 + crashesOf jobId (platform.observe notices .initial trace) ∧
    startsOf jobId (platform.observe notices .initial trace) ≤ maxRetryCount + 1 ∧
    (∀ letter ∈ state.store.deadLetter, letter.jobId = jobId →
      crashesOf jobId (platform.observe notices .initial trace) = maxRetryCount + 1) ∧
    ∀ job, .payload job ∈ state.store.pending → job.jobId = jobId →
      (state.store.submissions.lookup jobId).map SubmissionRow.retryCount = some job.retryCount := by
  -- The job's own run of attempts has balanced counts.
  have run := run.crashStop
  have orderly := Orderly.reached (CrashStopRuns.clean run)
  obtain ⟨events, attempt, lived, located, starts, crashes⟩ := platform_refines_attempts run jobId
  have balanced := Attempt.Balanced.reached lived
  rw [starts, crashes] at balanced
  refine ⟨balanced.bounded.1, balanced.bounded.2, ?_, ?_⟩
  · intro letter member same
    subst same
    -- A job with a letter is closed, and of the two ends only the burial sends one.
    have lettered : Lettered state letter.jobId := .inl ⟨letter, member, rfl⟩
    have buried : attempt = .buried := located.buried_of_lettered run lettered
    rw [buried] at balanced
    exact balanced.1
  · intro job queued same
    subst same
    have waiting : state.store.recordOf job.jobId = some (.pending, job.retryCount) :=
      orderly.sound.relied _ _ _ (.queued queued)
    obtain ⟨row, found, same⟩ := Option.map_eq_some_iff.mp waiting
    rw [found]
    exact congrArg some (Prod.mk.inj same).2

/-- A worker takes the oldest pending job and crashes before it claims it. -/
def crashWithJob (worker : WorkerId) : List Label :=
  [.workerStart worker, .worker worker .resolves, .workerCrash worker]

/-- Four workers crash with the job, which is requeued three times and then dead-lettered. -/
def buriedRun : List Label :=
  submission "job" ++ crashWithJob "w1" ++ detecting "s1" "w1" ++ scanCalls "s1" 6 ++
    crashWithJob "w2" ++ detecting "s2" "w2" ++ scanCalls "s2" 6 ++
    crashWithJob "w3" ++ detecting "s3" "w3" ++ scanCalls "s3" 6 ++
    crashWithJob "w4" ++ detecting "s4" "w4" ++ scanCalls "s4" 8

/-- The bound is met in a run that dead-letters its job. -/
theorem attempts_bounded_example : ∃ state, LockKeptRuns .initial buriedRun state ∧
    state.store.deadLetter.map DLQPayload.jobId = ["job"] ∧
    crashesOf "job" (platform.observe notices .initial buriedRun) = maxRetryCount + 1 := by
  -- The run is executed up to the letter, and the count is the guarantee's.
  obtain ⟨state, run, sent⟩ := Machine.runs_of_guardedRun platform
    (fun state label => untimedCrashStop state label = true ∧ lockOutlasts state label = true)
    Platform.initial buriedRun (fun state => state.store.deadLetter.map DLQPayload.jobId) ["job"] (by decide)
  obtain ⟨letter, listed, same⟩ : ∃ letter, state.store.deadLetter = [letter] ∧ letter.jobId = "job" := by
    simpa [List.map_eq_singleton_iff] using sent
  exact ⟨state, run, sent, (attempts_bounded run "job").2.2.1 letter (by simp [listed]) same⟩

/-- A scan that outlives its lock has a job started three times after one crash. -/
theorem outlived_lock_adds_attempts : ∃ state,
    platform.Runs (fun state label => untimedCrashStop state label = true) .initial
      (outlivedRun ++ takingUp "w2" ++ scanCalls "s1" 2 ++ takingUp "w3") state ∧
    startsOf "job" (platform.observe notices .initial
      (outlivedRun ++ takingUp "w2" ++ scanCalls "s1" 2 ++ takingUp "w3")) = 3 ∧
    crashesOf "job" (platform.observe notices .initial
      (outlivedRun ++ takingUp "w2" ++ scanCalls "s1" 2 ++ takingUp "w3")) = 1 := by
  -- Both scans have requeued the one element that the crash has left.
  obtain ⟨state, run, _⟩ := Machine.runs_of_guardedRun platform
    (fun state label => untimedCrashStop state label = true) Platform.initial
    (outlivedRun ++ takingUp "w2" ++ scanCalls "s1" 2 ++ takingUp "w3") (fun _ => ()) () (by decide)
  exact ⟨state, run, by decide, by decide⟩

end CodeExecution

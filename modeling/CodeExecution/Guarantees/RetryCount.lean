import CodeExecution.Proofs.RetryCounts

/-! The retry counts of the rows: when they never go back. -/

namespace CodeExecution

/-- The `retry_count` that a reader finds. -/
def Store.retryCountOf (store : Store) (jobId : JobId) : Option Nat :=
  (store.submissions.lookup jobId).map SubmissionRow.retryCount

/-- It is one of the two decisive columns. -/
theorem Store.retryCountOf_eq (store : Store) (jobId : JobId) :
    store.retryCountOf jobId = (store.recordOf jobId).map Prod.snd := by
  simp [retryCountOf, recordOf, Function.comp_def]

/--
Where workers crash cleanly, no retry count ever decreases or exceeds the limit.

The first run leads to an earlier moment, and the second one from there to a later moment.
-/
theorem retry_count_monotone {trace later : List Label} {state next : Platform}
    (run : CleanCrashRuns Platform.initial trace state) (continued : CleanCrashRuns state later next)
    (jobId : JobId) :
    (∀ retryCount, state.store.retryCountOf jobId = some retryCount →
      ∃ retryCount', next.store.retryCountOf jobId = some retryCount' ∧ retryCount ≤ retryCount') ∧
    ∀ retryCount, next.store.retryCountOf jobId = some retryCount → retryCount ≤ maxRetryCount := by
  constructor
  · -- The induction is on the later run, and every step of it lets the count grow.
    intro retryCount counted
    refine continued.preserves_trace (fun _ reached => ∃ retryCount',
      reached.store.retryCountOf jobId = some retryCount' ∧ retryCount ≤ retryCount')
      ⟨retryCount, counted, le_refl _⟩ ?_
    rintro earlier reached label after before ⟨retryCount', found, grown⟩ permitted stepped
    have whole : CleanCrashRuns Platform.initial (trace ++ earlier) reached := run.append before
    rw [Store.retryCountOf_eq] at found
    obtain ⟨⟨status, _⟩, record, rfl⟩ := Option.map_eq_some_iff.mp found
    obtain ⟨status', count, record', onward⟩ :=
      (Counted.reached whole).grows whole.orderly permitted stepped record
    exact ⟨count, by simp [Store.retryCountOf_eq, record'], grown.trans onward⟩
  · intro retryCount counted
    rw [Store.retryCountOf_eq] at counted
    obtain ⟨⟨status, _⟩, record, rfl⟩ := Option.map_eq_some_iff.mp counted
    exact (Counted.reached (run.append continued)).rows jobId status _ record

/-- A job whose sandbox fails, and which its worker requeues. -/
def requeuedOnce : List Label :=
  submission "job" ++ takingUp "w1" ++ [.sandbox "w1" none] ++ workerCalls "w1" 3

/-- The guarantee for a job that is requeued by a worker, and then by a scan. -/
theorem retry_count_monotone_example : ∃ state next,
    CleanCrashRuns Platform.initial requeuedOnce state ∧
    state.store.retryCountOf "job" = some 1 ∧
    CleanCrashRuns state (takingUp "w2" ++ [.workerCrash "w2"] ++ detecting "s" "w2" ++
      scanCalls "s" 6) next ∧
    ∃ retryCount, next.store.retryCountOf "job" = some retryCount ∧ 1 ≤ retryCount := by
  -- Both runs are executed, and the second count is compared by the guarantee.
  obtain ⟨state, run, read⟩ := Machine.runs_of_guardedRun platform
    (fun state label => crashesCleanly state label = true) Platform.initial requeuedOnce
    (fun state => (state.store.retryCountOf "job",
      (platform.guardedRun (fun state label => crashesCleanly state label = true) state
        (takingUp "w2" ++ [.workerCrash "w2"] ++ detecting "s" "w2" ++ scanCalls "s" 6)).isSome))
    (some 1, true) (by decide)
  obtain ⟨counted, continues⟩ := Prod.mk.inj read
  obtain ⟨next, executed⟩ := Option.isSome_iff_exists.mp continues
  have continued := Machine.runs_iff_guardedRun.mpr executed
  exact ⟨state, next, run, counted, continued, (retry_count_monotone run continued "job").1 1 counted⟩

/-- A worker that pushes the next copy of its job, and dies before it removes the old one. -/
def staleCopy : List Label :=
  submission "job" ++ takingUp "w1" ++ [.sandbox "w1" none] ++ workerCalls "w1" 2 ++
    [.workerCrash "w1"]

/-- A retry count goes back from two to one when a scan finds an old copy of a requeued job. -/
theorem retry_count_decreases : ∃ state next,
    platform.Runs (fun state label => launchFaults state label = true) Platform.initial
      (staleCopy ++ takingUp "w2" ++ [.sandbox "w2" none] ++ workerCalls "w2" 1) state ∧
    state.store.retryCountOf "job" = some 2 ∧
    platform.Runs (fun state label => launchFaults state label = true) state
      (detecting "s" "w1" ++ scanCalls "s" 3) next ∧
    next.store.retryCountOf "job" = some 1 := by
  -- The element in the dead list still counts zero, although the job has been retried twice.
  obtain ⟨state, run, read⟩ := Machine.runs_of_guardedRun platform
    (fun state label => launchFaults state label = true) Platform.initial
    (staleCopy ++ takingUp "w2" ++ [.sandbox "w2" none] ++ workerCalls "w2" 1)
    (fun state => (state.store.retryCountOf "job",
      (platform.guardedRun (fun state label => launchFaults state label = true) state
        (detecting "s" "w1" ++ scanCalls "s" 3)).map fun next => next.store.retryCountOf "job"))
    (some 2, some (some 1)) (by decide)
  obtain ⟨counted, continues⟩ := Prod.mk.inj read
  obtain ⟨next, executed, decreased⟩ := Option.map_eq_some_iff.mp continues
  exact ⟨state, next, run, counted, Machine.runs_iff_guardedRun.mpr executed, decreased⟩

end CodeExecution

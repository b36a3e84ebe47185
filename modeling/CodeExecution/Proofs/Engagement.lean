import CodeExecution.Settings

/-! Workers between the claim of a job and the end of its result transaction. -/

namespace CodeExecution

/-- The job a worker has claimed and not yet committed. -/
def WorkerPoint.engaged? : WorkerPoint → Option JobId
  | .launch job | .executing job | .persist _ job _ => some job.jobId
  | _ => none

/-- The retry path starts behind no claim. -/
@[simp] theorem requeueWithBackoff_engaged (job : QueuePayload) :
    (requeueWithBackoff job).engaged? = none := by
  -- Neither branch is between a claim and a commit.
  unfold requeueWithBackoff
  split <;> rfl

/-- A worker becomes engaged by its claim, and stays engaged without writing a row. -/
theorem WorkerPoint.engaged_resolve {worker : WorkerId} {before point : WorkerPoint}
    {store after : Store} (resolved : before.resolve worker store = some (point, after))
    {jobId : JobId} (engaged : point.engaged? = some jobId) :
    (∃ job, before = .claim job ∧ job.jobId = jobId ∧ (store.claimable jobId).length ≠ 0 ∧
      after = store.claim jobId) ∨
    (before.engaged? = some jobId ∧ after = store) := by
  -- Only the claim and the statements of the transaction lead to an engaged point.
  cases WorkerPoint.resolve_cases resolved with
  | @claim job claimable =>
    obtain rfl : job.jobId = jobId := by simpa [WorkerPoint.engaged?] using engaged
    exact .inl ⟨job, rfl, rfl, claimable, rfl⟩
  | connect | begin | insertResult | updateStatus => exact .inr ⟨engaged, rfl⟩
  | rollback => simp at engaged
  | _ => simp [WorkerPoint.engaged?] at engaged

/-- A failed call leaves a worker engaged only on its way to a rollback. -/
theorem WorkerPoint.engaged_handler {before point : WorkerPoint}
    (handled : before.handler = some point) {jobId : JobId}
    (engaged : point.engaged? = some jobId) :
    ∃ call job result, before = .persist call job result ∧ job.jobId = jobId := by
  -- The retry path and the loop are not engaged.
  cases before with
  | persist call job result =>
    cases call with
    | connect | rollback =>
      obtain rfl := Option.some.inj handled
      simp at engaged
    | _ =>
      obtain rfl := Option.some.inj handled
      exact ⟨_, job, result, rfl, Option.some.inj engaged⟩
  | deadLetter call letter =>
    cases call <;> obtain rfl := Option.some.inj handled <;>
      simp [WorkerPoint.engaged?] at engaged
  | launch job | executing job => simp [WorkerPoint.handler] at handled
  | claim job | statusCheck job | repush job | discard job | acknowledge job | complete _ _ job =>
    obtain rfl := Option.some.inj handled
    simp at engaged
  | _ =>
    obtain rfl := Option.some.inj handled
    simp [WorkerPoint.engaged?] at engaged

variable {state next : Platform} {label : Label} {jobId : JobId}

/-- Some worker is engaged in the job. -/
def Engaged (state : Platform) (jobId : JobId) : Prop :=
  ∃ worker point, state.workers worker = .running point ∧ point.engaged? = some jobId

/-- A worker becomes engaged by a claim that finds the row PENDING, and leaves it RUNNING. -/
theorem Platform.step_engaged (stepped : state.step label = some next)
    (engaged : Engaged next jobId) :
    Engaged state jobId ∨
      ∃ retryCount, next.store.recordOf jobId = some (.running, retryCount) := by
  -- All other ways to be engaged start from an engaged worker.
  obtain ⟨worker, point, running, behind⟩ := engaged
  rcases Platform.step_worker stepped running with ⟨same, _⟩ |
    ⟨outcome, before, after, rfl, was, went, rfl⟩ | ⟨job, rfl, was, rfl, rfl⟩ |
    ⟨result, before, rfl, was, settled, rfl⟩ | ⟨rfl, was, rfl, rfl⟩
  · exact .inl ⟨worker, point, same, behind⟩
  · rcases awaitCall_cases went with ⟨_, resolved⟩ | ⟨_, _, handled, same⟩ |
      ⟨_, _, _, _, handled, same⟩
    · rcases WorkerPoint.engaged_resolve resolved behind with
        ⟨job, rfl, rfl, matched, rfl⟩ | ⟨earlier, _⟩
      · have waiting : state.store.statusOf job.jobId = some .pending := by
          simpa [Store.claimable_length] using matched
        rw [Store.statusOf_eq] at waiting
        obtain ⟨⟨status, retryCount⟩, found, isPending⟩ := Option.map_eq_some_iff.mp waiting
        obtain rfl : status = .pending := isPending
        exact .inr ⟨retryCount, by simp [found]⟩
      · exact .inl ⟨worker, before, was, earlier⟩
    all_goals
      obtain ⟨rfl, _⟩ := Prod.mk.inj same
      obtain ⟨call, job, result, rfl, isJob⟩ := WorkerPoint.engaged_handler handled behind
      exact .inl ⟨worker, _, was, congrArg some isJob⟩
  · exact .inl ⟨worker, _, was, behind⟩
  · unfold WorkerPoint.sandboxSettled at settled
    split at settled
    · split at settled <;> obtain rfl := Option.some.inj settled
      · exact .inl ⟨worker, _, was, behind⟩
      · simp at behind
    · simp at settled
  · simp [WorkerPoint.engaged?] at behind

/-- A sandbox is started by an engaged worker. -/
theorem engaged_of_starts (starts : startsOf jobId (notices state label) ≠ 0) :
    Engaged state jobId := by
  -- A sandbox is started by its launch, whose worker has claimed the job.
  cases label with
  | launch worker =>
    simp only [notices] at starts
    split at starts
    · next job running =>
      by_cases same : job.jobId = jobId
      · exact ⟨worker, .launch job, running, congrArg some same⟩
      · simp [startsOf, same] at starts
    · simp at starts
  | workerCrash worker => simp [notices, startsOf_crash] at starts
  | _ => simp [notices] at starts

end CodeExecution

import CodeExecution.Proofs.AttemptRuns

/-! In crash-stop runs every enqueued job that is not over is on some list, and has one worker at most. -/

namespace CodeExecution

variable {state next : Platform} {label : Label} {jobId : JobId}

/-! ## Enqueued jobs -/

/-- The handler has pushed the payload, and no failure has been noticed. -/
def PostPoint.pushed : PostPoint → Bool
  | .depth _ => true
  | .answered code => code = 201
  | .idle | .insert _ | .enqueue _ | .markFailed _ | .insertFailure _ | .crashed => false

/-- A job that has been sent is over, or some list has an element of it. -/
theorem Located.closed_or_listed (orderly : Orderly state) {attempt : Attempt}
    (located : Located state jobId attempt) (sent : (state.posts jobId).unsent = false) :
    (state.store.recordOf jobId).IsClosed ∨ jobId ∈ jobsIn state.store.pending ∨
      ∃ worker, jobId ∈ jobsIn (state.store.processing worker) := by
  -- Each place between the push and the end has the one element that is left to act on.
  cases attempt with
  | unsent => simp [Located, sent] at located
  | waiting retryCount =>
    obtain ⟨job, queued, rfl, _⟩ := located
    exact .inr (.inl (mem_jobsIn.mpr ⟨job, queued, rfl⟩))
  | taken retryCount started =>
    obtain ⟨worker, point, job, running, taken, rfl, _⟩ := located
    have member := orderly.ownListed worker point job running (WorkerPoint.taken_facts taken).1
    exact .inr (.inr ⟨worker, mem_jobsIn.mpr ⟨job, member, rfl⟩⟩)
  | orphaned retryCount =>
    obtain ⟨worker, job, _, member, _, _, rfl, _⟩ := located
    exact .inr (.inr ⟨worker, mem_jobsIn.mpr ⟨job, member, rfl⟩⟩)
  | ended => exact .inl located.1
  | buried => exact .inl located.1

/-- In every crash-stop run, every enqueued job that is not over is on some list. -/
theorem enqueued_listed {trace : List Label} (run : CrashStopRuns .initial trace state)
    (pushed : (state.posts jobId).pushed = true)
    (notTerminal : isTerminalStatus (state.store.statusOf jobId) = false) :
    jobId ∈ jobsIn state.store.pending ∨
      ∃ worker, jobId ∈ jobsIn (state.store.processing worker) := by
  -- The job stands at one of its attempts, and it is not over.
  have sent : (state.posts jobId).unsent = false := by
    cases at_ : state.posts jobId <;> simp [at_, PostPoint.pushed, PostPoint.unsent] at pushed ⊢
  obtain ⟨_, attempt, _, located, _⟩ := platform_refines_attempts run jobId
  rcases located.closed_or_listed (Orderly.reached (CrashStopRuns.clean run)) sent with closed | listed
  · simp [Store.terminal_iff_closed.mpr closed] at notTerminal
  · exact listed

/-! ## One unacknowledged worker for each job -/

/-- The job a worker has claimed and whose element it has not acknowledged. -/
def WorkerPoint.unacknowledged? : WorkerPoint → Option JobId
  | .acknowledge job => some job.jobId
  | point => point.engaged?

/-- An unacknowledged job is engaged, or committed. -/
theorem WorkerPoint.unacknowledged_cases {point : WorkerPoint}
    (holding : point.unacknowledged? = some jobId) :
    point.engaged? = some jobId ∨ ∃ job, point = .acknowledge job ∧ job.jobId = jobId := by
  -- The acknowledgement follows the commit.
  cases point with
  | acknowledge job => exact .inr ⟨job, rfl, Option.some.inj holding⟩
  | _ => exact .inl holding

/-- Only the commit leads to the acknowledgement. -/
theorem WorkerPoint.acknowledge_resolve {worker : WorkerId} {before : WorkerPoint}
    {job : QueuePayload} {store after : Store}
    (resolved : before.resolve worker store = some (.acknowledge job, after)) :
    ∃ result, before = .persist .commit job result := by
  -- All other calls continue elsewhere, also those of the retry path.
  generalize isNext : WorkerPoint.acknowledge job = next at resolved
  cases WorkerPoint.resolve_cases resolved with
  | @commit own result =>
    obtain rfl := WorkerPoint.acknowledge.inj isNext
    exact ⟨result, rfl⟩
  | rollback =>
    unfold requeueWithBackoff at isNext
    split at isNext <;> simp at isNext
  | _ => simp at isNext

/-- No two live workers have the same job unacknowledged. -/
def SoleHolders (state : Platform) : Prop :=
  ∀ first second point point' jobId, state.workers first = .running point →
    state.workers second = .running point' → point.unacknowledged? = some jobId →
    point'.unacknowledged? = some jobId → first = second

/-- Two workers at the acknowledgement of one job cannot have got there one after the other. -/
theorem SoleHolders.step (sole : SoleHolders state) (orderly : Orderly state)
    (orderly' : Orderly next) (setting : crashStop state label = true)
    (stepped : platform.step state label = some next) : SoleHolders next := by
  intro first second point point' jobId running running' holding holding'
  by_contra different
  -- An engaged worker keeps the job open, and has it alone.
  have not_engaged : ∀ owner other at_ at_', owner ≠ other →
      next.workers owner = .running at_ → next.workers other = .running at_' →
      at_.engaged? = some jobId → at_'.unacknowledged? = some jobId → False := by
    intro owner other at_ at_' apart runs runs' engaged holds
    have staked : Stake next (.worker owner) jobId .active :=
      .working runs (WorkerPoint.engaged_reliance engaged)
    have isOpen : (next.store.recordOf jobId).IsOpen := orderly'.sound.relied _ _ _ staked
    rcases WorkerPoint.unacknowledged_cases holds with engaged' | ⟨job, rfl, rfl⟩
    · have staked' : Stake next (.worker other) jobId .active :=
        .working runs' (WorkerPoint.engaged_reliance engaged')
      exact apart (by simpa using orderly'.sound.exclusive _ isOpen _ _ _ _ staked staked')
    · have closed : (next.store.recordOf job.jobId).IsClosed :=
        orderly'.sound.relied _ _ _ (.working runs' rfl)
      exact closed.not_open isOpen
  rcases WorkerPoint.unacknowledged_cases holding with engaged | ⟨job, rfl, rfl⟩
  · exact not_engaged first second _ _ different running running' engaged holding'
  rcases WorkerPoint.unacknowledged_cases holding' with engaged' | ⟨job', rfl, same⟩
  · exact not_engaged second first _ _ (Ne.symm different) running' running engaged' holding
  -- The one that has just committed had the job open, against the other's acknowledgement.
  have not_moved : ∀ owner other own others, owner ≠ other → own.jobId = others.jobId →
      next.workers owner = .running (.acknowledge own) →
      next.workers other = .running (.acknowledge others) →
      state.workers owner = .running (.acknowledge own) := by
    intro owner other own others apart equal runs runs'
    rcases Platform.step_worker stepped runs with
      ⟨before, _⟩ | ⟨outcome, before, after, rfl, was, went, rfl⟩ | ⟨_, _, _, impossible, _⟩ |
      ⟨result, before, _, _, settled, _⟩ | ⟨_, _, impossible, _⟩
    · exact before
    · obtain rfl : outcome = .resolves := by simpa [crashStop, launchFaults] using setting
      obtain ⟨result, rfl⟩ := WorkerPoint.acknowledge_resolve went
      have wasThere : state.workers other = .running (.acknowledge others) := by
        simpa [Ne.symm apart] using runs'
      have isOpen : (state.store.recordOf own.jobId).IsOpen :=
        orderly.sound.relied _ _ _ (.working was rfl)
      have closed : (state.store.recordOf others.jobId).IsClosed :=
        orderly.sound.relied _ _ _ (.working wasThere rfl)
      exact absurd isOpen (equal ▸ closed.not_open)
    · simp at impossible
    · cases before with
      | executing job =>
        cases result with
        | some result => simp [WorkerPoint.sandboxSettled] at settled
        | none =>
          simp only [WorkerPoint.sandboxSettled, requeueWithBackoff, Option.some.injEq] at settled
          split at settled <;> simp at settled
      | _ => simp [WorkerPoint.sandboxSettled] at settled
    · simp at impossible
  have was := not_moved first second job job' different same.symm running running'
  have was' := not_moved second first job' job (Ne.symm different) same running' running
  exact different (sole first second _ _ job.jobId was was' rfl (congrArg some same))

/-- In every crash-stop run, unacknowledged jobs have one live worker each. -/
theorem SoleHolders.reached {trace : List Label} (run : CrashStopRuns .initial trace state) :
    SoleHolders state := by
  -- No worker has started at first.
  refine run.preserves_trace (fun _ reached => SoleHolders reached) ?_ ?_
  · intro first second point point' jobId running
    simp [Platform.initial] at running
  · intro _ _ _ _ earlier sole setting stepped
    exact sole.step (Orderly.reached (CrashStopRuns.clean earlier))
      (Orderly.reached (CrashStopRuns.clean (.snoc earlier setting stepped))) setting stepped

/-! ## One engaged worker for each job -/

/-- Engaged workers have their jobs alone. -/
def SoleEngaged (state : Platform) : Prop :=
  ∀ first second point point' jobId, state.workers first = .running point →
    state.workers second = .running point' → point.engaged? = some jobId →
    point'.engaged? = some jobId → first = second

/-- In an orderly state, engaged workers have their jobs alone. -/
theorem Orderly.soleEngaged (orderly : Orderly state) : SoleEngaged state := by
  -- Both rely on an open job.
  intro first second point point' jobId running running' engaged engaged'
  have staked : Stake state (.worker first) jobId .active :=
    .working running (WorkerPoint.engaged_reliance engaged)
  have staked' : Stake state (.worker second) jobId .active :=
    .working running' (WorkerPoint.engaged_reliance engaged')
  simpa using orderly.sound.exclusive jobId (orderly.sound.relied _ _ _ staked) _ _ _ _ staked staked'

end CodeExecution

import CodeExecution.Guarantees.QueueOrder
import CodeExecution.Proofs.Draining

/-! How long a job takes: it waits for those before it, and is over by the eighth step of its worker. -/

namespace CodeExecution

variable {state next : Platform} {label : Label} {trace rest : List Label} {worker : WorkerId}
  {job : QueuePayload} {steps : Nat} {behind ahead : List Entry}

/-! ## A job in hand -/

/-- How many of some steps are those of a worker's own program. -/
def stepsOf (worker : WorkerId) (trace : List Label) : Nat :=
  trace.countP fun label => label.mover? = some worker

/-- A worker that has popped a job goes on with it, as many steps behind the pop. -/
def InWork (worker : WorkerId) (job : QueuePayload) (steps : Nat) (state : Platform) : Prop :=
  ∃ point, state.workers worker = .running point ∧ point.listed? = some job ∧
    point.remaining + steps = 12

/-- Where the job stands: its worker has crashed, it is over after eight steps, or it is in work. -/
def Settling (worker : WorkerId) (job : QueuePayload) (steps : Nat) (state : Platform) : Prop :=
  state.workers worker = .crashed ∨ (8 ≤ steps ∧ (state.store.recordOf job.jobId).IsClosed) ∨
    InWork worker job steps state

/-- Steps of the others leave a job in work, unless its worker crashes. -/
theorem InWork.aside (works : InWork worker job steps state) (other : label.mover? ≠ some worker)
    (stepped : platform.step state label = some next) :
    next.workers worker = .crashed ∨ InWork worker job steps next := by
  obtain ⟨point, running, listed, count⟩ := works
  rcases Platform.step_running stepped running with ⟨later, onward⟩ | ⟨_, rfl⟩
  · refine .inr ⟨later, onward, ?_⟩
    -- Labels of its own program apart, the worker stands where it stood.
    rcases Platform.step_worker stepped onward with ⟨same, _⟩ | ⟨_, _, _, rfl, _⟩ | ⟨_, rfl, _⟩ |
      ⟨_, _, rfl, _⟩ | ⟨rfl, _⟩
    · obtain rfl : point = later := WorkerState.running.inj (running.symm.trans same)
      exact ⟨listed, count⟩
    all_goals exact absurd rfl other
  · exact .inl (by simp)

/-- Each step of its worker brings a job nearer to its end by one. -/
theorem CrashStopRuns.works_on (run : CrashStopRuns .initial trace state)
    (works : InWork worker job steps state) (setting : crashStop state label = true)
    (own : label.mover? = some worker) (stepped : platform.step state label = some next) :
    Settling worker job (steps + 1) next := by
  obtain ⟨point, running, listed, count⟩ := works
  have orderly := Orderly.reached run.clean
  have routine := (Routine.reached run).workers worker point running
  have single : CrashStopRuns state [label] next := .snoc .nil setting stepped
  cases Platform.step_cases stepped with
  | @workerStart mover absent =>
    obtain rfl : mover = worker := by simpa [Label.mover?] using own
    simp [running] at absent
  | @launch mover _ was =>
    obtain rfl : mover = worker := by simpa [Label.mover?] using own
    obtain rfl := WorkerState.running.inj (running.symm.trans was)
    refine .inr (.inr ⟨_, Function.update_self .., listed, ?_⟩)
    simp only [WorkerPoint.remaining] at count ⊢
    omega
  | @sandbox mover result _ after was settled =>
    obtain rfl : mover = worker := by simpa [Label.mover?] using own
    obtain rfl := WorkerState.running.inj (running.symm.trans was)
    -- Only an execution is settled by a sandbox, and it has a result.
    cases point with
    | executing held =>
      obtain ⟨ended, rfl⟩ := Option.isSome_iff_exists.mp setting
      obtain rfl := Option.some.inj settled
      refine .inr (.inr ⟨_, Function.update_self .., listed, ?_⟩)
      simp only [WorkerPoint.remaining] at count ⊢
      omega
    | _ => simp [WorkerPoint.sandboxSettled] at settled
  | @worker mover outcome before after was went =>
    obtain rfl : mover = worker := by simpa [Label.mover?] using own
    obtain rfl := WorkerState.running.inj (running.symm.trans was)
    obtain rfl : outcome = .resolves := by simpa [crashStop, launchFaults] using setting
    have resolved : point.resolve mover state.store = some after := by simpa [awaitCall] using went
    obtain ⟨reached, store⟩ := after
    cases WorkerPoint.resolve_cases resolved with
    | unclaimed unclaimable =>
      -- The claim of a popped payload always finds its row.
      have matched := orderly.worker_claims running
      omega
    | claim | connect | begin | insertResult | updateStatus | commit =>
      refine .inr (.inr ⟨_, Function.update_self .., listed, ?_⟩)
      simp only [WorkerPoint.remaining] at count ⊢
      omega
    | acknowledge =>
      -- The result is committed by then.
      obtain rfl := Option.some.inj listed
      have closed := orderly.sound.relied _ _ _ (.working running rfl)
      refine .inr (.inl ⟨?_, ?_⟩)
      · simp only [WorkerPoint.remaining] at count
        omega
      · rw [orderly.keeps_closed (run.clean_later single) closed]
        exact closed
    | duplicate | postponed | repush | discard => exact (orderly.worker_possible running rfl).elim
    | rollback | requeueUpdate | requeuePush | requeueRemove | exhausted =>
      simp [WorkerPoint.routine] at routine
    | _ => simp [WorkerPoint.listed?] at listed
  | _ => simp [Label.mover?] at own

/-- A job that settles goes on to settle, by the steps of its worker. -/
theorem CrashStopRuns.settles_on (run : CrashStopRuns .initial trace state)
    (settling : Settling worker job (stepsOf worker rest) state)
    (setting : crashStop state label = true) (stepped : platform.step state label = some next) :
    Settling worker job (stepsOf worker (rest ++ [label])) next := by
  -- A crash and the end of a job are final; only the work goes on.
  rcases settling with crashed | ⟨late, closed⟩ | works
  · exact .inl (Platform.step_crashed stepped crashed)
  · have single : CrashStopRuns state [label] next := .snoc .nil setting stepped
    have more : stepsOf worker rest ≤ stepsOf worker (rest ++ [label]) := by simp [stepsOf]
    refine .inr (.inl ⟨late.trans more, ?_⟩)
    rw [(Orderly.reached run.clean).keeps_closed (run.clean_later single) closed]
    exact closed
  · by_cases own : label.mover? = some worker
    · have counted : stepsOf worker (rest ++ [label]) = stepsOf worker rest + 1 := by
        simp [stepsOf, own]
      exact counted ▸ run.works_on works setting own stepped
    · have counted : stepsOf worker (rest ++ [label]) = stepsOf worker rest := by
        simp [stepsOf, own]
      rw [counted]
      exact (works.aside own stepped).imp_right .inr

/-- The result of a job in work is committed by the eighth step behind the pop, and by none before. -/
theorem CrashStopRuns.settled (run : CrashStopRuns .initial trace state)
    (settling : Settling worker job steps state) :
    state.workers worker = .crashed ∨ ((state.store.recordOf job.jobId).IsClosed ↔ 8 ≤ steps) := by
  rcases settling with crashed | ⟨late, closed⟩ | ⟨point, running, listed, count⟩
  · exact .inl crashed
  · exact .inr ⟨fun _ => late, fun _ => closed⟩
  · have orderly := Orderly.reached run.clean
    have routine := (Routine.reached run).workers worker point running
    have before (isOpen : (state.store.recordOf job.jobId).IsOpen) (early : steps < 8) :
        (state.store.recordOf job.jobId).IsClosed ↔ 8 ≤ steps :=
      ⟨fun closed => absurd isOpen closed.not_open, fun late => by omega⟩
    refine .inr ?_
    -- The points before the COMMIT are fewer than eight steps from the pop.
    cases point with
    | claim _ =>
      obtain rfl := Option.some.inj listed
      refine before (JobRecord.isOpen_pending (orderly.sound.relied _ _ _ (.working running rfl))) ?_
      simp only [WorkerPoint.remaining] at count
      omega
    | launch _ | executing _ =>
      obtain rfl := Option.some.inj listed
      refine before (orderly.sound.relied _ _ _ (.working running rfl)) ?_
      simp only [WorkerPoint.remaining] at count
      omega
    | persist call _ _ =>
      cases call with
      | rollback => simp [WorkerPoint.routine] at routine
      | connect | begin | insertResult | updateStatus | commit =>
        obtain rfl := Option.some.inj listed
        refine before (orderly.sound.relied _ _ _ (.working running rfl)) ?_
        simp only [WorkerPoint.remaining] at count
        omega
    | acknowledge _ =>
      -- Only the removal from the list is left.
      obtain rfl := Option.some.inj listed
      have closed := orderly.sound.relied _ _ _ (.working running rfl)
      refine ⟨fun _ => ?_, fun _ => closed⟩
      simp only [WorkerPoint.remaining] at count
      omega
    | statusCheck _ | repush _ | discard _ => exact (orderly.worker_possible running rfl).elim
    | requeue _ _ | exhausted _ => simp [WorkerPoint.routine] at routine
    | _ => simp [WorkerPoint.listed?] at listed

/-- A worker that waits at the head of its loop has the job that it takes in work. -/
theorem Platform.step_takes_up (waiting : state.workers worker = .running .pop)
    (last : state.store.pending.getLast? = some (.payload job))
    (stepped : platform.step state (.worker worker .resolves) = some next) :
    InWork worker job 0 next := by
  -- The call takes the last element of the list.
  have resolved : WorkerPoint.pop.resolve worker state.store =
      some (.claim job, state.store.moveToProcessing worker (.payload job)) := by
    simp [WorkerPoint.resolve, last]
  obtain rfl := Option.some.inj ((Platform.worker_resolves waiting resolved).symm.trans stepped)
  exact ⟨.claim job, Function.update_self .., rfl, rfl⟩

/-! ## The guarantee -/

/-- Two workers take the first and the second of two jobs, and the second job is run to its COMMIT. -/
def secondTurn : List Label :=
  takingUp "w1" ++ takingUp "w2" ++ [.sandbox "w2" (some cleanExit)] ++ workerCalls "w2" 5

end CodeExecution

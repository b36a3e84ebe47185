import CodeExecution.Proofs.JobInHand
import CodeExecution.Settings

/-! The processing list of a live worker: when it holds only the job in hand. -/

namespace CodeExecution

variable {state next : Platform} {label : Label} {worker : WorkerId}

/-- The label is a call of this worker that leaves an element parked in its list. -/
def parks (state : Platform) (worker : WorkerId) : Label → Bool
  | .worker mover outcome =>
    match state.workers mover with
    | .running point => mover = worker && point.parks worker state.store outcome
    | .absent | .crashed => false
  | _ => false

/-- A worker that has not started has no list, and a running one has the job in hand at most. -/
structure InHand (state : Platform) (worker : WorkerId) : Prop where
  absent : state.workers worker = .absent → state.store.processing worker = []
  running : ∀ point, state.workers worker = .running point →
    (state.store.processing worker).Sublist point.inHand

/-- At the head of the loop nothing is in hand. -/
theorem InHand.pop (held : InHand state worker) (pops : state.workers worker = .running .pop) :
    state.store.processing worker = [] :=
  List.sublist_nil.mp (held.running .pop pops)

/-- No other process adds to the list. -/
theorem Platform.step_processing_other (stepped : state.step label = some next)
    (other : ∀ outcome, label ≠ .worker worker outcome) :
    (next.store.processing worker).Sublist (state.store.processing worker) := by
  -- Recoveries delete it, and that is all they do.
  obtain ⟨⟨now, lock, same, _⟩, _⟩ := Platform.step_effect stepped
  rw [same]
  rcases (state.effect label).processing_cases state.store worker with
    kept | ⟨entry, pops, _⟩ | ⟨job, removes, _⟩ | ⟨_, emptied⟩
  · simp [kept]
  · obtain ⟨outcome, isLabel, _⟩ := Platform.effect_pop pops
    exact absurd isLabel (other outcome)
  · obtain ⟨outcome, _, isLabel, _⟩ := Platform.effect_remove removes
    exact absurd isLabel (other outcome)
  · simp [emptied]

/-- A step of another process keeps the worker to the job in hand. -/
theorem InHand.step_other (held : InHand state worker) (stepped : state.step label = some next)
    (other : ∀ outcome, label ≠ .worker worker outcome) : InHand next worker where
  absent idle := by
    -- A worker that has started is never absent again.
    have shrunk := Platform.step_processing_other stepped other
    cases was : state.workers worker with
    | absent => simpa [held.absent was] using shrunk
    | running point =>
      rcases Platform.step_running stepped was with ⟨later, running⟩ | ⟨_, rfl⟩
      · simp [running] at idle
      · simp at idle
    | crashed => simp [Platform.step_crashed stepped was] at idle
  running point runs := by
    -- Its sandbox is about the same payload as its claim.
    have shrunk := Platform.step_processing_other stepped other
    rcases Platform.step_worker stepped runs with ⟨was, _⟩ | ⟨outcome, _, _, isLabel, _⟩ |
      ⟨job, _, was, rfl, _⟩ | ⟨result, before, _, was, settled, _⟩ | ⟨_, was, rfl, _⟩
    · exact shrunk.trans (held.running point was)
    · exact absurd isLabel (other outcome)
    · exact shrunk.trans (held.running (.launch job) was)
    · rw [WorkerPoint.settled_inHand settled]
      exact shrunk.trans (held.running before was)
    · rw [held.absent was] at shrunk
      exact shrunk

/-- A step parks an element, or keeps the worker to the job in hand. -/
theorem InHand.step (held : InHand state worker) (stepped : state.step label = some next) :
    if parks state worker label then
      next.workers worker = .running .pop ∧ next.store.processing worker ≠ []
    else InHand next worker := by
  by_cases own : ∃ outcome, label = .worker worker outcome
  · -- The worker's own calls are the ones that can go wrong.
    obtain ⟨outcome, rfl⟩ := own
    cases Platform.step_cases stepped with
    | @worker _ _ point after running went =>
      have called := WorkerPoint.call_inHand went (held.running point running)
      have isParks : parks state worker (.worker worker outcome) =
          point.parks worker state.store outcome := by simp [parks, running]
      rw [isParks]
      split
      · next parked =>
        rw [if_pos parked] at called
        exact ⟨by simp [called.1], by simpa using called.2⟩
      · next free =>
        rw [if_neg free] at called
        refine ⟨by simp, fun later same => ?_⟩
        obtain rfl : after.1 = later := by simpa using same
        exact called
  · have other : ∀ outcome, label ≠ .worker worker outcome := by simpa using own
    have free : parks state worker label = false := by
      unfold parks
      split
      · next mover outcome =>
        have different : mover ≠ worker := by
          intro same
          subst same
          exact other outcome rfl
        split <;> simp [different]
      · rfl
    rw [free]
    exact held.step_other stepped other

/-! ## The guarantee -/

/--
A worker comes back to the head of its loop with an empty list exactly if no call parks an element.

This is so for every run after its start, whatever crashes or rejects in it.
-/
theorem list_empty_at_pop {start final : Platform} {trace : List Label}
    (absent : start.workers worker = .absent) (empty : start.store.processing worker = []) :
    platform.Runs (fun state label => ∀ next, platform.step state label = some next →
        next.workers worker = .running .pop → next.store.processing worker = [])
      start trace final ↔
    platform.Runs (fun state label => parks state worker label = false) start trace final := by
  -- Under the invariant, the list is empty at the next pop exactly if the step parks nothing.
  have begins : InHand start worker := ⟨fun _ => empty, by simp [absent]⟩
  constructor
  · intro run
    refine (run.reguard (InHand · worker) begins ?_).1
    intro state label next held clears stepped
    have went := held.step stepped
    by_cases parked : parks state worker label = true
    · rw [if_pos parked] at went
      exact absurd (clears next stepped went.1) went.2
    · rw [if_neg parked] at went
      exact ⟨by simpa using parked, went⟩
  · intro run
    refine (run.reguard (InHand · worker) begins ?_).1
    intro state label next held free stepped
    have went := held.step stepped
    rw [if_neg (by simp [free])] at went
    refine ⟨fun other stepped' pops => ?_, went⟩
    obtain rfl : next = other := Option.some.inj (stepped.symm.trans stepped')
    exact went.pop pops

/-- The guarantee for a worker that completes a job and comes back for the next one. -/
theorem list_empty_at_pop_example : ∃ final,
    platform.Runs (fun state label => ∀ next, platform.step state label = some next →
        next.workers "w" = .running .pop → next.store.processing "w" = [])
      Platform.initial
      (submission "job" ++ takingUp "w" ++ [.sandbox "w" (some cleanExit)] ++ workerCalls "w" 10)
      final := by
  -- None of these calls parks an element.
  obtain ⟨final, run, _⟩ := Machine.runs_of_guardedRun platform
    (fun state label => parks state "w" label = false) Platform.initial
    (submission "job" ++ takingUp "w" ++ [.sandbox "w" (some cleanExit)] ++ workerCalls "w" 10)
    (fun final => final.workers "w") (.running .pop) (by decide)
  exact ⟨final, (list_empty_at_pop rfl rfl).mpr run⟩

/-- A job stays parked when its sandbox fails to launch and the update of the retry path fails too. -/
theorem list_parked_at_pop : ∃ final,
    platform.Runs (fun _ _ => True) Platform.initial
      (submission "job" ++ takingUp "w" ++ [.sandbox "w" none, .worker "w" (.rejects false)]) final ∧
      final.workers "w" = .running .pop ∧
      final.store.processing "w" = [.payload (submittedPayload "job")] := by
  -- The error in the error handler is logged, and the loop goes on.
  obtain ⟨final, run, parked⟩ := Machine.runs_of_guardedRun platform (fun _ _ => True)
    Platform.initial
    (submission "job" ++ takingUp "w" ++ [.sandbox "w" none, .worker "w" (.rejects false)])
    (fun final => (final.workers "w", final.store.processing "w"))
    (.running .pop, [.payload (submittedPayload "job")]) (by decide)
  obtain ⟨pops, listed⟩ := Prod.mk.inj parked
  exact ⟨final, run, pops, listed⟩

end CodeExecution

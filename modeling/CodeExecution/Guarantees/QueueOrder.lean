import CodeExecution.Library.Fifo
import CodeExecution.Proofs.ListMoves
import CodeExecution.Settings

/-! The pending list is a fair queue: what is pushed later never overtakes, whoever pushes it and why. -/

namespace CodeExecution

open QueueMove

variable {start state next : Platform} {label : Label} {trace : List Label}
  {behind ahead before : List Entry} {entry : Entry} {moves : List (QueueMove Entry)}

/-! ## The moves of the pending list -/

/-- How a step moves the pending list: by the LPUSH of any service, or by the BRPOPLPUSH of a worker. -/
def queueMoves (state : Platform) (label : Label) : List (QueueMove Entry) :=
  match state.effect label with
  | .push entry => [.pushed entry]
  | .pop _ entry => [.popped entry]
  | _ => []

/-- What has come to the pending list along some labels. -/
def queuedIn (start : Platform) (trace : List Label) : List Entry :=
  arrivals (platform.observe queueMoves start trace)

/-- What the workers have taken from it along some labels. -/
def takenIn (start : Platform) (trace : List Label) : List Entry :=
  departures (platform.observe queueMoves start trace)

/-- A step moves the pending list as it is noticed to. -/
theorem Platform.step_accounted (accounted : Accounted before moves state.store.pending)
    (stepped : platform.step state label = some next) :
    Accounted before (moves ++ queueMoves state label) next.store.pending := by
  obtain ⟨⟨now, lock, same, _⟩, _⟩ := Platform.step_effect stepped
  have pending : next.store.pending = ((state.effect label).apply state.store).pending := by rw [same]
  rw [pending, queueMoves]
  cases made : state.effect label with
  | push entry => exact accounted.push entry
  | pop worker entry =>
    obtain ⟨_, _, _, last⟩ := Platform.effect_pop made
    exact accounted.pop last
  | remove _ _ | delete _ | sendLetter _ =>
    rw [List.append_nil]
    exact accounted
  | _ =>
    -- The other commands touch no job list.
    rw [(Effect.apply_lists rfl).1]
    simpa using accounted

/-- So does every run. -/
theorem Platform.accounted (run : platform.Runs (fun _ _ => True) start trace state) :
    Accounted start.store.pending (platform.observe queueMoves start trace) state.store.pending := by
  refine run.preserves_trace (fun trace state =>
    Accounted start.store.pending (platform.observe queueMoves start trace) state.store.pending)
    (.refl _) ?_
  intro trace state label next earlier accounted _ stepped
  rw [Machine.observe_snoc earlier stepped]
  exact Platform.step_accounted accounted stepped

/-- The labels of a step are noticed behind those of the run before it. -/
theorem takenIn_snoc (run : platform.Runs (fun _ _ => True) start trace state)
    (stepped : platform.step state label = some next) :
    takenIn start (trace ++ [label]) = takenIn start trace ++ departures (queueMoves state label) := by
  rw [takenIn, Machine.observe_snoc run stepped, departures, List.filterMap_append]
  rfl

/-- A step takes one element at most: the oldest one, for the worker whose call it is. -/
theorem Platform.step_takes (stepped : platform.step state label = some next) :
    departures (queueMoves state label) = [] ∨
    ∃ worker outcome entry, label = .worker worker outcome ∧ state.workers worker = .running .pop ∧
      departures (queueMoves state label) = [entry] ∧ state.store.pending.getLast? = some entry ∧
      next.store.processing worker = entry :: state.store.processing worker := by
  obtain ⟨⟨now, lock, same, _⟩, _⟩ := Platform.step_effect stepped
  -- Of all commands only the pop is a departure.
  rw [queueMoves]
  cases made : state.effect label with
  | pop worker entry =>
    obtain ⟨outcome, isLabel, waiting, last⟩ := Platform.effect_pop made
    refine .inr ⟨worker, outcome, entry, isLabel, waiting, rfl, last, ?_⟩
    rw [same, made]
    simp [Effect.apply, Store.moveToProcessing]
  | _ => exact .inl rfl

/-- An element waits in its place until as many have been taken as were older. -/
theorem Platform.pending_waits (run : platform.Runs (fun _ _ => True) start trace state)
    (queued : start.store.pending = behind ++ entry :: ahead)
    (few : (takenIn start trace).length ≤ ahead.length) :
    state.store.pending = (queuedIn start trace).reverse ++ behind ++
      entry :: ahead.take (ahead.length - (takenIn start trace).length) :=
  -- The list accounts for what has come and gone.
  Accounted.waits (queued ▸ Platform.accounted run) few

/-! ## The guarantee -/

/--
The pending list is first come, first served, in every run from every state.

Any calls may fail, any processes may crash, scans may recover live workers, and monitors may restart.
As long as no more elements have been taken than were older than some element, it stays, with all
that has come since behind it. The one that is taken next is that element, by a worker's call.
-/
theorem queue_is_first_come_first_served
    (run : platform.Runs (fun _ _ => True) start trace state)
    (queued : start.store.pending = behind ++ entry :: ahead) :
    ((takenIn start trace).length ≤ ahead.length → state.store.pending =
      (queuedIn start trace).reverse ++ behind ++
        entry :: ahead.take (ahead.length - (takenIn start trace).length)) ∧
    (ahead.length < (takenIn start trace).length → ∃ earlier worker outcome rest mid after,
      trace = earlier ++ .worker worker outcome :: rest ∧
      platform.Runs (fun _ _ => True) start earlier mid ∧
      (takenIn start earlier).length = ahead.length ∧
      platform.step mid (.worker worker outcome) = some after ∧
      after.store.processing worker = entry :: mid.store.processing worker) := by
  refine ⟨Platform.pending_waits run queued, ?_⟩
  -- The step is the first one by which more have been taken than were older.
  induction run with
  | nil => simp [takenIn, Machine.observe, departures]
  | @snoc trace state next label earlier permitted stepped ih =>
    intro more
    by_cases before : ahead.length < (takenIn start trace).length
    · obtain ⟨first, worker, outcome, rest, mid, after, rfl, facts⟩ := ih before
      exact ⟨first, worker, outcome, rest ++ [label], mid, after, by simp, facts⟩
    · rw [takenIn_snoc earlier stepped] at more
      rcases Platform.step_takes stepped with none | ⟨worker, outcome, taken, rfl, _, one, last, moved⟩
      · simp [none] at more
        omega
      · have count : (takenIn start trace).length = ahead.length := by
          rw [one, List.length_append, List.length_singleton] at more
          omega
        -- By then the element is the oldest one.
        rw [Platform.pending_waits earlier queued (by omega), count, Nat.sub_self, List.take_zero] at last
        obtain rfl : entry = taken := by simpa using last
        exact ⟨trace, worker, outcome, [], state, next, rfl, earlier, count, stepped, moved⟩

/-- The first of two jobs is taken, loses its worker and is requeued, and the second is taken. -/
def requeuedRun : List Label :=
  takingUp "w1" ++ [.workerCrash "w1"] ++ detecting "s" "w1" ++ scanCalls "s" 6 ++ takingUp "w2"

/-- The guarantee for the second job, which the requeued one does not overtake. -/
theorem queue_is_first_come_first_served_example : ∃ start state,
    platform.Runs (fun _ _ => True) start requeuedRun state ∧
    start.store.pending = [.payload (submittedPayload "second"), .payload (submittedPayload "first")] ∧
    ∃ earlier worker outcome rest mid after,
      requeuedRun = earlier ++ .worker worker outcome :: rest ∧
      platform.Runs (fun _ _ => True) start earlier mid ∧ (takenIn start earlier).length = 1 ∧
      platform.step mid (.worker worker outcome) = some after ∧
      after.store.processing worker =
        .payload (submittedPayload "second") :: mid.store.processing worker := by
  obtain ⟨start, _, facts⟩ := Machine.runs_of_guardedRun platform (fun _ _ => True) .initial
    (submission "first" ++ submission "second")
    (fun start => (start.store.pending, (takenIn start requeuedRun).length,
      (platform.guardedRun (fun _ _ => True) start requeuedRun).map fun state => state.store.pending))
    ([.payload (submittedPayload "second"), .payload (submittedPayload "first")], 2,
      some [.payload ((submittedPayload "first").withRetry 1)]) (by decide)
  simp only [Prod.mk.injEq] at facts
  obtain ⟨queued, taken, executed⟩ := facts
  obtain ⟨state, run, _⟩ := Machine.runs_of_guardedRun _ _ _ _ _ _ executed
  -- One element is older, and two are taken.
  have behindFirst : start.store.pending =
      [] ++ .payload (submittedPayload "second") :: [.payload (submittedPayload "first")] := queued
  have fair := queue_is_first_come_first_served run behindFirst
  exact ⟨start, state, run, queued, fair.2 (by simp [taken])⟩

end CodeExecution

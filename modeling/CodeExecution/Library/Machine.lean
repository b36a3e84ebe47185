import Mathlib.Logic.Basic
import Mathlib.Data.List.Basic

/-! Labelled machines: guarded runs, the invariants they keep, and the observations they leave. -/

/-- A machine reads one label at a time, and refuses the labels that are not enabled. -/
structure Machine (σ α : Type*) where
  /-- The state after a label, or nothing where the label is not enabled. -/
  step : σ → α → Option σ

namespace Machine

variable {σ α ω : Type*} {machine : Machine σ α}

/-- Finite runs whose every step is allowed in the state it is taken from. -/
inductive Runs (machine : Machine σ α) (allowed : σ → α → Prop) (start : σ) : List α → σ → Prop
  /-- The empty run stays where it starts. -/
  | nil : Runs machine allowed start [] start
  /-- A run grows by one allowed and enabled label at its end. -/
  | snoc {trace : List α} {state next : σ} {label : α}
      (earlier : Runs machine allowed start trace state) (permitted : allowed state label)
      (stepped : machine.step state label = some next) :
      Runs machine allowed start (trace ++ [label]) next

/-- Execute a list of labels, refusing the first one that is not allowed or not enabled. -/
def guardedRun (machine : Machine σ α) (allowed : σ → α → Prop)
    [∀ state label, Decidable (allowed state label)] : σ → List α → Option σ
  | state, [] => some state
  | state, label :: rest =>
    -- The guard is read in the state before the label, exactly as in a run.
    if allowed state label then
      (machine.step state label).bind fun next => machine.guardedRun allowed next rest
    else none

/-- Everything noticed along a list of labels, one batch for each enabled label. -/
def observe (machine : Machine σ α) (notice : σ → α → List ω) : σ → List α → List ω
  | _, [] => []
  | state, label :: rest =>
    -- A refused label ends the observation, as it ends the run.
    match machine.step state label with
    | some next => notice state label ++ machine.observe notice next rest
    | none => []

namespace Runs

variable {allowed allowed' : σ → α → Prop} {start state next : σ} {trace later : List α}
  {label : α}

/-- An allowed first label followed by a run is a run. -/
theorem cons (permitted : allowed start label) (stepped : machine.step start label = some next)
    (rest : machine.Runs allowed next trace state) :
    machine.Runs allowed start (label :: trace) state := by
  -- The induction follows the later run, which grows at its end.
  induction rest with
  | nil => exact snoc nil permitted stepped
  | snoc _ permittedLast steppedLast ih => exact snoc ih permittedLast steppedLast

/-- Two runs that meet compose. -/
theorem append (first : machine.Runs allowed start trace state)
    (second : machine.Runs allowed state later next) :
    machine.Runs allowed start (trace ++ later) next := by
  -- The second run is replayed label by label after the first.
  induction second with
  | nil => simpa using first
  | snoc _ permitted stepped ih =>
    rw [← List.append_assoc]
    exact snoc ih permitted stepped

/-- A property that holds at the start and survives every allowed step holds after every run. -/
theorem preserves (run : machine.Runs allowed start trace state) (invariant : σ → Prop)
    (initial : invariant start)
    (step : ∀ state label next, invariant state → allowed state label →
      machine.step state label = some next → invariant next) : invariant state := by
  -- The induction is on the run, one label at a time.
  induction run with
  | nil => exact initial
  | snoc _ permitted stepped ih => exact step _ _ _ ih permitted stepped

/-- The same rule for properties that also mention the labels read so far. -/
theorem preserves_trace (run : machine.Runs allowed start trace state)
    (invariant : List α → σ → Prop) (initial : invariant [] start)
    (step : ∀ trace state label next, machine.Runs allowed start trace state →
      invariant trace state → allowed state label → machine.step state label = some next →
      invariant (trace ++ [label]) next) : invariant trace state := by
  -- The run itself is passed on, so that the step may use what holds of every reached state.
  induction run with
  | nil => exact initial
  | snoc earlier permitted stepped ih => exact step _ _ _ _ earlier ih permitted stepped

/-- An invariant of the runs may be used to weaken the condition on their steps. -/
theorem weaken (run : machine.Runs allowed start trace state) (invariant : σ → Prop)
    (reached : ∀ trace state, machine.Runs allowed start trace state → invariant state)
    (implied : ∀ state label, invariant state → allowed state label → allowed' state label) :
    machine.Runs allowed' start trace state := by
  -- Every intermediate state is itself reached by a run.
  induction run with
  | nil => exact nil
  | snoc earlier permitted stepped ih =>
    exact snoc ih (implied _ _ (reached _ _ earlier) permitted) stepped

/-- A weaker condition on the steps allows the same runs. -/
theorem imp (run : machine.Runs allowed start trace state)
    (implied : ∀ state label, allowed state label → allowed' state label) :
    machine.Runs allowed' start trace state :=
  run.weaken (fun _ => True) (fun _ _ _ => trivial) fun state label _ => implied state label

/-- Every run is a run without a condition. -/
theorem unguarded (run : machine.Runs allowed start trace state) :
    machine.Runs (fun _ _ => True) start trace state :=
  run.imp fun _ _ _ => trivial

/--
Two conditions on the steps admit the same runs where an invariant makes them agree.

Each step that one condition admits keeps the invariant and meets the other condition.
-/
theorem reguard (run : machine.Runs allowed start trace state) (invariant : σ → Prop)
    (initial : invariant start)
    (step : ∀ state label next, invariant state → allowed state label →
      machine.step state label = some next → allowed' state label ∧ invariant next) :
    machine.Runs allowed' start trace state ∧ invariant state := by
  -- The induction carries the invariant, which the next step's conditions are compared under.
  induction run with
  | nil => exact ⟨nil, initial⟩
  | snoc _ permitted stepped ih =>
    obtain ⟨earlier, holds⟩ := ih
    obtain ⟨permitted', kept⟩ := step _ _ _ holds permitted stepped
    exact ⟨snoc earlier permitted' stepped, kept⟩

/--
A run is refined by a guarded run of another machine when each of its steps is.

A step may be matched by one permitted step of the other machine, or by none.
-/
theorem refines {τ β : Type*} (run : machine.Runs allowed start trace state)
    (abstract : Machine τ β) (permitted : τ → β → Prop) (view : σ → τ)
    (matched : ∀ trace state label next, machine.Runs allowed start trace state →
      allowed state label → machine.step state label = some next →
      view next = view state ∨
        ∃ event, permitted (view state) event ∧ abstract.step (view state) event = some (view next)) :
    ∃ events, abstract.Runs permitted (view start) events (view state) := by
  -- The abstract run grows where the concrete step is matched, and waits where it is not.
  induction run with
  | nil => exact ⟨[], nil⟩
  | snoc earlier permits stepped ih =>
    obtain ⟨events, simulated⟩ := ih
    rcases matched _ _ _ _ earlier permits stepped with same | ⟨event, permits', moved⟩
    · exact ⟨events, same ▸ simulated⟩
    · exact ⟨events ++ [event], snoc simulated permits' moved⟩

/-- A run is simulated by another machine that may do anything. -/
theorem simulates {τ β : Type*} (run : machine.Runs allowed start trace state)
    (abstract : Machine τ β) (view : σ → τ)
    (matched : ∀ trace state label next, machine.Runs allowed start trace state →
      allowed state label → machine.step state label = some next →
      view next = view state ∨ ∃ event, abstract.step (view state) event = some (view next)) :
    ∃ events, abstract.Runs (fun _ _ => True) (view start) events (view state) := by
  -- Nothing is asked of the steps of the other machine.
  refine run.refines abstract (fun _ _ => True) view ?_
  intro trace state label next earlier permits stepped
  rcases matched trace state label next earlier permits stepped with same | ⟨event, moved⟩
  · exact .inl same
  · exact .inr ⟨event, trivial, moved⟩

/-- The run without labels goes nowhere. -/
theorem eq_of_nil (run : machine.Runs allowed start [] state) : state = start := by
  -- A run that grew has at least its last label.
  generalize same : ([] : List α) = whole at run
  cases run with
  | nil => rfl
  | snoc _ _ _ => simp at same

/-- A run can be taken apart at its first label. -/
theorem uncons (run : machine.Runs allowed start (label :: trace) state) :
    allowed start label ∧ ∃ next, machine.step start label = some next ∧
      machine.Runs allowed next trace state := by
  -- The trace is kept general, because the run grows at the other end.
  generalize same : label :: trace = whole at run
  induction run generalizing trace with
  | nil => simp at same
  | @snoc earlierTrace _ _ last earlier permitted stepped ih =>
    cases earlierTrace with
    | nil =>
      obtain ⟨rfl, rfl⟩ : label = last ∧ trace = [] := by simpa using same
      obtain rfl := earlier.eq_of_nil
      exact ⟨permitted, _, stepped, nil⟩
    | cons head tail =>
      obtain ⟨rfl, rfl⟩ : label = head ∧ trace = tail ++ [last] := by simpa using same
      obtain ⟨permittedFirst, middle, steppedFirst, rest⟩ := ih rfl
      exact ⟨permittedFirst, middle, steppedFirst, snoc rest permitted stepped⟩

/-- A run can be taken apart at its last label. -/
theorem unsnoc (run : machine.Runs allowed start (trace ++ [label]) next) :
    ∃ state, machine.Runs allowed start trace state ∧ allowed state label ∧
      machine.step state label = some next := by
  -- Only a run that grew has a last label.
  generalize same : trace ++ [label] = whole at run
  cases run with
  | nil => simp at same
  | snoc earlier permitted stepped =>
    obtain ⟨rfl, rfl⟩ := List.append_singleton_inj.mp same
    exact ⟨_, earlier, permitted, stepped⟩

end Runs

/-- Executing the labels under the guard decides which runs there are. -/
theorem runs_iff_guardedRun {allowed : σ → α → Prop}
    [∀ state label, Decidable (allowed state label)] {trace : List α} {start state : σ} :
    machine.Runs allowed start trace state ↔
      machine.guardedRun allowed start trace = some state := by
  -- Both sides read the first label, so the induction is on the labels.
  induction trace generalizing start with
  | nil =>
    constructor
    · intro run
      simp [guardedRun, run.eq_of_nil]
    · intro executed
      obtain rfl : start = state := by simpa [guardedRun] using executed
      exact .nil
  | cons label rest ih =>
    constructor
    · intro run
      obtain ⟨permitted, next, stepped, later⟩ := run.uncons
      simp [guardedRun, permitted, stepped, ih.mp later]
    · intro executed
      simp only [guardedRun] at executed
      split at executed
      · next permitted =>
        obtain ⟨next, stepped, later⟩ := Option.bind_eq_some_iff.mp executed
        exact .cons permitted stepped (ih.mpr later)
      · simp at executed

/-- Labels that execute show a run to a state with what is read off it. -/
theorem runs_of_guardedRun {β : Type*} (machine : Machine σ α) (allowed : σ → α → Prop)
    [∀ state label, Decidable (allowed state label)] (start : σ) (trace : List α) (read : σ → β)
    (value : β) (executed : (machine.guardedRun allowed start trace).map read = some value) :
    ∃ state, machine.Runs allowed start trace state ∧ read state = value := by
  -- The state that was executed to is the state of the run.
  obtain ⟨state, reached, shown⟩ := Option.map_eq_some_iff.mp executed
  exact ⟨state, runs_iff_guardedRun.mpr reached, shown⟩

/-- The labels determine the state that a run ends in. -/
theorem Runs.unique {allowed allowed' : σ → α → Prop} {trace : List α} {start state state' : σ}
    (run : machine.Runs allowed start trace state) (run' : machine.Runs allowed' start trace state') :
    state = state' := by
  -- Both runs are taken apart at the same first label.
  induction trace generalizing start with
  | nil => rw [run.eq_of_nil, run'.eq_of_nil]
  | cons label rest ih =>
    obtain ⟨_, next, stepped, later⟩ := run.uncons
    obtain ⟨_, next', stepped', later'⟩ := run'.uncons
    obtain rfl : next = next' := Option.some.inj (stepped.symm.trans stepped')
    exact ih later later'

/-- Where the labels decide nothing, every run goes the way of the one that halts. -/
theorem Runs.completes [Subsingleton α] {allowed : σ → α → Prop} {trace whole : List α}
    {start state final : σ} (run : machine.Runs allowed start whole final)
    (halted : ∀ label, machine.step final label = none)
    (other : machine.Runs allowed start trace state) :
    ∃ rest, trace.length + rest.length = whole.length ∧ machine.Runs allowed state rest final := by
  -- Both runs are taken apart at their first labels, which are the same.
  induction trace generalizing start whole with
  | nil =>
    obtain rfl := other.eq_of_nil
    exact ⟨whole, by simp, run⟩
  | cons label earlier ih =>
    obtain ⟨_, next, stepped, later⟩ := other.uncons
    cases whole with
    | nil =>
      -- A run that halts at once leaves no room for another step.
      rw [← run.eq_of_nil, halted label] at stepped
      simp at stepped
    | cons first whole =>
      obtain ⟨_, next', stepped', later'⟩ := run.uncons
      rw [Subsingleton.elim first label] at stepped'
      obtain rfl : next = next' := Option.some.inj (stepped.symm.trans stepped')
      obtain ⟨rest, lengths, rested⟩ := ih later' later
      exact ⟨rest, by simp only [List.length_cons]; omega, rested⟩

/-! ## Properties along a run -/

/-- A property holds in every state along some labels. -/
def Always (machine : Machine σ α) (start : σ) (trace : List α) (property : σ → Prop) : Prop :=
  -- The states along a list of labels are those that its prefixes lead to.
  ∀ earlier state, earlier <+: trace → machine.Runs (fun _ _ => True) start earlier state →
    property state

/-- Along no labels there is only the first state. -/
theorem always_nil {start : σ} {property : σ → Prop} :
    machine.Always start [] property ↔ property start := by
  constructor
  · intro always
    exact always [] start List.prefix_rfl .nil
  · intro initial earlier state before run
    obtain rfl := List.prefix_nil.mp before
    rwa [run.eq_of_nil]

/-- One more label adds the state that it leads to. -/
theorem always_snoc {allowed : σ → α → Prop} {property : σ → Prop} {trace : List α}
    {start state next : σ} {label : α} (run : machine.Runs allowed start trace state)
    (stepped : machine.step state label = some next) :
    machine.Always start (trace ++ [label]) property ↔
      machine.Always start trace property ∧ property next := by
  -- A prefix of the longer trace is the whole of it, or a prefix of the shorter one.
  have whole : machine.Runs (fun _ _ => True) start (trace ++ [label]) next :=
    .snoc run.unguarded trivial stepped
  constructor
  · intro always
    exact ⟨fun earlier state before => always earlier state (List.prefix_concat_iff.mpr (.inr before)),
      always _ _ List.prefix_rfl whole⟩
  · rintro ⟨always, last⟩ earlier reached before run'
    rcases List.prefix_concat_iff.mp before with rfl | before
    · rwa [run'.unique whole]
    · exact always earlier reached before run'

/--
A condition on the steps admits exactly the runs along which a property holds.

Where the property holds, it still holds after a step just if that step meets the condition.
-/
theorem Runs.always_iff {allowed condition : σ → α → Prop} {property : σ → Prop} {trace : List α}
    {start state : σ} (run : machine.Runs allowed start trace state) (initial : property start)
    (decides : ∀ trace state label next, machine.Runs allowed start trace state → property state →
      allowed state label → machine.step state label = some next →
      (condition state label ↔ property next)) :
    machine.Always start trace property ↔
      machine.Runs (fun state label => allowed state label ∧ condition state label) start trace
        state := by
  have last {trace state} (run : machine.Runs allowed start trace state)
      (always : machine.Always start trace property) : property state :=
    always _ _ List.prefix_rfl run.unguarded
  -- The induction is on the run; the property of its last state decides about the next label.
  induction run with
  | nil => exact ⟨fun _ => .nil, fun _ => always_nil.mpr initial⟩
  | @snoc trace state next label earlier permitted stepped ih =>
    rw [always_snoc earlier stepped]
    constructor
    · rintro ⟨always, holds⟩
      have condition := (decides _ _ _ _ earlier (last earlier always) permitted stepped).mpr holds
      exact .snoc (ih.mp always) ⟨permitted, condition⟩ stepped
    · intro guarded
      obtain ⟨middle, before, ⟨_, condition⟩, stepped'⟩ := guarded.unsnoc
      obtain rfl := earlier.unique before
      have always := ih.mpr before
      exact ⟨always, (decides _ _ _ _ earlier (last earlier always) permitted stepped).mp condition⟩

/-- What is noticed along a run grows by what its last label shows. -/
theorem observe_snoc {allowed : σ → α → Prop} {notice : σ → α → List ω} {trace : List α}
    {start state next : σ} {label : α} (run : machine.Runs allowed start trace state)
    (stepped : machine.step state label = some next) :
    machine.observe notice start (trace ++ [label]) =
      machine.observe notice start trace ++ notice state label := by
  -- Walking the labels from the front reaches the state the run ends in.
  induction trace generalizing start with
  | nil =>
    obtain rfl := run.eq_of_nil
    simp [observe, stepped]
  | cons first rest ih =>
    obtain ⟨_, middle, steppedFirst, later⟩ := run.uncons
    simp [observe, steppedFirst, ih later]

/-- What is noticed along a run, as labels of another machine, is a run of that machine. -/
theorem Runs.projects {τ β : Type*} {allowed : σ → α → Prop} {start state : σ} {trace : List α}
    (run : machine.Runs allowed start trace state) (other : Machine τ β) (permitted : τ → β → Prop)
    (view : σ → τ) (notice : σ → α → List β)
    (matched : ∀ trace state label next, machine.Runs allowed start trace state →
      allowed state label → machine.step state label = some next →
      other.Runs permitted (view state) (notice state label) (view next)) :
    other.Runs permitted (view start) (machine.observe notice start trace) (view state) := by
  -- The projected run grows by what each step shows.
  induction run with
  | nil => exact .nil
  | snoc earlier permits stepped ih =>
    rw [observe_snoc earlier stepped]
    exact ih.append (matched _ _ _ _ earlier permits stepped)

/-- The machine that also remembers everything noticed so far, so that a guard may refer to it. -/
def recording (machine : Machine σ α) (notice : σ → α → List ω) : Machine (σ × List ω) α where
  step recorded label :=
    (machine.step recorded.1 label).map fun next => (next, recorded.2 ++ notice recorded.1 label)

/-- A recorded step is a step, and its notices are remembered last. -/
theorem recording_step {notice : σ → α → List ω} {recorded after : σ × List ω} {label : α} :
    (machine.recording notice).step recorded label = some after ↔
      machine.step recorded.1 label = some after.1 ∧
        after.2 = recorded.2 ++ notice recorded.1 label := by
  -- The machine decides on the step, and the record only grows.
  obtain ⟨state, history⟩ := after
  simp only [recording, Option.map_eq_some_iff, Prod.mk.injEq]
  constructor
  · intro moved
    obtain ⟨next, stepped, rfl, same⟩ := moved
    exact ⟨stepped, same.symm⟩
  · intro moved
    obtain ⟨stepped, same⟩ := moved
    exact ⟨state, stepped, rfl, same.symm⟩

/-- Remembering changes neither the runs nor what is noticed along them. -/
theorem Runs.recorded {notice : σ → α → List ω} {allowed : σ → α → Prop} {start state : σ}
    {trace : List α} (run : machine.Runs allowed start trace state) :
    (machine.recording notice).Runs (fun recorded label => allowed recorded.1 label) (start, [])
      trace (state, machine.observe notice start trace) := by
  -- The record follows the observation, label by label.
  induction run with
  | nil => exact .nil
  | snoc earlier permitted stepped ih =>
    rw [observe_snoc earlier stepped]
    exact .snoc ih permitted (recording_step.mpr ⟨stepped, rfl⟩)

/-! ## Ghost state -/

variable {γ : Type*}

/-- The machine with a second component that every step updates and no step reads. -/
def tracking (machine : Machine σ α) (track : σ → α → γ → γ) : Machine (σ × γ) α where
  step tracked label :=
    (machine.step tracked.1 label).map fun next => (next, track tracked.1 label tracked.2)

/-- A tracked step is a step, and the ghost is updated from the state before it. -/
theorem tracking_step {track : σ → α → γ → γ} {tracked after : σ × γ} {label : α} :
    (machine.tracking track).step tracked label = some after ↔
      machine.step tracked.1 label = some after.1 ∧ after.2 = track tracked.1 label tracked.2 := by
  -- The machine decides on the step alone.
  obtain ⟨state, ghost⟩ := after
  simp only [tracking, Option.map_eq_some_iff, Prod.mk.injEq]
  constructor
  · intro moved
    obtain ⟨next, stepped, rfl, same⟩ := moved
    exact ⟨stepped, same.symm⟩
  · intro moved
    obtain ⟨stepped, same⟩ := moved
    exact ⟨state, stepped, rfl, same.symm⟩

/-- Every run is followed by the ghost. -/
theorem Runs.tracked {allowed : σ → α → Prop} {start state : σ} {trace : List α}
    (run : machine.Runs allowed start trace state) (track : σ → α → γ → γ) (ghost : γ) :
    ∃ later, (machine.tracking track).Runs (fun tracked label => allowed tracked.1 label)
      (start, ghost) trace (state, later) := by
  -- The ghost is computed along the run, label by label.
  induction run with
  | nil => exact ⟨ghost, .nil⟩
  | snoc earlier permitted stepped ih =>
    obtain ⟨later, followed⟩ := ih
    exact ⟨_, .snoc followed permitted (tracking_step.mpr ⟨stepped, rfl⟩)⟩

/-- Without its ghost a run is a run. -/
theorem Runs.untracked {track : σ → α → γ → γ} {trace : List α} {before after : σ × γ}
    (allowed : σ → α → Prop)
    (run : (machine.tracking track).Runs (fun tracked label => allowed tracked.1 label) before trace
      after) : machine.Runs allowed before.1 trace after.1 := by
  induction run with
  | nil => exact .nil
  | snoc _ permitted stepped ih => exact ih.snoc permitted (tracking_step.mp stepped).1

end Machine

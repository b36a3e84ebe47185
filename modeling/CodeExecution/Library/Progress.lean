import CodeExecution.Library.Machine

/-! Goals of a machine that some run reaches: how they compose, and variants that lead to them. -/

namespace Machine

variable {σ α ι : Type*} {machine : Machine σ α} {allowed : σ → α → Prop} {start next : σ}
  {label : α} {goal later : σ → Prop}

/-- Some run leads to a state with the property. -/
def Reaches (machine : Machine σ α) (allowed : σ → α → Prop) (start : σ) (goal : σ → Prop) : Prop :=
  ∃ trace state, machine.Runs allowed start trace state ∧ goal state

/-- What holds already is reached without a step. -/
theorem Reaches.here (holds : goal start) : machine.Reaches allowed start goal :=
  ⟨[], start, .nil, holds⟩

/-- What a step leads towards is reached from before it. -/
theorem Reaches.step (permitted : allowed start label) (stepped : machine.step start label = some next)
    (rest : machine.Reaches allowed next goal) : machine.Reaches allowed start goal := by
  obtain ⟨trace, state, run, holds⟩ := rest
  exact ⟨label :: trace, state, .cons permitted stepped run, holds⟩

/-- A goal that leads to another one reaches it. -/
theorem Reaches.trans (first : machine.Reaches allowed start goal)
    (second : ∀ trace state, machine.Runs allowed start trace state → goal state →
      machine.Reaches allowed state later) : machine.Reaches allowed start later := by
  -- The two runs meet in the state that has the first property.
  obtain ⟨trace, middle, run, holds⟩ := first
  obtain ⟨rest, state, run', holds'⟩ := second trace middle run holds
  exact ⟨trace ++ rest, state, run.append run', holds'⟩

/-- A weaker goal is reached as well. -/
theorem Reaches.imp (reaches : machine.Reaches allowed start goal)
    (weaker : ∀ state, goal state → later state) : machine.Reaches allowed start later :=
  reaches.trans fun _ _ _ holds => .here (weaker _ holds)

/--
A goal is reached where some run makes a variant smaller as long as the goal is away.

The invariant is what the run may assume, and has to establish again.
-/
theorem Reaches.of_variant (invariant goal : σ → Prop) (variant : σ → Nat)
    (advances : ∀ state, invariant state → ¬ goal state →
      machine.Reaches allowed state fun next => invariant next ∧ variant next < variant state)
    (initial : invariant start) :
    machine.Reaches allowed start fun state => invariant state ∧ goal state := by
  -- Strong induction on the variant, which every run of an advance makes smaller.
  induction bound : variant start using Nat.strongRecOn generalizing start with
  | ind measure ih =>
    subst bound
    by_cases reached : goal start
    · exact .here ⟨initial, reached⟩
    · refine (advances start initial reached).trans fun _ state _ advanced => ?_
      exact ih (variant state) advanced.2 advanced.1 rfl

/--
Goals that no step takes back are reached together where each one is reached from everywhere.

The invariant describes the states in which the goals have to be within reach.
-/
theorem Reaches.all (invariant : σ → Prop) (done : ι → σ → Prop)
    (keeps : ∀ state label next, invariant state → allowed state label →
      machine.step state label = some next → invariant next)
    (stays : ∀ state label next, invariant state → allowed state label →
      machine.step state label = some next → ∀ item, done item state → done item next)
    (each : ∀ item state, invariant state → machine.Reaches allowed state (done item))
    (initial : invariant start) (items : List ι) :
    machine.Reaches allowed start fun state => ∀ item ∈ items, done item state := by
  -- The goals are taken in turn, and those already reached survive the run to the next one.
  induction items generalizing start with
  | nil => exact .here (by simp)
  | cons first rest ih =>
    refine (each first start initial).trans fun trace middle run reached => ?_
    have still := run.preserves invariant initial keeps
    obtain ⟨after, state, run', others⟩ := ih still
    refine ⟨after, state, run', fun item member => ?_⟩
    rcases List.mem_cons.mp member with rfl | earlier
    · -- The invariant is carried along, since the goal is only kept where it holds.
      exact (run'.preserves (fun reached => invariant reached ∧ done item reached) ⟨still, reached⟩
        fun state label next held permitted stepped =>
          ⟨keeps state label next held.1 permitted stepped,
            stays state label next held.1 permitted stepped item held.2⟩).2
    · exact others item earlier

end Machine

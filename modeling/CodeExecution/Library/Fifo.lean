import Mathlib.Data.List.Basic

/-! A queue as it is seen from outside: what goes in at its front, and what comes out at its back. -/

/-- One move of a queue. -/
inductive QueueMove (α : Type*) where
  | pushed (item : α)
  | popped (item : α)
  deriving DecidableEq, Repr

namespace QueueMove

variable {α : Type*} {before after behind ahead : List α} {moves : List (QueueMove α)} {item : α}

/-- What some moves have put in, in their order. -/
def arrivals (moves : List (QueueMove α)) : List α :=
  moves.filterMap fun
    | pushed item => some item
    | popped _ => none

/-- What some moves have taken out, in their order. -/
def departures (moves : List (QueueMove α)) : List α :=
  moves.filterMap fun
    | pushed _ => none
    | popped item => some item

/--
Some moves lead from one content of a queue to another; contents are listed newest first.

What was there or came in is what went out or is there still, in the same order.
-/
def Accounted (before : List α) (moves : List (QueueMove α)) (after : List α) : Prop :=
  before.reverse ++ arrivals moves = departures moves ++ after.reverse

/-- A queue that has not moved has the content that it had. -/
theorem Accounted.refl (queue : List α) : Accounted queue [] queue := by
  simp [Accounted, arrivals, departures]

/-- What comes in stands behind everything else. -/
theorem Accounted.push (accounted : Accounted before moves after) (item : α) :
    Accounted before (moves ++ [.pushed item]) (item :: after) := by
  have same : before.reverse ++ arrivals moves = departures moves ++ after.reverse := accounted
  simp only [Accounted, arrivals, departures, List.filterMap_append] at same ⊢
  simp [← List.append_assoc, same]

/-- What comes out has stood in front of everything else. -/
theorem Accounted.pop (accounted : Accounted before moves after) (last : after.getLast? = some item) :
    Accounted before (moves ++ [.popped item]) after.dropLast := by
  have same : before.reverse ++ arrivals moves = departures moves ++ after.reverse := accounted
  obtain ⟨front, rfl⟩ := List.getLast?_eq_some_iff.mp last
  simp only [Accounted, arrivals, departures, List.filterMap_append] at same ⊢
  simpa using same

/-- As long as fewer have left than were before it, an item stays, with as many fewer before it. -/
theorem Accounted.waits (accounted : Accounted (behind ++ item :: ahead) moves after)
    (few : (departures moves).length ≤ ahead.length) :
    after = (arrivals moves).reverse ++ behind ++
      item :: ahead.take (ahead.length - (departures moves).length) := by
  have same : ahead.reverse ++ item :: (behind.reverse ++ arrivals moves) =
      departures moves ++ after.reverse := by simpa [Accounted] using accounted
  -- What is still there is what the departures have left of everything.
  have rest := congrArg (List.drop (departures moves).length) same
  rw [List.drop_left, List.drop_append_of_le_length (by simpa using few)] at rest
  have mirrored := congrArg List.reverse rest
  simp only [List.reverse_reverse, List.reverse_append, List.reverse_cons, List.drop_reverse] at mirrored
  simpa using mirrored.symm

end QueueMove

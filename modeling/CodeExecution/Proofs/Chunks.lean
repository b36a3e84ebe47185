import CodeExecution.Library.Utf16Slices
import CodeExecution.Proofs.Sandbox
import CodeExecution.Services.Chunking

/-! The chunks of `splitForStream`: how its loops end, and where they cut a text. -/

namespace CodeExecution

/-! ## The loops -/

variable {chunks : List (List UInt16)} {remaining text : List UInt16} {length : Nat}

/-- The inner loop ends, and its slice is pushed. -/
theorem runs_inner (chunks : List (List UInt16)) (remaining : List UInt16) (length : Nat) :
    ∃ trace, splitting.Runs (fun _ _ => True) (.inner chunks remaining length) trace
      (.outer (chunks ++ [remaining.take (shrinkSlice remaining length)])
        (remaining.drop (shrinkSlice remaining length))) := by
  -- The induction is on the length of the slice, which each turn makes shorter.
  induction length using Nat.strongRecOn with
  | ind length ih =>
    rw [shrinkSlice]
    split
    · next long =>
      obtain ⟨trace, run⟩ := ih (length * 9 / 10) (by omega)
      exact ⟨() :: trace, .cons trivial (if_pos long) run⟩
    · next short => exact ⟨[()], .cons trivial (if_neg short) .nil⟩

/-- The outer loop ends, and all chunks of the rest have been pushed. -/
theorem runs_outer (chunks : List (List UInt16)) (remaining : List UInt16) :
    ∃ trace, splitting.Runs (fun _ _ => True) (.outer chunks remaining) trace
      (.returned (chunks ++ splitRemaining remaining)) := by
  -- The induction follows the loop, whose slices are never empty.
  induction remaining using splitRemaining.induct generalizing chunks with
  | case1 =>
    rw [splitRemaining, if_pos rfl, List.append_nil]
    exact ⟨[()], .cons trivial rfl .nil⟩
  | case2 remaining some length ih =>
    rw [splitRemaining, if_neg some]
    obtain ⟨shrinking, inner⟩ := runs_inner chunks remaining (min remaining.length maxStreamChunkBytes)
    obtain ⟨trace, outer⟩ := ih (chunks ++ [remaining.take length])
    rw [List.append_assoc, List.singleton_append] at outer
    exact ⟨() :: (shrinking ++ trace), .cons trivial (if_neg some) (inner.append outer)⟩

/-- The function returns its chunks. -/
theorem runs_entry (text : List UInt16) :
    ∃ trace, splitting.Runs (fun _ _ => True) (.entry text) trace (.returned (splitForStream text)) := by
  -- The loops are entered with a long text only.
  unfold splitForStream
  split
  · next short => exact ⟨[()], .cons trivial (if_pos short) .nil⟩
  · next long =>
    obtain ⟨trace, run⟩ := runs_outer [] text
    exact ⟨() :: trace, .cons trivial (if_neg long) run⟩

/-! ## One slice -/

/-- A turn of the inner loop leaves nine tenths of a length. -/
def nineTenths (length : Nat) : Nat := length * 9 / 10

/-- The first length that makes the slice small enough, of those that the inner loop comes to. -/
def FirstFit (remaining : List UInt16) (start length : Nat) : Prop :=
  ∃ turns, length = nineTenths^[turns] start ∧
    Utf16.byteLength (remaining.take length) ≤ maxStreamChunkBytes ∧
    ∀ fewer < turns,
      maxStreamChunkBytes < Utf16.byteLength (remaining.take (nineTenths^[fewer] start))

/-- There is one such length. -/
theorem FirstFit.unique {start length' : Nat} (fit : FirstFit remaining start length)
    (fit' : FirstFit remaining start length') : length = length' := by
  -- Of two lengths, the later one would not be the first.
  obtain ⟨turns, rfl, fits, before⟩ := fit
  obtain ⟨turns', rfl, fits', before'⟩ := fit'
  rcases lt_trichotomy turns turns' with less | rfl | more
  · exact absurd fits (not_le.mpr (before' turns less))
  · rfl
  · exact absurd fits' (not_le.mpr (before turns' more))

/-- The inner loop stops at it. -/
theorem firstFit_shrinkSlice (remaining : List UInt16) (length : Nat) :
    FirstFit remaining length (shrinkSlice remaining length) := by
  -- The induction is on the length of the slice.
  induction length using Nat.strongRecOn with
  | ind length ih =>
    rw [shrinkSlice]
    split
    · next long =>
      obtain ⟨turns, same, fits, before⟩ := ih (length * 9 / 10) (by omega)
      refine ⟨turns + 1, same, fits, fun fewer less => ?_⟩
      cases fewer with
      | zero => exact long.2
      | succ fewer => exact before fewer (by omega)
    · next short =>
      refine ⟨0, rfl, ?_, fun fewer less => absurd less (Nat.not_lt_zero fewer)⟩
      by_cases several : 1 < length
      · exact not_lt.mp fun long => short ⟨several, long⟩
      · -- One unit is always small enough.
        have bytes := (Utf16.byteLength_bounds (remaining.take length)).2
        have units := List.length_take_le length remaining
        have room : 3 ≤ maxStreamChunkBytes := by decide
        omega

/-- No other length is the first one. -/
theorem firstFit_iff {start : Nat} :
    FirstFit remaining start length ↔ length = shrinkSlice remaining start := by
  constructor
  · intro fit
    exact fit.unique (firstFit_shrinkSlice remaining start)
  · rintro rfl
    exact firstFit_shrinkSlice remaining start

/-- The slice of the inner loop is small enough. -/
theorem byteLength_shrinkSlice_le (remaining : List UInt16) (length : Nat) :
    Utf16.byteLength (remaining.take (shrinkSlice remaining length)) ≤ maxStreamChunkBytes := by
  obtain ⟨_, _, fits, _⟩ := firstFit_shrinkSlice remaining length
  exact fits

/-- The inner loop makes no slice longer. -/
theorem shrinkSlice_le (remaining : List UInt16) (length : Nat) : shrinkSlice remaining length ≤ length := by
  -- The induction is on the length of the slice.
  induction length using Nat.strongRecOn with
  | ind length ih =>
    rw [shrinkSlice]
    split
    · have shorter := ih (length * 9 / 10) (by omega)
      omega
    · exact le_refl length

/-! ## All slices -/

/-- The first slice of some units, and those of the rest. -/
theorem splitRemaining_cons (some : remaining ≠ [])
    (fit : FirstFit remaining (min remaining.length maxStreamChunkBytes) length) :
    splitRemaining remaining = remaining.take length :: splitRemaining (remaining.drop length) := by
  obtain rfl := firstFit_iff.mp fit
  rw [splitRemaining, if_neg some]

/-- Every chunk of the loops has some units, and not too many bytes. -/
theorem splitRemaining_chunk {chunk : List UInt16} (member : chunk ∈ splitRemaining remaining) :
    chunk ≠ [] ∧ Utf16.byteLength chunk ≤ maxStreamChunkBytes := by
  -- The induction follows the loop.
  induction remaining using splitRemaining.induct with
  | case1 =>
    rw [splitRemaining, if_pos rfl] at member
    simp at member
  | case2 remaining some length ih =>
    rw [splitRemaining, if_neg some, List.mem_cons] at member
    rcases member with rfl | member
    · have units : 0 < remaining.length := List.length_pos_iff.mpr some
      have slice := shrinkSlice_pos remaining (min remaining.length maxStreamChunkBytes)
        (lt_min units (by decide))
      refine ⟨?_, byteLength_shrinkSlice_le _ _⟩
      rw [ne_eq, List.take_eq_nil_iff, not_or]
      exact ⟨slice.ne', some⟩
    · exact ih member

/-- The loops cut every text that is not empty. -/
theorem splitForStream_eq (some : text ≠ []) : splitForStream text = splitRemaining text := by
  -- A short text is its own first slice, and there is no other.
  unfold splitForStream
  split
  · next short =>
    have units := (Utf16.byteLength_bounds text).1
    have whole : shrinkSlice text (min text.length maxStreamChunkBytes) = text.length := by
      rw [min_eq_left (le_trans units short), shrinkSlice, if_neg]
      rw [List.take_length]
      exact fun long => absurd short (not_le.mpr long.2)
    rw [splitRemaining, if_neg some]
    simp only [whole, List.take_length, List.drop_length]
    rw [splitRemaining, if_pos rfl]
  · rfl

/-! ## The cuts -/

/--
The positions of a text from which a slice is taken, and the end of the text.

Each of them is reached from the one before by the first length that makes a slice small enough.
-/
inductive CutAt (text : List UInt16) : Nat → Prop
  /-- The first slice is taken from the beginning. -/
  | start : CutAt text 0
  /-- A slice ends where the next one is taken from. -/
  | next {position length : Nat} (earlier : CutAt text position)
      (fit : FirstFit (text.drop position)
        (min (text.length - position) maxStreamChunkBytes) length) :
      CutAt text (position + length)

/-- Behind each of these positions, the loops go on as they would with the rest of the text alone. -/
theorem CutAt.reached {position : Nat} (cut : CutAt text position) :
    ∃ front, splitRemaining text = front ++ splitRemaining (text.drop position) ∧
      front.flatten = text.take position := by
  -- The induction is on the cuts before this one.
  induction cut with
  | start => exact ⟨[], by rw [List.drop_zero, List.nil_append], by rw [List.take_zero]; rfl⟩
  | @next position length earlier fit ih =>
    obtain ⟨front, chunks, units⟩ := ih
    rw [← List.length_drop] at fit
    by_cases empty : text.drop position = []
    · -- Nothing is left, and nothing is taken.
      have none : length ≤ 0 := by
        rw [firstFit_iff.mp fit, empty]
        exact shrinkSlice_le [] 0
      rw [Nat.le_zero.mp none, Nat.add_zero]
      exact ⟨front, chunks, units⟩
    · rw [splitRemaining_cons empty fit, List.drop_drop] at chunks
      refine ⟨front ++ [(text.drop position).take length], ?_, ?_⟩
      · rw [chunks, List.append_assoc, List.singleton_append]
      · rw [List.flatten_append, List.flatten_singleton, units, List.take_add]

/-- The chunks end at these positions. -/
theorem cutAt_of_append {position : Nat} (cut : CutAt text position) {front back : List (List UInt16)}
    (chunks : splitRemaining (text.drop position) = front ++ back) :
    CutAt text (position + front.flatten.length) := by
  -- The induction is on the chunks before the cut.
  induction front generalizing position with
  | nil => exact cut
  | cons chunk front ih =>
    have some : text.drop position ≠ [] := by
      intro empty
      rw [empty, splitRemaining, if_pos rfl] at chunks
      simp at chunks
    have fit := firstFit_shrinkSlice (text.drop position)
      (min (text.drop position).length maxStreamChunkBytes)
    have within := shrinkSlice_le (text.drop position)
      (min (text.drop position).length maxStreamChunkBytes)
    rw [splitRemaining_cons some fit, List.drop_drop, List.cons_append, List.cons_eq_cons] at chunks
    obtain ⟨rfl, later⟩ := chunks
    rw [List.length_drop] at fit within later
    have units : (List.take (shrinkSlice (text.drop position)
        (min (text.length - position) maxStreamChunkBytes)) (text.drop position)).length =
        shrinkSlice (text.drop position) (min (text.length - position) maxStreamChunkBytes) := by
      rw [List.length_take, List.length_drop]
      omega
    rw [List.flatten_cons, List.length_append, ← Nat.add_assoc, List.length_drop, units]
    exact ih (.next cut fit) later

/-- The loops keep the pairs of a text together just if none of their cuts is inside one. -/
theorem keepsPairs_splitForStream_iff (text : List UInt16) :
    Utf16.KeepsPairs (splitForStream text) ↔
      ∀ position, CutAt text position → Utf16.insidePair text position = false := by
  by_cases some : text = []
  · -- The empty text has no pair, and neither has its only chunk.
    subst some
    constructor
    · intro _ position _
      simp [Utf16.insidePair]
    · intro _ front back same
      have whole := congrArg List.flatten same
      rw [flatten_splitForStream, List.flatten_append, eq_comm, List.append_eq_nil_iff] at whole
      rw [whole.1, Utf16.parted_nil_left]
  rw [splitForStream_eq some]
  constructor
  · intro keeps position cut
    obtain ⟨front, chunks, units⟩ := cut.reached
    have whole := keeps front _ chunks
    rwa [units, flatten_splitRemaining] at whole
  · intro cuts front back same
    have position := cutAt_of_append .start same
    have whole := congrArg List.flatten same
    rw [flatten_splitRemaining, List.flatten_append] at whole
    have kept := cuts _ position
    rwa [Nat.zero_add, Utf16.insidePair, whole, List.take_left, List.drop_left] at kept

end CodeExecution

import Mathlib.Algebra.GroupWithZero.Nat
import CodeExecution.Library.Utf16

/-! UTF-16 strings that are cut into slices, and the surrogate pairs that a cut may part. -/

namespace Utf16

/-- A cut between these two parts has the two halves of a pair on its sides. -/
def parted (front back : List UInt16) : Bool :=
  front.getLast?.any isHigh && back.head?.any isLow

/-- A position of a string at which a cut would part a pair. -/
def insidePair (units : List UInt16) (position : Nat) : Bool :=
  parted (units.take position) (units.drop position)

/-- No unit is both halves. -/
theorem not_isHigh_of_isLow {unit : UInt16} (low : isLow unit = true) : isHigh unit = false := by
  simp only [isLow, decide_eq_true_eq] at low
  simp only [isHigh, decide_eq_false_iff_not]
  omega

/-- A second half takes three bytes where it stands alone. -/
theorem unitBytes_of_isLow {unit : UInt16} (low : isLow unit = true) : unitBytes unit = 3 := by
  simp only [isLow, decide_eq_true_eq] at low
  rw [unitBytes, if_neg (by omega), if_neg (by omega)]

/-- So does a first half. -/
theorem unitBytes_of_isHigh {unit : UInt16} (high : isHigh unit = true) : unitBytes unit = 3 := by
  simp only [isHigh, decide_eq_true_eq] at high
  rw [unitBytes, if_neg (by omega), if_neg (by omega)]

/-- A unit takes one to three bytes. -/
theorem unitBytes_bounds (unit : UInt16) : 1 ≤ unitBytes unit ∧ unitBytes unit ≤ 3 := by
  unfold unitBytes
  split_ifs <;> omega

/-- A unit that begins no pair has its own bytes. -/
theorem byteLength_cons_of_not_isHigh {unit : UInt16} (alone : isHigh unit = false)
    (rest : List UInt16) : byteLength (unit :: rest) = unitBytes unit + byteLength rest := by
  cases rest with
  | nil => rfl
  | cons following rest => rw [byteLength, if_neg (by simp [alone])]

/-- A string has one to three bytes for each unit. -/
theorem byteLength_bounds (units : List UInt16) :
    units.length ≤ byteLength units ∧ byteLength units ≤ 3 * units.length := by
  -- The induction follows the pairs of the string, each of which has four bytes.
  induction units using byteLength.induct with
  | case1 => exact ⟨Nat.le_refl _, Nat.le_refl _⟩
  | case2 unit => exact unitBytes_bounds unit
  | case3 unit following rest pair ih =>
    rw [byteLength, if_pos pair]
    simp only [List.length_cons]
    omega
  | case4 unit following rest single ih =>
    have bytes := unitBytes_bounds unit
    rw [byteLength, if_neg single]
    simp only [List.length_cons] at ih ⊢
    omega

/-! ## One cut -/

@[simp] theorem parted_nil_left (back : List UInt16) : parted [] back = false := rfl

@[simp] theorem parted_nil_right (front : List UInt16) : parted front [] = false := by
  simp [parted]

/-- Whether a cut parts a pair is seen at the units beside it. -/
@[simp] theorem parted_cons_cons (unit following : UInt16) (rest back : List UInt16) :
    parted (unit :: following :: rest) back = parted (following :: rest) back := by
  simp [parted]

/-- Only a first half can stand before a cut that parts a pair. -/
theorem parted_singleton (unit following : UInt16) (rest : List UInt16) :
    parted [unit] (following :: rest) = (isHigh unit && isLow following) := by
  simp [parted]

/-- A pair may be left out of the part before the cut. -/
theorem parted_pair {unit following : UInt16} (low : isLow following = true)
    (rest back : List UInt16) : parted (unit :: following :: rest) back = parted rest back := by
  -- The pair itself ends with a second half.
  cases rest with
  | nil => simp [parted, not_isHigh_of_isLow low]
  | cons _ _ => simp

/-- Two parts of a string have its bytes, and two more where the cut parts a pair. -/
theorem byteLength_append (front back : List UInt16) :
    byteLength front + byteLength back =
      byteLength (front ++ back) + if parted front back then 2 else 0 := by
  -- The induction follows the pairs of the first part.
  induction front using byteLength.induct with
  | case1 => simp [byteLength]
  | case2 unit =>
    cases back with
    | nil => simp [byteLength]
    | cons following rest =>
      rw [List.singleton_append, parted_singleton, byteLength, byteLength]
      by_cases pair : isHigh unit = true ∧ isLow following = true
      · -- Each half is replaced by a character of three bytes.
        rw [if_pos pair, if_pos (by simp [pair]), unitBytes_of_isHigh pair.1,
          byteLength_cons_of_not_isHigh (not_isHigh_of_isLow pair.2), unitBytes_of_isLow pair.2]
        omega
      · rw [if_neg pair, if_neg (by simpa using pair)]
        rfl
  | case3 unit following rest pair ih =>
    rw [parted_pair pair.2, List.cons_append, List.cons_append, byteLength, byteLength, if_pos pair,
      if_pos pair]
    omega
  | case4 unit following rest single ih =>
    rw [parted_cons_cons, List.cons_append, List.cons_append, byteLength, byteLength, if_neg single,
      if_neg single]
    rw [List.cons_append] at ih
    omega

/-- A well-formed string does not end with a first half. -/
theorem not_parted_of_isWellFormed {front : List UInt16} (formed : isWellFormed front = true)
    (back : List UInt16) : parted front back = false := by
  -- The induction follows the pairs, and the last unit is reached at the end.
  induction front using isWellFormed.induct with
  | case1 => rfl
  | case2 unit =>
    have ordinary : isHigh unit = false := by
      simp only [isWellFormed, Bool.and_eq_true, Bool.not_eq_true'] at formed
      exact formed.1
    simp [parted, ordinary]
  | case3 unit following rest pair ih =>
    rw [isWellFormed, if_pos pair] at formed
    rw [parted_pair (by simpa using (Bool.and_eq_true_iff.mp pair).2)]
    exact ih formed
  | case4 unit following rest single ih =>
    rw [isWellFormed, if_neg single, Bool.and_eq_true] at formed
    rw [parted_cons_cons]
    exact ih formed.2

/-- Where a cut parts no pair, the surrogates of the two parts belong to pairs of their own. -/
theorem isWellFormed_append_eq {front back : List UInt16} (whole : parted front back = false) :
    isWellFormed (front ++ back) = (isWellFormed front && isWellFormed back) := by
  -- The induction follows the pairs of the first part, which are pairs of the whole.
  induction front using isWellFormed.induct with
  | case1 => rfl
  | case2 unit =>
    cases back with
    | nil => rw [List.append_nil, isWellFormed, isWellFormed, Bool.and_true]
    | cons following rest =>
      rw [parted_singleton] at whole
      have single : ¬(isHigh unit && isLow following) = true := by
        rw [whole]
        exact Bool.false_ne_true
      rw [List.singleton_append]
      exact if_neg single
  | case3 unit following rest pair ih =>
    rw [parted_pair (by simpa using (Bool.and_eq_true_iff.mp pair).2)] at whole
    rw [List.cons_append, List.cons_append, isWellFormed, isWellFormed, if_pos pair, if_pos pair, ih whole]
  | case4 unit following rest single ih =>
    rw [parted_cons_cons] at whole
    have later := ih whole
    rw [List.cons_append] at later
    rw [List.cons_append, List.cons_append, isWellFormed, isWellFormed, if_neg single, if_neg single,
      later, Bool.and_assoc, Bool.and_assoc, Bool.and_assoc]

/-- A cut that parts no pair leaves two well-formed strings. -/
theorem isWellFormed_of_append {front back : List UInt16}
    (formed : isWellFormed (front ++ back) = true) (whole : parted front back = false) :
    isWellFormed front = true ∧ isWellFormed back = true := by
  rwa [isWellFormed_append_eq whole, Bool.and_eq_true] at formed

/-- Well-formed strings may be put together. -/
theorem isWellFormed_append {front back : List UInt16} (left : isWellFormed front = true)
    (right : isWellFormed back = true) : isWellFormed (front ++ back) = true := by
  rw [isWellFormed_append_eq (not_parted_of_isWellFormed left back), left, right]
  rfl

/-- Only the end of the first part decides. -/
theorem parted_append {slice : List UInt16} (some : slice ≠ []) (front back : List UInt16) :
    parted (front ++ slice) back = parted slice back := by
  rw [parted, List.getLast?_append_of_ne_nil _ some, parted]

/-! ## Many cuts -/

/-- No cut between two of these slices parts a pair. -/
def KeepsPairs (slices : List (List UInt16)) : Prop :=
  ∀ front back, slices = front ++ back → parted front.flatten back.flatten = false

/-- The cuts behind the first slice are cuts of the whole. -/
theorem KeepsPairs.tail {slice : List UInt16} {slices : List (List UInt16)}
    (keeps : KeepsPairs (slice :: slices)) : KeepsPairs slices := by
  intro front back same
  have cut := keeps (slice :: front) back (by rw [same, List.cons_append])
  by_cases empty : front.flatten = []
  · -- There is nothing between the first slice and the cut.
    rw [empty, parted_nil_left]
  · rwa [List.flatten_cons, parted_append empty] at cut

/-- Slices that keep the pairs together have the bytes of the whole string. -/
theorem KeepsPairs.sum_byteLength {slices : List (List UInt16)} (keeps : KeepsPairs slices) :
    (slices.map byteLength).sum = byteLength slices.flatten := by
  -- The induction is on the slices; the cut behind the first one adds no byte.
  induction slices with
  | nil => rfl
  | cons slice slices ih =>
    have cut := keeps [slice] slices rfl
    rw [List.flatten_singleton] at cut
    have bytes := byteLength_append slice slices.flatten
    rw [cut, if_neg Bool.false_ne_true, Nat.add_zero] at bytes
    rw [List.map_cons, List.sum_cons, List.flatten_cons, ih keeps.tail, bytes]

/-- Well-formed slices make a well-formed string. -/
theorem isWellFormed_flatten {slices : List (List UInt16)}
    (formed : ∀ slice ∈ slices, isWellFormed slice = true) : isWellFormed slices.flatten = true := by
  induction slices with
  | nil => rfl
  | cons slice slices ih =>
    rw [List.forall_mem_cons] at formed
    exact isWellFormed_append formed.1 (ih formed.2)

/-- The slices of a well-formed string are well-formed just if the cuts keep its pairs together. -/
theorem forall_isWellFormed_iff {slices : List (List UInt16)}
    (formed : isWellFormed slices.flatten = true) :
    (∀ slice ∈ slices, isWellFormed slice = true) ↔ KeepsPairs slices := by
  constructor
  · intro each front back same
    -- What is before a cut is made of well-formed slices.
    exact not_parted_of_isWellFormed
      (isWellFormed_flatten fun slice member => each slice (by simp [same, member])) _
  · intro keeps slice member
    obtain ⟨front, back, same⟩ := List.append_of_mem member
    -- The string is cut before the slice, and what remains behind the slice.
    have before := keeps front (slice :: back) same
    have behind := keeps (front ++ [slice]) back (by simp [same])
    rw [same, List.flatten_append] at formed
    have rest := (isWellFormed_of_append formed before).2
    by_cases empty : slice = []
    · rw [empty, isWellFormed]
    · rw [List.flatten_append, List.flatten_singleton, parted_append empty] at behind
      exact (isWellFormed_of_append rest behind).1

/-! ## Texts -/

/-- A character beyond the first plane is written as a pair. -/
theorem encodeChar_of_large {character : Char} (large : 0x10000 ≤ character.toNat) :
    ∃ high low, encodeChar character = [high, low] ∧ isHigh high = true ∧ isLow low = true := by
  -- Ten bits of the code point are added to the least number of each half.
  have valid : character.toNat.isValidChar := character.valid
  unfold Nat.isValidChar at valid
  have first : (UInt16.ofNat (0xD800 + (character.toNat - 0x10000) / 0x400)).toNat =
      0xD800 + (character.toNat - 0x10000) / 0x400 := by
    rw [UInt16.toNat_ofNat']
    omega
  have second : (UInt16.ofNat (0xDC00 + (character.toNat - 0x10000) % 0x400)).toNat =
      0xDC00 + (character.toNat - 0x10000) % 0x400 := by
    rw [UInt16.toNat_ofNat']
    omega
  refine ⟨_, _, by rw [encodeChar, if_neg (Nat.not_lt.mpr large)], ?_, ?_⟩
  · simp only [isHigh, first, decide_eq_true_eq]
    omega
  · simp only [isLow, second, decide_eq_true_eq]
    omega

/-- The units of one character. -/
theorem isWellFormed_encodeChar (character : Char) : isWellFormed (encodeChar character) = true := by
  -- A character is no surrogate, and a larger one is written as a pair.
  by_cases small : character.toNat < 0x10000
  · have valid : character.toNat.isValidChar := character.valid
    unfold Nat.isValidChar at valid
    have number : (UInt16.ofNat character.toNat).toNat = character.toNat := by
      rw [UInt16.toNat_ofNat']
      omega
    rw [encodeChar, if_pos small]
    simp only [isWellFormed, isHigh, isLow, number, Bool.and_eq_true, Bool.not_eq_true',
      decide_eq_false_iff_not]
    omega
  · obtain ⟨first, second, same, high, low⟩ := encodeChar_of_large (Nat.not_lt.mp small)
    rw [same, isWellFormed, if_pos (by rw [high, low]; rfl), isWellFormed]

/-- The units of a text are well-formed. -/
theorem isWellFormed_encode (text : List Char) : isWellFormed (encode text) = true := by
  induction text with
  | nil => rfl
  | cons character text ih => exact isWellFormed_append (isWellFormed_encodeChar character) ih

/-- Some characters beyond the first plane have two units and four bytes each. -/
theorem sizes_of_large {text : List Char} (large : ∀ character ∈ text, 0x10000 ≤ character.toNat) :
    (encode text).length = 2 * text.length ∧ byteLength (encode text) = 4 * text.length := by
  -- The induction is on the text, whose first character is a pair.
  induction text with
  | nil => exact ⟨rfl, rfl⟩
  | cons character text ih =>
    rw [List.forall_mem_cons] at large
    obtain ⟨first, second, same, high, low⟩ := encodeChar_of_large large.1
    obtain ⟨units, bytes⟩ := ih large.2
    rw [encode, List.flatMap_cons, ← encode, same]
    constructor
    · simp only [List.length_append, List.length_cons, List.length_nil, units]
      omega
    · rw [List.cons_append, List.cons_append, List.nil_append, byteLength, if_pos ⟨high, low⟩, bytes,
        List.length_cons]
      omega

end Utf16

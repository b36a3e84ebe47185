import Mathlib.Data.List.Basic

/-! Strings as sequences of UTF-16 code units, whose surrogates need not pair up. -/

namespace Utf16

/-- The code units of a character. -/
def encodeChar (character : Char) : List UInt16 :=
  if character.toNat < 0x10000 then [UInt16.ofNat character.toNat]
  else
    [UInt16.ofNat (0xD800 + (character.toNat - 0x10000) / 0x400),
      UInt16.ofNat (0xDC00 + (character.toNat - 0x10000) % 0x400)]

/-- The code units of a text. -/
def encode (text : List Char) : List UInt16 :=
  text.flatMap encodeChar

@[simp] theorem encode_nil : encode [] = [] := rfl

@[simp] theorem encode_append (front back : List Char) :
    encode (front ++ back) = encode front ++ encode back := List.flatMap_append

/-- The units of different characters differ, whatever follows them. -/
theorem encodeChar_append_inj {character other : Char} {rest later : List UInt16}
    (same : encodeChar character ++ rest = encodeChar other ++ later) :
    character = other ∧ rest = later := by
  -- No character stands for a surrogate, and a pair of them stands for one character.
  have valid : character.toNat.isValidChar := character.valid
  have valid' : other.toNat.isValidChar := other.valid
  unfold Nat.isValidChar at valid valid'
  have units : ∀ {number number' : Nat}, number < 0x10000 → number' < 0x10000 →
      UInt16.ofNat number = UInt16.ofNat number' → number = number' := by
    intro number number' small small' equal
    have numbers := congrArg UInt16.toNat equal
    rw [UInt16.toNat_ofNat', UInt16.toNat_ofNat'] at numbers
    omega
  have numbers : ∀ {number : Nat}, character.toNat = number → other.toNat = number → character = other := by
    intro number left right
    rw [← Char.ofNat_toNat character, ← Char.ofNat_toNat other, left, right]
  unfold encodeChar at same
  split at same <;> split at same
  · obtain ⟨equal, behind⟩ := List.cons_eq_cons.mp same
    exact ⟨numbers rfl (units (by omega) (by omega) equal).symm, behind⟩
  · obtain ⟨equal, -⟩ := List.cons_eq_cons.mp same
    have surrogate := units (by omega) (by omega) equal
    omega
  · obtain ⟨equal, -⟩ := List.cons_eq_cons.mp same
    have surrogate := units (by omega) (by omega) equal
    omega
  · obtain ⟨high, behind⟩ := List.cons_eq_cons.mp same
    obtain ⟨low, behind⟩ := List.cons_eq_cons.mp behind
    have quotient := units (by omega) (by omega) high
    have remainder := units (by omega) (by omega) low
    exact ⟨numbers rfl (by omega), behind⟩

/-- A character has at least one unit. -/
theorem encodeChar_ne_nil (character : Char) : encodeChar character ≠ [] := by
  unfold encodeChar
  split <;> exact List.cons_ne_nil _ _

/-- Different texts have different units. -/
theorem encode_injective {text other : List Char} (same : encode text = encode other) : text = other := by
  -- The induction is on the text.
  have encode_cons : ∀ character rest, encode (character :: rest) = encodeChar character ++ encode rest :=
    fun _ _ => List.flatMap_cons
  induction text generalizing other with
  | nil =>
    cases other with
    | nil => rfl
    | cons character other =>
      rw [encode_cons, encode_nil] at same
      exact absurd (List.append_eq_nil_iff.mp same.symm).1 (encodeChar_ne_nil character)
  | cons character text ih =>
    cases other with
    | nil =>
      rw [encode_cons, encode_nil] at same
      exact absurd (List.append_eq_nil_iff.mp same).1 (encodeChar_ne_nil character)
    | cons first other =>
      rw [encode_cons, encode_cons] at same
      obtain ⟨rfl, rest⟩ := encodeChar_append_inj same
      rw [ih rest]

/-- The first half of a surrogate pair. -/
def isHigh (unit : UInt16) : Bool := 0xD800 ≤ unit.toNat ∧ unit.toNat ≤ 0xDBFF

/-- The second half of a surrogate pair. -/
def isLow (unit : UInt16) : Bool := 0xDC00 ≤ unit.toNat ∧ unit.toNat ≤ 0xDFFF

/-- The UTF-8 bytes of a unit that stands alone; a lone surrogate is replaced. -/
def unitBytes (unit : UInt16) : Nat :=
  if unit.toNat < 0x80 then 1 else if unit.toNat < 0x800 then 2 else 3

/-- The number of UTF-8 bytes of a string. -/
def byteLength : List UInt16 → Nat
  | [] => 0
  | [unit] => unitBytes unit
  | unit :: following :: rest =>
    if isHigh unit ∧ isLow following then 4 + byteLength rest
    else unitBytes unit + byteLength (following :: rest)

/-! ## Lone surrogates -/

/-- Every surrogate of a string belongs to a pair. -/
def isWellFormed : List UInt16 → Bool
  | [] => true
  | [unit] => !isHigh unit && !isLow unit
  | unit :: following :: rest =>
    if isHigh unit && isLow following then isWellFormed rest
    else !isHigh unit && !isLow unit && isWellFormed (following :: rest)

/-- A unit that stands alone, as it survives an encoding in UTF-8. -/
def replaceLone (unit : UInt16) : UInt16 := if isHigh unit || isLow unit then 0xFFFD else unit

/-- The string with U+FFFD in the place of every lone surrogate. -/
def toWellFormed : List UInt16 → List UInt16
  | [] => []
  | [unit] => [replaceLone unit]
  | unit :: following :: rest =>
    if isHigh unit && isLow following then unit :: following :: toWellFormed rest
    else replaceLone unit :: toWellFormed (following :: rest)

/-- What replaces a surrogate is none. -/
theorem replaceLone_ordinary (unit : UInt16) :
    isHigh (replaceLone unit) = false ∧ isLow (replaceLone unit) = false := by
  unfold replaceLone
  split
  · decide
  · next ordinary => simpa using ordinary

/-- A unit is replaced exactly if it is a surrogate. -/
theorem replaceLone_eq_iff {unit : UInt16} :
    replaceLone unit = unit ↔ (!isHigh unit && !isLow unit) = true := by
  constructor
  -- The replacement itself is no surrogate.
  · intro same
    obtain ⟨high, low⟩ := replaceLone_ordinary unit
    rw [same] at high low
    rw [high, low]
    rfl
  · intro ordinary
    rw [replaceLone, if_neg (by simpa using ordinary)]

/-- A unit that is no surrogate does not matter for the rest. -/
theorem isWellFormed_cons {unit : UInt16} (notHigh : isHigh unit = false) (notLow : isLow unit = false)
    (rest : List UInt16) : isWellFormed (unit :: rest) = isWellFormed rest := by
  cases rest with
  | nil => simp [isWellFormed, notHigh, notLow]
  | cons following rest => simp [isWellFormed, notHigh, notLow]

/-- No lone surrogate is left. -/
@[simp] theorem isWellFormed_toWellFormed (units : List UInt16) :
    isWellFormed (toWellFormed units) = true := by
  -- The induction follows the pairs, which are kept together.
  induction units using toWellFormed.induct with
  | case1 => rfl
  | case2 unit =>
    obtain ⟨notHigh, notLow⟩ := replaceLone_ordinary unit
    rw [toWellFormed, isWellFormed_cons notHigh notLow]
    rfl
  | case3 unit following rest pair ih => rw [toWellFormed, if_pos pair, isWellFormed, if_pos pair, ih]
  | case4 unit following rest single ih =>
    obtain ⟨notHigh, notLow⟩ := replaceLone_ordinary unit
    rw [toWellFormed, if_neg single, isWellFormed_cons notHigh notLow, ih]

/-- A string stays as it is exactly if every surrogate of it belongs to a pair. -/
theorem toWellFormed_eq_iff {units : List UInt16} :
    toWellFormed units = units ↔ isWellFormed units = true := by
  constructor
  · intro same
    rw [← same]
    exact isWellFormed_toWellFormed units
  · intro formed
    -- The induction follows the pairs, and no unit of a well-formed string is replaced.
    induction units using isWellFormed.induct with
    | case1 => rfl
    | case2 unit => rw [toWellFormed, replaceLone_eq_iff.mpr formed]
    | case3 unit following rest pair ih =>
      rw [isWellFormed, if_pos pair] at formed
      rw [toWellFormed, if_pos pair, ih formed]
    | case4 unit following rest single ih =>
      rw [isWellFormed, if_neg single, Bool.and_eq_true] at formed
      rw [toWellFormed, if_neg single, replaceLone_eq_iff.mpr formed.1, ih formed.2]

end Utf16

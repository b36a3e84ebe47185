import Mathlib.Algebra.Order.Group.Nat
import Mathlib.Data.List.Basic

/-! UTF-8 text: encoding, and the decoding that replaces each ill-formed part. -/

namespace Utf8

/-- The bytes of a text. -/
def encode (text : List Char) : List UInt8 :=
  text.flatMap String.utf8EncodeChar

/-- The character that stands for an ill-formed sequence. -/
def replacement : Char := '\uFFFD'

/-- A character of which only some bytes have been read. -/
structure Pending where
  /-- The bits of the code point that have been read. -/
  codePoint : Nat
  /-- The number of its continuation bytes. -/
  needed : Nat
  /-- How many of them have been read. -/
  seen : Nat
  /-- The least byte that may come next. -/
  lower : Nat
  /-- The greatest byte that may come next. -/
  upper : Nat
  deriving DecidableEq, Repr

/-- What the first byte of a character of several bytes tells about the others. -/
def lead (byte : Nat) : Option Pending :=
  -- The bounds leave out overlong forms, surrogates and values beyond the last code point.
  if 0xC2 ≤ byte ∧ byte ≤ 0xDF then some ⟨byte - 0xC0, 1, 0, 0x80, 0xBF⟩
  else if byte = 0xE0 then some ⟨0, 2, 0, 0xA0, 0xBF⟩
  else if byte = 0xED then some ⟨0xD, 2, 0, 0x80, 0x9F⟩
  else if 0xE1 ≤ byte ∧ byte ≤ 0xEF then some ⟨byte - 0xE0, 2, 0, 0x80, 0xBF⟩
  else if byte = 0xF0 then some ⟨0, 3, 0, 0x90, 0xBF⟩
  else if 0xF1 ≤ byte ∧ byte ≤ 0xF3 then some ⟨byte - 0xF0, 3, 0, 0x80, 0xBF⟩
  else if byte = 0xF4 then some ⟨4, 3, 0, 0x80, 0x8F⟩
  else none

/-- The output and the next state for a byte between characters. -/
def first (byte : UInt8) : List Char × Option Pending :=
  if byte.toNat < 0x80 then ([Char.ofNat byte.toNat], none)
  else
    match lead byte.toNat with
    | some pending => ([], some pending)
    | none => ([replacement], none)

/-- The output and the next state for a byte inside a character. -/
def Pending.next (pending : Pending) (byte : UInt8) : List Char × Option Pending :=
  if pending.lower ≤ byte.toNat ∧ byte.toNat ≤ pending.upper then
    let codePoint := pending.codePoint * 64 + (byte.toNat - 0x80)
    if pending.seen + 1 = pending.needed then ([Char.ofNat codePoint], none)
    else ([], some ⟨codePoint, pending.needed, pending.seen + 1, 0x80, 0xBF⟩)
  -- The byte cannot belong here: what was read is ill-formed, and the byte is read once more.
  else (replacement :: (first byte).1, (first byte).2)

/-- The output and the next state for a byte. -/
def feed : Option Pending → UInt8 → List Char × Option Pending
  | none, byte => first byte
  | some pending, byte => pending.next byte

/-- The text from some state on. -/
def decodeFrom : Option Pending → List UInt8 → List Char
  | none, [] => []
  -- The bytes end inside a character.
  | some _, [] => [replacement]
  | state, byte :: rest => (feed state byte).1 ++ decodeFrom (feed state byte).2 rest

/-- The text of some bytes, with one replacement for each maximal ill-formed part. -/
def decode (bytes : List UInt8) : List Char :=
  decodeFrom none bytes

/-! ## Pending characters -/

/-- The least code point that the character may turn out to have. -/
def Pending.least (pending : Pending) : Nat :=
  (pending.codePoint * 64 + (pending.lower - 0x80)) * 64 ^ (pending.needed - pending.seen - 1)

/-- The code point behind the greatest one. -/
def Pending.bound (pending : Pending) : Nat :=
  (pending.codePoint * 64 + (pending.upper - 0x80) + 1) * 64 ^ (pending.needed - pending.seen - 1)

/-- Code points that take some number of continuation bytes. -/
def Takes (continuation codePoint : Nat) : Prop :=
  (continuation = 1 ∧ 0x80 ≤ codePoint ∧ codePoint < 0x800) ∨
    (continuation = 2 ∧ 0x800 ≤ codePoint ∧ codePoint < 0x10000) ∨
    (continuation = 3 ∧ 0x10000 ≤ codePoint)

/-- Every way to go on gives a character of the announced length. -/
structure Pending.Valid (pending : Pending) : Prop where
  unread : pending.seen < pending.needed
  few : pending.needed ≤ 3
  range : 0x80 ≤ pending.lower ∧ pending.upper ≤ 0xBF
  character : ∀ codePoint, pending.least ≤ codePoint → codePoint < pending.bound →
    codePoint.isValidChar ∧ Takes pending.needed codePoint

/-- A first byte announces a valid character. -/
theorem lead_valid {byte : Nat} {pending : Pending} (leads : lead byte = some pending) :
    pending.Valid := by
  -- Each of the seven kinds of first byte has an interval of its own.
  have valid : ∀ {codePoint needed lower upper : Nat}, 0 < needed → needed ≤ 3 → 0x80 ≤ lower ∧ upper ≤ 0xBF →
      (∀ value, (codePoint * 64 + (lower - 0x80)) * 64 ^ (needed - 1) ≤ value →
        value < (codePoint * 64 + (upper - 0x80) + 1) * 64 ^ (needed - 1) →
          value.isValidChar ∧ Takes needed value) →
      Pending.Valid ⟨codePoint, needed, 0, lower, upper⟩ := by
    intro codePoint needed lower upper some few range interval
    exact ⟨some, few, range, interval⟩
  unfold lead at leads
  repeat' split at leads
  all_goals first | obtain rfl := Option.some.inj leads | exact absurd leads nofun
  all_goals
    refine valid (by decide) (by decide) (by decide) fun value low high => ?_
    unfold Nat.isValidChar Takes
    omega

/-- The last byte makes the character complete. -/
theorem Pending.Valid.complete {pending : Pending} (valid : pending.Valid) {byte : Nat}
    (low : pending.lower ≤ byte) (high : byte ≤ pending.upper)
    (last : pending.seen + 1 = pending.needed) :
    (pending.codePoint * 64 + (byte - 0x80)).isValidChar ∧
      Takes pending.needed (pending.codePoint * 64 + (byte - 0x80)) := by
  -- No continuation byte is missing, so the bounds are those of the code point itself.
  have range := valid.range
  have none : pending.needed - pending.seen - 1 = 0 := by omega
  refine valid.character _ ?_ ?_
  · simp only [least, none, pow_zero, mul_one]
    omega
  · simp only [bound, none, pow_zero, mul_one]
    omega

/-- Another byte narrows the code points down. -/
theorem Pending.Valid.continue {pending : Pending} (valid : pending.Valid) {byte : Nat}
    (low : pending.lower ≤ byte) (high : byte ≤ pending.upper)
    (more : pending.seen + 1 < pending.needed) :
    Pending.Valid ⟨pending.codePoint * 64 + (byte - 0x80), pending.needed, pending.seen + 1, 0x80,
      0xBF⟩ := by
  have range := valid.range
  refine ⟨more, valid.few, ⟨le_refl _, le_refl _⟩, fun codePoint least bound => ?_⟩
  have exponent : pending.needed - pending.seen - 1 = pending.needed - (pending.seen + 1) - 1 + 1 := by
    omega
  -- One more byte multiplies the remaining interval by the number of continuation bytes.
  have whole : 64 ^ (pending.needed - pending.seen - 1) =
      64 * 64 ^ (pending.needed - (pending.seen + 1) - 1) := by rw [exponent, pow_succ, mul_comm]
  simp only [Pending.least, Pending.bound] at least bound
  refine valid.character codePoint (le_trans ?_ least) (lt_of_lt_of_le bound ?_)
  · rw [Pending.least, whole, ← mul_assoc]
    exact Nat.mul_le_mul_right _ (by omega)
  · rw [Pending.bound, whole, ← mul_assoc]
    exact Nat.mul_le_mul_right _ (by omega)

/-- A valid code point is the one of its character. -/
theorem toNat_ofNat_of_valid {codePoint : Nat} (valid : codePoint.isValidChar) :
    (Char.ofNat codePoint).toNat = codePoint := by
  rw [Char.ofNat, dif_pos valid]
  rfl

/-- A character with continuation bytes has its announced length, and is not the null character. -/
theorem ofNat_of_takes {continuation codePoint : Nat}
    (character : codePoint.isValidChar ∧ Takes continuation codePoint) :
    (Char.ofNat codePoint).utf8Size = continuation + 1 ∧ Char.ofNat codePoint ≠ '\x00' := by
  -- The encoded size is a function of the code point.
  obtain ⟨valid, takes⟩ := character
  have same : (Char.ofNat codePoint).toNat = codePoint := toNat_ofNat_of_valid valid
  have size : (Char.ofNat codePoint).utf8Size =
      if codePoint ≤ 0x7F then 1 else if codePoint ≤ 0x7FF then 2
      else if codePoint ≤ 0xFFFF then 3 else 4 := by
    simp only [Char.utf8Size, UInt32.le_iff_toNat_le, Char.toNat_val, same]
    rfl
  unfold Takes at takes
  constructor
  · rw [size]
    split_ifs <;> omega
  · intro null
    rw [null] at same
    have zero : codePoint = 0 := same.symm
    omega

/-! ## Null characters and lengths -/

@[simp] theorem encode_append (front back : List Char) :
    encode (front ++ back) = encode front ++ encode back := List.flatMap_append

@[simp] theorem length_encode_singleton (character : Char) :
    (encode [character]).length = character.utf8Size := by
  simp [encode]

/-- Every pending character is valid. -/
def Sound (state : Option Pending) : Prop :=
  ∀ pending, state = some pending → pending.Valid

theorem sound_none : Sound none := nofun

/-- The number of bytes that have been read without an output. -/
def held : Option Pending → Nat
  | none => 0
  | some pending => pending.seen + 1

/-- What the decoder does with one byte. -/
structure Fed (state : Option Pending) (byte : UInt8) (fed : List Char × Option Pending) : Prop where
  sound : Sound fed.2
  /-- Null characters stand for null bytes. -/
  null : '\x00' ∈ fed.1 ↔ byte = 0
  /-- No byte is lost. -/
  length : held state + 1 ≤ (encode fed.1).length + held fed.2

/-- Between characters, a byte is a character, a beginning or an error. -/
theorem first_fed (byte : UInt8) : Fed none byte (first byte) := by
  -- The byte is a character, the lead of one, or replaced.
  have zero : byte = 0 ↔ byte.toNat = 0 := by rw [← UInt8.toNat_inj]; rfl
  unfold first
  split
  · next small =>
    have valid : byte.toNat.isValidChar := by unfold Nat.isValidChar; omega
    have same := toNat_ofNat_of_valid valid
    have some := Char.utf8Size_pos (Char.ofNat byte.toNat)
    refine ⟨sound_none, ?_, ?_⟩
    · rw [List.mem_singleton, zero]
      constructor
      · intro null
        rw [← same, ← null]
        rfl
      · intro null
        rw [null]
    · simp only [held, length_encode_singleton]
      omega
  · next large =>
    have notNull : ¬ byte = 0 := by
      rw [zero]
      omega
    split
    · next pending leads =>
      refine ⟨fun _ same => ?_, by simp [notNull], ?_⟩
      · obtain rfl := Option.some.inj same
        exact lead_valid leads
      · simp only [held]
        omega
    · refine ⟨sound_none, ?_, by decide⟩
      have other : '\x00' ≠ replacement := by decide
      simp [notNull, other]

/-- Inside a character, a byte continues it, completes it, or shows that it is ill-formed. -/
theorem Pending.Valid.fed {pending : Pending} (valid : pending.Valid) (byte : UInt8) :
    Fed (some pending) byte (pending.next byte) := by
  have unread := valid.unread
  have few := valid.few
  unfold Pending.next
  split
  · next within =>
    obtain ⟨low, high⟩ := within
    have notNull : ¬ byte = 0 := by
      intro same
      subst same
      have range := valid.range.1
      exact absurd (le_trans range low) (by decide)
    dsimp only
    split
    · next last =>
      obtain ⟨size, other⟩ := ofNat_of_takes (valid.complete low high last)
      refine ⟨sound_none, by simp [notNull, other.symm], ?_⟩
      simp only [held, length_encode_singleton, size]
      omega
    · next more =>
      refine ⟨fun _ same => ?_, by simp [notNull], by simp [held]⟩
      obtain rfl := Option.some.inj same
      exact valid.continue low high (by omega)
  · -- The bytes that were read are no more than the replacement takes.
    have again := first_fed byte
    refine ⟨again.sound, ?_, ?_⟩
    · have other : '\x00' ≠ replacement := by decide
      rw [List.mem_cons, or_iff_right other, again.null]
    · have length := again.length
      have three : replacement.utf8Size = 3 := by decide
      rw [← List.singleton_append, encode_append, List.length_append, length_encode_singleton, three]
      simp only [held] at length ⊢
      omega

/-- The decoder keeps its account of null bytes and of lengths at every byte. -/
theorem feed_fed {state : Option Pending} (sound : Sound state) (byte : UInt8) :
    Fed state byte (feed state byte) := by
  cases state with
  | none => exact first_fed byte
  | some pending => exact (sound pending rfl).fed byte

/-- A null character is decoded from a null byte, and from nothing else. -/
theorem null_mem_decodeFrom {state : Option Pending} (sound : Sound state) (bytes : List UInt8) :
    '\x00' ∈ decodeFrom state bytes ↔ 0 ∈ bytes := by
  -- The induction is on the bytes; what a byte brings out is null exactly if the byte is.
  induction bytes generalizing state with
  | nil =>
    have other : '\x00' ≠ replacement := by decide
    cases state with
    | none => simp [decodeFrom]
    | some pending => simp [decodeFrom, other]
  | cons byte rest ih =>
    have fed := feed_fed sound byte
    rw [decodeFrom, List.mem_append, fed.null, ih fed.sound, List.mem_cons, eq_comm]

/-- No decoding is shorter than its bytes. -/
theorem length_le_decodeFrom {state : Option Pending} (sound : Sound state) (bytes : List UInt8) :
    held state + bytes.length ≤ (encode (decodeFrom state bytes)).length := by
  -- The induction is on the bytes; a replacement is longer than what it replaces.
  induction bytes generalizing state with
  | nil =>
    cases state with
    | none => simp [decodeFrom, held]
    | some pending =>
      have few := (sound pending rfl).few
      have unread := (sound pending rfl).unread
      have three : replacement.utf8Size = 3 := by decide
      simp only [decodeFrom, held, length_encode_singleton, three, List.length_nil]
      omega
  | cons byte rest ih =>
    have fed := feed_fed sound byte
    have later := ih fed.sound
    have length := fed.length
    rw [decodeFrom, encode_append, List.length_append, List.length_cons]
    omega

theorem null_mem_decode (bytes : List UInt8) : '\x00' ∈ decode bytes ↔ 0 ∈ bytes :=
  null_mem_decodeFrom sound_none bytes

theorem length_le_decode (bytes : List UInt8) : bytes.length ≤ (encode (decode bytes)).length := by
  have length := length_le_decodeFrom sound_none bytes
  rwa [held, Nat.zero_add] at length

end Utf8

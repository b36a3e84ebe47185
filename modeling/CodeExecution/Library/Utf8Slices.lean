import Mathlib.Algebra.BigOperators.Group.List.Basic
import CodeExecution.Library.Utf8

/-! UTF-8 text that is read in slices, each of which is decoded on its own. -/

namespace Utf8

/-- A continuation byte. -/
def IsTail (byte : UInt8) : Prop := 0x80 ≤ byte.toNat ∧ byte.toNat ≤ 0xBF

/-- The bytes that take the decoder from a state through the rest of a character. -/
inductive Spells (character : Char) : Option Pending → List UInt8 → Prop
  /-- The last byte completes the character. -/
  | last {state : Option Pending} {byte : UInt8} (completes : feed state byte = ([character], none)) :
      Spells character state [byte]
  /-- Any other byte is read without an output, and continuation bytes follow it. -/
  | more {state : Option Pending} {byte : UInt8} {pending : Pending} {rest : List UInt8}
      (continues : feed state byte = ([], some pending)) (tails : ∀ byte ∈ rest, IsTail byte)
      (spells : Spells character (some pending) rest) : Spells character state (byte :: rest)

/-- The byte of a small number is that number. -/
theorem toNat_ofNat_byte {value : Nat} (small : value < 256) : (UInt8.ofNat value).toNat = value := by
  rw [UInt8.toNat_ofNat']
  omega

/-- A continuation byte within the bounds of a pending character is read without an error. -/
theorem Pending.next_within {pending : Pending} {value : Nat} (low : pending.lower ≤ value)
    (high : value ≤ pending.upper) (small : value < 256) :
    pending.next (UInt8.ofNat value) =
      if pending.seen + 1 = pending.needed then
        ([Char.ofNat (pending.codePoint * 64 + (value - 0x80))], none)
      else ([], some ⟨pending.codePoint * 64 + (value - 0x80), pending.needed, pending.seen + 1,
        0x80, 0xBF⟩) := by
  rw [Pending.next, toNat_ofNat_byte small, if_pos ⟨low, high⟩]

/-- A first byte of several announces the others. -/
theorem first_lead {value : Nat} {pending : Pending} (small : value < 256)
    (leads : lead value = some pending) : first (UInt8.ofNat value) = ([], some pending) := by
  have large : ¬ value < 0x80 := by
    intro ascii
    unfold lead at leads
    repeat' split at leads
    all_goals first | omega | simp at leads
  rw [first, toNat_ofNat_byte small, if_neg large, leads]

/-! ## The bytes of a character -/

/-- The last continuation byte spells the character. -/
theorem Spells.of_last {character : Char} {codePoint seen lower upper value : Nat}
    (low : lower ≤ value) (high : value ≤ upper) (small : value < 256)
    (same : codePoint * 64 + (value - 0x80) = character.toNat) :
    Spells character (some ⟨codePoint, seen + 1, seen, lower, upper⟩) [UInt8.ofNat value] := by
  -- The code point is complete, and it is the one of the character.
  refine .last ?_
  rw [feed, Pending.next_within low high small, if_pos rfl, same, Char.ofNat_toNat]

/-- Another continuation byte brings the decoder closer to the character. -/
theorem Spells.of_next {character : Char} {codePoint needed seen lower upper value : Nat}
    {rest : List UInt8} (low : lower ≤ value) (high : value ≤ upper) (small : value < 256)
    (more : seen + 1 ≠ needed) (tails : ∀ byte ∈ rest, IsTail byte)
    (spells : Spells character
      (some ⟨codePoint * 64 + (value - 0x80), needed, seen + 1, 0x80, 0xBF⟩) rest) :
    Spells character (some ⟨codePoint, needed, seen, lower, upper⟩) (UInt8.ofNat value :: rest) := by
  refine .more ?_ tails spells
  rw [feed, Pending.next_within low high small, if_neg more]

/-- The first byte of several starts the character. -/
theorem Spells.of_lead {character : Char} {pending : Pending} {value : Nat} {rest : List UInt8}
    (small : value < 256) (leads : lead value = some pending) (tails : ∀ byte ∈ rest, IsTail byte)
    (spells : Spells character (some pending) rest) :
    Spells character none (UInt8.ofNat value :: rest) :=
  .more (first_lead small leads) tails spells

/-- The encoder writes continuation bytes behind the first byte. -/
theorem isTail_cons (value : Nat) {rest : List UInt8} (tails : ∀ byte ∈ rest, IsTail byte) :
    ∀ byte ∈ UInt8.ofNat (value % 64 + 0x80) :: rest, IsTail byte := by
  -- Six bits are written behind the mark of a continuation byte.
  refine List.forall_mem_cons.mpr ⟨?_, tails⟩
  unfold IsTail
  rw [toNat_ofNat_byte (by omega)]
  omega

/-- Two bytes spell a character below U+0800. -/
theorem spells_two {character : Char} (low : 0x80 ≤ character.toNat) (high : character.toNat ≤ 0x7FF) :
    Spells character none [UInt8.ofNat (character.toNat / 64 % 32 + 0xC0),
      UInt8.ofNat (character.toNat % 64 + 0x80)] := by
  -- The first byte carries five bits, the second one six.
  have leads : lead (character.toNat / 64 % 32 + 0xC0) =
      some ⟨character.toNat / 64, 1, 0, 0x80, 0xBF⟩ := by
    rw [lead, if_pos (by omega),
      show character.toNat / 64 % 32 + 0xC0 - 0xC0 = character.toNat / 64 by omega]
  refine .of_lead (by omega) leads (isTail_cons _ (List.forall_mem_nil _)) (.of_last ?_ ?_ ?_ ?_)
  all_goals omega

/-- Three bytes spell a character below U+10000. -/
theorem spells_three {character : Char} (low : 0x7FF < character.toNat)
    (high : character.toNat ≤ 0xFFFF) :
    Spells character none [UInt8.ofNat (character.toNat / 4096 % 16 + 0xE0),
      UInt8.ofNat (character.toNat / 64 % 64 + 0x80), UInt8.ofNat (character.toNat % 64 + 0x80)] := by
  -- The bounds of the second byte leave out overlong forms and surrogates.
  have valid : character.toNat.isValidChar := character.valid
  have leads : ∃ lower upper, lower ≤ character.toNat / 64 % 64 + 0x80 ∧
      character.toNat / 64 % 64 + 0x80 ≤ upper ∧ lead (character.toNat / 4096 % 16 + 0xE0) =
        some ⟨character.toNat / 4096, 2, 0, lower, upper⟩ := by
    unfold Nat.isValidChar at valid
    by_cases overlong : character.toNat / 4096 = 0
    · exact ⟨0xA0, 0xBF, by omega, by omega, by rw [overlong]; rfl⟩
    · by_cases surrogate : character.toNat / 4096 = 0xD
      · exact ⟨0x80, 0x9F, by omega, by omega, by rw [surrogate]; rfl⟩
      · refine ⟨0x80, 0xBF, by omega, by omega, ?_⟩
        rw [lead, if_neg (by omega), if_neg (by omega), if_neg (by omega), if_pos (by omega),
          show character.toNat / 4096 % 16 + 0xE0 - 0xE0 = character.toNat / 4096 by omega]
  obtain ⟨lower, upper, below, above, leads⟩ := leads
  have third := isTail_cons character.toNat (List.forall_mem_nil _)
  have second := isTail_cons (character.toNat / 64) third
  refine .of_lead (by omega) leads second
    (.of_next below above (by omega) (by decide) third (.of_last ?_ ?_ ?_ ?_))
  all_goals omega

/-- Four bytes spell any other character. -/
theorem spells_four {character : Char} (low : 0xFFFF < character.toNat) :
    Spells character none [UInt8.ofNat (character.toNat / 262144 % 8 + 0xF0),
      UInt8.ofNat (character.toNat / 4096 % 64 + 0x80),
      UInt8.ofNat (character.toNat / 64 % 64 + 0x80), UInt8.ofNat (character.toNat % 64 + 0x80)] := by
  -- The bounds of the second byte leave out overlong forms, and what is beyond U+10FFFF.
  have valid : character.toNat.isValidChar := character.valid
  unfold Nat.isValidChar at valid
  have leads : ∃ lower upper, lower ≤ character.toNat / 4096 % 64 + 0x80 ∧
      character.toNat / 4096 % 64 + 0x80 ≤ upper ∧ lead (character.toNat / 262144 % 8 + 0xF0) =
        some ⟨character.toNat / 262144, 3, 0, lower, upper⟩ := by
    by_cases overlong : character.toNat / 262144 = 0
    · exact ⟨0x90, 0xBF, by omega, by omega, by rw [overlong]; rfl⟩
    · by_cases greatest : character.toNat / 262144 = 4
      · exact ⟨0x80, 0x8F, by omega, by omega, by rw [greatest]; rfl⟩
      · refine ⟨0x80, 0xBF, by omega, by omega, ?_⟩
        rw [lead, if_neg (by omega), if_neg (by omega), if_neg (by omega), if_neg (by omega),
          if_neg (by omega), if_pos (by omega),
          show character.toNat / 262144 % 8 + 0xF0 - 0xF0 = character.toNat / 262144 by omega]
  obtain ⟨lower, upper, below, above, leads⟩ := leads
  have fourth := isTail_cons character.toNat (List.forall_mem_nil _)
  have third := isTail_cons (character.toNat / 64) fourth
  have second := isTail_cons (character.toNat / 4096) third
  refine .of_lead (by omega) leads second
    (.of_next below above (by omega) (by decide) third
      (.of_next ?_ ?_ ?_ (by decide) fourth (.of_last ?_ ?_ ?_ ?_)))
  all_goals omega

/-- The bytes of a character spell it. -/
theorem spells_encodeChar (character : Char) :
    Spells character none (String.utf8EncodeChar character) := by
  -- The encoder distinguishes the same four lengths.
  unfold String.utf8EncodeChar
  dsimp only
  rw [Char.toNat_val]
  split_ifs with one two three
  · have small : character.toNat < 256 := by omega
    have ascii : character.toNat < 0x80 := by omega
    refine .last ?_
    rw [feed, first, toNat_ofNat_byte small, if_pos ascii, Char.ofNat_toNat]
  · exact spells_two (by omega) two
  · exact spells_three (by omega) three
  · exact spells_four (by omega)

/-- Continuation bytes follow the first of the bytes that spell a character. -/
theorem Spells.tails {character : Char} {state : Option Pending} {bytes : List UInt8}
    (spells : Spells character state bytes) :
    ∃ byte rest, bytes = byte :: rest ∧ ∀ byte ∈ rest, IsTail byte := by
  -- A last byte has nothing behind it.
  cases spells with
  | last => exact ⟨_, _, rfl, List.forall_mem_nil _⟩
  | more _ tails => exact ⟨_, _, rfl, tails⟩

/-! ## Decoding -/

@[simp] theorem decode_nil : decode [] = [] := rfl

@[simp] theorem encode_nil : encode [] = [] := rfl

/-- A text is encoded character by character. -/
theorem encode_cons (character : Char) (rest : List Char) :
    encode (character :: rest) = String.utf8EncodeChar character ++ encode rest := List.flatMap_cons

/-- The bytes of a character are decoded to it, whatever follows them. -/
theorem Spells.decodeFrom {character : Char} {state : Option Pending} {bytes : List UInt8}
    (spells : Spells character state bytes) (rest : List UInt8) :
    decodeFrom state (bytes ++ rest) = character :: decodeFrom none rest := by
  -- Only the last byte has an output.
  induction spells with
  | last completes => simp [Utf8.decodeFrom, completes]
  | more continues _ _ ih => simp [Utf8.decodeFrom, continues, ih]

/-- Bytes that stop inside a character are replaced. -/
theorem Spells.decodeFrom_front {character : Char} {state : Option Pending} {front back : List UInt8}
    (spells : Spells character state (front ++ back)) (some : front ≠ []) (cut : back ≠ []) :
    Utf8.decodeFrom state front = [replacement] := by
  -- The induction is on the bytes that are read, each of which leaves a character pending.
  induction front generalizing state with
  | nil => exact absurd rfl some
  | cons byte front ih =>
    rw [List.cons_append] at spells
    generalize whole : byte :: (front ++ back) = bytes at spells
    cases spells with
    | last =>
      have empty := (List.cons_eq_cons.mp whole).2
      exact absurd (List.append_eq_nil_iff.mp empty).2 cut
    | @more _ _ pending rest continues _ spells =>
      obtain ⟨same, rfl⟩ := List.cons_eq_cons.mp whole
      rw [Utf8.decodeFrom, same, continues]
      cases front with
      | nil => rfl
      | cons next front => exact ih spells (List.cons_ne_nil _ _)

/-- The bytes of a text are decoded to it, whatever follows them. -/
theorem decode_encode_append (text : List Char) (rest : List UInt8) :
    decode (encode text ++ rest) = text ++ decode rest := by
  -- The induction is on the text.
  induction text with
  | nil => rfl
  | cons character text ih =>
    rw [encode_cons, List.append_assoc, decode, (spells_encodeChar character).decodeFrom, ← decode, ih,
      List.cons_append]

/-- The bytes of a text are decoded to it. -/
@[simp] theorem decode_encode (text : List Char) : decode (encode text) = text := by
  have decoded := decode_encode_append text []
  rwa [List.append_nil, decode_nil, List.append_nil] at decoded

/-- Different texts have different bytes. -/
theorem encode_injective {text other : List Char} (same : encode text = encode other) :
    text = other := by
  rw [← decode_encode text, same, decode_encode]

/-- Bytes of a text and the first bytes of another character are decoded to the text and a replacement. -/
theorem decode_encode_front (text : List Char) {character : Char} {front back : List UInt8}
    (split : String.utf8EncodeChar character = front ++ back) (some : front ≠ []) (cut : back ≠ []) :
    decode (encode text ++ front) = text ++ [replacement] := by
  have spells := spells_encodeChar character
  rw [split] at spells
  rw [decode_encode_append, decode, spells.decodeFrom_front some cut]

/-- A continuation byte between characters is replaced. -/
theorem first_tail {byte : UInt8} (tail : IsTail byte) : first byte = ([replacement], none) := by
  -- Such a byte is no ASCII character, and it starts none of several bytes.
  obtain ⟨low, high⟩ := tail
  have none : lead byte.toNat = none := by
    unfold lead
    repeat' split
    all_goals first | omega | rfl
  rw [first, if_neg (by omega), none]

/-- Every continuation byte between characters is replaced. -/
theorem decode_tails {tails : List UInt8} (each : ∀ byte ∈ tails, IsTail byte) (rest : List UInt8) :
    decode (tails ++ rest) = List.replicate tails.length replacement ++ decode rest := by
  -- The induction is on the continuation bytes.
  induction tails with
  | nil => rfl
  | cons byte tails ih =>
    obtain ⟨tail, each⟩ := List.forall_mem_cons.mp each
    rw [List.cons_append, decode, decodeFrom, feed, first_tail tail, ← decode, ih each]
    rfl

/-! ## Cuts of a text -/

/-- A cut between two characters of a text, or inside one. -/
inductive Cut (text : List Char) (front back : List UInt8) : Prop
  /-- Both parts are texts. -/
  | between (before after : List Char) (whole : text = before ++ after) (left : front = encode before)
      (right : back = encode after)
  /-- The front ends with the first bytes of a character, whose other bytes follow. -/
  | inside (before after : List Char) (character : Char) (start tails : List UInt8)
      (whole : text = before ++ character :: after)
      (split : String.utf8EncodeChar character = start ++ tails) (some : start ≠ []) (more : tails ≠ [])
      (each : ∀ byte ∈ tails, IsTail byte) (left : front = encode before ++ start)
      (right : back = tails ++ encode after)

/-- A cut behind another character. -/
theorem Cut.cons {text : List Char} {front back : List UInt8} (cut : Cut text front back)
    (character : Char) : Cut (character :: text) (String.utf8EncodeChar character ++ front) back := by
  -- The character goes in front of the whole ones before the cut.
  cases cut with
  | between before after whole left right =>
    exact .between (character :: before) after (by rw [whole, List.cons_append])
      (by rw [left, encode_cons]) right
  | inside before after other start tails whole split some more each left right =>
    exact .inside (character :: before) after other start tails (by rw [whole, List.cons_append]) split
      some more each (by rw [left, encode_cons, List.append_assoc]) right

/-- The bytes of a text are cut between two characters, or inside one. -/
theorem cut_of_append {text : List Char} {front back : List UInt8}
    (whole : encode text = front ++ back) : Cut text front back := by
  -- The induction is on the text; the cut is behind its first character, or not.
  induction text generalizing front with
  | nil =>
    obtain ⟨rfl, rfl⟩ := List.append_eq_nil_iff.mp whole.symm
    exact .between [] [] rfl rfl rfl
  | cons character text ih =>
    rw [encode_cons] at whole
    rcases List.append_eq_append_iff.mp whole with ⟨rest, rfl, rest_eq⟩ | ⟨tails, split, rfl⟩
    · exact (ih rest_eq).cons character
    · by_cases none : front = []
      · subst none
        exact .between [] (character :: text) rfl rfl (by rw [encode_cons, split, List.nil_append])
      · by_cases complete : tails = []
        · subst complete
          rw [List.append_nil] at split
          exact .between [character] text rfl (by rw [← split]; simp [encode]) rfl
        · refine .inside [] text character front tails rfl split none complete ?_ rfl rfl
          obtain ⟨byte, rest, bytes, each⟩ := (spells_encodeChar character).tails
          rw [bytes] at split
          cases front with
          | nil => exact absurd rfl none
          | cons first front =>
            have behind := (List.cons_eq_cons.mp split).2
            intro tail inside
            exact each tail (by rw [behind]; exact List.mem_append_right _ inside)

/-! ## Slices -/

/--
The replacements that the slices of a text are decoded to.

A cut inside a character brings out at least one for each of its two parts.
-/
theorem count_slices {slices : List (List UInt8)} {tails : List UInt8} {text : List Char}
    (each : ∀ byte ∈ tails, IsTail byte) (whole : slices.flatten = tails ++ encode text) :
    tails.length + text.count replacement ≤ (slices.flatMap decode).count replacement ∧
      (tails = [] → (slices.flatMap decode).count replacement = text.count replacement →
        ∀ slice ∈ slices, ∃ part, slice = encode part) := by
  -- The induction is on the slices; the continuation bytes are left from the slice before.
  induction slices generalizing tails text with
  | nil =>
    obtain ⟨rfl, none⟩ := List.append_eq_nil_iff.mp whole.symm
    obtain rfl := encode_injective (none.trans encode_nil.symm)
    exact ⟨le_refl _, fun _ _ _ inside => absurd inside List.not_mem_nil⟩
  | cons slice rest ih =>
    rw [List.flatten_cons] at whole
    rw [List.flatMap_cons, List.count_append]
    rcases List.append_eq_append_iff.mp whole with ⟨more, rfl, later⟩ | ⟨front, rfl, later⟩
    · -- The slice ends before the next character begins.
      obtain ⟨before, behind⟩ := List.forall_mem_append.mp each
      have decoded := decode_tails before []
      rw [List.append_nil, decode_nil, List.append_nil] at decoded
      obtain ⟨few, even⟩ := ih behind later
      rw [decoded, List.count_replicate_self, List.length_append]
      refine ⟨by omega, fun none same => List.forall_mem_cons.mpr ⟨⟨[], ?_⟩, ?_⟩⟩
      · exact (List.append_eq_nil_iff.mp none).1
      · obtain ⟨rfl, rfl⟩ := List.append_eq_nil_iff.mp none
        exact even rfl (by simpa using same)
    · rw [decode_tails each, List.count_append, List.count_replicate_self]
      cases cut_of_append later with
      | between before after parts left right =>
        subst parts left
        obtain ⟨few, even⟩ := ih (List.forall_mem_nil _) (right.trans (List.nil_append _).symm)
        simp only [List.length_nil] at few
        rw [decode_encode, List.count_append]
        refine ⟨by omega, fun none same => List.forall_mem_cons.mpr ⟨⟨before, ?_⟩, ?_⟩⟩
        · rw [none, List.nil_append]
        · subst none
          exact even rfl (by simp only [List.length_nil] at same; omega)
      | inside before after character start remaining parts split some more bytes left right =>
        subst parts left
        obtain ⟨few, -⟩ := ih bytes right
        have rest : 0 < remaining.length := List.length_pos_iff.mpr more
        have one : [replacement].count replacement = 1 := List.count_singleton_self
        have bound := List.count_cons (a := replacement) (b := character) (l := after)
        rw [decode_encode_front before split some more, List.count_append, List.count_append, one, bound]
        refine ⟨by split <;> omega, fun none same => ?_⟩
        split at same <;> omega

/-- Slices that are texts by themselves are decoded to the text of all their bytes. -/
theorem encode_decode_slices {slices : List (List UInt8)}
    (texts : ∀ slice ∈ slices, ∃ part, slice = encode part) :
    encode (slices.flatMap decode) = slices.flatten := by
  -- The induction is on the slices, each of which is decoded to its own text.
  induction slices with
  | nil => rfl
  | cons slice rest ih =>
    obtain ⟨⟨part, rfl⟩, behind⟩ := List.forall_mem_cons.mp texts
    rw [List.flatMap_cons, decode_encode, encode_append, ih behind, List.flatten_cons]

/-- The slices of a text are decoded to it only if every slice is a text by itself. -/
theorem slices_iff {slices : List (List UInt8)} {text : List Char}
    (whole : slices.flatten = encode text) :
    slices.flatMap decode = text ↔ ∀ slice ∈ slices, ∃ part, slice = encode part := by
  constructor
  -- Otherwise the slices are decoded to more characters than the text has.
  · intro same
    exact (count_slices (List.forall_mem_nil _) (whole.trans (List.nil_append _).symm)).2 rfl
      (congrArg _ same)
  · intro texts
    exact encode_injective ((encode_decode_slices texts).trans whole)

/-! ## Lengths -/

/-- A character that is encoded as one byte. -/
def IsAscii (character : Char) : Prop := character.toNat < 0x80

instance (character : Char) : Decidable (IsAscii character) :=
  inferInstanceAs (Decidable (character.toNat < 0x80))

/-- A text is ASCII where a test of its characters says so. -/
theorem ascii_of_all {text : List Char} (all : (text.all fun character => decide (IsAscii character)) = true) :
    ∀ character ∈ text, IsAscii character :=
  -- The test runs over the text, and not over all characters there are.
  fun character inside => of_decide_eq_true (List.all_eq_true.mp all character inside)

/-- An ASCII character is encoded as its own number. -/
theorem encode_ascii {character : Char} (ascii : IsAscii character) :
    String.utf8EncodeChar character = [UInt8.ofNat character.toNat] := by
  have small : character.val.toNat ≤ 0x7F := Nat.le_of_lt_succ ascii
  rw [String.utf8EncodeChar, if_pos small]
  rfl

/-- An ASCII byte is the number of its character. -/
theorem isAscii_ofNat {value : Nat} (small : value < 0x80) :
    (Char.ofNat value).toNat = value ∧ IsAscii (Char.ofNat value) := by
  have valid : value.isValidChar := by unfold Nat.isValidChar; omega
  have same := toNat_ofNat_of_valid valid
  exact ⟨same, by rwa [IsAscii, same]⟩

/-- An ASCII character takes one byte. -/
theorem utf8Size_ascii {character : Char} (ascii : IsAscii character) : character.utf8Size = 1 := by
  rw [← length_encode_singleton, encode_cons, encode_ascii ascii]
  rfl

/-- A byte brings out at most three bytes for itself and each one that was held back. -/
theorem length_feed {state : Option Pending} (sound : Sound state) (byte : UInt8) :
    (encode (feed state byte).1).length + 3 * held (feed state byte).2 ≤ 3 * (held state + 1) := by
  -- A replacement takes three bytes, and a character of several at most one more than were held back.
  have three : replacement.utf8Size = 3 := by decide
  have start : (encode (first byte).1).length + 3 * held (first byte).2 ≤ 3 := by
    unfold first
    split
    · next ascii =>
      have one := utf8Size_ascii (isAscii_ofNat ascii).2
      simp [held, one]
    · split
      · next pending leads =>
        have none : pending.seen = 0 := by
          unfold lead at leads
          repeat' split at leads
          all_goals first | (obtain rfl := Option.some.inj leads; rfl) | simp at leads
        simp [held, none]
      · simp [held, three]
  cases state with
  | none => exact start
  | some pending =>
    have valid := sound pending rfl
    have few := valid.few
    rw [feed, Pending.next]
    split
    · next within =>
      dsimp only
      split
      · next last =>
        obtain ⟨size, -⟩ := ofNat_of_takes (valid.complete within.1 within.2 last)
        simp only [length_encode_singleton, size, held]
        omega
      · simp only [encode_nil, List.length_nil, held]
        omega
    · have here : held (some pending) = pending.seen + 1 := rfl
      dsimp only
      rw [← List.singleton_append, encode_append, List.length_append, length_encode_singleton, three]
      omega

/-- A decoding is at most three times as long as its bytes. -/
theorem length_decodeFrom_le {state : Option Pending} (sound : Sound state) (bytes : List UInt8) :
    (encode (decodeFrom state bytes)).length ≤ 3 * (held state + bytes.length) := by
  -- The induction is on the bytes.
  induction bytes generalizing state with
  | nil =>
    cases state with
    | none => simp [decodeFrom]
    | some pending =>
      have three : replacement.utf8Size = 3 := by decide
      simp only [decodeFrom, length_encode_singleton, three, held, List.length_nil]
      omega
  | cons byte rest ih =>
    have here := length_feed sound byte
    have later := ih (feed_fed sound byte).sound
    rw [decodeFrom, encode_append, List.length_append, List.length_cons]
    omega

theorem length_decode_le (bytes : List UInt8) : (encode (decode bytes)).length ≤ 3 * bytes.length := by
  have length := length_decodeFrom_le sound_none bytes
  rwa [held, Nat.zero_add] at length

/-! ## ASCII characters -/

/-- A byte of an ASCII text is an ASCII byte. -/
theorem lt_of_mem_encode {text : List Char} (ascii : ∀ character ∈ text, IsAscii character) {byte : UInt8}
    (inside : byte ∈ encode text) : byte.toNat < 0x80 := by
  obtain ⟨character, known, bytes⟩ := List.mem_flatMap.mp inside
  have small : character.toNat < 0x80 := ascii character known
  rw [encode_ascii small, List.mem_singleton] at bytes
  rw [bytes, toNat_ofNat_byte (by omega)]
  exact small

/-- ASCII bytes are the bytes of a text. -/
theorem exists_encode_eq {bytes : List UInt8} (ascii : ∀ byte ∈ bytes, byte.toNat < 0x80) :
    ∃ text, bytes = encode text := by
  -- Each byte is a character by itself.
  induction bytes with
  | nil => exact ⟨[], rfl⟩
  | cons byte bytes ih =>
    obtain ⟨small, behind⟩ := List.forall_mem_cons.mp ascii
    obtain ⟨text, rfl⟩ := ih behind
    obtain ⟨same, plain⟩ := isAscii_ofNat small
    refine ⟨Char.ofNat byte.toNat :: text, ?_⟩
    rw [encode_cons, encode_ascii plain, same, UInt8.ofNat_toNat]
    rfl

/-- Every slice of an ASCII text is a text by itself. -/
theorem ascii_slices {slices : List (List UInt8)} {text : List Char}
    (ascii : ∀ character ∈ text, IsAscii character) (whole : slices.flatten = encode text) :
    ∀ slice ∈ slices, ∃ part, slice = encode part := by
  intro slice inside
  refine exists_encode_eq fun byte member => lt_of_mem_encode ascii ?_
  rw [← whole]
  exact List.mem_flatten.mpr ⟨slice, inside, member⟩

/-- What a byte brings out, as far as ASCII characters are concerned. -/
structure Plain (byte : UInt8) (fed : List Char × Option Pending) : Prop where
  /-- An ASCII byte brings out its character behind at most a replacement. -/
  ascii : byte.toNat < 0x80 → ∃ errors, fed = (errors ++ [Char.ofNat byte.toNat], none) ∧
    ∀ character ∈ errors, ¬ IsAscii character
  /-- No other byte brings out an ASCII character. -/
  other : ¬ byte.toNat < 0x80 → ∀ character ∈ fed.1, ¬ IsAscii character
  /-- A byte that brings out nothing leaves a character pending. -/
  silent : fed.1 = [] → ∃ pending, fed.2 = some pending

/-- Between characters, only ASCII bytes bring out ASCII characters. -/
theorem first_plain (byte : UInt8) : Plain byte (first byte) := by
  -- An ASCII byte is a character of its own, and any other one is a lead or is replaced.
  unfold first
  split
  · next ascii =>
    exact ⟨fun _ => ⟨[], rfl, List.forall_mem_nil _⟩, fun large => absurd ascii large,
      fun empty => absurd empty (List.cons_ne_nil _ _)⟩
  · next large =>
    refine ⟨fun ascii => absurd ascii large, fun _ => ?_, fun empty => ?_⟩
    · split
      · exact List.forall_mem_nil _
      · exact List.forall_mem_singleton.mpr (by decide)
    · cases leads : lead byte.toNat with
      | some pending => exact ⟨pending, rfl⟩
      | none =>
        rw [leads] at empty
        exact absurd empty (List.cons_ne_nil _ _)

/-- Inside a character, an ASCII byte shows an error, and no other byte brings out an ASCII character. -/
theorem feed_plain {state : Option Pending} (sound : Sound state) (byte : UInt8) :
    Plain byte (feed state byte) := by
  -- A continuation byte is never an ASCII byte, and the character it completes is none either.
  have start := first_plain byte
  cases state with
  | none => exact start
  | some pending =>
    have valid := sound pending rfl
    have range := valid.range
    rw [feed, Pending.next]
    split
    · next within =>
      refine ⟨fun ascii => by omega, fun _ => ?_, fun empty => ?_⟩
      · dsimp only
        split
        · next last =>
          obtain ⟨character, takes⟩ := valid.complete within.1 within.2 last
          refine List.forall_mem_singleton.mpr fun ascii => ?_
          rw [IsAscii, toNat_ofNat_of_valid character] at ascii
          unfold Takes at takes
          omega
        · exact List.forall_mem_nil _
      · dsimp only at empty ⊢
        split at empty
        · exact absurd empty (List.cons_ne_nil _ _)
        · next more => exact ⟨_, by rw [if_neg more]⟩
    · have error : ¬ IsAscii replacement := by decide
      refine ⟨fun ascii => ?_, fun large => ?_, fun empty => absurd empty (List.cons_ne_nil _ _)⟩
      · obtain ⟨errors, same, each⟩ := start.ascii ascii
        refine ⟨replacement :: errors, ?_, List.forall_mem_cons.mpr ⟨error, each⟩⟩
        rw [same, List.cons_append]
      · exact List.forall_mem_cons.mpr ⟨error, start.other large⟩

/-- A byte is decoded before the bytes behind it. -/
theorem decodeFrom_cons (state : Option Pending) (byte : UInt8) (rest : List UInt8) :
    decodeFrom state (byte :: rest) =
      (feed state byte).1 ++ decodeFrom (feed state byte).2 rest := by
  cases state <;> rfl

/-- An ASCII byte is its character. -/
theorem first_ascii {character : Char} (ascii : IsAscii character) :
    first (UInt8.ofNat character.toNat) = ([character], none) := by
  have small : character.toNat < 0x80 := ascii
  rw [first, toNat_ofNat_byte (by omega), if_pos small, Char.ofNat_toNat]

/-- An ASCII character ends whatever the bytes before it have begun. -/
theorem decodeFrom_append_ascii {state : Option Pending} (sound : Sound state) (bytes : List UInt8)
    {character : Char} (ascii : IsAscii character) (rest : List UInt8) :
    decodeFrom state (bytes ++ UInt8.ofNat character.toNat :: rest) =
      decodeFrom state bytes ++ character :: decodeFrom none rest := by
  -- The induction is on the bytes.
  induction bytes generalizing state with
  | nil =>
    rw [List.nil_append, decodeFrom_cons]
    cases state with
    | none => rw [feed, first_ascii ascii, decodeFrom, List.nil_append, List.singleton_append]
    | some pending =>
      have range := (sound pending rfl).range
      have small : character.toNat < 0x80 := ascii
      rw [feed, Pending.next, toNat_ofNat_byte (by omega), if_neg (by omega), first_ascii ascii,
        decodeFrom]
      rfl
  | cons byte bytes ih =>
    rw [List.cons_append, decodeFrom_cons, ih (feed_fed sound byte).sound, decodeFrom_cons,
      List.append_assoc]

/-- ASCII text is decoded to itself, whatever precedes it. -/
theorem decode_append_ascii (bytes : List UInt8) {text : List Char} (ascii : ∀ character ∈ text, IsAscii character)
    (some : text ≠ []) (rest : List UInt8) :
    decode (bytes ++ (encode text ++ rest)) = decode bytes ++ (text ++ decode rest) := by
  -- Its first character ends the bytes before it.
  cases text with
  | nil => exact absurd rfl some
  | cons character text =>
    have plain := ascii character List.mem_cons_self
    rw [encode_cons, encode_ascii plain, List.singleton_append, List.cons_append, decode,
      decodeFrom_append_ascii sound_none bytes plain]
    exact congrArg (fun decoded => decode bytes ++ character :: decoded) (decode_encode_append text rest)

/-- What is decoded inside a character does not begin with an ASCII character. -/
theorem head_pending {pending : Pending} (valid : pending.Valid) {bytes : List UInt8} {character : Char}
    {rest : List Char} (decoded : decodeFrom (some pending) bytes = character :: rest) :
    ¬ IsAscii character := by
  -- The induction is on the bytes; the first output is a replacement or a long character.
  have error : ¬ IsAscii replacement := by decide
  induction bytes generalizing pending with
  | nil =>
    rw [decodeFrom] at decoded
    rwa [← (List.cons_eq_cons.mp decoded).1]
  | cons byte bytes ih =>
    have sound : Sound (some pending) := fun _ same => Option.some.inj same ▸ valid
    have later := (feed_fed sound byte).sound
    have plain := feed_plain sound byte
    rw [decodeFrom_cons] at decoded
    by_cases within : pending.lower ≤ byte.toNat ∧ byte.toNat ≤ pending.upper
    · -- The byte goes on with the character or completes it.
      have range := valid.range
      have large : ¬ byte.toNat < 0x80 := by omega
      generalize feed (some pending) byte = output at decoded later plain
      obtain ⟨out, next⟩ := output
      cases out with
      | cons first out =>
        obtain ⟨rfl, -⟩ := List.cons_eq_cons.mp decoded
        exact plain.other large first List.mem_cons_self
      | nil =>
        obtain ⟨pending, rfl⟩ := plain.silent rfl
        exact ih (later pending rfl) decoded
    · rw [feed, Pending.next, if_neg within] at decoded
      rwa [← (List.cons_eq_cons.mp decoded).1]

/-- ASCII text at the beginning of a decoding is at the beginning of the bytes. -/
theorem ascii_front {pattern : List Char} (ascii : ∀ character ∈ pattern, IsAscii character)
    {bytes : List UInt8} {rest : List Char} (decoded : decode bytes = pattern ++ rest) :
    encode pattern <+: bytes := by
  -- The induction is on the text, whose characters are read off one byte each.
  induction pattern generalizing bytes with
  | nil => exact List.nil_prefix
  | cons character pattern ih =>
    obtain ⟨plain, behind⟩ := List.forall_mem_cons.mp ascii
    cases bytes with
    | nil => exact absurd decoded.symm (List.cons_ne_nil _ _)
    | cons byte bytes =>
      have fed := first_plain byte
      have sound := (first_fed byte).sound
      rw [decode, decodeFrom_cons, feed] at decoded
      by_cases small : byte.toNat < 0x80
      · rw [first, if_pos small] at decoded
        obtain ⟨rfl, later⟩ := List.cons_eq_cons.mp decoded
        rw [encode_cons, encode_ascii plain, (isAscii_ofNat small).1, UInt8.ofNat_toNat]
        exact List.prefix_cons_inj byte |>.mpr (ih behind later)
      · -- A byte that brings nothing out has begun a longer character.
        have other := fed.other small
        have silent := fed.silent
        generalize first byte = output at decoded other sound silent
        obtain ⟨out, next⟩ := output
        cases out with
        | cons first out =>
          obtain ⟨rfl, -⟩ := List.cons_eq_cons.mp decoded
          exact absurd plain (other first List.mem_cons_self)
        | nil =>
          obtain ⟨pending, rfl⟩ := silent rfl
          exact absurd plain (head_pending (sound pending rfl) decoded)

/-- ASCII text inside a decoding, read off bytes that may begin inside a character. -/
theorem ascii_infix_from {pattern : List Char} (ascii : ∀ character ∈ pattern, IsAscii character)
    (some : pattern ≠ []) {state : Option Pending} (sound : Sound state) {bytes : List UInt8}
    {before after : List Char} (decoded : decodeFrom state bytes = before ++ (pattern ++ after)) :
    encode pattern <:+: bytes := by
  -- The induction is on the bytes; the text begins at this byte, or behind it.
  have error : ¬ IsAscii replacement := by decide
  obtain ⟨character, pattern, rfl⟩ := List.exists_cons_of_ne_nil some
  obtain ⟨plain, behind⟩ := List.forall_mem_cons.mp ascii
  induction bytes generalizing state before with
  | nil =>
    have inside : character ∈ decodeFrom state [] := by
      rw [decoded]
      exact List.mem_append_right _ List.mem_cons_self
    cases state with
    | none => exact absurd inside List.not_mem_nil
    | some pending => exact absurd plain (List.mem_singleton.mp inside ▸ error)
  | cons byte bytes ih =>
    have later := (feed_fed sound byte).sound
    have fed := feed_plain sound byte
    rw [decodeFrom_cons] at decoded
    rcases List.append_eq_append_iff.mp decoded with ⟨more, -, rest⟩ | ⟨out, here, rest⟩
    · exact (ih later rest).trans (List.suffix_cons byte bytes).isInfix
    · cases out with
      | nil =>
        have begins : decodeFrom (feed state byte).2 bytes = [] ++ (character :: pattern ++ after) := by
          rw [rest, List.nil_append, List.nil_append]
        exact (ih later begins).trans (List.suffix_cons byte bytes).isInfix
      | cons first out =>
        obtain ⟨rfl, tail⟩ := List.cons_eq_cons.mp rest
        have inside : character ∈ (feed state byte).1 := by
          rw [here]
          exact List.mem_append_right _ List.mem_cons_self
        by_cases small : byte.toNat < 0x80
        · obtain ⟨errors, same, each⟩ := fed.ascii small
          rw [same] at here tail
          -- The errors before the character are no part of the text.
          rcases List.eq_nil_or_concat out with rfl | ⟨front, last, rfl⟩
          · have last := (List.append_inj' here rfl).2
            rw [List.singleton_inj] at last
            subst last
            rw [encode_cons, encode_ascii plain, (isAscii_ofNat small).1, UInt8.ofNat_toNat]
            exact (List.prefix_cons_inj byte |>.mpr (ascii_front behind tail.symm)).isInfix
          · rw [List.concat_eq_append, ← List.cons_append, ← List.append_assoc] at here
            have start := (List.append_inj' here rfl).1
            refine absurd plain (each character ?_)
            rw [start]
            exact List.mem_append_right _ List.mem_cons_self
        · exact absurd plain (fed.other small character inside)

/-- ASCII text is inside a decoding just if its bytes are inside the bytes. -/
theorem ascii_infix_iff {pattern : List Char} (ascii : ∀ character ∈ pattern, IsAscii character)
    (some : pattern ≠ []) (bytes : List UInt8) :
    pattern <:+: decode bytes ↔ encode pattern <:+: bytes := by
  constructor
  -- A character of ASCII is never made of two parts, and never replaces anything.
  · intro inside
    obtain ⟨before, after, whole⟩ := inside
    rw [List.append_assoc] at whole
    exact ascii_infix_from ascii some sound_none whole.symm
  · intro inside
    obtain ⟨before, after, rfl⟩ := inside
    rw [List.append_assoc, decode_append_ascii before ascii some after]
    exact ⟨decode before, decode after, List.append_assoc _ _ _⟩

end Utf8

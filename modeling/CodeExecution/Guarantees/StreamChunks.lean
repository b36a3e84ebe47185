import CodeExecution.Proofs.Chunks

/-! The chunks in which a text is published: that they are found, what they hold, and where they are cut. -/

namespace CodeExecution

/-! ## The chunks -/

/-- Every run of the loops goes on to the return of these chunks, in one number of steps altogether. -/
def Returns (point : SplitPoint) (chunks : List (List UInt16)) : Prop :=
  ∃ steps, ∀ trace state, splitting.Runs (fun _ _ => True) point trace state →
    ∃ rest, trace.length + rest.length = steps ∧
      splitting.Runs (fun _ _ => True) state rest (.returned chunks)

/-- The loops end for every string, with chunks that make up the string, are not empty and are not too long. -/
theorem splitForStream_returns (text : List UInt16) :
    Returns (.entry text) (splitForStream text) ∧ (splitForStream text).flatten = text ∧
      (text ≠ [] → ∀ chunk ∈ splitForStream text, chunk ≠ []) ∧
        ∀ chunk ∈ splitForStream text, Utf16.byteLength chunk ≤ maxStreamChunkBytes := by
  refine ⟨?_, flatten_splitForStream text, ?_, ?_⟩
  · -- There is a run to the return, behind which there is no other test.
    obtain ⟨whole, run⟩ := runs_entry text
    exact ⟨whole.length, fun trace state other => run.completes (fun _ => rfl) other⟩
  · intro some chunk member
    rw [splitForStream_eq some] at member
    exact (splitRemaining_chunk member).1
  · intro chunk member
    unfold splitForStream at member
    split at member
    · -- The whole text is the only chunk.
      next short =>
      rw [List.mem_singleton] at member
      rwa [member]
    · exact (splitRemaining_chunk member).2

/-! ## The cuts -/

/-- Each chunk of a text can be read on its own, and the bytes of the chunks are those of the text. -/
structure CutsNoCharacter (text : List UInt16) : Prop where
  formed : ∀ chunk ∈ splitForStream text, Utf16.isWellFormed chunk = true
  bytes : ((splitForStream text).map Utf16.byteLength).sum = Utf16.byteLength text

/-- That is so where the cuts keep the surrogate pairs together. -/
theorem cutsNoCharacter_of_keepsPairs {text : List UInt16} (formed : Utf16.isWellFormed text = true)
    (keeps : Utf16.KeepsPairs (splitForStream text)) : CutsNoCharacter text where
  formed := by
    refine (Utf16.forall_isWellFormed_iff ?_).mpr keeps
    rwa [flatten_splitForStream]
  bytes := by rw [keeps.sum_byteLength, flatten_splitForStream]

/-- That is so where each chunk is a text of its own. -/
theorem cutsNoCharacter_of_formed {text : List UInt16} (whole : Utf16.isWellFormed text = true)
    (formed : ∀ chunk ∈ splitForStream text, Utf16.isWellFormed chunk = true) : CutsNoCharacter text := by
  refine cutsNoCharacter_of_keepsPairs whole ((Utf16.forall_isWellFormed_iff ?_).mp formed)
  rwa [flatten_splitForStream]

/-- And nowhere else. -/
theorem CutsNoCharacter.keepsPairs {text : List UInt16} (formed : Utf16.isWellFormed text = true)
    (clean : CutsNoCharacter text) : Utf16.KeepsPairs (splitForStream text) := by
  refine (Utf16.forall_isWellFormed_iff ?_).mp clean.formed
  rwa [flatten_splitForStream]

/-- A text that is published as one chunk is not cut. -/
theorem cutsNoCharacter_of_short {text : List UInt16} (formed : Utf16.isWellFormed text = true)
    (short : Utf16.byteLength text ≤ maxStreamChunkBytes) : CutsNoCharacter text := by
  have one : splitForStream text = [text] := if_pos short
  constructor
  · intro chunk member
    rw [one, List.mem_singleton] at member
    rwa [member]
  · rw [one, List.map_singleton, List.sum_singleton]

/-- A text without surrogate pairs is cut between its characters, however long it is. -/
theorem cutsNoCharacter_of_basic {text : List UInt16} (formed : Utf16.isWellFormed text = true)
    (basic : ∀ unit ∈ text, Utf16.isHigh unit = false) : CutsNoCharacter text := by
  -- What stands before a cut is a unit of the text.
  refine cutsNoCharacter_of_keepsPairs formed fun front back same => ?_
  have whole := congrArg List.flatten same
  rw [flatten_splitForStream, List.flatten_append] at whole
  rw [Utf16.parted]
  cases last : front.flatten.getLast? with
  | none => rfl
  | some unit =>
    have member : unit ∈ text := by
      rw [whole]
      exact List.mem_append_left _ (List.mem_of_getLast? last)
    rw [Option.any_some, basic unit member, Bool.false_and]

/-! ## Texts that are cut inside a character -/

/-- A letter of ASCII is one unit, which is no surrogate, and one byte. -/
theorem encode_letter {letter : Char} (ascii : letter.toNat < 0x80) (text : List Char) :
    ∃ unit, Utf16.encode (letter :: text) = unit :: Utf16.encode text ∧
      ∀ units, Utf16.byteLength (unit :: units) = 1 + Utf16.byteLength units := by
  -- The number of the letter is below the surrogates, and below two bytes.
  have number : (UInt16.ofNat letter.toNat).toNat = letter.toNat := by
    rw [UInt16.toNat_ofNat']
    omega
  have one : Utf16.encodeChar letter = [UInt16.ofNat letter.toNat] := by
    rw [Utf16.encodeChar, if_pos (by omega)]
  have alone : Utf16.isHigh (UInt16.ofNat letter.toNat) = false := by
    rw [Utf16.isHigh, decide_eq_false_iff_not, number]
    omega
  refine ⟨UInt16.ofNat letter.toNat, ?_, fun units => ?_⟩
  · rw [Utf16.encode, List.flatMap_cons, one]
    rfl
  · rw [Utf16.byteLength_cons_of_not_isHigh alone, Utf16.unitBytes, number, if_pos ascii]

/-- A letter and many characters beyond the first plane, at one of them. -/
theorem split_letter {letter : Char} (ascii : letter.toNat < 0x80) {text : List Char}
    (large : ∀ character ∈ text, 0x10000 ≤ character.toNat) {count : Nat} (less : count < text.length) :
    ∃ front high low back, Utf16.encode (letter :: text) = front ++ high :: low :: back ∧
      front.length = 2 * count + 1 ∧ Utf16.byteLength front = 4 * count + 1 ∧
        Utf16.isHigh high = true ∧ Utf16.isLow low = true := by
  -- The characters before it are counted, and it is a pair itself.
  obtain ⟨high, low, same, first, second⟩ :=
    Utf16.encodeChar_of_large (large _ (List.getElem_mem less))
  have before : ∀ character ∈ text.take count, 0x10000 ≤ character.toNat :=
    fun character member => large character (List.mem_of_mem_take member)
  obtain ⟨units, bytes⟩ := Utf16.sizes_of_large before
  rw [List.length_take, min_eq_left (le_of_lt less)] at units bytes
  obtain ⟨unit, here, byte⟩ := encode_letter ascii text
  refine ⟨unit :: Utf16.encode (text.take count), high, low, Utf16.encode (text.drop (count + 1)),
    ?_, ?_, ?_, first, second⟩
  · have pair : Utf16.encode (text[count] :: text.drop (count + 1)) =
        high :: low :: Utf16.encode (text.drop (count + 1)) := by
      rw [Utf16.encode, List.flatMap_cons, same]
      rfl
    have parts : Utf16.encode text = Utf16.encode (text.take count) ++
        high :: low :: Utf16.encode (text.drop (count + 1)) := by
      rw [← pair, ← Utf16.encode_append, ← List.drop_eq_getElem_cons less, List.take_append_drop]
    rw [here, List.cons_append, ← parts]
  · rw [List.length_cons, units]
  · rw [byte, bytes, Nat.add_comm]

/-- The first units of such a text have two bytes each, or one byte less altogether. -/
theorem byteLength_take_letter {letter : Char} (ascii : letter.toNat < 0x80) {text : List Char}
    (large : ∀ character ∈ text, 0x10000 ≤ character.toNat) {length : Nat} (some : 0 < length)
    (inside : length ≤ 2 * text.length) :
    2 * length ≤ Utf16.byteLength ((Utf16.encode (letter :: text)).take length) + 1 ∧
      Utf16.byteLength ((Utf16.encode (letter :: text)).take length) ≤ 2 * length := by
  -- An odd number of units ends behind a character, and an even number ends inside one.
  have less : (length - 1) / 2 < text.length := by omega
  obtain ⟨front, high, low, back, same, units, bytes, first, -⟩ := split_letter ascii large less
  rw [same]
  by_cases odd : length = 2 * ((length - 1) / 2) + 1
  · rw [List.take_left' (units.trans odd.symm), bytes]
    omega
  · have half : front ++ high :: low :: back = (front ++ [high]) ++ low :: back := by simp
    have ends : (front ++ [high]).length = length := by
      rw [List.length_append, units, List.length_singleton]
      omega
    have alone : Utf16.byteLength [high] = 3 := Utf16.unitBytes_of_isHigh first
    have whole : Utf16.parted front [high] = false := by
      have second : Utf16.isLow high = false := by
        by_contra second
        rw [Bool.not_eq_false] at second
        rw [Utf16.not_isHigh_of_isLow second] at first
        exact Bool.false_ne_true first
      simp [Utf16.parted, second]
    have sum := Utf16.byteLength_append front [high]
    rw [whole, if_neg Bool.false_ne_true, bytes, alone] at sum
    rw [half, List.take_left' ends]
    omega

/-- The first slice of such a text, where it is long enough, ends behind its unit 7834. -/
theorem cutAt_letter {letter : Char} (ascii : letter.toNat < 0x80) {text : List Char}
    (large : ∀ character ∈ text, 0x10000 ≤ character.toNat) (many : 8192 ≤ text.length) :
    CutAt (Utf16.encode (letter :: text)) 7834 := by
  have units : (Utf16.encode (letter :: text)).length = 2 * text.length + 1 := by
    obtain ⟨unit, here, -⟩ := encode_letter ascii text
    rw [here, List.length_cons, (Utf16.sizes_of_large large).1]
  have start : min ((Utf16.encode (letter :: text)).length - 0) maxStreamChunkBytes = 16384 := by
    rw [units, Nat.sub_zero]
    exact min_eq_right (by unfold maxStreamChunkBytes; omega)
  -- The lengths 16384, 14745, 13270, 11943, 10748, 9673 and 8705 are too many units.
  have tried : ∀ fewer < 7, 8705 ≤ nineTenths^[fewer] 16384 ∧ nineTenths^[fewer] 16384 ≤ 16384 := by
    decide
  have fit : FirstFit (Utf16.encode (letter :: text)) 16384 7834 := by
    refine ⟨7, by decide, ?_, fun fewer less => ?_⟩
    · have bytes := (byteLength_take_letter ascii large (by decide : 0 < 7834) (by omega)).2
      exact le_trans bytes (by decide)
    · obtain ⟨least, most⟩ := tried fewer less
      have bytes := (byteLength_take_letter ascii large (lt_of_lt_of_le (by decide) least) (by omega)).1
      unfold maxStreamChunkBytes
      omega
  have cut := CutAt.next CutAt.start (start.symm ▸ fit)
  rwa [Nat.zero_add] at cut

/-- A letter and many characters beyond the first plane are cut inside one of these. -/
theorem not_cutsNoCharacter {letter : Char} (ascii : letter.toNat < 0x80) {text : List Char}
    (large : ∀ character ∈ text, 0x10000 ≤ character.toNat) (many : 8192 ≤ text.length) :
    ¬ CutsNoCharacter (Utf16.encode (letter :: text)) := by
  intro clean
  have keeps := clean.keepsPairs (Utf16.isWellFormed_encode _)
  have whole := (keepsPairs_splitForStream_iff _).mp keeps 7834 (cutAt_letter ascii large many)
  obtain ⟨front, high, low, back, same, units, -, first, second⟩ :=
    split_letter ascii large (lt_of_lt_of_le (by decide : 3916 < 8192) many)
  -- The first half of the pair is the last unit before the cut.
  have half : front ++ high :: low :: back = (front ++ [high]) ++ low :: back := by simp
  have ends : (front ++ [high]).length = 7834 := by
    rw [List.length_append, units, List.length_singleton]
  rw [same, half, Utf16.insidePair, List.take_left' ends, List.drop_left' ends, Utf16.parted,
    List.getLast?_concat, List.head?_cons, Option.any_some, Option.any_some, first, second] at whole
  exact Bool.false_ne_true whole.symm

/-! ## Which texts are cut -/

/-- A slice of as many units as a chunk has bytes is taken whole, if it is small enough. -/
theorem splitForStream_full {front back : List UInt16} (units : front.length = maxStreamChunkBytes)
    (bytes : Utf16.byteLength front ≤ maxStreamChunkBytes) (some : back ≠ []) :
    splitForStream (front ++ back) = front :: splitForStream back := by
  have whole : (front ++ back).take maxStreamChunkBytes = front := List.take_left' units
  -- The inner loop begins with this slice and does not turn.
  have first : FirstFit (front ++ back) (min (front ++ back).length maxStreamChunkBytes)
      maxStreamChunkBytes := by
    rw [List.length_append, units, min_eq_right (Nat.le_add_right _ _)]
    refine ⟨0, rfl, ?_, fun fewer less => absurd less (Nat.not_lt_zero fewer)⟩
    rwa [whole]
  rw [splitForStream_eq (List.append_ne_nil_of_right_ne_nil front some), splitForStream_eq some,
    splitRemaining_cons (List.append_ne_nil_of_right_ne_nil front some) first, whole, List.drop_left' units]

/-- Letters of ASCII have as many units and bytes as there are of them. -/
theorem sizes_of_letters (count : Nat) :
    (Utf16.encode (List.replicate count 'a')).length = count ∧
      Utf16.byteLength (Utf16.encode (List.replicate count 'a')) = count := by
  -- The induction is on their number.
  induction count with
  | zero => exact ⟨rfl, rfl⟩
  | succ count ih =>
    obtain ⟨unit, here, byte⟩ := encode_letter (by decide : 'a'.toNat < 0x80) (List.replicate count 'a')
    rw [List.replicate_succ, here, List.length_cons, byte, ih.1, ih.2]
    exact ⟨rfl, Nat.add_comm 1 count⟩

/--
A well-formed text is cut between its characters just if no position that the sizes of its slices lead to
has the first half of a surrogate pair before it and the second half behind it.

A short text is never cut, a text without pairs is not cut inside a character, and many pairs behind a
letter are.
-/
theorem cutsNoCharacter_iff (text : List UInt16) (formed : Utf16.isWellFormed text = true) :
    (CutsNoCharacter text ↔
      ∀ position, CutAt text position → Utf16.insidePair text position = false) ∧
    (Utf16.byteLength text ≤ maxStreamChunkBytes → CutsNoCharacter text) ∧
    ((∀ unit ∈ text, Utf16.isHigh unit = false) → CutsNoCharacter text) ∧
    ∀ letter characters, text = Utf16.encode (letter :: characters) → letter.toNat < 0x80 →
      (∀ character ∈ characters, 0x10000 ≤ character.toNat) → 8192 ≤ characters.length →
        ¬ CutsNoCharacter text := by
  -- The chunks are texts exactly if each cut keeps its pair together.
  refine ⟨?_, cutsNoCharacter_of_short formed, cutsNoCharacter_of_basic formed, ?_⟩
  · rw [← keepsPairs_splitForStream_iff]
    exact ⟨CutsNoCharacter.keepsPairs formed, cutsNoCharacter_of_keepsPairs formed⟩
  · rintro letter characters rfl ascii large many
    exact not_cutsNoCharacter ascii large many

/-- A full slice of ASCII is the first chunk, and a character of four bytes behind it is the second one. -/
theorem cutsNoCharacter_iff_example :
    splitForStream (Utf16.encode (List.replicate maxStreamChunkBytes 'a' ++ ['😀'])) =
      [Utf16.encode (List.replicate maxStreamChunkBytes 'a'), Utf16.encode ['😀']] ∧
    ∀ position, CutAt (Utf16.encode (List.replicate maxStreamChunkBytes 'a' ++ ['😀'])) position →
      Utf16.insidePair (Utf16.encode (List.replicate maxStreamChunkBytes 'a' ++ ['😀'])) position = false := by
  have chunks : splitForStream (Utf16.encode (List.replicate maxStreamChunkBytes 'a' ++ ['😀'])) =
      [Utf16.encode (List.replicate maxStreamChunkBytes 'a'), Utf16.encode ['😀']] := by
    obtain ⟨units, bytes⟩ := sizes_of_letters maxStreamChunkBytes
    rw [Utf16.encode_append, splitForStream_full units bytes.le (by decide)]
    rfl
  refine ⟨chunks, (cutsNoCharacter_iff _ (Utf16.isWellFormed_encode _)).1.mp ?_⟩
  -- Both chunks are texts.
  refine cutsNoCharacter_of_formed (Utf16.isWellFormed_encode _) fun chunk member => ?_
  rw [chunks, List.mem_pair] at member
  rcases member with rfl | rfl <;> exact Utf16.isWellFormed_encode _

/-- A letter and 8192 characters of four bytes have no lone surrogate, and their chunks have. -/
theorem cuts_character :
    Utf16.isWellFormed (Utf16.encode ('a' :: List.replicate 8192 '😀')) = true ∧
      ¬ CutsNoCharacter (Utf16.encode ('a' :: List.replicate 8192 '😀')) := by
  refine ⟨Utf16.isWellFormed_encode _, not_cutsNoCharacter (by decide) ?_ ?_⟩
  · intro character member
    rw [List.eq_of_mem_replicate member]
    decide
  · rw [List.length_replicate]

end CodeExecution

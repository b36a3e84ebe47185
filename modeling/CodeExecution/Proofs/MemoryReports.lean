import Mathlib.Data.List.TakeWhile
import CodeExecution.Proofs.Sandbox

/-! Where memory reports are found in a text, and what their removal leaves of it. -/

namespace CodeExecution

/-! ## One report -/

/-- The form of a memory report at the beginning of a text. -/
structure ReportAt (text spaces digits after : List Char) : Prop where
  whole : text = memoryMarker ++ (spaces ++ (digits ++ after))
  blank : ∀ character ∈ spaces, isSpace character = true
  filled : digits ≠ []
  numeric : ∀ character ∈ digits, character.isDigit = true
  greedy : after.takeWhile Char.isDigit = []

/-- No digit is a space. -/
theorem isSpace_of_isDigit {character : Char} (digit : character.isDigit = true) :
    isSpace character = false := by
  -- The digits lie between two of the listed spaces.
  simp only [Char.isDigit, Bool.and_eq_true, decide_eq_true_iff, ge_iff_le, UInt32.le_iff_toNat_le,
    Char.toNat_val] at digit
  have low : 0x30 ≤ character.toNat := digit.1
  have high : character.toNat ≤ 0x39 := digit.2
  simp only [isSpace, List.mem_cons, List.not_mem_nil, or_false, decide_eq_false_iff_not]
  omega

/-- What `takeWhile` leaves begins with no such character. -/
theorem takeWhile_dropWhile (test : Char → Bool) (text : List Char) :
    (text.dropWhile test).takeWhile test = [] := by
  induction text with
  | nil => rfl
  | cons character text ih =>
    by_cases holds : test character = true
    · rwa [List.dropWhile_cons_of_pos holds]
    · rw [List.dropWhile_cons_of_neg holds, List.takeWhile_cons_of_neg holds]

/-- A match is a report of the form of the regular expression. -/
theorem matchReport_eq_some {text digits after : List Char} (found : matchReport text = some (digits, after)) :
    ∃ spaces, ReportAt text spaces digits after := by
  -- Blanks are skipped behind the marker, and then the digits are taken.
  unfold matchReport at found
  split at found
  · next rest marked =>
    dsimp only at found
    split at found
    · exact absurd found nofun
    · next some =>
      obtain ⟨rfl, rfl⟩ := Prod.mk.inj (Option.some.inj found)
      refine ⟨rest.takeWhile isSpace, ?_, ?_, some, ?_, takeWhile_dropWhile _ _⟩
      · rw [List.takeWhile_append_dropWhile, List.takeWhile_append_dropWhile]
        exact (List.isPrefixOf?_eq_some_iff_append_eq.mp marked).symm
      · exact fun character inside => List.mem_takeWhile_imp inside
      · exact fun character inside => List.mem_takeWhile_imp inside
  · exact absurd found nofun

/-- A report of that form is matched. -/
theorem ReportAt.matched {text spaces digits after : List Char} (report : ReportAt text spaces digits after) :
    matchReport text = some (digits, after) := by
  obtain ⟨rfl, blank, filled, numeric, greedy⟩ := report
  have marked : memoryMarker.isPrefixOf? (memoryMarker ++ (spaces ++ (digits ++ after))) =
      some (spaces ++ (digits ++ after)) := List.isPrefixOf?_eq_some_iff_append_eq.mpr rfl
  -- The spaces end at the first digit, and the digits at the rest.
  obtain ⟨first, others, rfl⟩ := List.exists_cons_of_ne_nil filled
  have stop : isSpace first = false := isSpace_of_isDigit (numeric first List.mem_cons_self)
  have number : (spaces ++ (first :: others ++ after)).dropWhile isSpace = first :: others ++ after := by
    rw [List.dropWhile_append_of_pos blank, List.cons_append, List.dropWhile_cons_of_neg (by simp [stop])]
  have taken : (first :: others ++ after).takeWhile Char.isDigit = first :: others := by
    rw [List.takeWhile_append_of_pos numeric, greedy, List.append_nil]
  have left : (first :: others ++ after).dropWhile Char.isDigit = after := by
    rw [List.dropWhile_append_of_pos numeric]
    have whole := List.takeWhile_append_dropWhile (p := Char.isDigit) (l := after)
    rwa [greedy, List.nil_append] at whole
  unfold matchReport
  rw [marked]
  dsimp only
  rw [number, taken, left, if_neg filled]

/-! ## The leftmost report -/

/-- The leftmost report is matched where it is found. -/
theorem findReport_eq_some {text : List Char} {report : MemoryReport} (found : findReport text = some report) :
    ∃ spaces rest, text = report.before ++ rest ∧ ReportAt rest spaces report.digits report.after := by
  -- The induction is on the text.
  induction text generalizing report with
  | nil => exact absurd found nofun
  | cons character text ih =>
    rw [findReport] at found
    split at found
    · next digits after here =>
      obtain rfl := Option.some.inj found
      obtain ⟨spaces, at'⟩ := matchReport_eq_some here
      exact ⟨spaces, _, rfl, at'⟩
    · obtain ⟨later, behind, rfl⟩ := Option.map_eq_some_iff.mp found
      obtain ⟨spaces, rest, whole, at'⟩ := ih behind
      exact ⟨spaces, rest, congrArg _ whole, at'⟩

/-- A report at the beginning of a text is the leftmost one. -/
theorem findReport_of_match {text digits after : List Char} (found : matchReport text = some (digits, after)) :
    findReport text = some ⟨[], digits, after⟩ := by
  cases text with
  | nil => exact absurd found nofun
  | cons character text => rw [findReport, found]

/-- Behind a text in which no report begins, the leftmost report is found where it stands. -/
theorem findReport_append {front back : List Char}
    (none : ∀ before rest, front = before ++ rest → rest ≠ [] → matchReport (rest ++ back) = .none) :
    findReport (front ++ back) =
      (findReport back).map fun report => { report with before := front ++ report.before } := by
  -- The induction is on the text in front.
  induction front with
  | nil => simp
  | cons character front ih =>
    have here := none [] (character :: front) rfl (List.cons_ne_nil _ _)
    have later := ih fun before rest whole some => none (character :: before) rest (by rw [whole]; rfl) some
    rw [List.cons_append] at here ⊢
    rw [findReport, here, later]
    simp only [Option.map_map, Function.comp_def, List.cons_append]

/-- No report begins anywhere in a text without one. -/
theorem matchReport_of_findReport {text before rest : List Char} (none : findReport text = .none)
    (whole : text = before ++ rest) : matchReport rest = .none := by
  -- The induction is on the text before the position.
  induction before generalizing text with
  | nil =>
    rw [List.nil_append] at whole
    subst whole
    cases text with
    | nil => rfl
    | cons character text =>
      rw [findReport] at none
      split at none
      · exact absurd none nofun
      · next absent => exact absent
  | cons character before ih =>
    rw [List.cons_append] at whole
    rw [whole, findReport] at none
    split at none
    · exact absurd none nofun
    · exact ih (Option.map_eq_none_iff.mp none) rfl

/-- A text without the marker has no report. -/
theorem findReport_eq_none {text : List Char} (absent : ¬ memoryMarker <:+: text) : findReport text = none := by
  cases found : findReport text with
  | none => rfl
  | some report =>
    obtain ⟨spaces, rest, whole, here⟩ := findReport_eq_some found
    refine absurd ⟨report.before, spaces ++ (report.digits ++ report.after), ?_⟩ absent
    rw [whole, here.whole, List.append_assoc]

/-! ## Removal -/

/-- What `\r?\n?` may match. -/
def lineEnds : List (List Char) := [[], ['\r'], ['\n'], ['\r', '\n']]

/-- The line end that is dropped is one of these. -/
theorem dropLineEnd_split (text : List Char) : ∃ lineEnd ∈ lineEnds, text = lineEnd ++ dropLineEnd text := by
  unfold dropLineEnd
  split
  · exact ⟨['\r', '\n'], by decide, rfl⟩
  · exact ⟨['\r'], by decide, rfl⟩
  · exact ⟨['\n'], by decide, rfl⟩
  · exact ⟨[], by decide, rfl⟩

/-- A report and its line end, between two other parts of a text. -/
structure Removal (text before removed rest digits : List Char) : Prop where
  whole : text = before ++ (removed ++ rest)
  filled : digits ≠ []
  numeric : ∀ character ∈ digits, character.isDigit = true
  form : ∃ spaces lineEnd, removed = memoryMarker ++ (spaces ++ (digits ++ lineEnd)) ∧
    (∀ character ∈ spaces, isSpace character = true) ∧ lineEnd ∈ lineEnds

/-- The leftmost report is removed together with its line end. -/
theorem removeReport_eq_some {text : List Char} {report : MemoryReport} (found : findReport text = some report) :
    ∃ removed rest, Removal text report.before removed rest report.digits ∧
      removeReport text = report.before ++ rest := by
  -- What is removed is the marker, spaces, digits and a line end.
  obtain ⟨spaces, back, whole, here⟩ := findReport_eq_some found
  obtain ⟨lineEnd, known, split⟩ := dropLineEnd_split report.after
  refine ⟨memoryMarker ++ (spaces ++ (report.digits ++ lineEnd)), dropLineEnd report.after,
    ⟨?_, here.filled, here.numeric, spaces, lineEnd, rfl, here.blank, known⟩, ?_⟩
  · rw [whole, here.whole]
    conv_lhs => rw [split]
    simp only [List.append_assoc]
  · rw [removeReport, found]

/-- A text without a report stays as it is. -/
theorem removeReport_eq_none {text : List Char} (absent : findReport text = none) :
    removeReport text = text := by
  rw [removeReport, absent]

/-- A report takes at least the marker and its digits. -/
theorem Removal.length_le {text before removed rest digits : List Char}
    (removal : Removal text before removed rest digits) :
    memoryMarker.length + digits.length ≤ removed.length := by
  obtain ⟨spaces, lineEnd, rfl, -, -⟩ := removal.form
  simp only [List.length_append]
  omega

/-- No replacement is removed with a report. -/
theorem Removal.count_eq {text before removed rest digits : List Char}
    (removal : Removal text before removed rest digits) :
    removed.count Utf8.replacement = 0 := by
  -- A replacement is no part of the marker, no space, no digit and no line end.
  obtain ⟨spaces, lineEnd, rfl, blank, known⟩ := removal.form
  have numeric := removal.numeric
  simp only [List.count_append, Nat.add_eq_zero_iff]
  refine ⟨by decide, ?_, ?_, ?_⟩
  · exact List.count_eq_zero.mpr fun inside => absurd (blank _ inside) (by decide)
  · exact List.count_eq_zero.mpr fun inside => absurd (numeric _ inside) (by decide)
  · have each : ∀ lineEnd ∈ lineEnds, lineEnd.count Utf8.replacement = 0 := by decide
    exact each lineEnd known

/-- Removing a report removes no replacement. -/
theorem count_removeReport (text : List Char) :
    (removeReport text).count Utf8.replacement = text.count Utf8.replacement := by
  cases found : findReport text with
  | none => rw [removeReport_eq_none found]
  | some report =>
    obtain ⟨removed, rest, removal, left⟩ := removeReport_eq_some found
    rw [left, removal.whole]
    simp only [List.count_append, removal.count_eq, Nat.zero_add]

/-- Removing a report lengthens no text. -/
theorem byteLength_removeReport_le (text : List Char) : byteLength (removeReport text) ≤ byteLength text := by
  cases found : findReport text with
  | none => rw [removeReport_eq_none found]
  | some report =>
    obtain ⟨removed, rest, removal, left⟩ := removeReport_eq_some found
    rw [left, removal.whole]
    simp only [byteLength_append]
    omega

/-- An event shows at most three bytes for each of its own. -/
theorem byteLength_shown_le (event : OutputEvent) : byteLength event.shown ≤ 3 * event.data.length :=
  le_trans (byteLength_removeReport_le _) (Utf8.length_decode_le event.data)

/-- A text without the marker is shown as it is. -/
theorem shown_encode (stream : OutputStream) {text : List Char} (absent : ¬ memoryMarker <:+: text) :
    OutputEvent.shown ⟨stream, Utf8.encode text⟩ = text := by
  rw [OutputEvent.shown, Utf8.decode_encode, removeReport_eq_none (findReport_eq_none absent)]

/-- A text without an underscore has no marker. -/
theorem not_marker_of_underscore {text : List Char} (absent : '_' ∉ text) : ¬ memoryMarker <:+: text :=
  fun inside => absent (inside.subset (by decide))

/-! ## The marker -/

/-- A marker that begins inside another one is that marker. -/
theorem marker_overlap {front tail rest : List Char}
    (same : front ++ (memoryMarker ++ tail) = memoryMarker ++ rest) :
    front = [] ∨ memoryMarker <+: front := by
  by_cases long : memoryMarker.length ≤ front.length
  · have inside : memoryMarker <+: front ++ (memoryMarker ++ tail) := by
      rw [same]
      exact List.prefix_append _ _
    exact .inr (List.prefix_of_prefix_length_le inside (List.prefix_append _ _) long)
  · -- No proper part of the marker is both at its beginning and at its end.
    have border : ∀ length < memoryMarker.length,
        memoryMarker.take (memoryMarker.length - length) = memoryMarker.drop length → length = 0 := by
      decide
    have shifted := congrArg (List.drop front.length) same
    rw [List.drop_left, List.drop_append_of_le_length (le_of_lt (not_le.mp long))] at shifted
    have cut := congrArg (List.take (memoryMarker.length - front.length)) shifted
    rw [List.take_append_of_le_length (Nat.sub_le _ _),
      List.take_append_of_le_length (by rw [List.length_drop]),
      List.take_of_length_le (l := memoryMarker.drop front.length) (by rw [List.length_drop])] at cut
    exact .inl (List.length_eq_zero_iff.mp (border front.length (not_le.mp long) cut))

/-- Behind the marker, spaces and a digit make a report. -/
theorem matchReport_marker (rest : List Char) :
    matchReport (memoryMarker ++ rest) = none ↔ (rest.dropWhile isSpace).takeWhile Char.isDigit = [] := by
  have marked : memoryMarker.isPrefixOf? (memoryMarker ++ rest) = some rest :=
    List.isPrefixOf?_eq_some_iff_append_eq.mpr rfl
  unfold matchReport
  rw [marked]
  dsimp only
  -- The match fails on the digits alone.
  split
  · next empty => exact iff_of_true rfl empty
  · next filled => exact iff_of_false nofun filled

/-- A text that begins with the marker, or has no report at its beginning. -/
theorem marker_of_matchReport {text : List Char} (found : matchReport text ≠ none) :
    ∃ rest, text = memoryMarker ++ rest := by
  cases report : matchReport text with
  | none => exact absurd report found
  | some report =>
    obtain ⟨spaces, here⟩ := matchReport_eq_some report
    exact ⟨_, here.whole⟩

/-- More text behind a report does not hide it. -/
theorem matchReport_append_ne {text : List Char} (found : matchReport text ≠ none) (more : List Char) :
    matchReport (text ++ more) ≠ none := by
  -- The digits in the text stay where they are.
  obtain ⟨rest, rfl⟩ := marker_of_matchReport found
  rw [List.append_assoc, Ne, matchReport_marker]
  rw [Ne, matchReport_marker] at found
  intro empty
  refine found ?_
  cases number : rest.dropWhile isSpace with
  | nil => rfl
  | cons first others =>
    rw [List.dropWhile_append, number, List.isEmpty_cons, if_neg Bool.false_ne_true,
      List.cons_append] at empty
    by_cases digit : first.isDigit = true
    · rw [List.takeWhile_cons_of_pos digit] at empty
      exact absurd empty (List.cons_ne_nil _ _)
    · rw [List.takeWhile_cons_of_neg digit]

/-- A marker behind a text without a report does not complete one at its beginning. -/
theorem matchReport_append_marker {text : List Char} (some : text ≠ []) (none : matchReport text = none)
    (tail : List Char) : matchReport (text ++ (memoryMarker ++ tail)) = .none := by
  by_contra found
  obtain ⟨rest, same⟩ := marker_of_matchReport found
  rcases marker_overlap same with empty | marked
  · exact some empty
  · -- The marker is neither a space nor a digit, so the text decides.
    obtain ⟨back, rfl⟩ := marked
    rw [List.append_assoc, matchReport_marker] at found
    rw [matchReport_marker] at none
    refine found ?_
    rw [List.dropWhile_append]
    cases number : back.dropWhile isSpace with
    | nil => rfl
    | cons first others =>
      rw [number] at none
      rw [List.isEmpty_cons, if_neg Bool.false_ne_true, List.cons_append]
      by_cases digit : first.isDigit = true
      · rw [List.takeWhile_cons_of_pos digit] at none
        exact absurd none (List.cons_ne_nil _ _)
      · rw [List.takeWhile_cons_of_neg digit]

/-- No report begins before the leftmost one. -/
theorem matchReport_before {text : List Char} {report : MemoryReport} (found : findReport text = some report)
    {before rest : List Char} (whole : text = before ++ rest)
    (earlier : before.length < report.before.length) : matchReport rest = none := by
  -- The induction is on the text before the position.
  induction before generalizing text report with
  | nil =>
    rw [List.nil_append] at whole
    subst whole
    cases text with
    | nil => exact absurd found nofun
    | cons character text =>
      rw [findReport] at found
      split at found
      · obtain rfl := Option.some.inj found
        exact absurd earlier (Nat.lt_irrefl _)
      · next absent => exact absent
  | cons character before ih =>
    rw [whole, List.cons_append, findReport] at found
    split at found
    · obtain rfl := Option.some.inj found
      exact absurd earlier (Nat.not_lt_zero _)
    · obtain ⟨later, behind, rfl⟩ := Option.map_eq_some_iff.mp found
      exact ih behind rfl (Nat.lt_of_succ_lt_succ earlier)

/-- The text before the leftmost report has no report. -/
theorem findReport_before {text : List Char} {report : MemoryReport} (found : findReport text = some report) :
    findReport report.before = none := by
  cases inside : findReport report.before with
  | none => rfl
  | some first =>
    -- It would be a report of the whole text, and one further left.
    obtain ⟨spaces, back, whole, -⟩ := findReport_eq_some found
    obtain ⟨spaces, rest, split, here⟩ := findReport_eq_some inside
    have some := here.matched
    have filled : 0 < rest.length := by
      rw [here.whole, List.length_append]
      exact Nat.add_pos_left (by decide) _
    have left : first.before.length < report.before.length := by
      rw [split, List.length_append]
      omega
    rw [split, List.append_assoc] at whole
    refine absurd (matchReport_before found whole left) (matchReport_append_ne ?_ back)
    rw [some]
    exact Option.some_ne_none _

/-! ## The wrapper's line -/

/-- The line has a space behind the marker, and a line end behind the digits. -/
theorem memoryLine_append (peakMem : Nat) (rest : List Char) :
    memoryLine peakMem ++ rest =
      memoryMarker ++ ([' '] ++ (Nat.toDigits 10 peakMem ++ '\n' :: rest)) := by
  have marker : "___MEM_PEAK___: ".toList = memoryMarker ++ [' '] := by decide
  unfold memoryLine
  rw [marker]
  simp only [List.append_assoc, List.cons_append, List.nil_append]

/-- The line is a report of the peak. -/
theorem memoryLine_report (peakMem : Nat) (rest : List Char) :
    ReportAt (memoryLine peakMem ++ rest) [' '] (Nat.toDigits 10 peakMem) ('\n' :: rest) where
  whole := memoryLine_append peakMem rest
  blank := List.forall_mem_singleton.mpr (by decide)
  filled := Nat.toDigits_ne_nil
  numeric := fun character inside => Nat.isDigit_of_mem_toDigits (by decide) (by decide) inside
  greedy := rfl

/-- Behind a text without a report, the line is the leftmost one. -/
theorem findReport_line {clean : List Char} (none : findReport clean = none) (peakMem : Nat)
    (rest : List Char) :
    findReport (clean ++ (memoryLine peakMem ++ rest)) =
      some ⟨clean, Nat.toDigits 10 peakMem, '\n' :: rest⟩ := by
  have report := memoryLine_report peakMem rest
  -- No report begins inside the text, as the marker cannot overlap it.
  have absent : ∀ before back, clean = before ++ back → back ≠ [] →
      matchReport (back ++ (memoryLine peakMem ++ rest)) = .none := by
    intro before back whole some
    rw [report.whole]
    exact matchReport_append_marker some (matchReport_of_findReport none whole) _
  rw [findReport_append absent, findReport_of_match report.matched, Option.map_some, List.append_nil]

/-- Nothing but the line is removed there. -/
theorem removeReport_line {clean : List Char} (none : findReport clean = none) (peakMem : Nat)
    (rest : List Char) : removeReport (clean ++ (memoryLine peakMem ++ rest)) = clean ++ rest := by
  rw [removeReport, findReport_line none]
  rfl

end CodeExecution

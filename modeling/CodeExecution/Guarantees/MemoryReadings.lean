import CodeExecution.Guarantees.OutputText

/-! The memory reading, which travels in the output of the program. -/

namespace CodeExecution

/-! ## The line behind a text -/

/-- The line is ASCII text. -/
theorem memoryLine_ascii (peakMem : Nat) : ∀ character ∈ memoryLine peakMem, Utf8.IsAscii character := by
  have digits : ∀ character ∈ Nat.toDigits 10 peakMem, Utf8.IsAscii character := by
    intro character inside
    have digit := Nat.isDigit_of_mem_toDigits (by decide) (by decide) inside
    simp only [Char.isDigit, Bool.and_eq_true, decide_eq_true_iff, UInt32.le_iff_toNat_le,
      Char.toNat_val] at digit
    have high : character.toNat ≤ 0x39 := digit.2
    unfold Utf8.IsAscii
    omega
  -- The marker and the line end are fixed texts, and the number is of digits.
  unfold memoryLine
  rw [List.forall_mem_append, List.forall_mem_append]
  exact ⟨⟨Utf8.ascii_of_all (by decide), digits⟩, Utf8.ascii_of_all (by decide)⟩

/-- Behind the marker, the line has no underscore. -/
theorem underscore_not_mem_line (peakMem : Nat) :
    '_' ∉ [' '] ++ (Nat.toDigits 10 peakMem ++ ['\n']) := by
  simp [Nat.underscore_not_in_toDigits]

/-- The line is longer than its digits by the marker, a space and the line end. -/
theorem length_memoryLine (peakMem : Nat) :
    (memoryLine peakMem).length = (Nat.toDigits 10 peakMem).length + 17 := by
  unfold memoryLine
  generalize Nat.toDigits 10 peakMem = digits
  have marker : "___MEM_PEAK___: ".toList.length = 16 := by decide
  simp only [List.length_append, List.length_singleton, marker]
  omega

/-- A marker that is found in the line is the one at its beginning. -/
theorem line_marker {peakMem : Nat} {front back : List Char}
    (whole : memoryLine peakMem = front ++ (memoryMarker ++ back)) : front = [] := by
  have line := memoryLine_append peakMem []
  rw [List.append_nil] at line
  rw [line] at whole
  -- All underscores of the line are in its marker, which begins with one.
  have count := congrArg (List.count '_') whole
  have none : ([' '] ++ (Nat.toDigits 10 peakMem ++ ['\n'])).count '_' = 0 :=
    List.count_eq_zero.mpr (underscore_not_mem_line peakMem)
  rw [List.count_append, none, List.count_append, List.count_append] at count
  cases front with
  | nil => rfl
  | cons first front =>
    have same : '_' = first := (List.cons_eq_cons.mp whole).1
    subst same
    rw [List.count_cons_self] at count
    omega

/-- A marker that is found in a text with the line behind it is the line's. -/
theorem marker_is_line {text front back : List Char} {peakMem : Nat} (absent : ¬ memoryMarker <:+: text)
    (whole : text ++ memoryLine peakMem = front ++ (memoryMarker ++ back)) : front = text := by
  rcases List.append_eq_append_iff.mp whole with ⟨rest, rfl, line⟩ | ⟨rest, rfl, line⟩
  · rw [line_marker line, List.append_nil]
  · -- A marker that begins in the text would be inside it.
    have split := memoryLine_append peakMem []
    rw [List.append_nil] at split
    rw [split] at line
    rcases marker_overlap line.symm with rfl | inside
    · rw [List.append_nil]
    · exact absurd (inside.isInfix.trans (List.suffix_append front rest).isInfix) absent

/-- The digits that a text reports. -/
def reportedIn (text : List Char) : Option (List Char) := (findReport text).map MemoryReport.digits

/-- Parts without a report are shown as they are. -/
theorem parts_without_report {parts : List (List Char)} (none : ∀ part ∈ parts, findReport part = none) :
    parts.flatMap removeReport = parts.flatten ∧ parts.filterMap reportedIn = [] := by
  constructor
  · rw [List.flatMap_congr fun part inside => removeReport_eq_none (none part inside)]
    exact List.flatMap_id'
  · refine List.filterMap_eq_nil_iff.mpr fun part inside => ?_
    rw [reportedIn, none part inside, Option.map_none]

/-- Parts of a text without the marker have no report. -/
theorem parts_without_marker {parts : List (List Char)} (absent : ¬ memoryMarker <:+: parts.flatten) :
    parts.flatMap removeReport = parts.flatten ∧ parts.filterMap reportedIn = [] :=
  parts_without_report fun _ inside =>
    findReport_eq_none fun marked => absent (marked.trans (List.infix_of_mem_flatten inside))

/-- A text with the line behind it, cut into parts of which one has a report. -/
theorem parts_with_report {earlier later : List (List Char)} {part text : List Char} {peakMem : Nat}
    {report : MemoryReport} (absent : ¬ memoryMarker <:+: text)
    (whole : (earlier ++ part :: later).flatten = text ++ memoryLine peakMem)
    (found : findReport part = some report) :
    ∃ removed rest, part = report.before ++ (removed ++ rest) ∧
      removed ++ (rest ++ later.flatten) = memoryLine peakMem ∧
        (earlier ++ part :: later).flatMap removeReport = text ++ (rest ++ later.flatten) := by
  obtain ⟨removed, rest, removal, left⟩ := removeReport_eq_some found
  obtain ⟨spaces, lineEnd, form, -, -⟩ := removal.form
  rw [List.flatten_append, List.flatten_cons, removal.whole] at whole
  -- The report is the one of the line, so the parts before it make up the text.
  have front : earlier.flatten ++ report.before = text := by
    have marked : text ++ memoryLine peakMem = (earlier.flatten ++ report.before) ++
        (memoryMarker ++ (spaces ++ (report.digits ++ (lineEnd ++ (rest ++ later.flatten))))) := by
      rw [← whole, form]
      simp only [List.append_assoc]
    exact marker_is_line absent marked
  have line : removed ++ (rest ++ later.flatten) = memoryLine peakMem := by
    have behind : text ++ (removed ++ (rest ++ later.flatten)) = text ++ memoryLine peakMem := by
      rw [← whole, ← front]
      simp only [List.append_assoc]
    exact List.append_cancel_left behind
  have before : ¬ memoryMarker <:+: earlier.flatten := fun marked =>
    absent (marked.trans (front ▸ (List.prefix_append _ _).isInfix))
  have after : ¬ memoryMarker <:+: later.flatten := by
    intro marked
    obtain ⟨start, stop, same⟩ := marked
    -- It would be a second marker in the line.
    have marked : memoryLine peakMem = (removed ++ (rest ++ start)) ++ (memoryMarker ++ stop) := by
      rw [← line, ← same]
      simp only [List.append_assoc]
    have empty := (List.append_eq_nil_iff.mp (line_marker marked)).1
    rw [form] at empty
    exact absurd (List.append_eq_nil_iff.mp empty).1 (by decide)
  refine ⟨removed, rest, removal.whole, line, ?_⟩
  rw [List.flatMap_append, List.flatMap_cons, (parts_without_marker before).1,
    (parts_without_marker after).1, left, ← front]
  simp only [List.append_assoc]

/-- Where the line is in one part, the text is shown, and the digits of the line are reported. -/
theorem parts_with_line {parts : List (List Char)} {part text : List Char} {peakMem : Nat}
    (absent : ¬ memoryMarker <:+: text) (whole : parts.flatten = text ++ memoryLine peakMem)
    (inside : part ∈ parts) (line : memoryLine peakMem <:+: part) :
    parts.flatMap removeReport = text ∧ parts.filterMap reportedIn = [Nat.toDigits 10 peakMem] := by
  obtain ⟨earlier, later, rfl⟩ := List.append_of_mem inside
  obtain ⟨front, back, rfl⟩ := line
  rw [List.flatten_append, List.flatten_cons] at whole
  -- The part ends with the line, and what is before it makes up the text.
  have start : earlier.flatten ++ front = text := by
    have marked : text ++ memoryLine peakMem =
        (earlier.flatten ++ front) ++ (memoryLine peakMem ++ (back ++ later.flatten)) := by
      rw [← whole]
      simp only [List.append_assoc]
    rw [memoryLine_append peakMem (back ++ later.flatten)] at marked
    exact marker_is_line absent marked
  have stop : back ++ later.flatten = [] := by
    rw [← start] at whole
    simpa using whole
  obtain ⟨rfl, empty⟩ := List.append_eq_nil_iff.mp stop
  have before : ¬ memoryMarker <:+: earlier.flatten := fun marked =>
    absent (marked.trans (start ▸ (List.prefix_append _ _).isInfix))
  have after : ¬ memoryMarker <:+: later.flatten := by
    rw [empty]
    decide
  have clean : findReport front = none := findReport_eq_none fun marked =>
    absent (marked.trans (start ▸ (List.suffix_append _ _).isInfix))
  obtain ⟨shownBefore, silentBefore⟩ := parts_without_marker before
  obtain ⟨shownAfter, silentAfter⟩ := parts_without_marker after
  rw [List.append_assoc]
  constructor
  · rw [List.flatMap_append, List.flatMap_cons, shownBefore, shownAfter, removeReport_line clean, empty,
      List.append_nil, List.append_nil, start]
  · rw [List.filterMap_append, List.filterMap_cons, silentBefore, silentAfter, reportedIn,
      findReport_line clean]
    rfl

/-- Where the text is shown, the line is in one part. -/
theorem parts_shown {parts : List (List Char)} {text : List Char} {peakMem : Nat}
    (absent : ¬ memoryMarker <:+: text) (whole : parts.flatten = text ++ memoryLine peakMem)
    (shown : parts.flatMap removeReport = text) : ∃ part ∈ parts, memoryLine peakMem <:+: part := by
  by_cases none : ∀ part ∈ parts, findReport part = none
  · -- Without a report, the line is shown with the text.
    rw [(parts_without_report none).1, whole, List.append_right_eq_self] at shown
    have line := length_memoryLine peakMem
    rw [shown, List.length_nil] at line
    omega
  · push Not at none
    obtain ⟨part, inside, some⟩ := none
    obtain ⟨report, found⟩ := Option.ne_none_iff_exists'.mp some
    obtain ⟨earlier, later, rfl⟩ := List.append_of_mem inside
    obtain ⟨removed, rest, cut, line, shows⟩ := parts_with_report absent whole found
    rw [shows, List.append_right_eq_self] at shown
    obtain ⟨rfl, empty⟩ := List.append_eq_nil_iff.mp shown
    rw [empty, List.append_nil, List.append_nil] at line
    refine ⟨part, inside, ?_⟩
    rw [cut, line, List.append_nil]
    exact (List.suffix_append _ _).isInfix

/-! ## Interception -/

/-- What is shown and reported of slices depends on their texts. -/
theorem dataEvents_parts (stream : OutputStream) (slices : List (List UInt8)) :
    shownOn stream (dataEvents stream slices) = (slices.map Utf8.decode).flatMap removeReport ∧
      lastReported (dataEvents stream slices) =
        ((slices.map Utf8.decode).filterMap reportedIn).getLast? := by
  rw [shownOn_dataEvents, lastReported, dataEvents, List.flatMap_map, List.filterMap_map, List.filterMap_map]
  exact ⟨rfl, rfl⟩

/-- A reading is a value that digits are rounded to. -/
theorem peak_small {events : List OutputEvent} {peakMem : Nat}
    (reads : (sandboxOutput events).memoryUsedBytes = some (.finite peakMem)) :
    ∀ power, 1024 ≤ power → peakMem < 2 ^ power := by
  rw [sandboxOutput_memory] at reads
  obtain ⟨digits, -, rounds⟩ := Option.map_eq_some_iff.mp reads
  exact (Binary64.round_finite rounds).1

/-- A number of some bits has at most a third as many digits. -/
theorem length_toDigits_le {number : Nat} (third : Nat) (some : 0 < third) (small : number < 2 ^ (3 * third)) :
    (Nat.toDigits 10 number).length ≤ third := by
  -- Three bits are less than a digit.
  refine (Nat.length_toDigits_le_iff (by decide) some).mpr (lt_of_lt_of_le small ?_)
  rw [Nat.pow_mul]
  exact Nat.pow_le_pow_left (by decide) third

/-- The line of such a value is short. -/
theorem length_memoryLine_le {peakMem : Nat} (small : ∀ power, 1024 ≤ power → peakMem < 2 ^ power) :
    (memoryLine peakMem).length ≤ 400 := by
  have few := length_toDigits_le 342 (by decide) (small (3 * 342) (by decide))
  have length := length_memoryLine peakMem
  omega

/-- An ASCII text has as many bytes as characters. -/
theorem byteLength_ascii {text : List Char} (ascii : ∀ character ∈ text, Utf8.IsAscii character) :
    byteLength text = text.length := by
  induction text with
  | nil => rfl
  | cons character text ih =>
    obtain ⟨plain, behind⟩ := List.forall_mem_cons.mp ascii
    rw [← List.singleton_append, byteLength_append, ih behind, byteLength, Utf8.length_encode_singleton,
      Utf8.utf8Size_ascii plain, List.length_append, List.length_singleton]

/-- The peak is read, and the text is delivered without the line. -/
def Intercepted (text : List Char) (peakMem : Nat) (state : SandboxOutput) : Prop :=
  state.memoryUsedBytes = some (.finite peakMem) ∧ Delivered .stdout text state

/--
The line is intercepted just if it arrives in one data event.

A peak that is no binary64 value is not read, however it arrives.
-/
theorem intercepted_iff (text : List Char) (peakMem : Nat) (slices : List (List UInt8))
    (ascii : ∀ character ∈ text, Utf8.IsAscii character) (token : ¬ memoryToken <:+: text)
    (fits : byteLength text ≤ maxResultOutputBytes)
    (whole : slices.flatten = Utf8.encode (text ++ memoryLine peakMem)) :
    Intercepted text peakMem (sandboxOutput (dataEvents .stdout slices)) ↔
      Binary64.round peakMem = .finite peakMem ∧
        ∃ slice ∈ slices, Utf8.encode (memoryLine peakMem) <:+: slice := by
  have line := memoryLine_ascii peakMem
  have absent := not_marker_of_token token
  have texts := Utf8.ascii_slices (List.forall_mem_append.mpr ⟨ascii, line⟩) whole
  -- The slices are texts, which make up the text and the line.
  have parts : (slices.map Utf8.decode).flatten = text ++ memoryLine peakMem := by
    rw [← List.flatMap_def]
    exact (Utf8.slices_iff whole).mpr texts
  obtain ⟨shown, reported⟩ := dataEvents_parts .stdout slices
  have within : (∀ power, 1024 ≤ power → peakMem < 2 ^ power) →
      sandboxOutput (dataEvents .stdout slices) = accepting (dataEvents .stdout slices) := by
    intro small
    refine sandboxOutput_within (le_trans (shownBytes_dataEvents_le .stdout slices) ?_)
    have short := length_memoryLine_le small
    have bytes : slices.flatten.length = byteLength text + byteLength (memoryLine peakMem) := by
      rw [whole, ← byteLength_append]
      rfl
    rw [bytes, byteLength_ascii line]
    unfold maxResultOutputBytes at fits
    unfold maxStreamOutputBytes
    omega
  -- The digits of the line are rounded to its own value.
  have digits : parseInt (Nat.toDigits 10 peakMem) = Binary64.round peakMem :=
    congrArg Binary64.round Nat.ofDigitChars_ten_toDigits
  have some : memoryLine peakMem ≠ [] := List.append_ne_nil_of_right_ne_nil _ (List.cons_ne_nil _ _)
  constructor
  · intro intercepted
    obtain ⟨reads, -, published⟩ := intercepted
    have state := within (peak_small reads)
    rw [state] at reads published
    rw [publishedOn_accepting, shown] at published
    change Option.map parseInt (lastReported (dataEvents .stdout slices)) = _ at reads
    obtain ⟨part, inside, contains⟩ := parts_shown absent parts (Utf16.encode_injective published)
    rw [reported, (parts_with_line absent parts inside contains).2] at reads
    obtain ⟨slice, member, rfl⟩ := List.mem_map.mp inside
    exact ⟨digits.symm.trans (Option.some.inj reads), slice, member,
      (Utf8.ascii_infix_iff line some slice).mp contains⟩
  · intro condition
    obtain ⟨rounds, slice, member, contains⟩ := condition
    obtain ⟨shows, reports⟩ := parts_with_line absent parts (List.mem_map_of_mem member)
      ((Utf8.ascii_infix_iff line some slice).mpr contains)
    rw [within (Binary64.round_finite rounds).1, Intercepted, Delivered, publishedOn_accepting, shown, shows]
    refine ⟨?_, ?_, rfl⟩
    · change Option.map parseInt (lastReported (dataEvents .stdout slices)) = _
      rw [reported, reports, ← rounds, ← digits]
      rfl
    · change persisted (shownOn .stdout (dataEvents .stdout slices)) = text
      rw [shown, shows, persisted_of_le fits]

/-- A line in one event is intercepted, also behind other text. -/
theorem intercepted_iff_example :
    Intercepted ['h', 'i'] 4096 (sandboxOutput (dataEvents .stdout
      [Utf8.encode ['h'], Utf8.encode ('i' :: memoryLine 4096)])) := by
  refine (intercepted_iff ['h', 'i'] 4096 [Utf8.encode ['h'], Utf8.encode ('i' :: memoryLine 4096)]
    (Utf8.ascii_of_all (by decide)) (by decide) (by decide) (by decide)).mpr
    ⟨by decide, Utf8.encode ('i' :: memoryLine 4096),
      by simp, ?_⟩
  exact ⟨Utf8.encode ['i'], [], by decide⟩

/-- A line that is cut between its digits is read as a smaller peak, and its rest is published. -/
theorem not_intercepted :
    [Utf8.encode "___MEM_PEAK___: 40".toList, Utf8.encode "96\n".toList].flatten =
        Utf8.encode ([] ++ memoryLine 4096) ∧
      ¬ Intercepted [] 4096 (sandboxOutput (dataEvents .stdout
        [Utf8.encode "___MEM_PEAK___: 40".toList, Utf8.encode "96\n".toList])) := by
  refine ⟨by decide, fun intercepted => ?_⟩
  -- The digits behind the cut are read with no marker before them.
  have reads : (sandboxOutput (dataEvents .stdout
      [Utf8.encode "___MEM_PEAK___: 40".toList, Utf8.encode "96\n".toList])).memoryUsedBytes =
        some (.finite 40) := by
    decide +kernel
  exact absurd (reads.symm.trans intercepted.1) (by decide)

end CodeExecution

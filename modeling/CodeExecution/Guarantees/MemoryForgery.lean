import CodeExecution.Guarantees.MemoryReadings

/-! What a program can do to the memory reading and to its own output by printing reports itself. -/

namespace CodeExecution

/-! ## The setting -/

/-- The data of these events on one output. -/
def slicesOn (stream : OutputStream) (events : List OutputEvent) : List (List UInt8) :=
  (events.filter fun event => event.stream = stream).map OutputEvent.data

/-- The bytes of these events on one output. -/
def bytesOn (stream : OutputStream) (events : List OutputEvent) : List UInt8 :=
  (slicesOn stream events).flatten

/-- What a program prints, and where the wrapper's line is put behind it. -/
structure ProgramRun where
  /-- The events before the one with the line. -/
  before : List OutputEvent
  /-- The program's own bytes in that event, in front of the line. -/
  own : List UInt8
  /-- The events behind it. -/
  after : List OutputEvent
  /-- The line is the last thing on stdout. -/
  last : ∀ event ∈ after, event.stream = .stderr
  /-- The program stays under the cap of each output, and with that under the stream limit. -/
  short : ∀ stream,
    (bytesOn stream (before ++ ⟨.stdout, own⟩ :: after)).length < maxResultOutputBytes

namespace ProgramRun

/-- The events without the wrapper's line. -/
def userEvents (run : ProgramRun) : List OutputEvent :=
  run.before ++ ⟨.stdout, run.own⟩ :: run.after

/-- The events as they arrive. -/
def events (run : ProgramRun) (peakMem : Nat) : List OutputEvent :=
  run.before ++ ⟨.stdout, run.own ++ Utf8.encode (memoryLine peakMem)⟩ :: run.after

/-- The peak is read, and the program's own bytes are returned as they are. -/
def Unforged (run : ProgramRun) (peakMem : Nat) : Prop :=
  (sandboxOutput (run.events peakMem)).memoryUsedBytes = some (.finite peakMem) ∧
    ∀ stream, Utf8.encode ((sandboxOutput (run.events peakMem)).accumulator stream) =
      bytesOn stream run.userEvents

/--
A program whose own output has no report, and is text in every single event.

Only copies of the very line that the wrapper will print may stand directly in front of it.
-/
structure Honest (run : ProgramRun) (peakMem : Nat) : Prop where
  represented : Binary64.round peakMem = .finite peakMem
  text : ∀ event ∈ run.userEvents, ∃ text, event.data = Utf8.encode text
  silent : ∀ event ∈ run.before ++ run.after, findReport (Utf8.decode event.data) = none
  own : ∃ clean copies, findReport clean = none ∧
    Utf8.decode run.own = clean ++ (List.replicate copies (memoryLine peakMem)).flatten

end ProgramRun

/-! ## Copies of the line -/

/-- A report that can be moved from behind a text to its front is the line, and the text is made of lines. -/
theorem copies_of_shift {peakMem : Nat} {removed more : List Char} (form : removed = memoryMarker ++ more)
    {rest : List Char} (shift : rest ++ memoryLine peakMem = removed ++ rest) :
    removed = memoryLine peakMem ∧ ∃ copies, rest = (List.replicate copies (memoryLine peakMem)).flatten := by
  have line := memoryLine_append peakMem []
  rw [List.append_nil] at line
  -- The induction is on the length of the text; each step takes one line off its front.
  induction length : rest.length using Nat.strongRecOn generalizing rest with
  | ind size ih =>
    have sizes := congrArg List.length shift
    rw [List.length_append, List.length_append] at sizes
    have marked : rest ++ (memoryMarker ++ ([' '] ++ (Nat.toDigits 10 peakMem ++ ['\n']))) =
        memoryMarker ++ (more ++ rest) := by
      rw [← line, shift, form, List.append_assoc]
    rcases marker_overlap marked with rfl | ⟨back, inside⟩
    · rw [List.nil_append, List.append_nil] at shift
      exact ⟨shift.symm, 0, rfl⟩
    · rcases List.append_eq_append_iff.mp shift with ⟨front, whole, behind⟩ | ⟨front, rfl, behind⟩
      · -- The text is shorter than the line, and would begin with a second marker inside it.
        rw [← inside] at behind
        have empty := line_marker behind
        rw [empty, List.append_nil] at whole
        rw [empty, List.nil_append, inside] at behind
        refine ⟨whole.trans behind.symm, 1, ?_⟩
        simp [behind]
      · have some : 0 < removed.length := by
          rw [form, List.length_append]
          exact Nat.add_pos_left (by decide) _
        rw [List.length_append] at length
        obtain ⟨same, copies, rfl⟩ := ih front.length (by omega) behind.symm rfl
        refine ⟨same, copies + 1, ?_⟩
        rw [List.replicate_succ, List.flatten_cons, same]

/-- Behind copies of the line, the line is the same as in front of them. -/
theorem copies_line (peakMem copies : Nat) :
    (List.replicate copies (memoryLine peakMem)).flatten ++ memoryLine peakMem =
      memoryLine peakMem ++ (List.replicate copies (memoryLine peakMem)).flatten := by
  rw [← List.flatten_cons, ← List.replicate_succ, List.replicate_succ', List.flatten_append,
    List.flatten_singleton]

/-! ## Lengths -/

/-- Parts without a report keep their length, and all others lose the marker and a digit. -/
theorem length_parts (parts : List (List Char)) :
    (∀ part ∈ parts, findReport part = none) ∨
      (parts.flatMap removeReport).length + memoryMarker.length < parts.flatten.length := by
  have each : ∀ part, (removeReport part).length ≤ part.length ∧ (findReport part = none ∨
      (removeReport part).length + memoryMarker.length < part.length) := by
    intro part
    cases found : findReport part with
    | none => exact ⟨le_of_eq (congrArg _ (removeReport_eq_none found)), .inl rfl⟩
    | some report =>
      obtain ⟨removed, rest, removal, left⟩ := removeReport_eq_some found
      have taken := removal.length_le
      have digits := List.length_pos_iff.mpr removal.filled
      have whole := congrArg List.length removal.whole
      rw [List.length_append, List.length_append] at whole
      rw [left, List.length_append]
      exact ⟨by omega, .inr (by omega)⟩
  have all : ∀ parts : List (List Char), (parts.flatMap removeReport).length ≤ parts.flatten.length := by
    intro parts
    induction parts with
    | nil => exact le_refl _
    | cons part rest ih =>
      have here := (each part).1
      rw [List.flatMap_cons, List.flatten_cons, List.length_append, List.length_append]
      omega
  -- The induction is on the parts.
  induction parts with
  | nil => exact .inl (List.forall_mem_nil _)
  | cons part rest ih =>
    obtain ⟨here, report⟩ := each part
    have later := all rest
    rw [List.flatMap_cons, List.flatten_cons, List.length_append, List.length_append]
    rcases report with none | loses
    · rcases ih with silent | shorter
      · exact .inl (List.forall_mem_cons.mpr ⟨none, silent⟩)
      · exact .inr (by omega)
    · exact .inr (by omega)

/-- A number is below the power of ten of its digits. -/
theorem ofDigitChars_lt {digits : List Char} (numeric : ∀ character ∈ digits, character.isDigit = true)
    (start : Nat) : Nat.ofDigitChars 10 digits start < 10 ^ digits.length * (start + 1) := by
  -- The induction is on the digits, each of which is at most nine.
  induction digits generalizing start with
  | nil => simp
  | cons digit rest ih =>
    obtain ⟨first, behind⟩ := List.forall_mem_cons.mp numeric
    simp only [Char.isDigit, Bool.and_eq_true, decide_eq_true_iff, UInt32.le_iff_toNat_le,
      Char.toNat_val] at first
    have high : digit.toNat ≤ 0x39 := first.2
    have nine : digit.toNat - '0'.toNat ≤ 9 := by
      have zero : '0'.toNat = 0x30 := by decide
      omega
    rw [Nat.ofDigitChars_cons, List.length_cons, pow_succ, mul_assoc]
    refine lt_of_lt_of_le (ih behind _) (Nat.mul_le_mul_left _ ?_)
    omega

/-- Digits that are rounded to a value are at most one fewer than its own. -/
theorem length_digits_le {digits : List Char} {peakMem : Nat}
    (numeric : ∀ character ∈ digits, character.isDigit = true)
    (rounds : parseInt digits = .finite peakMem) :
    (Nat.toDigits 10 peakMem).length ≤ digits.length + 1 := by
  -- Rounding at most doubles the number.
  have bound := ofDigitChars_lt numeric 0
  rw [Nat.zero_add, Nat.mul_one] at bound
  have twice := (Binary64.round_finite rounds).2
  refine (Nat.length_toDigits_le_iff (by decide) (Nat.succ_pos _)).mpr ?_
  rw [pow_succ]
  omega

/-! ## The output with the line -/

/-- A report is found in every text with the line behind it. -/
theorem exists_report (own : List Char) (peakMem : Nat) :
    ∃ report, findReport (own ++ memoryLine peakMem) = some report := by
  cases found : findReport (own ++ memoryLine peakMem) with
  | some report => exact ⟨report, rfl⟩
  | none =>
    have line := (memoryLine_report peakMem []).matched
    rw [List.append_nil, matchReport_of_findReport found rfl] at line
    exact absurd line nofun

/-- Behind a text without a report and copies of the line, the line leaves nothing behind. -/
theorem findReport_copies {clean : List Char} (none : findReport clean = none) (peakMem copies : Nat) :
    removeReport ((clean ++ (List.replicate copies (memoryLine peakMem)).flatten) ++ memoryLine peakMem) =
        clean ++ (List.replicate copies (memoryLine peakMem)).flatten ∧
      reportedIn ((clean ++ (List.replicate copies (memoryLine peakMem)).flatten) ++ memoryLine peakMem) =
        some (Nat.toDigits 10 peakMem) := by
  -- Of equal lines, the first one is taken to be the report, and the others move up.
  rw [List.append_assoc, copies_line]
  refine ⟨removeReport_line none peakMem _, ?_⟩
  rw [reportedIn, findReport_line none]
  rfl

/-- Where the peak is read and no text is lost, the program has printed no report but copies of the line. -/
theorem honest_of_same {parts : List (List Char)} {own : List Char} {peakMem : Nat} {report : MemoryReport}
    (found : findReport (own ++ memoryLine peakMem) = some report)
    (rounds : parseInt report.digits = .finite peakMem)
    (same : parts.flatMap removeReport ++ removeReport (own ++ memoryLine peakMem) = parts.flatten ++ own) :
    (∀ part ∈ parts, findReport part = none) ∧ Binary64.round peakMem = .finite peakMem ∧
      ∃ clean copies, findReport clean = none ∧
        own = clean ++ (List.replicate copies (memoryLine peakMem)).flatten := by
  obtain ⟨removed, rest, removal, left⟩ := removeReport_eq_some found
  rw [left] at same
  have whole := removal.whole
  have silent : ∀ part ∈ parts, findReport part = none := by
    -- The removed report is too long to make up for another one.
    rcases length_parts parts with silent | shorter
    · exact silent
    · have taken := removal.length_le
      have digits := length_digits_le removal.numeric rounds
      have line := length_memoryLine peakMem
      have marker : memoryMarker.length = 15 := by decide
      have lengths := congrArg List.length same
      have sizes := congrArg List.length whole
      simp only [List.length_append] at lengths sizes
      omega
  rw [(parts_without_report silent).1, List.append_right_inj] at same
  -- What is left of the text and the line is the text, so the report can be moved over its rest.
  have shift : rest ++ memoryLine peakMem = removed ++ rest := by
    rw [← same, List.append_assoc, List.append_right_inj] at whole
    exact whole
  obtain ⟨spaces, lineEnd, form, -⟩ := removal.form
  obtain ⟨rfl, copies, rfl⟩ := copies_of_shift form shift
  have clean := findReport_before found
  refine ⟨silent, ?_, report.before, copies, clean, same.symm⟩
  have again := (findReport_copies clean peakMem copies).2
  rw [same, reportedIn, found, Option.map_some, Option.some_inj] at again
  rw [again] at rounds
  exact (congrArg Binary64.round Nat.ofDigitChars_ten_toDigits).symm.trans rounds

/-! ## Texts and their replacements -/

/-- The texts of these events on one output. -/
def textsOn (stream : OutputStream) (events : List OutputEvent) : List (List Char) :=
  (slicesOn stream events).map Utf8.decode

/-- What is shown of events depends on their texts. -/
theorem shownOn_eq (stream : OutputStream) (events : List OutputEvent) :
    shownOn stream events = (textsOn stream events).flatMap removeReport := by
  rw [shownOn, textsOn, slicesOn, List.map_map, List.flatMap_map]
  rfl

/-- The data of an event is among the slices of its output. -/
theorem mem_slicesOn {event : OutputEvent} {events : List OutputEvent} (inside : event ∈ events) :
    event.data ∈ slicesOn event.stream events :=
  List.mem_map_of_mem (List.mem_filter.mpr ⟨inside, decide_eq_true rfl⟩)

/-- The texts of slices make up what they are decoded to. -/
theorem flatten_textsOn (stream : OutputStream) (events : List OutputEvent) :
    (textsOn stream events).flatten = (slicesOn stream events).flatMap Utf8.decode := by
  rw [textsOn, List.flatMap_def]

/-- Removing reports removes no replacement. -/
theorem count_parts (parts : List (List Char)) :
    (parts.flatMap removeReport).count Utf8.replacement = parts.flatten.count Utf8.replacement := by
  induction parts with
  | nil => rfl
  | cons part rest ih =>
    rw [List.flatMap_cons, List.flatten_cons, List.count_append, List.count_append, count_removeReport, ih]

/-- Slices whose bytes are returned as they are, with the replacements of their texts, are texts. -/
theorem texts_of_returned {slices : List (List UInt8)} {text : List Char}
    (whole : Utf8.encode text = slices.flatten)
    (count : (slices.flatMap Utf8.decode).count Utf8.replacement = text.count Utf8.replacement) :
    (∀ slice ∈ slices, ∃ part, slice = Utf8.encode part) ∧ slices.flatMap Utf8.decode = text := by
  have slices' := (Utf8.count_slices (List.forall_mem_nil _)
    (whole.symm.trans (List.nil_append _).symm)).2 rfl count
  exact ⟨slices', (Utf8.slices_iff whole.symm).mpr slices'⟩

/-- Events show at most three bytes for each of their own. -/
theorem shownBytes_le_bytesOn (events : List OutputEvent) :
    shownBytes events ≤ 3 * ((bytesOn .stdout events).length + (bytesOn .stderr events).length) := by
  -- The induction is on the events, each of which is on one of the outputs.
  induction events with
  | nil => exact Nat.zero_le _
  | cons event rest ih =>
    have here := byteLength_shown_le event
    have both : shownBytes (event :: rest) = byteLength event.shown + shownBytes rest := List.sum_cons
    rw [both]
    unfold bytesOn slicesOn at ih ⊢
    cases stream : event.stream <;> simp [stream] at ih ⊢ <;> omega

/-- A persisted part that is shorter than the cap is the whole text. -/
theorem eq_of_persisted {text : List Char} {bytes : List UInt8} (same : Utf8.encode (persisted text) = bytes)
    (short : bytes.length < maxResultOutputBytes) : Utf8.encode text = bytes := by
  by_cases full : maxResultOutputBytes ≤ byteLength text
  · have large := le_byteLength_persisted full
    rw [byteLength, same] at large
    omega
  · rwa [persisted_of_le (le_of_lt (not_le.mp full))] at same

namespace ProgramRun

variable (run : ProgramRun) (peakMem : Nat)

/-- Nothing is printed on stdout behind the line. -/
theorem slicesOn_after : slicesOn .stdout run.after = [] := by
  rw [slicesOn, List.map_eq_nil_iff, List.filter_eq_nil_iff]
  intro event inside
  rw [run.last event inside]
  decide

/-- The program's own slices on stdout end with the ones in front of the line. -/
theorem slicesOn_userEvents :
    slicesOn .stdout run.userEvents = slicesOn .stdout run.before ++ [run.own] ∧
      slicesOn .stderr run.userEvents = slicesOn .stderr (run.before ++ run.after) := by
  have after := run.slicesOn_after
  unfold slicesOn at after
  constructor <;> simp [slicesOn, userEvents, after]

/-- The slices as they arrive have the line behind them. -/
theorem slicesOn_events :
    slicesOn .stdout (run.events peakMem) =
        slicesOn .stdout run.before ++ [run.own ++ Utf8.encode (memoryLine peakMem)] ∧
      slicesOn .stderr (run.events peakMem) = slicesOn .stderr (run.before ++ run.after) := by
  have after := run.slicesOn_after
  unfold slicesOn at after
  constructor <;> simp [slicesOn, events, after]

/-- The line is decoded to itself. -/
theorem decode_own : Utf8.decode (run.own ++ Utf8.encode (memoryLine peakMem)) =
    Utf8.decode run.own ++ memoryLine peakMem := by
  have some : memoryLine peakMem ≠ [] := List.append_ne_nil_of_right_ne_nil _ (List.cons_ne_nil _ _)
  have line := Utf8.decode_append_ascii run.own (memoryLine_ascii peakMem) some []
  rwa [List.append_nil, Utf8.decode_nil, List.append_nil] at line

/-- What is shown on the two outputs. -/
theorem shownOn_events :
    shownOn .stdout (run.events peakMem) = (textsOn .stdout run.before).flatMap removeReport ++
        removeReport (Utf8.decode run.own ++ memoryLine peakMem) ∧
      shownOn .stderr (run.events peakMem) =
        (textsOn .stderr (run.before ++ run.after)).flatMap removeReport := by
  -- The event with the line is on stdout, between the other events of the two outputs.
  obtain ⟨stdout, stderr⟩ := run.slicesOn_events peakMem
  constructor
  · rw [shownOn_eq, textsOn, stdout, List.map_append, List.flatMap_append, List.map_singleton,
      List.flatMap_singleton, run.decode_own, textsOn]
  · rw [shownOn_eq, textsOn, stderr, textsOn]

/-- The last report is the one of the event with the line, if no event behind it has one. -/
theorem lastReported_events (silent : ∀ event ∈ run.after, findReport (Utf8.decode event.data) = none) :
    lastReported (run.events peakMem) = reportedIn (Utf8.decode run.own ++ memoryLine peakMem) := by
  -- The events behind report nothing, so the report of the line is the last one.
  have quiet : run.after.filterMap OutputEvent.reported = [] := by
    refine List.filterMap_eq_nil_iff.mpr fun event inside => ?_
    rw [OutputEvent.reported, silent event inside, Option.map_none]
  have here : OutputEvent.reported ⟨.stdout, run.own ++ Utf8.encode (memoryLine peakMem)⟩ =
      reportedIn (Utf8.decode run.own ++ memoryLine peakMem) := by
    rw [OutputEvent.reported, run.decode_own, reportedIn]
  obtain ⟨report, found⟩ := exists_report (Utf8.decode run.own) peakMem
  rw [lastReported, events, List.filterMap_append, List.filterMap_cons, here, quiet, reportedIn, found]
  exact List.getLast?_concat

/-- Such a run stays within the stream limit, if its line is short. -/
theorem within (small : ∀ power, 1024 ≤ power → peakMem < 2 ^ power) :
    sandboxOutput (run.events peakMem) = accepting (run.events peakMem) := by
  -- Both streams are short, and so is the line of the wrapper.
  refine sandboxOutput_within (le_trans (shownBytes_le_bytesOn _) ?_)
  have line := length_memoryLine_le small
  have stdout := run.short .stdout
  have stderr := run.short .stderr
  change (bytesOn .stdout run.userEvents).length < _ at stdout
  change (bytesOn .stderr run.userEvents).length < _ at stderr
  have own := byteLength_ascii (memoryLine_ascii peakMem)
  rw [byteLength] at own
  rw [bytesOn, run.slicesOn_userEvents.1, List.flatten_append, List.length_append,
    List.flatten_singleton] at stdout
  rw [bytesOn, run.slicesOn_userEvents.2] at stderr
  rw [bytesOn, bytesOn, (run.slicesOn_events peakMem).1, (run.slicesOn_events peakMem).2,
    List.flatten_append, List.length_append, List.flatten_singleton, List.length_append, own]
  unfold maxResultOutputBytes at stdout stderr
  unfold maxStreamOutputBytes
  omega

/-! ## Unforged readings -/

/-- An output that is shown as it was printed is returned so. -/
theorem returned {run : ProgramRun} {peakMem : Nat} {stream : OutputStream}
    (state : sandboxOutput (run.events peakMem) = accepting (run.events peakMem))
    (texts : ∀ slice ∈ slicesOn stream run.userEvents, ∃ part, slice = Utf8.encode part)
    (shown : shownOn stream (run.events peakMem) = (slicesOn stream run.userEvents).flatMap Utf8.decode) :
    Utf8.encode ((sandboxOutput (run.events peakMem)).accumulator stream) =
      bytesOn stream run.userEvents := by
  -- A text below the cap is kept whole.
  have bytes := Utf8.encode_decode_slices texts
  have short : byteLength (shownOn stream (run.events peakMem)) ≤ maxResultOutputBytes := by
    rw [shown, byteLength, bytes]
    exact le_of_lt (run.short stream)
  have kept : (accepting (run.events peakMem)).accumulator stream =
      persisted (shownOn stream (run.events peakMem)) := by
    cases stream <;> rfl
  rw [state, kept, persisted_of_le short, shown, bytes, bytesOn]

/-- An honest program has its peak read and its output returned. -/
theorem Honest.unforged {run : ProgramRun} {peakMem : Nat} (honest : run.Honest peakMem) :
    run.Unforged peakMem := by
  -- The only report is that of the wrapper, since no part of the program has one.
  obtain ⟨rounds, texts, silent, clean, copies, none, own⟩ := honest
  have state := run.within peakMem (Binary64.round_finite rounds).1
  obtain ⟨left, digits⟩ := findReport_copies none peakMem copies
  rw [← own] at left digits
  obtain ⟨stdout, stderr⟩ := run.shownOn_events peakMem
  have quiet : ∀ stream events, (∀ event ∈ events, event ∈ run.before ++ run.after) →
      ∀ part ∈ textsOn stream events, findReport part = .none := by
    intro stream events inside part member
    obtain ⟨slice, known, rfl⟩ := List.mem_map.mp member
    obtain ⟨event, here, rfl⟩ := List.mem_map.mp known
    exact silent event (inside event (List.mem_of_mem_filter here))
  have each : ∀ stream, ∀ slice ∈ slicesOn stream run.userEvents, ∃ part, slice = Utf8.encode part := by
    intro stream slice member
    obtain ⟨event, here, rfl⟩ := List.mem_map.mp member
    exact texts event (List.mem_of_mem_filter here)
  refine ⟨?_, fun stream => returned state (each stream) ?_⟩
  · have last := run.lastReported_events peakMem fun event inside =>
      silent event (List.mem_append_right _ inside)
    rw [state]
    change Option.map parseInt (lastReported (run.events peakMem)) = _
    rw [last, digits, ← rounds]
    exact congrArg (Option.some ∘ Binary64.round) Nat.ofDigitChars_ten_toDigits
  · cases stream with
    | stdout =>
      have before := quiet .stdout run.before fun _ inside => List.mem_append_left _ inside
      rw [stdout, left, (parts_without_report before).1, run.slicesOn_userEvents.1, List.flatMap_append,
        List.flatMap_singleton, flatten_textsOn]
    | stderr =>
      have others := quiet .stderr (run.before ++ run.after) fun _ inside => inside
      rw [stderr, (parts_without_report others).1, run.slicesOn_userEvents.2, flatten_textsOn]

/-- A program whose peak is read and whose output is returned is honest. -/
theorem Unforged.honest {run : ProgramRun} {peakMem : Nat} (unforged : run.Unforged peakMem) :
    run.Honest peakMem := by
  obtain ⟨reads, returned⟩ := unforged
  have state := run.within peakMem (peak_small reads)
  rw [state] at reads
  change Option.map parseInt (lastReported (run.events peakMem)) = _ at reads
  -- The persisted parts are the whole texts, for what is returned is below the cap.
  have whole : ∀ stream, Utf8.encode (shownOn stream (run.events peakMem)) =
      (slicesOn stream run.userEvents).flatten := by
    intro stream
    have same := returned stream
    rw [state] at same
    cases stream <;> exact eq_of_persisted same (run.short _)
  obtain ⟨stdout, stderr⟩ := run.shownOn_events peakMem
  obtain ⟨userStdout, userStderr⟩ := run.slicesOn_userEvents
  have line : (memoryLine peakMem).count Utf8.replacement = 0 :=
    List.count_eq_zero.mpr fun inside => absurd (memoryLine_ascii peakMem _ inside) (by decide)
  -- As many replacements are returned as there are in the texts, so all events are texts.
  obtain ⟨textsStderr, sameStderr⟩ := texts_of_returned (whole .stderr) (by
    rw [stderr, count_parts, flatten_textsOn, userStderr])
  obtain ⟨textsStdout, sameStdout⟩ := texts_of_returned (whole .stdout) (by
    rw [stdout, userStdout, List.flatMap_append, List.flatMap_singleton, List.count_append,
      List.count_append, count_parts, flatten_textsOn, count_removeReport, List.count_append, line,
      Nat.add_zero])
  rw [stderr, userStderr, ← flatten_textsOn] at sameStderr
  rw [stdout, userStdout, List.flatMap_append, List.flatMap_singleton, ← flatten_textsOn] at sameStdout
  have silentStderr : ∀ part ∈ textsOn .stderr (run.before ++ run.after), findReport part = none := by
    rcases length_parts (textsOn .stderr (run.before ++ run.after)) with silent | shorter
    · exact silent
    · rw [sameStderr] at shorter
      omega
  have last := run.lastReported_events peakMem fun event inside => by
    have member := mem_slicesOn (List.mem_append_right run.before inside)
    rw [run.last event inside] at member
    exact silentStderr _ (List.mem_map_of_mem member)
  obtain ⟨report, found⟩ := exists_report (Utf8.decode run.own) peakMem
  rw [last, reportedIn, found] at reads
  obtain ⟨silentStdout, rounds, own⟩ := honest_of_same found (Option.some.inj reads) sameStdout.symm
  refine ⟨rounds, fun event inside => ?_, fun event inside => ?_, own⟩
  · have member := mem_slicesOn inside
    cases stream : event.stream with
    | stdout => exact textsStdout _ (stream ▸ member)
    | stderr => exact textsStderr _ (stream ▸ member)
  · cases stream : event.stream with
    | stderr =>
      have member := mem_slicesOn inside
      rw [stream] at member
      exact silentStderr _ (List.mem_map_of_mem member)
    | stdout =>
      rcases List.mem_append.mp inside with before | after
      · have member := mem_slicesOn before
        rw [stream] at member
        exact silentStdout _ (List.mem_map_of_mem member)
      · rw [run.last event after] at stream
        cases stream

end ProgramRun

/--
The readings of two runs are unforged just if both programs are honest.

The runs have the same peak; everything else about them may differ.
-/
theorem unforged_iff (peakMem : Nat) (run other : ProgramRun) :
    (run.Unforged peakMem ∧ other.Unforged peakMem) ↔ (run.Honest peakMem ∧ other.Honest peakMem) :=
  and_congr ⟨ProgramRun.Unforged.honest, ProgramRun.Honest.unforged⟩
    ⟨ProgramRun.Unforged.honest, ProgramRun.Honest.unforged⟩

/-- A program that prints a report of one byte, in front of the wrapper's line. -/
def forgingRun : ProgramRun where
  before := []
  own := Utf8.encode "___MEM_PEAK___: 1\n".toList
  after := []
  last := List.forall_mem_nil _
  short := fun stream => by cases stream <;> decide

/-- A program that prints nothing. -/
def idleRun : ProgramRun where
  before := []
  own := []
  after := []
  last := List.forall_mem_nil _
  short := fun stream => by cases stream <;> decide

/-- Of two programs with the same peak, one has it read, and the other its own number. -/
theorem reading_forged :
    (sandboxOutput (idleRun.events 4096)).memoryUsedBytes = some (.finite 4096) ∧
      (sandboxOutput (forgingRun.events 4096)).memoryUsedBytes = some (.finite 1) ∧
        ¬ (forgingRun.Unforged 4096 ∧ idleRun.Unforged 4096) := by
  have forged : (sandboxOutput (forgingRun.events 4096)).memoryUsedBytes = some (.finite 1) := by
    decide +kernel
  refine ⟨by decide +kernel, forged, fun both => ?_⟩
  exact absurd (forged.symm.trans both.1.1) (by decide)

end CodeExecution

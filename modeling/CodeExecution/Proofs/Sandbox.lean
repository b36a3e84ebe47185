import Mathlib.Algebra.BigOperators.Group.List.Basic
import CodeExecution.Library.Utf8Slices
import CodeExecution.Services.Sandbox

/-! What `handleOutput` makes of a sequence of data events. -/

namespace CodeExecution

/-! ## The persisted part -/

@[simp] theorem byteLength_nil : byteLength [] = 0 := rfl

@[simp] theorem byteLength_append (front back : List Char) :
    byteLength (front ++ back) = byteLength front + byteLength back := by
  simp [byteLength]

/-- The persisted part of a text: the decoding of its first bytes. -/
def persisted (text : List Char) : List Char :=
  Utf8.decode ((Utf8.encode text).take maxResultOutputBytes)

/-- A text within the cap is persisted as it is. -/
theorem persisted_of_le {text : List Char} (within : byteLength text ≤ maxResultOutputBytes) :
    persisted text = text := by
  rw [persisted, List.take_of_length_le within, Utf8.decode_encode]

/-- The persisted part of a text that fills the cap fills it too. -/
theorem le_byteLength_persisted {text : List Char} (full : maxResultOutputBytes ≤ byteLength text) :
    maxResultOutputBytes ≤ byteLength (persisted text) := by
  -- No decoding is shorter than its bytes.
  have length := Utf8.length_le_decode ((Utf8.encode text).take maxResultOutputBytes)
  rw [List.length_take] at length
  exact le_trans (le_min (le_refl _) full) length

/-- Appending within the cap to a persisted part persists the longer text. -/
theorem appendWithinCap_persisted (text next : List Char) :
    appendWithinCap (persisted text) next =
      ⟨persisted (text ++ next), next ≠ [] ∧ maxResultOutputBytes < byteLength (text ++ next)⟩ := by
  unfold appendWithinCap
  by_cases room : byteLength text < maxResultOutputBytes
  · rw [persisted_of_le (le_of_lt room), if_neg (not_le.mpr room)]
    dsimp only
    by_cases fits : byteLength (text ++ next) ≤ maxResultOutputBytes
    · rw [persisted_of_le fits]
      rw [byteLength_append] at fits ⊢
      rw [if_pos (by omega)]
      congr 1
      rw [eq_comm, decide_eq_false_iff_not]
      omega
    · -- The next text is cut where the whole text would be.
      have some : next ≠ [] := by
        intro empty
        rw [empty, List.append_nil] at fits
        exact fits (le_of_lt room)
      rw [persisted, Utf8.encode_append, List.take_append, List.take_of_length_le (le_of_lt room),
        Utf8.decode_encode_append]
      rw [byteLength_append] at fits ⊢
      rw [if_neg (by omega)]
      congr 1
      rw [eq_comm, decide_eq_true_iff]
      exact ⟨some, by omega⟩
  · -- The accumulator is full already.
    have full := not_lt.mp room
    rw [if_pos (le_byteLength_persisted full), persisted, persisted, Utf8.encode_append,
      List.take_append_of_le_length full]
    congr 1
    rw [decide_eq_decide, byteLength_append]
    refine ⟨fun some => ⟨some, ?_⟩, fun both => both.1⟩
    have positive : 0 < byteLength next := by
      rw [byteLength, List.length_pos_iff]
      intro empty
      exact some (Utf8.encode_injective (empty.trans Utf8.encode_nil.symm))
    omega

/-! ## One data event -/

/-- What an event shows: its text without the memory report. -/
def OutputEvent.shown (event : OutputEvent) : List Char := removeReport (Utf8.decode event.data)

/-- The digits of the memory report that an event brings. -/
def OutputEvent.reported (event : OutputEvent) : Option (List Char) :=
  (findReport (Utf8.decode event.data)).map MemoryReport.digits

/-- What is published of an event that is accepted. -/
def OutputEvent.chunks (event : OutputEvent) : List (ChunkType × List UInt16) :=
  if event.shown = [] then []
  else (splitForStream (Utf16.encode event.shown)).map fun chunk => (event.stream.chunkType, chunk)

namespace SandboxOutput

variable {state : SandboxOutput} {event : OutputEvent}

/-- Noting a report changes the memory alone. -/
theorem noteReport_eq (state : SandboxOutput) (event : OutputEvent) :
    state.noteReport (Utf8.decode event.data) =
      { state with
        memoryUsedBytes := (event.reported.map parseInt).or state.memoryUsedBytes } := by
  -- A text without a report leaves the number alone.
  unfold noteReport OutputEvent.reported
  split
  · next report found => simp [found]
  · next absent => simp [absent]

/-- After the limit is exceeded, events are ignored. -/
theorem handleOutput_exceeded (exceeded : state.streamOutputLimitExceeded = true) :
    state.handleOutput event = state := by
  rw [handleOutput, if_pos exceeded]

/-- After the limit is exceeded, no sequence of events changes anything. -/
theorem foldl_exceeded (exceeded : state.streamOutputLimitExceeded = true)
    (events : List OutputEvent) : events.foldl handleOutput state = state := by
  induction events with
  | nil => rfl
  | cons event rest ih => rw [List.foldl_cons, handleOutput_exceeded exceeded, ih]

/-- Before that, the memory report of an event replaces the last one, and its text is looked at. -/
theorem handleOutput_going (going : state.streamOutputLimitExceeded = false) :
    state.handleOutput event =
      if event.shown = [] then { state with
        memoryUsedBytes := (event.reported.map parseInt).or state.memoryUsedBytes }
      else if maxStreamOutputBytes < state.totalStreamBytes + byteLength event.shown then
        exceedLimit { state with
          memoryUsedBytes := (event.reported.map parseInt).or state.memoryUsedBytes }
      else accept { state with
        memoryUsedBytes := (event.reported.map parseInt).or state.memoryUsedBytes }
          event.stream event.shown := by
  -- A report is noted whether or not the rest of the event is shown.
  rw [handleOutput, if_neg (by rw [going]; exact Bool.false_ne_true)]
  dsimp only
  rw [noteReport_eq]
  rfl

end SandboxOutput

/-! ## A sequence of events -/

/-- The bytes that some events show. -/
def shownBytes (events : List OutputEvent) : Nat :=
  (events.map fun event => byteLength event.shown).sum

/-- The events whose texts stay within a number of bytes. -/
def withinLimit : Nat → List OutputEvent → List OutputEvent
  | _, [] => []
  | budget, event :: rest =>
    if byteLength event.shown ≤ budget then
      event :: withinLimit (budget - byteLength event.shown) rest
    else []

/-- All that these events show on one output. -/
def shownOn (stream : OutputStream) (events : List OutputEvent) : List Char :=
  (events.filter fun event => event.stream = stream).flatMap OutputEvent.shown

/-- The digits of the last memory report in these events. -/
def lastReported (events : List OutputEvent) : Option (List Char) :=
  (events.filterMap OutputEvent.reported).getLast?

/-- The events within the limit, and the one that exceeds it. -/
def heard (budget : Nat) (events : List OutputEvent) : List OutputEvent :=
  events.take ((withinLimit budget events).length + 1)

@[simp] theorem shownBytes_append (earlier later : List OutputEvent) :
    shownBytes (earlier ++ later) = shownBytes earlier + shownBytes later := by
  simp [shownBytes]

@[simp] theorem shownBytes_singleton (event : OutputEvent) :
    shownBytes [event] = byteLength event.shown := by
  simp [shownBytes]

@[simp] theorem shownOn_append (stream : OutputStream) (earlier later : List OutputEvent) :
    shownOn stream (earlier ++ later) = shownOn stream earlier ++ shownOn stream later := by
  simp [shownOn]

/-- Another event shows its text behind the others on its output. -/
theorem shownOn_concat (stream : OutputStream) (events : List OutputEvent) (event : OutputEvent) :
    shownOn stream (events ++ [event]) =
      shownOn stream events ++ if event.stream = stream then event.shown else [] := by
  rw [shownOn_append]
  by_cases same : event.stream = stream <;> simp [shownOn, same]

/-- The bytes that are shown on the two outputs are all that are shown. -/
theorem shownBytes_eq (events : List OutputEvent) :
    shownBytes events = byteLength (shownOn .stdout events) + byteLength (shownOn .stderr events) := by
  -- The induction is on the events, from the last one.
  induction events using List.reverseRec with
  | nil => rfl
  | append_singleton events event ih =>
    rw [shownBytes_append, shownBytes_singleton, shownOn_concat, shownOn_concat, byteLength_append,
      byteLength_append, ih]
    cases event.stream <;> simp <;> omega

/-- A later memory report goes before an earlier one. -/
theorem lastReported_concat (events : List OutputEvent) (event : OutputEvent) :
    lastReported (events ++ [event]) = event.reported.or (lastReported events) := by
  unfold lastReported
  rw [List.filterMap_append, List.filterMap_cons, List.filterMap_nil]
  cases event.reported with
  | none => rw [List.append_nil, Option.none_or]
  | some digits => rw [List.getLast?_concat, Option.some_or]

/-- Events stay within a number of bytes, or one of them is the first to go beyond it. -/
theorem withinLimit_cases (budget : Nat) (events : List OutputEvent) :
    (shownBytes events ≤ budget ∧ withinLimit budget events = events) ∨
      ∃ event rest, events = withinLimit budget events ++ event :: rest ∧
        shownBytes (withinLimit budget events) ≤ budget ∧
          budget < shownBytes (withinLimit budget events) + byteLength event.shown := by
  -- The induction is on the events, with what is left of the budget.
  induction events generalizing budget with
  | nil => exact .inl ⟨Nat.zero_le _, rfl⟩
  | cons event rest ih =>
    have here : ∀ events, shownBytes (event :: events) = byteLength event.shown + shownBytes events :=
      fun _ => List.sum_cons
    rw [withinLimit]
    split
    · next within =>
      rcases ih (budget - byteLength event.shown) with ⟨all, same⟩ | ⟨beyond, later, split, room, less⟩
      · exact .inl ⟨by rw [here]; omega, by rw [same]⟩
      · refine .inr ⟨beyond, later, ?_, ?_, ?_⟩
        · rw [List.cons_append, ← split]
        · rw [here]
          omega
        · rw [here]
          omega
    · next beyond => exact .inr ⟨event, rest, rfl, Nat.zero_le _, by simpa [shownBytes] using beyond⟩

/-- The first events stay within the limit as far as they do together with the others. -/
theorem withinLimit_take (budget : Nat) (events : List OutputEvent) (count : Nat) :
    withinLimit budget (events.take count) = (withinLimit budget events).take count := by
  -- The induction is on the events, with what is left of the budget.
  induction events generalizing budget count with
  | nil => rw [List.take_nil, withinLimit, List.take_nil]
  | cons event rest ih =>
    cases count with
    | zero => rw [List.take_zero, List.take_zero, withinLimit]
    | succ count =>
      rw [List.take_succ_cons, withinLimit, withinLimit]
      split
      · rw [List.take_succ_cons, ih]
      · rw [List.take_nil]

/-! ## The state after a sequence of events -/

/-- An output of these events is longer than its persisted part. -/
def truncates (events : List OutputEvent) : Bool :=
  maxResultOutputBytes < byteLength (shownOn .stdout events) ∨
    maxResultOutputBytes < byteLength (shownOn .stderr events)

/-- Another event truncates its own output, or none. -/
theorem truncates_concat (events : List OutputEvent) {event : OutputEvent} (some : event.shown ≠ []) :
    truncates (events ++ [event]) = (truncates events || decide (event.shown ≠ [] ∧
      maxResultOutputBytes < byteLength (shownOn event.stream events ++ event.shown))) := by
  -- The other output stays as long as it was.
  rw [Bool.eq_iff_iff]
  simp only [truncates, shownOn_concat, Bool.or_eq_true, decide_eq_true_iff, byteLength_append]
  cases event.stream with
  | stdout =>
    simp only [if_true, reduceCtorEq, if_false, byteLength_nil]
    constructor
    · intro longer
      rcases longer with longer | longer
      · exact .inr ⟨some, longer⟩
      · exact .inl (.inr longer)
    · omega
  | stderr =>
    simp only [if_true, reduceCtorEq, if_false, byteLength_nil]
    constructor
    · intro longer
      rcases longer with longer | longer
      · exact .inl (.inl longer)
      · exact .inr ⟨some, longer⟩
    · omega

/-- The state of the handlers that have accepted these events, and no others. -/
def accepting (events : List OutputEvent) : SandboxOutput where
  stdout := persisted (shownOn .stdout events)
  stderr := persisted (shownOn .stderr events)
  totalStreamBytes := shownBytes events
  outputTruncated := truncates events
  streamOutputLimitExceeded := false
  memoryUsedBytes := (lastReported events).map parseInt
  published := events.flatMap OutputEvent.chunks
  kills := 0

/-- The state after an event beyond the limit, which has brought only its memory report. -/
def exceeding (events : List OutputEvent) (event : OutputEvent) : SandboxOutput :=
  SandboxOutput.exceedLimit
    { accepting events with memoryUsedBytes := (lastReported (events ++ [event])).map parseInt }

/-- An event within the limit is accepted after the others. -/
theorem accepting_concat {events : List OutputEvent} {event : OutputEvent}
    (within : shownBytes events + byteLength event.shown ≤ maxStreamOutputBytes) :
    (accepting events).handleOutput event = accepting (events ++ [event]) := by
  rw [SandboxOutput.handleOutput_going rfl]
  have memory : (event.reported.map parseInt).or ((lastReported events).map parseInt) =
      (lastReported (events ++ [event])).map parseInt := by
    rw [lastReported_concat, Option.map_or]
  split
  · -- An event without a text changes the memory alone.
    next empty =>
    simp only [accepting, truncates, shownOn_concat, empty, ite_self, List.append_nil, shownBytes_append,
      shownBytes_singleton, byteLength_nil, Nat.add_zero, memory, List.flatMap_append,
      List.flatMap_singleton, OutputEvent.chunks, if_true]
  · next some =>
    have below : ¬ maxStreamOutputBytes < (accepting events).totalStreamBytes + byteLength event.shown :=
      not_lt.mpr within
    rw [if_neg below, SandboxOutput.accept]
    have chunks : event.chunks =
        (splitForStream (Utf16.encode event.shown)).map fun chunk => (event.stream.chunkType, chunk) :=
      if_neg some
    have truncated := truncates_concat events some
    -- Only the accumulator of the event's output grows.
    cases stream : event.stream with
    | stdout =>
      rw [stream] at chunks truncated
      simp only [accepting, SandboxOutput.assign, SandboxOutput.accumulator, appendWithinCap_persisted,
        shownOn_concat, stream, memory, truncated, shownBytes_append, shownBytes_singleton,
        List.flatMap_append, List.flatMap_singleton, chunks, if_true, reduceCtorEq, if_false,
        List.append_nil]
    | stderr =>
      rw [stream] at chunks truncated
      simp only [accepting, SandboxOutput.assign, SandboxOutput.accumulator, appendWithinCap_persisted,
        shownOn_concat, stream, memory, truncated, shownBytes_append, shownBytes_singleton,
        List.flatMap_append, List.flatMap_singleton, chunks, if_true, reduceCtorEq, if_false,
        List.append_nil]

/-- An event beyond the limit is the last one that changes anything. -/
theorem exceeding_of_handleOutput {events : List OutputEvent} {event : OutputEvent}
    (room : shownBytes events ≤ maxStreamOutputBytes)
    (beyond : maxStreamOutputBytes < shownBytes events + byteLength event.shown) :
    (accepting events).handleOutput event = exceeding events event := by
  -- Something is shown, for the empty text would not exceed anything.
  have some : event.shown ≠ [] := by
    intro empty
    rw [empty] at beyond
    exact absurd beyond (not_lt.mpr room)
  have memory : (event.reported.map parseInt).or ((lastReported events).map parseInt) =
      (lastReported (events ++ [event])).map parseInt := by
    rw [lastReported_concat, Option.map_or]
  have total : maxStreamOutputBytes < (accepting events).totalStreamBytes + byteLength event.shown :=
    beyond
  rw [SandboxOutput.handleOutput_going rfl, if_neg some, if_pos total, exceeding, ← memory]
  rfl

/-! ## A whole program -/

/-- Events within the limit are all accepted. -/
theorem sandboxOutput_within {events : List OutputEvent}
    (within : shownBytes events ≤ maxStreamOutputBytes) : sandboxOutput events = accepting events := by
  -- The induction is on the events, from the last one.
  induction events using List.reverseRec with
  | nil => rfl
  | append_singleton events event ih =>
    rw [shownBytes_append, shownBytes_singleton] at within
    rw [sandboxOutput, List.foldl_concat, ← sandboxOutput, ih (by omega), accepting_concat within]

/-- All events are accepted, or those before the first one that goes beyond the limit. -/
theorem sandboxOutput_cases (events : List OutputEvent) :
    (shownBytes events ≤ maxStreamOutputBytes ∧ withinLimit maxStreamOutputBytes events = events ∧
        sandboxOutput events = accepting events) ∨
      ∃ event rest, events = withinLimit maxStreamOutputBytes events ++ event :: rest ∧
        shownBytes (withinLimit maxStreamOutputBytes events) ≤ maxStreamOutputBytes ∧
          maxStreamOutputBytes <
            shownBytes (withinLimit maxStreamOutputBytes events) + byteLength event.shown ∧
          sandboxOutput events = exceeding (withinLimit maxStreamOutputBytes events) event := by
  -- The first event that does not fit splits the events, and nothing behind it counts.
  rcases withinLimit_cases maxStreamOutputBytes events with ⟨within, same⟩ | ⟨event, rest, split, room, less⟩
  · exact .inl ⟨within, same, sandboxOutput_within within⟩
  · have state : sandboxOutput events = exceeding (withinLimit maxStreamOutputBytes events) event := by
      conv_lhs => rw [split]
      rw [sandboxOutput, List.foldl_append, List.foldl_cons, ← sandboxOutput, sandboxOutput_within room,
        exceeding_of_handleOutput room less]
      exact SandboxOutput.foldl_exceeded rfl rest
    exact .inr ⟨event, rest, split, room, less, state⟩

/-- The persisted part of an output that a program leaves. -/
theorem sandboxOutput_accumulator (events : List OutputEvent) (stream : OutputStream) :
    (sandboxOutput events).accumulator stream =
      persisted (shownOn stream (withinLimit maxStreamOutputBytes events)) := by
  -- The event that exceeds the limit is not persisted.
  rcases sandboxOutput_cases events with ⟨-, same, state⟩ | ⟨_, _, _, _, _, state⟩
  · rw [state, same]
    cases stream <;> rfl
  · rw [state]
    cases stream <;> rfl

/-- The memory that is reported for a program. -/
theorem sandboxOutput_memory (events : List OutputEvent) :
    (sandboxOutput events).memoryUsedBytes =
      (lastReported (heard maxStreamOutputBytes events)).map parseInt := by
  -- The report of the event that exceeds the limit is the last one that is heard.
  unfold heard
  rcases sandboxOutput_cases events with ⟨-, same, state⟩ | ⟨event, rest, split, -, -, state⟩
  · rw [state, same, List.take_of_length_le (Nat.le_succ _)]
    rfl
  · have front : events.take ((withinLimit maxStreamOutputBytes events).length + 1) =
        withinLimit maxStreamOutputBytes events ++ [event] := by
      generalize withinLimit maxStreamOutputBytes events = accepted at split
      rw [split, List.take_length_add_append]
      rfl
    rw [state, front]
    rfl

/-! ## What is published -/

/-- The chunks that are published of an output, put together again. -/
def SandboxOutput.publishedOn (state : SandboxOutput) (stream : OutputStream) : List UInt16 :=
  (state.published.filter fun chunk => chunk.1 = stream.chunkType).flatMap Prod.snd

/-- Cutting a text into slices loses nothing. -/
theorem flatten_splitRemaining (remaining : List UInt16) : (splitRemaining remaining).flatten = remaining := by
  -- The induction follows the loop.
  induction remaining using splitRemaining.induct with
  | case1 => rw [splitRemaining, if_pos rfl, List.flatten_nil]
  | case2 remaining some length ih =>
    rw [splitRemaining, if_neg some, List.flatten_cons, ih, List.take_append_drop]

/-- The chunks of a text make up the text. -/
theorem flatten_splitForStream (text : List UInt16) : (splitForStream text).flatten = text := by
  unfold splitForStream
  split
  · exact List.flatten_singleton
  · exact flatten_splitRemaining text

/-- The chunks of an event make up what it shows. -/
theorem flatMap_chunks (event : OutputEvent) (stream : OutputStream) :
    (event.chunks.filter fun chunk => chunk.1 = stream.chunkType).flatMap Prod.snd =
      Utf16.encode (if event.stream = stream then event.shown else []) := by
  have types : event.stream.chunkType = stream.chunkType ↔ event.stream = stream := by
    cases event.stream <;> cases stream <;> decide
  unfold OutputEvent.chunks
  split
  · next empty => simp [empty]
  -- All chunks of an event are of its own output.
  · rw [List.filter_map, Function.comp_def, List.flatMap_map]
    dsimp only
    by_cases same : event.stream = stream
    · simp [same, flatten_splitForStream]
    · simp [types, same]

/-- What is published of accepted events makes up what they show. -/
theorem publishedOn_accepting (events : List OutputEvent) (stream : OutputStream) :
    (accepting events).publishedOn stream = Utf16.encode (shownOn stream events) := by
  -- The induction is on the events, from the last one.
  unfold SandboxOutput.publishedOn
  induction events using List.reverseRec with
  | nil => rfl
  | append_singleton events event ih =>
    simp only [accepting] at ih ⊢
    rw [List.flatMap_append, List.flatMap_singleton, List.filter_append, List.flatMap_append, ih,
      flatMap_chunks, shownOn_concat, Utf16.encode_append]

/-- The event that exceeds the limit publishes nothing of an output. -/
theorem publishedOn_exceeding (events : List OutputEvent) (event : OutputEvent) (stream : OutputStream) :
    (exceeding events event).publishedOn stream = (accepting events).publishedOn stream := by
  -- It publishes a system message.
  have message : ∀ data : List UInt16,
      [((.system : ChunkType), data)].filter (fun chunk => chunk.1 = stream.chunkType) = [] := by
    intro data
    cases stream <;> rfl
  unfold SandboxOutput.publishedOn exceeding SandboxOutput.exceedLimit
  dsimp only
  rw [List.filter_append, message, List.append_nil]

/-- Without truncation, all that is published of an output is also kept. -/
theorem publishedOn_eq_accumulator {events : List OutputEvent}
    (whole : (sandboxOutput events).outputTruncated = false) (stream : OutputStream) :
    (sandboxOutput events).publishedOn stream =
      Utf16.encode ((sandboxOutput events).accumulator stream) := by
  have kept : ∀ events, truncates events = false →
      (accepting events).publishedOn stream = Utf16.encode ((accepting events).accumulator stream) := by
    intro events whole
    obtain ⟨short, short'⟩ := not_or.mp (of_decide_eq_false whole)
    rw [publishedOn_accepting]
    cases stream with
    | stdout => exact congrArg Utf16.encode (persisted_of_le (not_lt.mp short)).symm
    | stderr => exact congrArg Utf16.encode (persisted_of_le (not_lt.mp short')).symm
  rcases sandboxOutput_cases events with ⟨-, -, state⟩ | ⟨event, rest, -, -, -, state⟩
  · rw [state] at whole ⊢
    exact kept events whole
  · -- The event that exceeds the limit is neither kept nor published.
    rw [state] at whole ⊢
    rw [publishedOn_exceeding, kept _ whole]
    cases stream <;> rfl

end CodeExecution

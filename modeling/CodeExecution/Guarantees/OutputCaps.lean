import CodeExecution.Proofs.MemoryReports

/-! The two caps on what a program prints: the persisted part of each output, and the stream limit. -/

namespace CodeExecution

/-! ## The persisted part -/

/-- The text that is accepted on an output, up to the stream limit. -/
def acceptedOn (stream : OutputStream) (events : List OutputEvent) : List Char :=
  shownOn stream (withinLimit maxStreamOutputBytes events)

/-- An accumulator that is within the cap, and a prefix of a text. -/
def Kept (accumulator text : List Char) : Prop :=
  byteLength accumulator ≤ maxResultOutputBytes ∧ accumulator <+: text

/-- A text that is shorter than the cap, or has a character that ends exactly at it. -/
def EndsAtCap (text : List Char) : Prop :=
  byteLength text < maxResultOutputBytes ∨
    ∃ front, front <+: text ∧ byteLength front = maxResultOutputBytes

/-- A text of no bytes is empty. -/
theorem eq_nil_of_byteLength {text : List Char} (none : byteLength text = 0) : text = [] :=
  Utf8.encode_injective ((List.length_eq_zero_iff.mp none).trans Utf8.encode_nil.symm)

/-- A text that ends at the cap has no part in front that does not. -/
theorem EndsAtCap.of_append {text more : List Char} (ends : EndsAtCap (text ++ more)) : EndsAtCap text := by
  by_cases short : byteLength text < maxResultOutputBytes
  · exact .inl short
  · rcases ends with shorter | ⟨front, inside, full⟩
    · rw [byteLength_append] at shorter
      omega
    · -- Of two prefixes, the one with fewer bytes comes first.
      rcases List.prefix_or_prefix_of_prefix inside (List.prefix_append text more) with before | after
      · exact .inr ⟨front, before, full⟩
      · obtain ⟨rest, rfl⟩ := after
        rw [byteLength_append] at full
        have none : byteLength rest = 0 := by omega
        obtain rfl := eq_nil_of_byteLength none
        exact .inr ⟨text, List.prefix_refl _, by simpa using full⟩

/-- The persisted part is a prefix within the cap unless the cap is inside a character. -/
theorem persisted_kept_iff (text : List Char) : Kept (persisted text) text ↔ EndsAtCap text := by
  constructor
  · intro kept
    by_cases short : byteLength text < maxResultOutputBytes
    · exact .inl short
    · have full : ((Utf8.encode text).take maxResultOutputBytes).length = maxResultOutputBytes :=
        List.length_take_of_le (not_lt.mp short)
      have whole := (List.take_append_drop maxResultOutputBytes (Utf8.encode text)).symm
      rw [Kept, persisted] at kept
      cases Utf8.cut_of_append whole with
      | between before after parts left right =>
        rw [left] at full
        exact .inr ⟨before, parts ▸ List.prefix_append _ _, full⟩
      | inside before after character start tails parts split some more bytes left right =>
        -- The replacement is no character of the text, or it is longer than what it replaces.
        rw [left, Utf8.decode_encode_front before split some more] at kept
        obtain ⟨within, inside⟩ := kept
        rw [parts, List.prefix_append_right_inj, List.cons_prefix_cons] at inside
        obtain ⟨rfl, -⟩ := inside
        have tail : 0 < tails.length := List.length_pos_iff.mpr more
        have three : (start ++ tails).length = 3 := by
          rw [← split]
          decide
        have size : byteLength [Utf8.replacement] = 3 := by decide
        rw [left, List.length_append] at full
        rw [List.length_append] at three
        rw [byteLength_append, size, byteLength] at within
        omega
  · intro ends
    rcases ends with short | ⟨front, inside, full⟩
    · rw [persisted_of_le (le_of_lt short)]
      exact ⟨le_of_lt short, List.prefix_refl _⟩
    · obtain ⟨rest, rfl⟩ := inside
      have exact' : persisted (front ++ rest) = front := by
        rw [persisted, Utf8.encode_append, List.take_append_of_le_length (le_of_eq full.symm),
          List.take_of_length_le (le_of_eq full), Utf8.decode_encode]
      rw [exact']
      exact ⟨le_of_eq full, List.prefix_append _ _⟩

/-- After each event, each accumulator is within the cap, and a prefix of what was accepted. -/
def AccumulatorsKept (events : List OutputEvent) : Prop :=
  ∀ count stream, Kept ((sandboxOutput (events.take count)).accumulator stream)
    (acceptedOn stream (events.take count))

/-- The accumulators are kept so just if the cap is not inside a character of an accepted text. -/
theorem accumulators_kept_iff (events : List OutputEvent) :
    AccumulatorsKept events ↔ ∀ stream, EndsAtCap (acceptedOn stream events) := by
  constructor
  · intro kept stream
    have final := kept events.length stream
    rw [List.take_length, sandboxOutput_accumulator] at final
    exact (persisted_kept_iff _).mp final
  · -- The texts that are accepted earlier are prefixes of the last ones.
    intro ends count stream
    rw [sandboxOutput_accumulator]
    have whole : EndsAtCap (acceptedOn stream (events.take count) ++
        shownOn stream ((withinLimit maxStreamOutputBytes events).drop count)) := by
      rw [acceptedOn, withinLimit_take, ← shownOn_append, List.take_append_drop]
      exact ends stream
    exact (persisted_kept_iff _).mpr whole.of_append

@[simp] theorem byteLength_replicate (count : Nat) : byteLength (List.replicate count 'a') = count := by
  -- Each letter takes one byte.
  have one : 'a'.utf8Size = 1 := by decide
  simp [byteLength, Utf8.encode, one]

/-- Letters have no marker. -/
theorem not_marker_letters (count : Nat) : ¬ memoryMarker <:+: List.replicate count 'a' :=
  not_marker_of_underscore fun inside => absurd (List.eq_of_mem_replicate inside) (by decide)

/-- A character of two bytes is cut where one byte of the cap is left. -/
theorem accumulators_not_kept :
    ¬ AccumulatorsKept
      [⟨.stdout, Utf8.encode (List.replicate (maxResultOutputBytes - 1) 'a' ++ ['é'])⟩] := by
  intro kept
  have size : byteLength ['é'] = 2 := by decide
  have plain : '_' ∉ List.replicate (maxResultOutputBytes - 1) 'a' ++ ['é'] := by
    simp [List.mem_replicate]
  have shows := shown_encode .stdout (not_marker_of_underscore plain)
  generalize text : List.replicate (maxResultOutputBytes - 1) 'a' ++ ['é'] = cut at kept shows
  have length : byteLength cut = maxResultOutputBytes + 1 := by
    rw [← text, byteLength_append, byteLength_replicate, size]
    rfl
  -- The whole text is accepted, and it has no prefix of just the cap.
  have accepted : acceptedOn .stdout [⟨.stdout, Utf8.encode cut⟩] = cut := by
    have fits : byteLength cut ≤ maxStreamOutputBytes := by
      rw [length]
      decide
    simp [acceptedOn, withinLimit, shows, fits, shownOn]
  have final := kept 1 .stdout
  rw [List.take_of_length_le (le_refl 1), sandboxOutput_accumulator, ← acceptedOn, accepted,
    persisted_kept_iff] at final
  rcases final with short | ⟨front, inside, full⟩
  · omega
  · rw [← text, List.prefix_concat_iff] at inside
    rcases inside with rfl | ⟨rest, before⟩
    · rw [text, length] at full
      omega
    · have bytes := congrArg byteLength before
      rw [byteLength_append, byteLength_replicate, full] at bytes
      have positive : 0 < maxResultOutputBytes := by decide
      omega

/-! ## What follows a cut -/

/-- The accumulator after some appends. -/
def appended (texts : List (List Char)) : List Char :=
  texts.foldl (fun current next => (appendWithinCap current next).value) []

/-- It is the persisted part of all texts together. -/
theorem appended_eq (texts : List (List Char)) : appended texts = persisted texts.flatten := by
  -- The induction is on the texts, from the last one.
  induction texts using List.reverseRec with
  | nil => rfl
  | append_singleton texts text ih =>
    rw [appended, List.foldl_concat, ← appended, ih, appendWithinCap_persisted, List.flatten_append,
      List.flatten_singleton]

/-- Nothing is appended to a full accumulator. -/
theorem foldl_appendWithinCap_of_full {current : List Char}
    (full : maxResultOutputBytes ≤ byteLength current) (texts : List (List Char)) :
    texts.foldl (fun current next => (appendWithinCap current next).value) current = current := by
  -- The induction is on the texts; the first one leaves the accumulator full.
  induction texts with
  | nil => rfl
  | cons text texts ih => rw [List.foldl_cons, appendWithinCap, if_pos full, ih]

/-- An accepted text is appended to the accumulator of its own output. -/
theorem accumulator_accept (state : SandboxOutput) (accepting stream : OutputStream) (text : List Char) :
    (state.accept accepting text).accumulator stream =
      if accepting = stream then (appendWithinCap (state.accumulator stream) text).value
      else state.accumulator stream := by
  cases accepting <;> cases stream <;> rfl

/-- No event appends to a full accumulator. -/
theorem handleOutput_accumulator_of_full {state : SandboxOutput} {stream : OutputStream}
    (full : maxResultOutputBytes ≤ byteLength (state.accumulator stream)) (event : OutputEvent) :
    (state.handleOutput event).accumulator stream = state.accumulator stream := by
  -- An event that is not accepted assigns no accumulator, and one that is assigns its own.
  cases going : state.streamOutputLimitExceeded with
  | true => rw [SandboxOutput.handleOutput_exceeded going]
  | false =>
    rw [SandboxOutput.handleOutput_going going]
    split_ifs
    · rfl
    · cases stream <;> rfl
    · rw [accumulator_accept]
      split
      · exact congrArg Capped.value (if_pos full)
      · rfl

/-- No sequence of events does. -/
theorem foldl_accumulator_of_full {state : SandboxOutput} {stream : OutputStream}
    (full : maxResultOutputBytes ≤ byteLength (state.accumulator stream)) (events : List OutputEvent) :
    (events.foldl SandboxOutput.handleOutput state).accumulator stream = state.accumulator stream := by
  -- The induction is on the events; the first one leaves the accumulator full.
  induction events generalizing state with
  | nil => rfl
  | cons event events ih =>
    have same := handleOutput_accumulator_of_full full event
    rw [List.foldl_cons, ih (by rwa [same]), same]

/--
What follows a cut is never kept.

An append that reports a cut has filled the accumulator, and no later append changes it. Where an output is
not kept as a whole, no later event adds to what is kept.
-/
theorem truncation_is_final :
    (∀ texts text later, (appendWithinCap (appended texts) text).truncated = true →
      maxResultOutputBytes ≤ byteLength (appended (texts ++ [text])) ∧
        appended (texts ++ text :: later) = appended (texts ++ [text])) ∧
      ∀ stream events later, (sandboxOutput events).accumulator stream ≠ shownOn stream events →
        (sandboxOutput (events ++ later)).accumulator stream =
          (sandboxOutput events).accumulator stream := by
  constructor
  · intro texts text later cut
    rw [appended_eq, appendWithinCap_persisted, decide_eq_true_iff] at cut
    have full : maxResultOutputBytes ≤ byteLength (appended (texts ++ [text])) := by
      rw [appended_eq, List.flatten_append, List.flatten_singleton]
      exact le_byteLength_persisted (le_of_lt cut.2)
    refine ⟨full, ?_⟩
    rw [← List.singleton_append, ← List.append_assoc, appended, List.foldl_append]
    exact foldl_appendWithinCap_of_full full later
  · intro stream events later cut
    rw [sandboxOutput, List.foldl_append, ← sandboxOutput]
    rcases sandboxOutput_cases events with ⟨-, -, state⟩ | ⟨_, _, -, -, -, state⟩
    · -- The accepted texts are longer than what is kept of them.
      have kept : (sandboxOutput events).accumulator stream = persisted (shownOn stream events) := by
        rw [state]
        cases stream <;> rfl
      refine foldl_accumulator_of_full ?_ later
      rw [kept] at cut ⊢
      refine le_byteLength_persisted (le_of_lt (not_le.mp fun within => cut ?_))
      exact persisted_of_le within
    · -- The limit is exceeded.
      rw [SandboxOutput.foldl_exceeded (by rw [state]; rfl)]

/-! ## The stream limit -/

/-- The chunk that tells of the exceeded limit. -/
def limitChunk : ChunkType × List UInt16 := (.system, Utf16.encode outputLimitMessage.toList)

/-- The chunks of an output are not system chunks. -/
theorem filter_system_chunks (events : List OutputEvent) :
    (events.flatMap OutputEvent.chunks).filter (fun chunk => chunk.1 = .system) = [] := by
  -- A chunk of an event has the type of the event's output.
  rw [List.filter_eq_nil_iff]
  intro chunk inside
  obtain ⟨event, -, inside⟩ := List.mem_flatMap.mp inside
  unfold OutputEvent.chunks at inside
  split at inside
  · exact absurd inside List.not_mem_nil
  · obtain ⟨units, -, rfl⟩ := List.mem_map.mp inside
    cases event.stream <;> exact Bool.false_ne_true

/-- What one more event does before the limit is exceeded. -/
structure LimitStep (state : SandboxOutput) (event : OutputEvent) (next : SandboxOutput) : Prop where
  /-- The limit is exceeded just by a text that goes beyond it. -/
  exceeds : next.streamOutputLimitExceeded = true ↔
    maxStreamOutputBytes < state.totalStreamBytes + byteLength event.shown
  /-- Then the text is neither counted nor published, and the container is killed. -/
  killed : next.streamOutputLimitExceeded = true →
    next.published = state.published ++ [limitChunk] ∧ next.kills = state.kills + 1 ∧
      next.totalStreamBytes = state.totalStreamBytes
  /-- Otherwise the text is counted and published, and nothing is killed. -/
  accepted : next.streamOutputLimitExceeded = false →
    next.published = state.published ++ event.chunks ∧ next.kills = state.kills ∧
      next.totalStreamBytes = state.totalStreamBytes + byteLength event.shown

/-- The stream limit over a sequence of events. -/
structure StreamLimit (events : List OutputEvent) : Prop where
  /-- The total counts the accepted texts. -/
  total : (sandboxOutput events).totalStreamBytes = shownBytes (withinLimit maxStreamOutputBytes events)
  bounded : (sandboxOutput events).totalStreamBytes ≤ maxStreamOutputBytes
  /-- The limit is exceeded as soon as all texts together go beyond it. -/
  exceeded : (sandboxOutput events).streamOutputLimitExceeded = true ↔
    maxStreamOutputBytes < shownBytes events
  /-- It is told once, and the container is killed once. -/
  once : (sandboxOutput events).published.filter (fun chunk => chunk.1 = .system) =
      (if (sandboxOutput events).streamOutputLimitExceeded then [limitChunk] else []) ∧
    (sandboxOutput events).kills = if (sandboxOutput events).streamOutputLimitExceeded then 1 else 0
  step : (sandboxOutput events).streamOutputLimitExceeded = false →
    ∀ event, LimitStep (sandboxOutput events) event (sandboxOutput (events ++ [event]))
  /-- From then on nothing changes any more. -/
  final : (sandboxOutput events).streamOutputLimitExceeded = true →
    ∀ later, sandboxOutput (events ++ later) = sandboxOutput events

/-- The limit is not exceeded just as long as all texts together stay within it. -/
theorem exceeded_iff (events : List OutputEvent) :
    (sandboxOutput events).streamOutputLimitExceeded = true ↔ maxStreamOutputBytes < shownBytes events := by
  -- The flag is set by the first event that goes beyond the limit, and by nothing else.
  rcases sandboxOutput_cases events with ⟨within, -, state⟩ | ⟨event, rest, split, room, less, state⟩
  · rw [state]
    exact iff_of_false Bool.false_ne_true (not_lt.mpr within)
  · rw [state]
    refine iff_of_true rfl ?_
    rw [split, shownBytes_append, ← List.singleton_append, shownBytes_append, shownBytes_singleton]
    omega

/-- The stream limit is kept, told and enforced once, for every sequence of events. -/
theorem stream_limit (events : List OutputEvent) : StreamLimit events where
  total := by
    rcases sandboxOutput_cases events with ⟨-, same, state⟩ | ⟨_, _, -, -, -, state⟩
    · rw [state, same]
      rfl
    · rw [state]
      rfl
  bounded := by
    rcases sandboxOutput_cases events with ⟨within, -, state⟩ | ⟨_, _, -, room, -, state⟩
    · rw [state]
      exact within
    · rw [state]
      exact room
  exceeded := exceeded_iff events
  once := by
    rcases sandboxOutput_cases events with ⟨-, -, state⟩ | ⟨_, _, -, -, -, state⟩
    · rw [state]
      exact ⟨filter_system_chunks events, rfl⟩
    · rw [state]
      refine ⟨?_, rfl⟩
      change List.filter _ (_ ++ [limitChunk]) = [limitChunk]
      rw [List.filter_append, accepting, filter_system_chunks]
      rfl
  step := by
    intro going event
    -- Whether one more event fits is decided by what was shown before.
    have within : shownBytes events ≤ maxStreamOutputBytes := by
      by_contra beyond
      rw [(exceeded_iff events).mpr (not_le.mp beyond)] at going
      exact Bool.false_ne_true going.symm
    have state := sandboxOutput_within within
    have next : sandboxOutput (events ++ [event]) = (accepting events).handleOutput event := by
      rw [← state, sandboxOutput, List.foldl_concat]
      rfl
    rw [next, state]
    -- The event is the one that exceeds, or it fits.
    by_cases beyond : maxStreamOutputBytes < shownBytes events + byteLength event.shown
    · rw [exceeding_of_handleOutput within beyond]
      exact ⟨iff_of_true rfl beyond, fun _ => ⟨rfl, rfl, rfl⟩,
        fun continues => absurd continues.symm Bool.false_ne_true⟩
    · rw [accepting_concat (not_lt.mp beyond)]
      refine ⟨iff_of_false Bool.false_ne_true beyond,
        fun exceeds => absurd exceeds Bool.false_ne_true, fun _ => ⟨?_, rfl, ?_⟩⟩
      · simp only [accepting, List.flatMap_append, List.flatMap_singleton]
      · simp only [accepting, shownBytes_append, shownBytes_singleton]
  final := by
    intro exceeded later
    rw [sandboxOutput, List.foldl_append]
    exact SandboxOutput.foldl_exceeded exceeded later

/-! ## The limit and the truncation flag -/

/-- Where the stream limit is exceeded by events of a pipe's size, an output is truncated. -/
theorem truncated_of_exceeded (events : List OutputEvent)
    (small : ∀ event ∈ events, event.data.length ≤ 65536)
    (exceeded : (sandboxOutput events).streamOutputLimitExceeded = true) :
    (sandboxOutput events).outputTruncated = true := by
  rcases sandboxOutput_cases events with ⟨-, -, state⟩ | ⟨event, rest, split, room, less, state⟩
  · rw [state] at exceeded
    exact absurd exceeded nofun
  · rw [state]
    change truncates _ = true
    -- Two outputs that are not truncated leave more room than a single event can take.
    have inside : event ∈ events := by
      rw [split]
      exact List.mem_append_right _ List.mem_cons_self
    have size := byteLength_shown_le event
    have data := small event inside
    rw [shownBytes_eq] at less
    generalize withinLimit maxStreamOutputBytes events = accepted at less
    rw [truncates, decide_eq_true_iff, maxResultOutputBytes]
    rw [maxStreamOutputBytes] at less
    omega

/-- Seventeen full events of one letter exceed the limit. -/
theorem truncated_of_exceeded_example :
    (sandboxOutput (List.replicate 17 ⟨.stdout, Utf8.encode (List.replicate 65536 'a')⟩)).outputTruncated =
      true := by
  have shows := shown_encode .stdout (not_marker_letters 65536)
  -- Every event is as long as a pipe can make it, and seventeen of them are more than 1 MB.
  refine truncated_of_exceeded _ (fun event inside => ?_) ((exceeded_iff _).mpr ?_)
  · rw [List.eq_of_mem_replicate inside]
    exact le_of_eq (byteLength_replicate 65536)
  · simp only [shownBytes, List.map_replicate, shows, byteLength_replicate, List.sum_replicate]
    decide

/-! ## Stored and streamed output -/

/-- Without truncation, each stored output is what was published of it, in the order of publication. -/
theorem stored_is_streamed (events : List OutputEvent)
    (whole : (sandboxOutput events).outputTruncated = false) :
    Utf16.encode (sandboxOutput events).stdout =
        ((sandboxOutput events).published.filter fun chunk => chunk.1 = .stdout).flatMap Prod.snd ∧
      Utf16.encode (sandboxOutput events).stderr =
        ((sandboxOutput events).published.filter fun chunk => chunk.1 = .stderr).flatMap Prod.snd := by
  -- Texts and chunks are compared in code units, where chunks may be cut inside a character.
  have stdout := publishedOn_eq_accumulator whole .stdout
  have stderr := publishedOn_eq_accumulator whole .stderr
  exact ⟨stdout.symm, stderr.symm⟩

/-- Two outputs that take turns, of which one has a memory report. -/
theorem stored_is_streamed_example :
    Utf16.encode (sandboxOutput [⟨.stdout, Utf8.encode ['h']⟩, ⟨.stderr, Utf8.encode ['é']⟩,
        ⟨.stdout, Utf8.encode ('i' :: memoryLine 4096)⟩]).stdout = Utf16.encode ['h', 'i'] ∧
      (((sandboxOutput [⟨.stdout, Utf8.encode ['h']⟩, ⟨.stderr, Utf8.encode ['é']⟩,
        ⟨.stdout, Utf8.encode ('i' :: memoryLine 4096)⟩]).published.filter fun chunk =>
          chunk.1 = .stdout).flatMap Prod.snd) = Utf16.encode ['h', 'i'] := by
  -- The report of the last event is shown on neither side.
  have kept : (sandboxOutput [⟨.stdout, Utf8.encode ['h']⟩, ⟨.stderr, Utf8.encode ['é']⟩,
      ⟨.stdout, Utf8.encode ('i' :: memoryLine 4096)⟩]).stdout = ['h', 'i'] := by decide +kernel
  have agree := stored_is_streamed [⟨.stdout, Utf8.encode ['h']⟩, ⟨.stderr, Utf8.encode ['é']⟩,
    ⟨.stdout, Utf8.encode ('i' :: memoryLine 4096)⟩] (by decide +kernel)
  rw [kept] at agree
  exact ⟨by rw [kept], agree.1.symm⟩

end CodeExecution

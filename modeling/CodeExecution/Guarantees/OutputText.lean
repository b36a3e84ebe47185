import CodeExecution.Proofs.MemoryReports

/-! The text of an output, and the data events that its bytes arrive in. -/

namespace CodeExecution

/-- The mark of the wrapper's line. -/
def memoryToken : List Char := "___MEM_PEAK___".toList

/-- The slices of one output, as data events. -/
def dataEvents (stream : OutputStream) (slices : List (List UInt8)) : List OutputEvent :=
  slices.map (OutputEvent.mk stream)

/-- A text is returned and published as it is. -/
def Delivered (stream : OutputStream) (text : List Char) (state : SandboxOutput) : Prop :=
  state.accumulator stream = text ∧ state.publishedOn stream = Utf16.encode text

/-- A text without the token has no marker. -/
theorem not_marker_of_token {text : List Char} (absent : ¬ memoryToken <:+: text) : ¬ memoryMarker <:+: text :=
  fun inside => absent (List.IsInfix.trans ⟨[], [':'], by decide⟩ inside)

/-- The marker is ASCII text. -/
theorem marker_ascii : ∀ character ∈ memoryMarker, Utf8.IsAscii character :=
  Utf8.ascii_of_all (by decide)

/-- A slice of bytes without the marker has no report. -/
theorem findReport_slice {bytes slice : List UInt8} (absent : ¬ Utf8.encode memoryMarker <:+: bytes)
    (inside : slice <:+: bytes) : findReport (Utf8.decode slice) = none := by
  -- ASCII text is inside a decoding only if its bytes are inside the slice.
  refine findReport_eq_none fun marked => absent ?_
  exact ((Utf8.ascii_infix_iff marker_ascii (by decide) slice).mp marked).trans inside

/-- All slices of one output are shown on it. -/
theorem shownOn_dataEvents (stream : OutputStream) (slices : List (List UInt8)) :
    shownOn stream (dataEvents stream slices) =
      slices.flatMap fun slice => removeReport (Utf8.decode slice) := by
  -- No event is on the other output.
  have all : (dataEvents stream slices).filter (fun event => event.stream = stream) =
      dataEvents stream slices := by
    rw [List.filter_eq_self]
    intro event inside
    obtain ⟨slice, -, rfl⟩ := List.mem_map.mp inside
    exact decide_eq_true rfl
  rw [shownOn, all, dataEvents, List.flatMap_map]
  rfl

/-- A short output stays within the stream limit, however it is cut. -/
theorem shownBytes_dataEvents_le (stream : OutputStream) (slices : List (List UInt8)) :
    shownBytes (dataEvents stream slices) ≤ 3 * slices.flatten.length := by
  -- The induction is on the slices, each of which shows at most three bytes for one.
  induction slices with
  | nil => exact le_refl _
  | cons slice rest ih =>
    have here := byteLength_shown_le ⟨stream, slice⟩
    have both : shownBytes (dataEvents stream (slice :: rest)) =
        byteLength (OutputEvent.shown ⟨stream, slice⟩) + shownBytes (dataEvents stream rest) := List.sum_cons
    rw [both, List.flatten_cons, List.length_append]
    dsimp only at here
    omega

/--
A text without the token is delivered just if every data event ends between two characters.

The text fits into the persisted part, and with it into the stream limit.
-/
theorem delivered_iff (stream : OutputStream) (text : List Char) (slices : List (List UInt8))
    (whole : slices.flatten = Utf8.encode text) (token : ¬ memoryToken <:+: text)
    (fits : byteLength text ≤ maxResultOutputBytes) :
    Delivered stream text (sandboxOutput (dataEvents stream slices)) ↔
      ∀ slice ∈ slices, ∃ part, slice = Utf8.encode part := by
  -- Without a marker and within the limits, only the decoding of the slices matters.
  have absent : ¬ Utf8.encode memoryMarker <:+: slices.flatten := by
    rw [whole, ← Utf8.ascii_infix_iff marker_ascii (by decide), Utf8.decode_encode]
    exact not_marker_of_token token
  have shown : shownOn stream (dataEvents stream slices) = slices.flatMap Utf8.decode := by
    rw [shownOn_dataEvents]
    refine List.flatMap_congr fun slice inside => removeReport_eq_none ?_
    exact findReport_slice absent (List.infix_of_mem_flatten inside)
  have within : shownBytes (dataEvents stream slices) ≤ maxStreamOutputBytes := by
    have bound := shownBytes_dataEvents_le stream slices
    rw [whole] at bound
    unfold byteLength maxResultOutputBytes at fits
    unfold maxStreamOutputBytes
    omega
  rw [← Utf8.slices_iff whole, sandboxOutput_within within, Delivered, publishedOn_accepting, shown]
  constructor
  · intro delivered
    exact Utf16.encode_injective delivered.2
  · intro same
    refine ⟨?_, by rw [same]⟩
    rw [← persisted_of_le fits]
    cases stream <;> simp only [accepting, SandboxOutput.accumulator, shown, same]

/-- A letter and an accented one in two events are delivered. -/
theorem delivered_iff_example :
    Delivered .stdout ['h', 'é'] (sandboxOutput (dataEvents .stdout [[0x68], [0xC3, 0xA9]])) := by
  refine (delivered_iff .stdout ['h', 'é'] [[0x68], [0xC3, 0xA9]] (by decide) (by decide)
    (by decide)).mpr fun slice inside => ?_
  rcases List.mem_cons.mp inside with rfl | inside
  · exact ⟨['h'], by decide⟩
  · obtain rfl := List.mem_singleton.mp inside
    exact ⟨['é'], by decide⟩

/-- An accented letter whose two bytes arrive in two events is not. -/
theorem not_delivered :
    [[0xC3], [0xA9]].flatten = Utf8.encode ['é'] ∧ ¬ memoryToken <:+: ['é'] ∧
      byteLength ['é'] ≤ maxResultOutputBytes ∧
        (sandboxOutput (dataEvents .stdout [[0xC3], [0xA9]])).stdout = [Utf8.replacement, Utf8.replacement] ∧
          ¬ Delivered .stdout ['é'] (sandboxOutput (dataEvents .stdout [[0xC3], [0xA9]])) := by
  -- Neither byte is a character by itself.
  have replaced : (sandboxOutput (dataEvents .stdout [[0xC3], [0xA9]])).stdout =
      [Utf8.replacement, Utf8.replacement] := by
    decide +kernel
  refine ⟨by decide, by decide, by decide, replaced, fun delivered => ?_⟩
  exact absurd (replaced.symm.trans delivered.1) (by decide)

end CodeExecution

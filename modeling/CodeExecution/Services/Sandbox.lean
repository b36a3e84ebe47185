import CodeExecution.Library.Binary64
import CodeExecution.Library.Utf16
import CodeExecution.Library.Utf8
import CodeExecution.Services.Broadcast

/-! The inside of `runInSandbox`: what becomes of the bytes that a program prints. -/

namespace CodeExecution

/-- `MAX_RESULT_OUTPUT_BYTES`, the persisted part of each output. -/
def maxResultOutputBytes : Nat := 64 * 1024

/-- `MAX_STREAM_OUTPUT_BYTES`, for both outputs together. -/
def maxStreamOutputBytes : Nat := 1024 * 1024

/-- `MAX_STREAM_CHUNK_BYTES`. -/
def maxStreamChunkBytes : Nat := 16 * 1024

/-- `byteLength` of a text without lone surrogates. -/
def byteLength (text : List Char) : Nat := (Utf8.encode text).length

/-! ## Memory reports -/

/-- The marker that the runner prints in front of the peak memory. -/
def memoryMarker : List Char := "___MEM_PEAK___:".toList

/-- What `\s` matches. -/
def isSpace (character : Char) : Bool :=
  character.toNat ∈ [0x09, 0x0A, 0x0B, 0x0C, 0x0D, 0x20, 0xA0, 0x1680, 0x2028, 0x2029, 0x202F, 0x205F,
    0x3000, 0xFEFF] ∨ (0x2000 ≤ character.toNat ∧ character.toNat ≤ 0x200A)

/-- A memory report inside a text. -/
structure MemoryReport where
  before : List Char
  digits : List Char
  after : List Char
  deriving DecidableEq, Repr

/-- `/___MEM_PEAK___:\s*(\d+)/` at the beginning of a text: the digits, and what follows them. -/
def matchReport (text : List Char) : Option (List Char × List Char) :=
  match memoryMarker.isPrefixOf? text with
  | some rest =>
    -- No character is both a space and a digit, so there is nothing to backtrack to.
    let number := rest.dropWhile isSpace
    if number.takeWhile Char.isDigit = [] then none
    else some (number.takeWhile Char.isDigit, number.dropWhile Char.isDigit)
  | none => none

/-- The leftmost memory report. -/
def findReport : List Char → Option MemoryReport
  | [] => none
  | character :: rest =>
    match matchReport (character :: rest) with
    | some (digits, after) => some ⟨[], digits, after⟩
    | none =>
      (findReport rest).map fun report => { report with before := character :: report.before }

/-- A text behind `\r?\n?`. -/
def dropLineEnd : List Char → List Char
  | '\r' :: '\n' :: rest => rest
  | '\r' :: rest => rest
  | '\n' :: rest => rest
  | text => text

/-- The text without its leftmost memory report. -/
def removeReport (text : List Char) : List Char :=
  match findReport text with
  | some report => report.before ++ dropLineEnd report.after
  | none => text

/-- `parseInt` of decimal digits. -/
def parseInt (digits : List Char) : Binary64.Rounded :=
  Binary64.round (Nat.ofDigitChars 10 digits 0)

/-- The line that `runner-wrapper.sh` prints behind the output of a program. -/
def memoryLine (peakMem : Nat) : List Char :=
  "___MEM_PEAK___: ".toList ++ Nat.toDigits 10 peakMem ++ ['\n']

/-! ## Caps and chunks -/

/-- What `appendWithinCap` returns. -/
structure Capped where
  value : List Char
  truncated : Bool
  deriving DecidableEq, Repr

/-- Append a text as far as the persisted part has room. -/
def appendWithinCap (current next : List Char) : Capped :=
  if maxResultOutputBytes ≤ byteLength current then ⟨current, next ≠ []⟩
  else
    let remaining := maxResultOutputBytes - byteLength current
    if byteLength next ≤ remaining then ⟨current ++ next, false⟩
    -- The cut may fall inside a character.
    else ⟨current ++ Utf8.decode ((Utf8.encode next).take remaining), true⟩

/-- The inner loop of `splitForStream`: shrink the slice until it fits, or until one unit is left. -/
def shrinkSlice (remaining : List UInt16) (length : Nat) : Nat :=
  if 1 < length ∧ maxStreamChunkBytes < Utf16.byteLength (remaining.take length) then
    shrinkSlice remaining (length * 9 / 10)
  else length
termination_by length

/-- A slice that is not empty stays so. -/
theorem shrinkSlice_pos (remaining : List UInt16) (length : Nat) (some : 0 < length) :
    0 < shrinkSlice remaining length := by
  -- Nine tenths of two or more units are one unit or more.
  induction length using Nat.strongRecOn with
  | ind length ih =>
    rw [shrinkSlice]
    split
    · exact ih _ (by omega) (by omega)
    · exact some

/-- The outer loop of `splitForStream`. -/
def splitRemaining (remaining : List UInt16) : List (List UInt16) :=
  if remaining = [] then []
  else
    let length := shrinkSlice remaining (min remaining.length maxStreamChunkBytes)
    remaining.take length :: splitRemaining (remaining.drop length)
termination_by remaining.length
decreasing_by
  rename_i some
  have units : 0 < remaining.length := List.length_pos_iff.mpr some
  have slice := shrinkSlice_pos remaining (min remaining.length maxStreamChunkBytes)
    (lt_min units (by decide))
  simp only [List.length_drop]
  omega

/-- The chunks in which a text is published. -/
def splitForStream (text : List UInt16) : List (List UInt16) :=
  if Utf16.byteLength text ≤ maxStreamChunkBytes then [text] else splitRemaining text

/-! ## Data events -/

/-- The two outputs of a program. -/
inductive OutputStream where
  | stdout
  | stderr
  deriving DecidableEq, Repr

/-- The type of the chunks of an output. -/
def OutputStream.chunkType : OutputStream → ChunkType
  | .stdout => .stdout
  | .stderr => .stderr

/-- One `data` event of an output pipe. -/
structure OutputEvent where
  stream : OutputStream
  data : List UInt8
  deriving DecidableEq, Repr

/-- The variables of one `runInSandbox` call that its output handlers write. -/
structure SandboxOutput where
  stdout : List Char
  stderr : List Char
  totalStreamBytes : Nat
  outputTruncated : Bool
  streamOutputLimitExceeded : Bool
  memoryUsedBytes : Option Binary64.Rounded
  /-- The calls of `publishChunk`, in their order. -/
  published : List (ChunkType × List UInt16)
  /-- How often the container was killed for its output. -/
  kills : Nat
  deriving DecidableEq, Repr

namespace SandboxOutput

/-- Nothing has been printed. -/
def initial : SandboxOutput where
  stdout := []
  stderr := []
  totalStreamBytes := 0
  outputTruncated := false
  streamOutputLimitExceeded := false
  memoryUsedBytes := none
  published := []
  kills := 0

/-- The accumulator of an output. -/
def accumulator (state : SandboxOutput) : OutputStream → List Char
  | .stdout => state.stdout
  | .stderr => state.stderr

/-- Assign the accumulator of an output. -/
def assign (state : SandboxOutput) (stream : OutputStream) (value : List Char) : SandboxOutput :=
  match stream with
  | .stdout => { state with stdout := value }
  | .stderr => { state with stderr := value }

/-- The part of `handleOutput` that keeps the memory report of a text. -/
def noteReport (state : SandboxOutput) (text : List Char) : SandboxOutput :=
  -- Each report takes the place of the one before.
  match findReport text with
  | some report => { state with memoryUsedBytes := some (parseInt report.digits) }
  | none => state

/-- The part of `handleOutput` that refuses a text beyond the limit, and kills the container. -/
def exceedLimit (state : SandboxOutput) : SandboxOutput :=
  -- The text itself is neither published nor kept.
  { state with
    streamOutputLimitExceeded := true
    published := state.published ++ [(.system, Utf16.encode outputLimitMessage.toList)]
    kills := state.kills + 1 }

/-- The part of `handleOutput` that publishes a text and appends it to its accumulator. -/
def accept (state : SandboxOutput) (stream : OutputStream) (text : List Char) : SandboxOutput :=
  -- The whole text is published, also where the persisted part has no room for it.
  let capped := appendWithinCap (state.accumulator stream) text
  { state.assign stream capped.value with
    totalStreamBytes := state.totalStreamBytes + byteLength text
    published := state.published ++
      (splitForStream (Utf16.encode text)).map fun chunk => (stream.chunkType, chunk)
    outputTruncated := state.outputTruncated || capped.truncated }

/-- `handleOutput`, with the assignment of its result. -/
def handleOutput (state : SandboxOutput) (event : OutputEvent) : SandboxOutput :=
  if state.streamOutputLimitExceeded then state
  else
    let text := Utf8.decode event.data
    let shown := removeReport text
    let noted := state.noteReport text
    if shown = [] then noted
    else if maxStreamOutputBytes < noted.totalStreamBytes + byteLength shown then noted.exceedLimit
    else noted.accept event.stream shown

end SandboxOutput

/-- The output of a program when its sandbox has closed. -/
def sandboxOutput (events : List OutputEvent) : SandboxOutput :=
  events.foldl SandboxOutput.handleOutput .initial

end CodeExecution

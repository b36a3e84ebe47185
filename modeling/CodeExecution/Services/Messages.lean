import CodeExecution.Library.IsoDate
import CodeExecution.Library.Json
import CodeExecution.Library.Utf8Slices
import CodeExecution.Recoveries
import CodeExecution.Services.Printing

/-! The texts of payloads, letters and chunks, and what the services make of texts that Redis replies with. -/

namespace CodeExecution

/-- A text as it is sent to Redis and kept there. -/
abbrev Raw := List UInt8

/-- What `JSON.stringify` returns, as it is sent. -/
def rawOf (json : Json) : Raw := Utf8.encode json.stringify

/-- `JSON.parse` of a reply. -/
def parseRaw (raw : Raw) : Option Json := Json.parse (Utf8.decode raw)

@[simp] theorem parseRaw_rawOf (json : Json) : parseRaw (rawOf json) = some json := by
  rw [parseRaw, rawOf, Utf8.decode_encode, Json.parse_stringify]

/-- Different values are sent as different texts. -/
theorem rawOf_injective : Function.Injective rawOf := by
  intro first second same
  have both := congrArg parseRaw same
  rw [parseRaw_rawOf, parseRaw_rawOf] at both
  exact Option.some.inj both

/-! ## Values -/

/-- A string value. -/
def textJson (text : String) : Json := .string (Utf16.encode text.toList)

/-- Different texts are different values. -/
theorem textJson_injective : Function.Injective textJson := fun _ _ same =>
  String.toList_injective (Utf16.encode_injective (Json.string.inj same))

/-- An instant as `toISOString` spells it. -/
def instantJson (instant : Timestamp) : Json := textJson (.ofList (IsoDate.toISOString instant))

/-- Different instants are different values. -/
theorem instantJson_injective : Function.Injective instantJson := by
  intro first second same
  have texts := congrArg String.toList (textJson_injective same)
  rw [String.toList_ofList, String.toList_ofList] at texts
  exact IsoDate.toISOString_injective texts

/-- How a language is spelled. -/
def Language.text : Language → String
  | .python => "python"
  | .javascript => "javascript"

theorem Language.text_injective : Function.Injective Language.text := by
  intro first second same
  cases first <;> cases second <;> first | rfl | exact absurd same (by decide)

/-- How the type of a chunk is spelled. -/
def ChunkType.text : ChunkType → String
  | .stdout => "stdout"
  | .stderr => "stderr"
  | .system => "system"

theorem ChunkType.text_injective : Function.Injective ChunkType.text := by
  intro first second same
  cases first <;> cases second <;> first | rfl | exact absurd same (by decide)

/-- The value of a `userId`, which may be undefined. -/
def UserIdField.json? : UserIdField → Option Json
  | .absent => none
  | .null => some .null
  | .value userId => some (.string userId)

theorem UserIdField.json?_injective : Function.Injective UserIdField.json? := by
  intro first second same
  cases first <;> cases second <;>
    simp only [json?, Option.some.injEq, reduceCtorEq, Json.string.injEq] at same
  · rfl
  · rfl
  · rw [same]

/-! ## Payloads and letters -/

/-- The fields of a payload, in the order that all services write them in. -/
def QueuePayload.fields (job : QueuePayload) : List (String × Option Json) :=
  [("jobId", some (textJson job.jobId)), ("userId", job.userId.json?), ("code", some (.string job.code)),
    ("language", some (textJson job.language.text)), ("retryCount", some (.number job.retryCount)),
    ("submittedAt", some (instantJson job.submittedAt))]

/-- A payload as an object. -/
def QueuePayload.json (job : QueuePayload) : Json := .ofFields job.fields

/-- A payload in a list of Redis. -/
def QueuePayload.raw (job : QueuePayload) : Raw := rawOf job.json

/-- A letter as an object: the fields of the payload, and two more. -/
def DLQPayload.json (letter : DLQPayload) : Json :=
  .ofFields (letter.payload.fields ++
    [("failedAt", some (instantJson letter.failedAt)), ("reason", some (textJson letter.reason))])

/-- A letter in the dead-letter list. -/
def DLQPayload.raw (letter : DLQPayload) : Raw := rawOf letter.json

/-- An element of a job list. -/
def Entry.raw : Entry → Raw
  | .payload job => job.raw
  | .malformed text => Utf8.encode text.toList

/-- `{ ...job, retryCount: job.retryCount + 1 }` of a text, as a text. -/
def requeueRaw (raw : Raw) : Option Raw :=
  (parseRaw raw).bind fun job =>
    match job.get? "retryCount" with
    | some (.number retryCount) => some (rawOf (job.assign "retryCount" (.number (retryCount + 1))))
    | _ => none

/-- The letter that `sendToDLQ` makes of a text, as a text. -/
def letterRaw (raw : Raw) (failedAt : Timestamp) (reason : String) : Option Raw :=
  (parseRaw raw).map fun job => rawOf (.ofFields
    [("jobId", job.get? "jobId"), ("userId", job.get? "userId"), ("code", job.get? "code"),
      ("language", job.get? "language"), ("retryCount", job.get? "retryCount"),
      ("submittedAt", job.get? "submittedAt"), ("failedAt", some (instantJson failedAt)),
      ("reason", some (textJson reason))])

/-! ## Chunks -/

/-- A chunk as an object, whose data may be any sequence of code units. -/
def chunkJson (entry : StreamEntry) (timestamp : Timestamp) : Json :=
  .ofFields [("type", some (textJson entry.1.text)), ("data", some (.string entry.2)),
    ("timestamp", some (.number timestamp))]

/-- A chunk in a stream, and on the channel of its job. -/
def chunkRaw (entry : StreamEntry) (timestamp : Timestamp) : Raw := rawOf (chunkJson entry timestamp)

/-- `json[name] === text`. -/
def fieldIs (json : Json) (name text : String) : Bool :=
  match json.get? name with
  | some (.string units) => units = Utf16.encode text.toList
  | _ => false

/-- `isCompletionPayload`. -/
def isCompletionPayload (raw : Raw) : Bool :=
  match parseRaw raw with
  | some chunk => fieldIs chunk "type" "system" && fieldIs chunk "data" "EXECUTION_COMPLETE"
  -- Text that is no JSON is no completion.
  | none => false

/-! ## What is read from these texts -/

/-- The fields of a payload have different names, and so have those of a letter. -/
theorem QueuePayload.fields_distinct (job : QueuePayload) :
    ((job.fields ++ [("failedAt", none), ("reason", none)]).map Prod.fst).Nodup := by
  show ["jobId", "userId", "code", "language", "retryCount", "submittedAt", "failedAt", "reason"].Nodup
  decide

/-- A field of a payload is read back. -/
theorem QueuePayload.get?_json (job : QueuePayload) (name : String) :
    job.json.get? name = (job.fields.find? fun field => field.1 = name).bind Prod.snd := by
  refine Json.get?_ofFields ?_ name
  have distinct := job.fields_distinct
  rw [List.map_append] at distinct
  exact distinct.of_append_left

/-- So is a field of a letter. -/
theorem DLQPayload.get?_json (letter : DLQPayload) (name : String) :
    letter.json.get? name = ((letter.payload.fields ++ [("failedAt", some (instantJson letter.failedAt)),
      ("reason", some (textJson letter.reason))]).find? fun field => field.1 = name).bind Prod.snd := by
  refine Json.get?_ofFields ?_ name
  have distinct := letter.payload.fields_distinct
  rw [List.map_append] at distinct ⊢
  exact distinct

/-- Payloads are the same if the same is read of them, also with more fields behind theirs. -/
theorem QueuePayload.eq_of_read {first second : QueuePayload} {more more' : List (String × Option Json)}
    (read : ∀ name, ((first.fields ++ more).find? fun field => field.1 = name).bind Prod.snd =
      ((second.fields ++ more').find? fun field => field.1 = name).bind Prod.snd) : first = second := by
  -- Each field is found under its own name.
  have jobId : textJson first.jobId = textJson second.jobId := by simpa [fields] using read "jobId"
  have userId : first.userId.json? = second.userId.json? := by simpa [fields] using read "userId"
  have code : first.code = second.code := by simpa [fields] using read "code"
  have language : textJson first.language.text = textJson second.language.text := by
    simpa [fields] using read "language"
  have retryCount : first.retryCount = second.retryCount := by simpa [fields] using read "retryCount"
  have submittedAt : instantJson first.submittedAt = instantJson second.submittedAt := by
    simpa [fields] using read "submittedAt"
  rw [QueuePayload.mk.injEq]
  exact ⟨textJson_injective jobId, UserIdField.json?_injective userId, code,
    Language.text_injective (textJson_injective language), retryCount,
    instantJson_injective submittedAt⟩

/-- Different payloads have different texts. -/
theorem QueuePayload.raw_injective : Function.Injective QueuePayload.raw := by
  intro first second same
  refine @QueuePayload.eq_of_read first second [] [] fun name => ?_
  rw [List.append_nil, List.append_nil, ← first.get?_json, ← second.get?_json, rawOf_injective same]

/-- Different letters have different texts. -/
theorem DLQPayload.raw_injective : Function.Injective DLQPayload.raw := by
  intro first second same
  -- Equal texts parse to the same object, which is read field by field.
  have read : ∀ name, first.json.get? name = second.json.get? name := by
    intro name
    rw [rawOf_injective same]
  simp only [DLQPayload.get?_json] at read
  have payloads : first.payload = second.payload := QueuePayload.eq_of_read read
  have failedAt : instantJson first.failedAt = instantJson second.failedAt := by
    simpa [QueuePayload.fields] using read "failedAt"
  have reason : textJson first.reason = textJson second.reason := by
    simpa [QueuePayload.fields] using read "reason"
  rw [QueuePayload.mk.injEq] at payloads
  obtain ⟨jobId, userId, code, language, retryCount, submittedAt⟩ := payloads
  rw [DLQPayload.mk.injEq]
  exact ⟨jobId, userId, code, language, retryCount, submittedAt, instantJson_injective failedAt,
    textJson_injective reason⟩

/-- What a requeue makes of a payload's text is the text of the next payload. -/
@[simp] theorem requeueRaw_raw (job : QueuePayload) :
    requeueRaw job.raw = some (job.withRetry (job.retryCount + 1)).raw := by
  have count : job.json.get? "retryCount" = some (.number job.retryCount) := by
    rw [job.get?_json]
    rfl
  rw [requeueRaw, QueuePayload.raw, parseRaw_rawOf, Option.bind_some, count]
  -- The count keeps its place between the language and the time.
  have assigned := @Json.assign_ofFields (job.fields.take 4) (job.fields.drop 5) "retryCount"
    (by simp [QueuePayload.fields]) (by simp [QueuePayload.fields])
    (.number job.retryCount) (.number (job.retryCount + 1))
  exact congrArg (fun json => some (rawOf json)) assigned

/-- What `sendToDLQ` makes of a payload's text is the text of the letter. -/
@[simp] theorem letterRaw_raw (letter : DLQPayload) :
    letterRaw letter.payload.raw letter.failedAt letter.reason = some letter.raw := by
  rw [letterRaw, QueuePayload.raw, parseRaw_rawOf, Option.map_some]
  simp only [QueuePayload.get?_json]
  rfl

/-- A chunk is recognised by what it is, and not by how its data may look like a marker. -/
theorem isCompletionPayload_chunkRaw (entry : StreamEntry) (timestamp : Timestamp) :
    isCompletionPayload (chunkRaw entry timestamp) = true ↔
      entry = (.system, Utf16.encode "EXECUTION_COMPLETE".toList) := by
  obtain ⟨type, data⟩ := entry
  -- The names of the fields differ, so each field is read as it was written.
  have distinct : (List.map Prod.fst [("type", some (textJson type.text)), ("data", some (.string data)),
      ("timestamp", some (Json.number timestamp))]).Nodup := by
    show ["type", "data", "timestamp"].Nodup
    decide
  have read : ∀ name, (chunkJson (type, data) timestamp).get? name =
      ([("type", some (textJson type.text)), ("data", some (.string data)),
        ("timestamp", some (.number timestamp))].find? fun field => field.1 = name).bind Prod.snd :=
    fun name => Json.get?_ofFields distinct name
  have ofType : (chunkJson (type, data) timestamp).get? "type" = some (textJson type.text) := by
    rw [read]
    rfl
  have ofData : (chunkJson (type, data) timestamp).get? "data" = some (.string data) := by
    rw [read]
    rfl
  have typed : Utf16.encode type.text.toList = Utf16.encode "system".toList ↔ type = .system := by
    rw [Json.encode_name_inj]
    exact ⟨fun same => ChunkType.text_injective same, fun same => by rw [same]; rfl⟩
  simp only [isCompletionPayload, chunkRaw, parseRaw_rawOf, fieldIs, ofType, ofData, textJson,
    Bool.and_eq_true, decide_eq_true_eq, typed, Prod.mk.injEq]

end CodeExecution

import CodeExecution.Library.Utf16
import CodeExecution.Store

/-! The `POST /submissions` handler of the API gateway, one awaited call at a time. -/

namespace CodeExecution

/-- Where one handler stands; each point but the first and the last two is its next awaited call. -/
inductive PostPoint where
  /-- No request with this job id has been received. -/
  | idle
  /-- `INSERT INTO submissions`. -/
  | insert (payload : QueuePayload)
  /-- `LPUSH jobs:queue:pending`. -/
  | enqueue (payload : QueuePayload)
  /-- `LLEN jobs:queue:pending`. -/
  | depth (payload : QueuePayload)
  /-- The catch block's `UPDATE submissions SET status = FAILED`. -/
  | markFailed (payload : QueuePayload)
  /-- The catch block's `INSERT INTO submission_results`. -/
  | insertFailure (payload : QueuePayload)
  /-- The reply has been sent. -/
  | answered (code : Nat)
  /-- The gateway process died. -/
  | crashed
  deriving DecidableEq, Repr

/-- `userId ?? null`, the parameter for the `user_id` column. -/
def UserIdField.toColumn : UserIdField → Option ClientText
  -- Both absent and null user ids are stored as NULL.
  | .absent | .null => none
  | .value userId => some userId

/-- The optional `userId` of the request body, as `JSON.stringify` will spell it. -/
def UserIdField.ofRequest : Option ClientText → UserIdField
  -- `JSON.stringify` drops an undefined field.
  | none => .absent
  | some userId => .value userId

/-- A validated request under a fresh job id. -/
def receivePost (jobId : JobId) (code : ClientText) (language : Language)
    (userId : Option ClientText) (now : Timestamp) : PostPoint :=
  .insert { jobId, userId := .ofRequest userId, code, language, retryCount := 0, submittedAt := now }

/-- The row the handler inserts for its payload. -/
def submissionRow (payload : QueuePayload) : SubmissionRow where
  id := payload.jobId
  -- The driver sends both texts in UTF-8, which cannot encode a lone surrogate.
  userId := payload.userId.toColumn.map Utf16.toWellFormed
  language := payload.language
  sourceCode := Utf16.toWellFormed payload.code
  status := .pending
  retryCount := 0
  createdAt := payload.submittedAt
  updatedAt := payload.submittedAt

/-- The result row the handler writes when it could not enqueue. -/
def enqueueFailureResult (jobId : JobId) : ResultRow where
  jobId := jobId
  exitCode := none
  stdout := ""
  stderr := ""
  errorMessage := some "Infrastructure error: failed to enqueue submission"
  errorCategory := some .unknown
  executionTimeMs := none
  memoryUsedBytes := none
  outputTruncated := false
  streamOutputLimitExceeded := false

/-- The handler's next call when it resolves. -/
def PostPoint.resolve (store : Store) : PostPoint → Option (PostPoint × Store)
  | .insert payload =>
    -- The primary key rejects a second row for the same job.
    if store.hasSubmission payload.jobId then none
    else some (.enqueue payload, store.insertSubmission (submissionRow payload))
  | .enqueue payload => some (.depth payload, store.pushPending (.payload payload))
  | .depth _ => some (.answered 201, store)
  | .markFailed payload =>
    some (.insertFailure payload, store.setStatus payload.jobId .failed)
  | .insertFailure payload =>
    if store.hasSubmission payload.jobId then
      some (.answered 503, store.upsertResult (enqueueFailureResult payload.jobId) fun row =>
        { row with
          errorMessage := (enqueueFailureResult payload.jobId).errorMessage
          errorCategory := (enqueueFailureResult payload.jobId).errorCategory })
    else none
  | .idle | .answered _ | .crashed => none

/-- Where the handler goes on when its next call rejects. -/
def PostPoint.handler : PostPoint → Option PostPoint
  -- One try block covers both the push and the depth read.
  | .enqueue payload | .depth payload => some (.markFailed payload)
  | .insert _ | .markFailed _ | .insertFailure _ => some (.answered 500)
  | .idle | .answered _ | .crashed => none

/-- What a call of a handler can lead to: the point behind it, and the store after it. -/
inductive PostPoint.Resolved (store : Store) : PostPoint → PostPoint → Store → Prop
  /-- The primary key is free. -/
  | insert {payload : QueuePayload} (free : store.hasSubmission payload.jobId = false) :
      Resolved store (.insert payload) (.enqueue payload)
        (store.insertSubmission (submissionRow payload))
  | enqueue {payload : QueuePayload} :
      Resolved store (.enqueue payload) (.depth payload) (store.pushPending (.payload payload))
  | depth {payload : QueuePayload} : Resolved store (.depth payload) (.answered 201) store
  | markFailed {payload : QueuePayload} :
      Resolved store (.markFailed payload) (.insertFailure payload)
        (store.setStatus payload.jobId .failed)
  /-- The foreign key has found the row. -/
  | insertFailure {payload : QueuePayload} (stored : store.hasSubmission payload.jobId = true) :
      Resolved store (.insertFailure payload) (.answered 503)
        (store.upsertResult (enqueueFailureResult payload.jobId) fun row =>
          { row with
            errorMessage := (enqueueFailureResult payload.jobId).errorMessage
            errorCategory := (enqueueFailureResult payload.jobId).errorCategory })

/-- Nothing else comes of a call that resolves. -/
theorem PostPoint.resolve_cases {point next : PostPoint} {store after : Store}
    (resolved : point.resolve store = some (next, after)) : Resolved store point next after := by
  -- The two INSERTs ask a key first, and the other calls always resolve in one way.
  cases point with
  | idle | answered _ | crashed => simp [resolve] at resolved
  | insert payload =>
    simp only [resolve] at resolved
    split at resolved
    · simp at resolved
    · next absent =>
      obtain ⟨rfl, rfl⟩ := Prod.mk.inj (Option.some.inj resolved)
      exact .insert (by simpa using absent)
  | insertFailure payload =>
    simp only [resolve] at resolved
    split at resolved
    · next stored =>
      obtain ⟨rfl, rfl⟩ := Prod.mk.inj (Option.some.inj resolved)
      exact .insertFailure stored
    · simp at resolved
  | enqueue _ | depth _ | markFailed _ =>
    obtain ⟨rfl, rfl⟩ := Prod.mk.inj (Option.some.inj resolved)
    constructor

/-- An exception leads to the compensation of the catch block, or to an answer of 500. -/
theorem PostPoint.handler_cases {point next : PostPoint} (handled : point.handler = some next) :
    (∃ payload, (point = .enqueue payload ∨ point = .depth payload) ∧ next = .markFailed payload) ∨
      next = .answered 500 := by
  -- The catch block compensates once, and its own exceptions are not caught there.
  cases point with
  | idle | answered _ | crashed => simp [handler] at handled
  | enqueue payload =>
    obtain rfl := Option.some.inj handled
    exact .inl ⟨payload, .inl rfl, rfl⟩
  | depth payload =>
    obtain rfl := Option.some.inj handled
    exact .inl ⟨payload, .inr rfl, rfl⟩
  | insert _ | markFailed _ | insertFailure _ =>
    obtain rfl := Option.some.inj handled
    exact .inr rfl

/-- A call of a handler resolves, or its exception leads there. -/
theorem PostPoint.call_cases {point next : PostPoint} {store after : Store} {outcome : CallOutcome}
    (went : awaitCall outcome (point.resolve store) point.handler store = some (next, after)) :
    (outcome = .resolves ∧ Resolved store point next after) ∨
    (∃ payload, (point = .enqueue payload ∨ point = .depth payload) ∧
      next = .markFailed payload) ∨ next = .answered 500 := by
  -- The exception is the same whether or not the call has taken effect.
  rcases awaitCall_cases went with ⟨rfl, resolved⟩ | ⟨_, _, handled, same⟩ | ⟨_, _, _, _, handled, same⟩
  · exact .inl ⟨rfl, resolve_cases resolved⟩
  · obtain ⟨rfl, _⟩ := Prod.mk.inj same
    exact .inr (handler_cases handled)
  · obtain ⟨rfl, _⟩ := Prod.mk.inj same
    exact .inr (handler_cases handled)

end CodeExecution

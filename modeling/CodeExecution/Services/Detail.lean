import CodeExecution.Store
import CodeExecution.Web.Submission

/-! The handler of `GET /submissions/:id`: a submission with its result, read by one query. -/

namespace CodeExecution

/-- The reply for a row of the join, where all columns of a result are null while there is none. -/
def submissionDetail (row : SubmissionRow) (result : Option ResultRow) : SubmissionDetail where
  jobId := row.id
  userId := row.userId
  language := row.language
  sourceCode := row.sourceCode
  status := row.status
  retryCount := row.retryCount
  exitCode := result.bind ResultRow.exitCode
  stdout := result.map ResultRow.stdout
  stderr := result.map ResultRow.stderr
  errorMessage := result.bind ResultRow.errorMessage
  errorCategory := result.bind ResultRow.errorCategory
  executionTimeMs := result.bind ResultRow.executionTimeMs
  memoryUsedBytes := result.bind ResultRow.memoryUsedBytes
  -- The two flags are false by default.
  outputTruncated := (result.map ResultRow.outputTruncated).getD false
  streamOutputLimitExceeded := (result.map ResultRow.streamOutputLimitExceeded).getD false
  createdAt := row.createdAt
  updatedAt := row.updatedAt

/-- The error of the handler, sent with code 404. -/
def submissionNotFound : String := "Submission not found"

/-- The handler, whose `LEFT JOIN` keeps a submission without a result. -/
def getSubmission (store : Store) (id : JobId) : Except String SubmissionDetail :=
  match store.submissions.lookup id with
  | none => .error submissionNotFound
  | some row => .ok (submissionDetail row (store.results.lookup id))

/-- What is replied depends on the two rows of the job alone. -/
theorem getSubmission_congr {before after : Store} {id : JobId}
    (row : after.submissions.lookup id = before.submissions.lookup id)
    (result : after.results.lookup id = before.results.lookup id) :
    getSubmission after id = getSubmission before id := by
  rw [getSubmission, getSubmission, row, result]

/-- A reply is made of the row of its job. -/
theorem getSubmission_ok {store : Store} {id : JobId} {detail : SubmissionDetail}
    (read : getSubmission store id = .ok detail) : ∃ row, store.submissions.lookup id = some row ∧
      detail = submissionDetail row (store.results.lookup id) := by
  unfold getSubmission at read
  split at read
  · simp at read
  · next row found => exact ⟨row, found, (Except.ok.inj read).symm⟩

end CodeExecution

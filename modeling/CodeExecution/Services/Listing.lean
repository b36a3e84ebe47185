import CodeExecution.Library.Pages
import CodeExecution.Store

/-! The listing handlers of the API gateway: `GET /submissions` and `GET /dlq`. -/

namespace CodeExecution

/-- `Number.MAX_SAFE_INTEGER`. -/
def maxSafeInteger : Nat := 2 ^ 53 - 1

/-- `parsePositiveInteger` of a value that the schema has let through, which is an integer or missing. -/
def parsePositiveInteger (value : Option Int) (fallback max : Nat) : Option Nat :=
  match value with
  | none => some fallback
  | some parsed => if parsed < 1 ∨ (max : Int) < parsed then none else some parsed.toNat

/-- The error of both handlers, sent with code 400. -/
def invalidPagination : String := "Invalid pagination parameters"

/-- `Math.ceil(total / limit)`; no table has so many rows that the division would round. -/
def totalPages (total limit : Nat) : Nat := Pages.pageCount limit total

/-! ## Submissions -/

/-- The query parameters of `GET /submissions`. -/
structure ListQuery where
  page : Option Int
  limit : Option Int
  status : Option SubmissionStatus
  deriving DecidableEq, Repr

/-- One submission as the listing shows it. -/
structure ListedSubmission where
  jobId : JobId
  userId : Option ClientText
  language : Language
  status : SubmissionStatus
  retryCount : Nat
  createdAt : Timestamp
  updatedAt : Timestamp
  deriving DecidableEq, Repr

/-- The reply to a valid query. -/
structure SubmissionsReply where
  total : Nat
  page : Nat
  limit : Nat
  totalPages : Nat
  submissions : List ListedSubmission
  deriving DecidableEq, Repr

/-- The columns that are selected of a row. -/
def listedSubmission (row : SubmissionRow) : ListedSubmission where
  jobId := row.id
  userId := row.userId
  language := row.language
  status := row.status
  retryCount := row.retryCount
  createdAt := row.createdAt
  updatedAt := row.updatedAt

/-- The optional WHERE clause. -/
def statusFilter (status : Option SubmissionStatus) (row : SubmissionRow) : Bool :=
  status.all fun wanted => row.status = wanted

/-- The rows that a listing is about. -/
def Store.matching (store : Store) (status : Option SubmissionStatus) : List SubmissionRow :=
  store.submissions.select (statusFilter status)

/-- The orders that `ORDER BY s.created_at DESC` leaves to Postgres: ties are free. -/
def Store.newestFirst (store : Store) (status : Option SubmissionStatus) (rows : List SubmissionRow) :
    Prop :=
  Pages.Sorted SubmissionRow.createdAt (store.matching status) rows

/-- The handler, where Postgres has put the matching rows into this order. -/
def listSubmissions (store : Store) (query : ListQuery) (rows : List SubmissionRow) :
    Except String SubmissionsReply :=
  match parsePositiveInteger query.page 1 maxSafeInteger, parsePositiveInteger query.limit 10 100 with
  | some safePage, some safeLimit =>
    -- One query counts the rows, and another one selects the page.
    let offset := (safePage - 1) * safeLimit
    let total := (store.matching query.status).length
    .ok {
      total
      page := safePage
      limit := safeLimit
      totalPages := totalPages total safeLimit
      submissions := ((rows.drop offset).take safeLimit).map listedSubmission }
  | _, _ => .error invalidPagination

/-! ## Dead letters -/

/-- The reply to a valid query of `GET /dlq`. -/
structure LettersReply where
  total : Nat
  page : Nat
  limit : Nat
  totalPages : Nat
  items : List DLQPayload
  deriving DecidableEq, Repr

/-- `LRANGE` between two positions, of which the second one is included. -/
def lrange {α : Type*} (list : List α) (start stop : Nat) : List α :=
  (list.drop start).take (stop + 1 - start)

/-- The handler; the elements of the list are the letters of `sendToDLQ`, so all of them can be parsed. -/
def listDeadLetters (store : Store) (page limit : Option Int) : Except String LettersReply :=
  match parsePositiveInteger page 1 maxSafeInteger, parsePositiveInteger limit 20 100 with
  | some page, some limit =>
    let start := (page - 1) * limit
    -- The second position is included, so the page ends one before it.
    let stop := start + limit - 1
    .ok {
      total := store.deadLetter.length
      page
      limit
      totalPages := totalPages store.deadLetter.length limit
      items := lrange store.deadLetter start stop }
  | _, _ => .error invalidPagination

end CodeExecution

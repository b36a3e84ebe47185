import CodeExecution.Library.Machine
import CodeExecution.Contracts
import Mathlib.Logic.Function.Basic
import Mathlib.Data.List.Basic

/-! The `useSubmission` hook of the web client, with the socket that `openJobStream` opens for a job. -/

namespace CodeExecution

/-! ## Data -/

/-- `UiStatus`, the status that the client shows. -/
inductive UiStatus where
  | idle
  | submitting
  | submitError
  | job (status : SubmissionStatus)
  deriving DecidableEq, Repr

/-- The status is PENDING or RUNNING. -/
def UiStatus.isLive : UiStatus → Bool
  | .job status => !status.isTerminal
  | .idle | .submitting | .submitError => false

/-- `isTerminalStatus` of a shown status. -/
def UiStatus.isTerminal : UiStatus → Bool
  | .job status => status.isTerminal
  | .idle | .submitting | .submitError => false

/-- `isBusy`, which disables the run button. -/
def UiStatus.isBusy : UiStatus → Bool
  | .submitting => true
  | status => status.isLive

/-- One line of the output panel. -/
structure OutputLine where
  type : ChunkType
  data : String
  deriving DecidableEq, Repr

/-- The body of `POST /submissions`. -/
structure SubmitRequest where
  code : ClientText
  language : Language
  deriving DecidableEq, Repr

/-- The reply of `GET /submissions/:id`. -/
structure SubmissionDetail where
  jobId : JobId
  userId : Option ClientText
  language : Language
  sourceCode : ClientText
  status : SubmissionStatus
  retryCount : Nat
  exitCode : Option Int
  stdout : Option String
  stderr : Option String
  errorMessage : Option String
  errorCategory : Option ErrorCategory
  executionTimeMs : Option Nat
  memoryUsedBytes : Option Nat
  outputTruncated : Bool
  streamOutputLimitExceeded : Bool
  createdAt : Timestamp
  updatedAt : Timestamp
  deriving DecidableEq, Repr

/-- The data of a `message` event. -/
inductive Frame where
  | chunk (chunk : StreamChunk)
  /-- Text that `JSON.parse` rejects; what it parses to any other value acts as a system chunk does. -/
  | malformed (text : String)
  deriving DecidableEq, Repr

/-- `readyState` of a socket. -/
inductive ReadyState where
  | connecting
  | opened
  | closing
  | closed
  deriving DecidableEq, Repr

/-- The socket is connecting or open. -/
def ReadyState.isLive : ReadyState → Bool
  | .connecting | .opened => true
  | .closing | .closed => false

/-- What one successful call of `run` has set up: a socket, a timeout, and the variables they share. -/
structure JobRun where
  socket : ReadyState
  /-- The local variable of `openJobStream`. -/
  receivedAnyMessage : Bool
  /-- The local variable of `run`. -/
  sawFirstMessage : Bool
  /-- The fallback timeout has neither fired nor been cleared. -/
  timeoutPending : Bool
  deriving DecidableEq, Repr

/-- The two callers of `getSubmission`. -/
inductive FetchCaller where
  | finalize
  | poll
  deriving DecidableEq, Repr

/-- A call of `getSubmission` that has not settled. -/
structure Fetch where
  jobId : JobId
  caller : FetchCaller
  /-- What the server has read for it. -/
  reply : Option SubmissionDetail
  deriving DecidableEq, Repr

/-- The state of the hook, everything it waits for, and the statuses on the server. -/
structure SubmissionHook where
  status : UiStatus
  jobId : Option JobId
  output : List OutputLine
  result : Option SubmissionDetail
  submitError : Option String
  /-- The job whose socket the function in the ref closes. -/
  closeStreamRef : Option JobId
  /-- The job whose timeout is in the ref, pending or not. -/
  fallbackTimerRef : Option JobId
  /-- The job that the running interval polls. -/
  pollIntervalRef : Option JobId
  runs : JobId → Option JobRun
  /-- The calls of `submitJob` that have not settled. -/
  posts : List SubmitRequest
  fetches : List Fetch
  /-- The status column of each job. -/
  rows : JobId → SubmissionStatus

/-- One event that the hook reacts to, or one thing that happens on the server. -/
inductive HookLabel where
  | run (request : SubmitRequest)
  /-- The reply to a POST, which names a new job. -/
  | submitted (index : Nat) (jobId : JobId)
  /-- A POST rejects; what is thrown has a message if it is an `Error`. -/
  | submitFailed (index : Nat) (message : Option String)
  | opened (jobId : JobId)
  | message (jobId : JobId) (frame : Frame)
  /-- A `close` event alone. -/
  | closed (jobId : JobId)
  /-- The task of a socket that failed or dropped, which fires `error` and then `close`. -/
  | failed (jobId : JobId)
  | timeout (jobId : JobId)
  | interval
  /-- The status of a job changes on the server. -/
  | progress (jobId : JobId) (status : SubmissionStatus)
  /-- The server reads what a GET will report. -/
  | read (index : Nat) (detail : SubmissionDetail)
  | replied (index : Nat)
  /-- A GET rejects, at any time. -/
  | lost (index : Nat)
  deriving DecidableEq, Repr

namespace SubmissionHook

/-- The first render. -/
def initial : SubmissionHook where
  status := .idle
  jobId := none
  output := []
  result := none
  submitError := none
  closeStreamRef := none
  fallbackTimerRef := none
  pollIntervalRef := none
  runs := fun _ => none
  posts := []
  fetches := []
  rows := fun _ => .pending

variable (hook : SubmissionHook)

/-- The status that is shown. -/
def isBusy : Bool := hook.status.isBusy

/-! ## Timers -/

/-- The set-up of one job is changed. -/
def withRun (jobId : JobId) (change : JobRun → JobRun) : SubmissionHook :=
  { hook with runs := Function.update hook.runs jobId ((hook.runs jobId).map change) }

/-- The timeout in the ref is cleared, which does nothing to one that has fired. -/
def clearFallbackTimer : SubmissionHook :=
  match hook.fallbackTimerRef with
  | some jobId =>
    { hook.withRun jobId fun run => { run with timeoutPending := false } with
      fallbackTimerRef := none }
  | none => hook

/-- `clearTimers` -/
def clearTimers : SubmissionHook := { hook.clearFallbackTimer with pollIntervalRef := none }

/-- `startFallbackPoll` -/
def startFallbackPoll (jobId : JobId) : SubmissionHook :=
  match hook.pollIntervalRef with
  | some _ => hook
  | none => { hook with pollIntervalRef := some jobId }

/-- The callback of the interval, up to its `await`. -/
def poll (jobId : JobId) : SubmissionHook :=
  { hook with fetches := hook.fetches ++ [⟨jobId, .poll, none⟩] }

/-- The callback of the timeout, if no message has come. -/
def timeoutFired (jobId : JobId) (run : JobRun) : SubmissionHook :=
  let hook := hook.withRun jobId fun run => { run with timeoutPending := false }
  -- The callback asks whether its own run has seen a message.
  if run.sawFirstMessage then hook else hook.startFallbackPoll jobId

/-! ## Replies -/

/-- `finalize`, up to its `await`. -/
def finalize (jobId : JobId) : SubmissionHook :=
  -- The timers are cleared whosever they are.
  { hook.clearTimers with fetches := hook.clearTimers.fetches ++ [⟨jobId, .finalize, none⟩] }

/-- What its caller does with the reply of `getSubmission`. -/
def fetched (detail : SubmissionDetail) : FetchCaller → SubmissionHook
  | .finalize => { hook with result := some detail, status := .job detail.status }
  | .poll =>
    -- The status is set either way, without a look at the one before or at the job shown.
    if detail.status.isTerminal then
      { hook.clearTimers with result := some detail, status := .job detail.status }
    else { hook with status := .job detail.status }

/-- What its caller does where `getSubmission` rejects. -/
def fetchFailed : FetchCaller → SubmissionHook
  | .finalize => { hook with status := .job .failed }
  -- A failed poll is passed over, and polling goes on.
  | .poll => hook

/-! ## The stream -/

/-- The function that `openJobStream` returns: a socket that is closing or closed stays so. -/
def closeStream (jobId : JobId) : SubmissionHook :=
  hook.withRun jobId fun run => { run with socket := if run.socket.isLive then .closing else run.socket }

/-- `onChunk` -/
def onChunk (jobId : JobId) (chunk : StreamChunk) : SubmissionHook :=
  let hook := (hook.withRun jobId fun run => { run with sawFirstMessage := true }).clearFallbackTimer
  -- System chunks end the wait for a first message too, but show nothing.
  if chunk.type = .stdout ∨ chunk.type = .stderr then
    { hook with
      output := hook.output ++ [⟨chunk.type, chunk.data⟩]
      status := if hook.status = .job .pending then .job .running else hook.status }
  else hook

/-- The `message` listener. -/
def onMessage (jobId : JobId) (frame : Frame) : SubmissionHook :=
  -- The variable is set before `JSON.parse` is tried.
  let hook := hook.withRun jobId fun run => { run with receivedAnyMessage := true }
  match frame with
  | .chunk chunk => hook.onChunk jobId chunk
  | .malformed _ => hook

/-- `onUnavailable` -/
def onUnavailable (jobId : JobId) (run : JobRun) : SubmissionHook :=
  if run.sawFirstMessage then hook else hook.startFallbackPoll jobId

/-- The `error` listener. -/
def onError (jobId : JobId) (run : JobRun) : SubmissionHook :=
  if run.receivedAnyMessage then hook else hook.onUnavailable jobId run

/-- The `close` listener of a socket that has closed. -/
def onClose (jobId : JobId) : SubmissionHook :=
  (hook.withRun jobId fun run => { run with socket := .closed }).finalize jobId

/-! ## The call of `run` -/

/-- The stream and the timers of the previous job are torn down. -/
def tearDown : SubmissionHook :=
  match hook.closeStreamRef with
  | some jobId => (hook.closeStream jobId).clearTimers
  | none => hook.clearTimers

/-- `run`, up to its `await`. -/
def run (request : SubmitRequest) : SubmissionHook :=
  -- The old id stays in `jobId` until the POST is replied to.
  { hook.tearDown with
    status := .submitting
    output := []
    result := none
    submitError := none
    posts := hook.posts ++ [request] }

/-- The part of `run` behind the reply to its POST. -/
def submitted (jobId : JobId) : SubmissionHook :=
  -- A timeout that another run has left in the ref is not cleared.
  { hook with
    jobId := some jobId
    status := .job .pending
    runs := Function.update hook.runs jobId (some ⟨.connecting, false, false, true⟩)
    fallbackTimerRef := some jobId
    closeStreamRef := some jobId }

/-- The part of `run` behind a POST that has failed. -/
def submitFailed (message : Option String) : SubmissionHook :=
  { hook with status := .submitError, submitError := some (message.getD "Failed to submit job") }

/-! ## Steps -/

/-- One step, where the label is enabled. -/
def step : HookLabel → Option SubmissionHook
  | .run request => some (hook.run request)
  | .submitted index jobId =>
    -- The gateway draws a new UUID for each request.
    if index < hook.posts.length ∧ hook.runs jobId = none then
      some ({ hook with posts := hook.posts.eraseIdx index }.submitted jobId)
    else none
  | .submitFailed index message =>
    if index < hook.posts.length then
      some ({ hook with posts := hook.posts.eraseIdx index }.submitFailed message)
    else none
  | .opened jobId =>
    (hook.runs jobId).bind fun run =>
      if run.socket = .connecting then
        some (hook.withRun jobId fun run => { run with socket := .opened })
      else none
  | .message jobId frame =>
    (hook.runs jobId).bind fun run =>
      -- The frame may have been queued before `close()` was called.
      if run.socket = .opened ∨ run.socket = .closing then some (hook.onMessage jobId frame) else none
  | .closed jobId =>
    (hook.runs jobId).bind fun run =>
      -- A socket of an orderly server closes without an error.
      if run.socket = .opened ∨ run.socket = .closing then some (hook.onClose jobId) else none
  | .failed jobId =>
    (hook.runs jobId).bind fun run =>
      -- Both events are fired, the second one behind whatever the first one has started.
      if run.socket = .closed then none
      else some ((hook.onError jobId run).onClose jobId)
  | .timeout jobId =>
    (hook.runs jobId).bind fun run =>
      if run.timeoutPending then some (hook.timeoutFired jobId run) else none
  | .interval => hook.pollIntervalRef.map hook.poll
  | .progress jobId status => some { hook with rows := Function.update hook.rows jobId status }
  | .read index detail =>
    hook.fetches[index]?.bind fun fetch =>
      -- The status is the one of now, however late the reply may come.
      if fetch.reply = none ∧ detail.jobId = fetch.jobId ∧ detail.status = hook.rows fetch.jobId then
        some { hook with fetches := hook.fetches.set index { fetch with reply := some detail } }
      else none
  | .replied index =>
    hook.fetches[index]?.bind fun fetch =>
      fetch.reply.map fun detail =>
        { hook with fetches := hook.fetches.eraseIdx index }.fetched detail fetch.caller
  | .lost index =>
    hook.fetches[index]?.map fun fetch =>
      { hook with fetches := hook.fetches.eraseIdx index }.fetchFailed fetch.caller

end SubmissionHook

/-- The hook as a labelled machine. -/
def useSubmission : Machine SubmissionHook HookLabel where
  step := SubmissionHook.step

end CodeExecution

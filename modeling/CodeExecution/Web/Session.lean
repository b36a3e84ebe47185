import CodeExecution.Services.Broadcast
import CodeExecution.Services.Detail

/-! One browser beside the services: what `useSubmission` asks for is answered by the gateway. -/

namespace CodeExecution

/-- The services with their streams, and the hook in one browser. -/
structure Session where
  server : Platform
  hook : SubmissionHook
  /-- The request that the handler of a job was called with, if it came from this browser. -/
  asked : JobId → Option SubmitRequest

/-- One thing that happens in the browser or on the services. -/
inductive SessionLabel where
  | server (label : BroadcastLabel)
  /-- A POST of the browser arrives, and the gateway draws an identifier. -/
  | arrives (request : SubmitRequest) (jobId : JobId)
  | browser (label : HookLabel)
  deriving DecidableEq

namespace Session

/-- The page has been loaded. -/
def initial : Session where
  server := .initial
  hook := .initial
  asked := fun _ => none

/-- The statuses on the server, as the hook refers to them. -/
def statuses (store : Store) (jobId : JobId) : SubmissionStatus := (store.statusOf jobId).getD .pending

variable (session : Session)

/-- The services have moved on. -/
def withServer (server : Platform) : Session :=
  { session with server, hook := { session.hook with rows := statuses server.store } }

/-- The services have done what an event of the browser stands for. -/
def answered : HookLabel → Bool
  | .submitted index jobId =>
    -- The reply to a POST names the job of its handler.
    session.server.posts jobId = .answered 201 ∧ session.asked jobId ≠ none ∧
      session.asked jobId = session.hook.posts[index]?
  | .read index detail =>
    session.hook.fetches[index]?.any fun fetch =>
      (getSubmission session.server.store fetch.jobId).toOption = some detail
  -- Statuses change on the server itself.
  | .progress _ _ => false
  | _ => true

/-- One step, where the label is enabled. -/
def step : SessionLabel → Option Session
  | .server label => (broadcast.step session.server label).map session.withServer
  | .arrives request jobId =>
    if request ∈ session.hook.posts then
      -- `submitJob` sends a code and a language, and no user.
      (broadcast.step session.server
        (.platform (.post jobId request.code request.language none))).map fun server =>
          { session.withServer server with
            asked := Function.update session.asked jobId (some request) }
    else none
  | .browser label =>
    if session.answered label then
      (useSubmission.step session.hook label).map fun hook => { session with hook }
    else none

end Session

/-- The services and one browser as a labelled machine. -/
def session : Machine Session SessionLabel where
  step := Session.step

end CodeExecution

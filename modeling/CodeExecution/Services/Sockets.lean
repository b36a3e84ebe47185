import CodeExecution.Services.Streaming

/-! The gateway's sockets beside the whole platform: any number of clients of any jobs. -/

namespace CodeExecution

/-- One connection of a client, for which the gateway holds one socket. -/
abbrev ClientId := String

/-- Where the connection handler of a client stands. -/
inductive HandlerPoint where
  /-- The socket is registered, and `SELECT status` is awaited. -/
  | select
  /-- `XRANGE - +` is awaited. -/
  | xrange (status : SubmissionStatus)
  /-- XRANGE has read these entries, and its reply is on the way. -/
  | replay (status : SubmissionStatus) (entries : List StreamChunk)
  /-- The handler has returned. -/
  | returned
  deriving DecidableEq, Repr

/-- A connected client: its job, its handler, its socket and what the gateway has made of it. -/
structure Client where
  jobId : JobId
  point : HandlerPoint
  socket : SocketState
  /-- Close timers that have not fired. -/
  timers : Nat
  /-- The messages sent on the socket. -/
  sent : List StreamChunk
  deriving DecidableEq, Repr

/-- What happens to one client. -/
inductive ClientCall where
  /-- SELECT resolves. -/
  | select
  /-- XRANGE reads the stream. -/
  | xrange
  /-- The reply of XRANGE arrives, and all its entries are sent. -/
  | replay
  /-- The awaited call of the handler rejects. -/
  | rejects
  /-- A close timer fires. -/
  | timer
  /-- The client closes the socket. -/
  | leave
  deriving DecidableEq, Repr

namespace Client

/-- A client whose socket has just been registered. -/
def connected (jobId : JobId) : Client where
  jobId := jobId
  point := .select
  socket := .openSocket
  timers := 0
  sent := []

/-- `socket.send`, behind the test of `readyState` that guards every call of it. -/
def send (client : Client) (messages : List StreamChunk) : Client :=
  { client with
    sent := if client.socket = .openSocket then client.sent ++ messages else client.sent }

/-- `socket.close`, which has no effect on a socket that is not open. -/
def close (client : Client) (code : Nat) : Client :=
  { client with
    socket := if client.socket = .openSocket then .closed code else client.socket }

/-- The `pmessage` handler for one socket of the message's job. -/
def forward (client : Client) (message : StreamChunk) : Client :=
  -- The timer is set behind the test of `readyState` too.
  { client.send [message] with
    timers := if client.socket = .openSocket ∧ message.isCompletion then client.timers + 1
      else client.timers }

/-- The end of the connection handler: the replay, and the timer of a job that is over. -/
def finishReplay (client : Client) (status : SubmissionStatus) (entries : List StreamChunk) : Client :=
  -- A completed job may have lost its marker, so the status is asked as well.
  { client.send entries with
    point := .returned
    timers := if entries.any StreamChunk.isCompletion || status.isTerminal then client.timers + 1
      else client.timers }

/-- What becomes of a client, where the call is the one it waits for. -/
def step (store : Store) (client : Client) : ClientCall → Option Client
  | .select =>
    match client.point with
    | .select =>
      match store.statusOf client.jobId with
      | some status => some { client with point := .xrange status }
      -- There is no such submission.
      | none => some { client.close 1008 with point := .returned }
    | _ => none
  | .xrange =>
    match client.point with
    | .xrange status => some { client with point := .replay status (store.streams client.jobId) }
    | _ => none
  | .replay =>
    match client.point with
    | .replay status entries => some (client.finishReplay status entries)
    | _ => none
  | .rejects =>
    -- The catch block closes the socket.
    match client.point with
    | .select | .xrange _ => some { client.close 1011 with point := .returned }
    | _ => none
  | .timer =>
    match client.timers with
    | timers + 1 => some { client.close 1000 with timers }
    | 0 => none
  | .leave =>
    match client.socket with
    | .openSocket => some { client with socket := .left }
    | _ => none

/-- Everything that a call can do to a client, with its guard. -/
inductive Stepped (store : Store) (client : Client) : Client → Prop
  | select {status : SubmissionStatus} (selecting : client.point = .select)
      (stored : store.statusOf client.jobId = some status) :
      Stepped store client { client with point := .xrange status }
  | xrange {status : SubmissionStatus} (reading : client.point = .xrange status) :
      Stepped store client { client with point := .replay status (store.streams client.jobId) }
  | replay {status : SubmissionStatus} {entries : List StreamChunk}
      (replies : client.point = .replay status entries) :
      Stepped store client (client.finishReplay status entries)
  /-- The submission does not exist, or a call has rejected. -/
  | gives (code : Nat) : Stepped store client { client.close code with point := .returned }
  | timer {timers : Nat} (pending : client.timers = timers + 1) :
      Stepped store client { client.close 1000 with timers }
  | leave (isOpen : client.socket = .openSocket) : Stepped store client { client with socket := .left }

/-- Nothing else comes of a call. -/
theorem step_cases {store : Store} {client next : Client} {call : ClientCall}
    (stepped : client.step store call = some next) : Stepped store client next := by
  -- The guard of each call is the match that `step` makes.
  cases call with
  | select =>
    simp only [step] at stepped
    repeat' split at stepped
    · next selecting _ _ stored => obtain rfl := Option.some.inj stepped; exact .select selecting stored
    · obtain rfl := Option.some.inj stepped; exact .gives 1008
    · simp at stepped
  | xrange =>
    simp only [step] at stepped
    split at stepped
    · next reading => obtain rfl := Option.some.inj stepped; exact .xrange reading
    · simp at stepped
  | replay =>
    simp only [step] at stepped
    split at stepped
    · next replies => obtain rfl := Option.some.inj stepped; exact .replay replies
    · simp at stepped
  | rejects =>
    simp only [step] at stepped
    split at stepped
    · obtain rfl := Option.some.inj stepped; exact .gives 1011
    · obtain rfl := Option.some.inj stepped; exact .gives 1011
    · simp at stepped
  | timer =>
    simp only [step] at stepped
    split at stepped
    · next pending => obtain rfl := Option.some.inj stepped; exact .timer pending
    · simp at stepped
  | leave =>
    simp only [step] at stepped
    split at stepped
    · next isOpen => obtain rfl := Option.some.inj stepped; exact .leave isOpen
    · simp at stepped

/-- A call does not change a client's job. -/
theorem step_jobId {store : Store} {client next : Client} {call : ClientCall}
    (stepped : client.step store call = some next) : next.jobId = client.jobId := by
  cases step_cases stepped <;> rfl

/-- No call opens a socket again. -/
theorem isOpen_of_step {store : Store} {client next : Client} {call : ClientCall}
    (stepped : client.step store call = some next) (isOpen : next.socket = .openSocket) :
    client.socket = .openSocket := by
  -- Closing a socket that is not open leaves it as it is.
  by_contra shut
  cases step_cases stepped with
  | select | xrange | replay => exact shut isOpen
  | gives | timer => simp [close, shut] at isOpen
  | leave => simp at isOpen

end Client

/-- The platform with its streams, the gateway's subscriber, and all clients. -/
structure Attached where
  platform : Platform
  /-- The number of a job's published messages that the subscriber is through with. -/
  heard : JobId → Nat
  clients : ClientId → Option Client

/-- One thing that happens on the platform, to the subscriber or to a client. -/
inductive AttachedLabel where
  | broadcast (label : BroadcastLabel)
  /-- The subscriber receives the next message of a job. -/
  | deliver (jobId : JobId)
  /-- The next message of a job is published while the subscriber is not connected. -/
  | lost (jobId : JobId)
  /-- A client connects, and its socket is registered. -/
  | connect (id : ClientId) (jobId : JobId)
  | client (id : ClientId) (call : ClientCall)
  deriving DecidableEq

namespace Attached

/-- The platform before the first request, and no client. -/
def initial : Attached where
  platform := .initial
  heard := fun _ => 0
  clients := fun _ => none

/-- The message of a job that the subscriber receives next. -/
def nextMessage (state : Attached) (jobId : JobId) : Option StreamChunk :=
  -- PUBLISH keeps the order of the messages of a channel.
  (state.platform.store.published jobId)[state.heard jobId]?

/-- The subscriber is through with one more message of a job. -/
def hear (state : Attached) (jobId : JobId) : Attached :=
  { state with heard := Function.update state.heard jobId (state.heard jobId + 1) }

/-- The `pmessage` handler: every socket that is registered for the job. -/
def forwardAll (state : Attached) (jobId : JobId) (message : StreamChunk) : Attached :=
  { state with
    clients := fun id => (state.clients id).map fun client =>
      if client.jobId = jobId then client.forward message else client }

/-- A client has moved on. -/
def withClient (state : Attached) (id : ClientId) (client : Client) : Attached :=
  { state with clients := Function.update state.clients id (some client) }

/-- One step, where the label is enabled. -/
def step (state : Attached) : AttachedLabel → Option Attached
  | .broadcast label =>
    (state.platform.broadcastStep label).map fun platform => { state with platform }
  | .deliver jobId =>
    (state.nextMessage jobId).map fun message => (state.hear jobId).forwardAll jobId message
  | .lost jobId => (state.nextMessage jobId).map fun _ => state.hear jobId
  | .connect id jobId =>
    -- `activeStreams` has the socket before anything is read.
    match state.clients id with
    | none => some (state.withClient id (.connected jobId))
    | some _ => none
  | .client id call =>
    match state.clients id with
    | some client => (client.step state.platform.store call).map (state.withClient id)
    | none => none

/-- Everything that the step of a label can do, with its guard. -/
inductive Stepped (state : Attached) : AttachedLabel → Attached → Prop
  | broadcast {label : BroadcastLabel} {platform : Platform}
      (moved : state.platform.broadcastStep label = some platform) :
      Stepped state (.broadcast label) { state with platform }
  | deliver {jobId : JobId} {message : StreamChunk} (arrives : state.nextMessage jobId = some message) :
      Stepped state (.deliver jobId) ((state.hear jobId).forwardAll jobId message)
  | lost {jobId : JobId} : Stepped state (.lost jobId) (state.hear jobId)
  | connect {id : ClientId} {jobId : JobId} (fresh : state.clients id = none) :
      Stepped state (.connect id jobId) (state.withClient id (.connected jobId))
  | client {id : ClientId} {call : ClientCall} {client next : Client}
      (connected : state.clients id = some client)
      (moved : client.step state.platform.store call = some next) :
      Stepped state (.client id call) (state.withClient id next)

/-- Nothing else comes of a step. -/
theorem step_cases {state next : Attached} {label : AttachedLabel}
    (stepped : state.step label = some next) : Stepped state label next := by
  -- The guard of each label is the match that `step` makes.
  cases label with
  | broadcast label =>
    obtain ⟨platform, moved, rfl⟩ := Option.map_eq_some_iff.mp stepped
    exact .broadcast moved
  | deliver jobId =>
    obtain ⟨message, arrives, rfl⟩ := Option.map_eq_some_iff.mp stepped
    exact .deliver arrives
  | lost jobId =>
    obtain ⟨_, _, rfl⟩ := Option.map_eq_some_iff.mp stepped
    exact .lost
  | connect id jobId =>
    simp only [step] at stepped
    split at stepped
    · next fresh => obtain rfl := Option.some.inj stepped; exact .connect fresh
    · simp at stepped
  | client id call =>
    simp only [step] at stepped
    split at stepped
    · next connected =>
      obtain ⟨client, moved, rfl⟩ := Option.map_eq_some_iff.mp stepped
      exact .client connected moved
    · simp at stepped

end Attached

/-- The platform with its clients as a labelled machine. -/
def attached : Machine Attached AttachedLabel where
  step := Attached.step

end CodeExecution

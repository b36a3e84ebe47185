import CodeExecution.Library.SetMap
import CodeExecution.Services.Detection
import CodeExecution.Services.Sockets

/-! The gateway's registry of sockets, and the events that reach it. -/

namespace CodeExecution

/-! ## Channels -/

/-- `QUEUE_KEYS.STREAM`, which is the channel of a job too. -/
def streamKey (jobId : JobId) : String := "jobs:streams:" ++ jobId

/-- The job that the `pmessage` handler reads off a channel. -/
def jobIdOfChannel (channel : String) : JobId :=
  .ofList (removeFirst "jobs:streams:".toList channel.toList)

/-- The job is read back from its channel, whatever its identifier is. -/
@[simp] theorem jobIdOfChannel_streamKey (jobId : JobId) : jobIdOfChannel (streamKey jobId) = jobId := by
  unfold jobIdOfChannel streamKey
  exact ofList_removeFirst (by simp) jobId

/-- A message on a channel. -/
inductive LiveMessage where
  | chunk (chunk : StreamChunk)
  /-- Any text that is not the JSON of a chunk. -/
  | other (text : String)
  deriving DecidableEq, Repr

/-! ## Connections -/

/-- One connection: its client, and the variable of its `close` handler. -/
structure Connection where
  client : Client
  cleanedUp : Bool
  /-- The live messages sent on the socket. -/
  live : List LiveMessage
  deriving DecidableEq, Repr

namespace Connection

/-- A connection whose socket has just been registered. -/
def begun (jobId : JobId) : Connection where
  client := .connected jobId
  cleanedUp := false
  live := []

/-- The `pmessage` handler for one socket. -/
def forward (connection : Connection) (message : LiveMessage) : Connection :=
  -- A message is sent as it is; only a chunk may be a completion.
  { connection with
    client :=
      match message with
      | .chunk chunk => connection.client.forward chunk
      | .other _ => connection.client
    live :=
      if connection.client.socket = .openSocket then connection.live ++ [message]
      else connection.live }

/-- The socket is closed by now, also where nobody has closed it on purpose. -/
def shut (connection : Connection) : Connection :=
  { connection with
    client :=
      { connection.client with
        socket :=
          if connection.client.socket = .openSocket then .left else connection.client.socket } }

end Connection

/-! ## The registry -/

/-- The connections of the gateway, `activeStreams` and the gauge `activeWebSockets`. -/
structure Registry where
  connections : ClientId → Option Connection
  activeStreams : SetMap JobId ClientId
  activeWebSockets : Int

/-- One thing that happens to a socket or to the subscriber. -/
inductive RegistryLabel where
  /-- A request for `/stream/:jobId`. -/
  | connect (id : ClientId) (jobId : JobId)
  /-- The `close` event of a socket. -/
  | close (id : ClientId)
  /-- The `error` event of a socket. -/
  | error (id : ClientId)
  /-- The rest of the handler, a timer, or the client itself; the store is as it is then. -/
  | client (id : ClientId) (store : Store) (call : ClientCall)
  /-- The subscriber receives a message on a channel. -/
  | pmessage (channel : String) (message : LiveMessage)

namespace Registry

/-- Nobody has connected. -/
def initial : Registry where
  connections := fun _ => none
  activeStreams := ∅
  activeWebSockets := 0

/-- A connection has moved on. -/
def withConnection (state : Registry) (id : ClientId) (connection : Connection) : Registry :=
  { state with connections := Function.update state.connections id (some connection) }

/-- The handler of `GET /stream/:jobId` up to its first `await`. -/
def register (state : Registry) (id : ClientId) (jobId : JobId) : Registry :=
  { state.withConnection id (.begun jobId) with
    activeWebSockets := state.activeWebSockets + 1
    activeStreams := state.activeStreams.add jobId id }

/-- `cleanup`. -/
def cleanup (state : Registry) (id : ClientId) (connection : Connection) : Registry :=
  if connection.cleanedUp then state
  else
    { state.withConnection id { connection with cleanedUp := true } with
      activeWebSockets := state.activeWebSockets - 1
      activeStreams := state.activeStreams.remove connection.client.jobId id }

/-- The `pmessage` handler. -/
def deliver (state : Registry) (channel : String) (message : LiveMessage) : Registry :=
  { state with
    connections := fun id => (state.connections id).map fun connection =>
      if id ∈ state.activeStreams.members (jobIdOfChannel channel) then connection.forward message
      else connection }

/-- One step, where the label is enabled. -/
def step (state : Registry) : RegistryLabel → Option Registry
  | .connect id jobId =>
    -- Every connection has a socket of its own.
    match state.connections id with
    | none => some (state.register id jobId)
    | some _ => none
  | .close id =>
    (state.connections id).map fun connection =>
      (state.withConnection id connection.shut).cleanup id connection.shut
  -- The event is logged and counted.
  | .error id => (state.connections id).map fun _ => state
  | .client id store call =>
    match state.connections id with
    | some connection =>
      (connection.client.step store call).map fun client =>
        state.withConnection id { connection with client }
    | none => none
  | .pmessage channel message => some (state.deliver channel message)

/-- Everything that the step of a label can do, with its guard. -/
inductive Stepped (state : Registry) : RegistryLabel → Registry → Prop
  | connect {id : ClientId} {jobId : JobId} (fresh : state.connections id = none) :
      Stepped state (.connect id jobId) (state.register id jobId)
  | close {id : ClientId} {connection : Connection} (connected : state.connections id = some connection) :
      Stepped state (.close id) ((state.withConnection id connection.shut).cleanup id connection.shut)
  | error {id : ClientId} {connection : Connection} (connected : state.connections id = some connection) :
      Stepped state (.error id) state
  | client {id : ClientId} {store : Store} {call : ClientCall} {connection : Connection}
      {client : Client} (connected : state.connections id = some connection)
      (moved : connection.client.step store call = some client) :
      Stepped state (.client id store call) (state.withConnection id { connection with client })
  | pmessage {channel : String} {message : LiveMessage} :
      Stepped state (.pmessage channel message) (state.deliver channel message)

/-- Nothing else comes of a step. -/
theorem step_cases {state next : Registry} {label : RegistryLabel}
    (stepped : state.step label = some next) : Stepped state label next := by
  -- The guard of each label is the match that `step` makes.
  cases label with
  | connect id jobId =>
    simp only [step] at stepped
    split at stepped
    · next fresh => obtain rfl := Option.some.inj stepped; exact .connect fresh
    · simp at stepped
  | close id =>
    obtain ⟨connection, connected, rfl⟩ := Option.map_eq_some_iff.mp stepped
    exact .close connected
  | error id =>
    obtain ⟨connection, connected, rfl⟩ := Option.map_eq_some_iff.mp stepped
    exact .error connected
  | client id store call =>
    simp only [step] at stepped
    split at stepped
    · next connected =>
      obtain ⟨client, moved, rfl⟩ := Option.map_eq_some_iff.mp stepped
      exact .client connected moved
    · simp at stepped
  | pmessage channel message =>
    obtain rfl := Option.some.inj stepped
    exact .pmessage

end Registry

/-- The registry as a labelled machine. -/
def registry : Machine Registry RegistryLabel where
  step := Registry.step

end CodeExecution

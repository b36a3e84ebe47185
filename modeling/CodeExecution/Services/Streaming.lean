import CodeExecution.Library.Machine
import CodeExecution.Services.Broadcast

/-! The gateway's `GET /stream/:jobId` beside the one execution of its job: one socket, replay and live messages. -/

namespace CodeExecution

/--
A chunk with its place among the entries that were ever added to the stream.

The place is the order of the entry ids, which no message carries and nobody reads.
-/
structure Message where
  position : Nat
  chunk : StreamChunk
  deriving DecidableEq, Repr

/-- Where the worker stands; it publishes each chunk before it adds the next one. -/
inductive ProducerPoint where
  /-- The job is PENDING. -/
  | waiting
  /-- Inside `runInSandbox`, with every chunk published. -/
  | printing
  /-- The chunk has been added to the stream, and PUBLISH comes next. -/
  | publishing (message : Message)
  /-- The result transaction is committed. -/
  | committed
  /-- The completion marker has been added, and PUBLISH comes next. -/
  | completing (message : Message)
  /-- The completion marker has been published, and EXPIRE comes next. -/
  | completed
  /-- EXPIRE has given the stream its time to live. -/
  | expiring
  /-- The stream key is gone. -/
  | expired
  deriving DecidableEq, Repr

/-- Where the connection handler stands. -/
inductive ViewerPoint where
  /-- The client has not connected. -/
  | idle
  /-- The socket is registered, and `SELECT status` is awaited. -/
  | select
  /-- `XRANGE - +` is awaited. -/
  | xrange (status : SubmissionStatus)
  /-- XRANGE has read these entries, and its reply is on the way. -/
  | replay (status : SubmissionStatus) (entries : List Message)
  /-- The handler has returned. -/
  | returned
  deriving DecidableEq, Repr

/-- The `readyState` of the socket, with the code that the gateway closed it with. -/
inductive SocketState where
  | unconnected
  | openSocket
  | closed (code : Nat)
  /-- The client has gone. -/
  | left
  deriving DecidableEq, Repr

/-- One job, its stream and channel, and one client of it. -/
structure StreamSession where
  producer : ProducerPoint
  /-- The row's status; the row is there, because the job has been submitted. -/
  status : SubmissionStatus
  /-- Everything that was ever added to the stream. -/
  log : List Message
  /-- The entries that the stream holds, oldest first. -/
  stream : List Message
  /-- Published messages that have not reached the gateway. -/
  channel : List Message
  /-- The messages that have reached the gateway. -/
  received : List Message
  /-- Those of them that came before the socket was registered. -/
  missed : List Message
  viewer : ViewerPoint
  /-- XRANGE came after the stream key was gone. -/
  tooLate : Bool
  socket : SocketState
  /-- Close timers that have not fired. -/
  timers : Nat
  /-- The messages sent on the socket. -/
  sent : List Message

/-- One thing that happens to the job, to the stream or to the client. -/
inductive StreamLabel where
  /-- The worker claims the job. -/
  | claim
  /-- XADD of a chunk of output, which trims the stream by some of its oldest entries. -/
  | append (chunk : StreamChunk) (dropped : Nat)
  /-- PUBLISH of the chunk that was added last. -/
  | publish
  /-- COMMIT of the result transaction. -/
  | commit (status : SubmissionStatus)
  /-- XADD of the completion marker. -/
  | appendCompletion (timestamp : Timestamp) (dropped : Nat)
  /-- EXPIRE of the stream key. -/
  | expire
  /-- The stream key reaches its time to live. -/
  | streamExpires
  /-- The gateway's subscriber receives the oldest message of the channel. -/
  | deliver
  /-- The client connects, and its socket is registered. -/
  | connect
  /-- SELECT resolves. -/
  | select
  /-- XRANGE reads the stream. -/
  | xrange
  /-- The reply of XRANGE arrives, and all its entries are sent. -/
  | replay
  /-- The awaited call of the handler rejects. -/
  | rejects
  /-- A close timer fires. -/
  | timer
  /-- The client closes the socket. -/
  | leave
  deriving DecidableEq, Repr

namespace StreamSession

/-- A submitted job without output or client. -/
def initial : StreamSession where
  producer := .waiting
  status := .pending
  log := []
  stream := []
  channel := []
  received := []
  missed := []
  viewer := .idle
  tooLate := false
  socket := .unconnected
  timers := 0
  sent := []

/-- The message that the next XADD adds. -/
def nextMessage (state : StreamSession) (chunk : StreamChunk) : Message where
  position := state.log.length
  chunk := chunk

/-- `XADD MAXLEN ~ 1000`: entries may go only from behind the newest thousand. -/
def trims (state : StreamSession) (dropped : Nat) : Bool :=
  dropped = 0 ∨ streamRetentionCount + dropped ≤ state.stream.length + 1

/-- The stream after an XADD. -/
def add (state : StreamSession) (message : Message) (dropped : Nat) : StreamSession :=
  -- The log keeps what trimming takes away.
  { state with
    log := state.log ++ [message]
    stream := (state.stream ++ [message]).drop dropped }

/-- `socket.send`, behind the test of `readyState` that guards every call of it. -/
def send (state : StreamSession) (messages : List Message) : StreamSession :=
  { state with
    sent := if state.socket = .openSocket then state.sent ++ messages else state.sent }

/-- `socket.close`, behind the same test. -/
def close (state : StreamSession) (code : Nat) : StreamSession :=
  { state with
    socket := if state.socket = .openSocket then .closed code else state.socket }

/-- The oldest message of the channel reaches the gateway. -/
def receive (state : StreamSession) (message : Message) (rest : List Message) : StreamSession :=
  { state with channel := rest, received := state.received ++ [message] }

/-- The `pmessage` handler: an open socket gets the message, and a completion marker starts its timer. -/
def forward (state : StreamSession) (message : Message) : StreamSession :=
  -- The timer is set behind the test of `readyState` too.
  { state.send [message] with
    timers := if state.socket = .openSocket ∧ message.chunk.isCompletion then state.timers + 1
      else state.timers }

/-- XRANGE reads the stream, which may be gone. -/
def readStream (state : StreamSession) (status : SubmissionStatus) : StreamSession :=
  { state with
    viewer := .replay status state.stream
    tooLate := state.producer = .expired }

/-- The end of the connection handler: the replay, and the timer of a job that is over. -/
def finishReplay (state : StreamSession) (status : SubmissionStatus) (entries : List Message) :
    StreamSession :=
  -- A completed job may have lost its marker, so the status is asked as well.
  { state.send entries with
    viewer := .returned
    timers := if (entries.any fun message => message.chunk.isCompletion) || status.isTerminal then
      state.timers + 1 else state.timers }

/-- One step, where the label is enabled. -/
def step (state : StreamSession) : StreamLabel → Option StreamSession
  | .claim =>
    match state.producer with
    | .waiting => some { state with producer := .printing, status := .running }
    | _ => none
  | .append chunk dropped =>
    match state.producer with
    | .printing =>
      if chunk.fromSandbox && state.trims dropped then
        let message := state.nextMessage chunk
        some { state.add message dropped with producer := .publishing message }
      else none
    | _ => none
  | .publish =>
    match state.producer with
    | .publishing message =>
      some { state with producer := .printing, channel := state.channel ++ [message] }
    | .completing message =>
      some { state with producer := .completed, channel := state.channel ++ [message] }
    | _ => none
  | .commit status =>
    -- `runInSandbox` has awaited the last PUBLISH before it resolves.
    match state.producer with
    | .printing => if status.isTerminal then some { state with producer := .committed, status } else none
    | _ => none
  | .appendCompletion timestamp dropped =>
    -- `publishSystemChunk` follows the COMMIT, when readers already see a terminal status.
    match state.producer with
    | .committed =>
      if state.trims dropped then
        let message := state.nextMessage (completionChunk timestamp)
        some { state.add message dropped with producer := .completing message }
      else none
    | _ => none
  | .expire =>
    match state.producer with
    | .completed => some { state with producer := .expiring }
    | _ => none
  | .streamExpires =>
    match state.producer with
    | .expiring => some { state with producer := .expired, stream := [] }
    | _ => none
  | .deliver =>
    -- A message for a job without a registered socket is gone.
    match state.channel with
    | message :: rest =>
      some ((state.receive message rest).forward message)
    | [] => none
  | .connect =>
    -- `activeStreams` has the socket before anything is read.
    match state.socket with
    | .unconnected =>
      some { state with socket := .openSocket, viewer := .select, missed := state.received }
    | _ => none
  | .select =>
    match state.viewer with
    | .select => some { state with viewer := .xrange state.status }
    | _ => none
  | .xrange =>
    match state.viewer with
    | .xrange status => some (state.readStream status)
    | _ => none
  | .replay =>
    match state.viewer with
    | .replay status entries => some (state.finishReplay status entries)
    | _ => none
  | .rejects =>
    -- The catch block closes the socket.
    match state.viewer with
    | .select | .xrange _ => some { state.close 1011 with viewer := .returned }
    | _ => none
  | .timer =>
    -- The callback does not ask which of the two handlers has set it.
    match state.timers with
    | timers + 1 => some { state.close 1000 with timers }
    | 0 => none
  | .leave =>
    match state.socket with
    | .openSocket => some { state with socket := .left }
    | _ => none

/-- Everything that the step of a label can do, with its guard. -/
inductive Stepped (state : StreamSession) : StreamLabel → StreamSession → Prop
  | claim (waiting : state.producer = .waiting) :
      Stepped state .claim { state with producer := .printing, status := .running }
  | append {chunk : StreamChunk} {dropped : Nat} (printing : state.producer = .printing)
      (printed : chunk.fromSandbox = true) (trims : state.trims dropped = true) :
      Stepped state (.append chunk dropped)
        { state.add (state.nextMessage chunk) dropped with
          producer := .publishing (state.nextMessage chunk) }
  | publish {message : Message} (publishing : state.producer = .publishing message) :
      Stepped state .publish
        { state with producer := .printing, channel := state.channel ++ [message] }
  | publishCompletion {message : Message} (completing : state.producer = .completing message) :
      Stepped state .publish
        { state with producer := .completed, channel := state.channel ++ [message] }
  | commit {status : SubmissionStatus} (printing : state.producer = .printing)
      (terminal : status.isTerminal = true) :
      Stepped state (.commit status) { state with producer := .committed, status }
  | appendCompletion {timestamp : Timestamp} {dropped : Nat}
      (committed : state.producer = .committed) (trims : state.trims dropped = true) :
      Stepped state (.appendCompletion timestamp dropped)
        { state.add (state.nextMessage (completionChunk timestamp)) dropped with
          producer := .completing (state.nextMessage (completionChunk timestamp)) }
  | expire (completed : state.producer = .completed) :
      Stepped state .expire { state with producer := .expiring }
  | streamExpires (expiring : state.producer = .expiring) :
      Stepped state .streamExpires { state with producer := .expired, stream := [] }
  | deliver {message : Message} {rest : List Message} (oldest : state.channel = message :: rest) :
      Stepped state .deliver ((state.receive message rest).forward message)
  | connect (unconnected : state.socket = .unconnected) :
      Stepped state .connect
        { state with socket := .openSocket, viewer := .select, missed := state.received }
  | select (selecting : state.viewer = .select) :
      Stepped state .select { state with viewer := .xrange state.status }
  | xrange {status : SubmissionStatus} (reading : state.viewer = .xrange status) :
      Stepped state .xrange (state.readStream status)
  | replay {status : SubmissionStatus} {entries : List Message}
      (replies : state.viewer = .replay status entries) :
      Stepped state .replay (state.finishReplay status entries)
  | rejects (awaits : state.viewer = .select ∨ ∃ status, state.viewer = .xrange status) :
      Stepped state .rejects { state.close 1011 with viewer := .returned }
  | timer {timers : Nat} (pending : state.timers = timers + 1) :
      Stepped state .timer { state.close 1000 with timers }
  | leave (isOpen : state.socket = .openSocket) : Stepped state .leave { state with socket := .left }

/-- Nothing else comes of a step. -/
theorem step_cases {state next : StreamSession} {label : StreamLabel}
    (stepped : state.step label = some next) : Stepped state label next := by
  -- The guard of each label is the match that `step` makes.
  cases label with
  | claim =>
    simp only [step] at stepped
    split at stepped
    · next waiting => obtain rfl := Option.some.inj stepped; exact .claim waiting
    · simp at stepped
  | append chunk dropped =>
    simp only [step] at stepped
    repeat' split at stepped
    · next printing allowed =>
      obtain ⟨printed, trims⟩ := Bool.and_eq_true_iff.mp allowed
      obtain rfl := Option.some.inj stepped
      exact .append printing printed trims
    all_goals simp at stepped
  | publish =>
    simp only [step] at stepped
    split at stepped
    · next publishing => obtain rfl := Option.some.inj stepped; exact .publish publishing
    · next completing => obtain rfl := Option.some.inj stepped; exact .publishCompletion completing
    · simp at stepped
  | commit status =>
    simp only [step] at stepped
    repeat' split at stepped
    · next printing terminal => obtain rfl := Option.some.inj stepped; exact .commit printing terminal
    all_goals simp at stepped
  | appendCompletion timestamp dropped =>
    simp only [step] at stepped
    repeat' split at stepped
    · next committed trims =>
      obtain rfl := Option.some.inj stepped
      exact .appendCompletion committed trims
    all_goals simp at stepped
  | expire =>
    simp only [step] at stepped
    split at stepped
    · next completed => obtain rfl := Option.some.inj stepped; exact .expire completed
    · simp at stepped
  | streamExpires =>
    simp only [step] at stepped
    split at stepped
    · next expiring => obtain rfl := Option.some.inj stepped; exact .streamExpires expiring
    · simp at stepped
  | deliver =>
    simp only [step] at stepped
    split at stepped
    · next oldest => obtain rfl := Option.some.inj stepped; exact .deliver oldest
    · simp at stepped
  | connect =>
    simp only [step] at stepped
    split at stepped
    · next unconnected => obtain rfl := Option.some.inj stepped; exact .connect unconnected
    · simp at stepped
  | select =>
    simp only [step] at stepped
    split at stepped
    · next selecting => obtain rfl := Option.some.inj stepped; exact .select selecting
    · simp at stepped
  | xrange =>
    simp only [step] at stepped
    split at stepped
    · next reading => obtain rfl := Option.some.inj stepped; exact .xrange reading
    · simp at stepped
  | replay =>
    simp only [step] at stepped
    split at stepped
    · next replies => obtain rfl := Option.some.inj stepped; exact .replay replies
    · simp at stepped
  | rejects =>
    simp only [step] at stepped
    split at stepped
    · next selecting => obtain rfl := Option.some.inj stepped; exact .rejects (.inl selecting)
    · next reading => obtain rfl := Option.some.inj stepped; exact .rejects (.inr ⟨_, reading⟩)
    · simp at stepped
  | timer =>
    simp only [step] at stepped
    split at stepped
    · next pending => obtain rfl := Option.some.inj stepped; exact .timer pending
    · simp at stepped
  | leave =>
    simp only [step] at stepped
    split at stepped
    · next isOpen => obtain rfl := Option.some.inj stepped; exact .leave isOpen
    · simp at stepped

end StreamSession

/-- One client of one job as a labelled machine. -/
def streamSession : Machine StreamSession StreamLabel where
  step := StreamSession.step

end CodeExecution

import CodeExecution.Services.Messages

/-! The lists of Redis as texts: each service makes the texts it sends of texts it has received. -/

namespace CodeExecution

/-- The lists, and the texts in the variables of workers and recoveries. -/
structure Wire where
  pending : List Raw
  processing : WorkerId → List Raw
  deadLetter : List Raw
  /-- `rawJob` of a worker. -/
  rawJob : WorkerId → Option Raw
  /-- `rawJobs` of a scan's recovery. -/
  rawJobs : LockId → List Raw

/-- A command that changes a list. -/
inductive ListCommand where
  /-- Another command, or none. -/
  | none
  /-- `LPUSH jobs:queue:pending`. -/
  | push (raw : Raw)
  /-- `BRPOPLPUSH`. -/
  | pop (worker : WorkerId)
  /-- `LREM jobs:queue:processing:{workerId} 1`. -/
  | remove (worker : WorkerId) (raw : Raw)
  /-- `DEL jobs:queue:processing:{workerId}`. -/
  | delete (worker : WorkerId)
  /-- `LPUSH jobs:queue:dead-letter`. -/
  | sendLetter (raw : Raw)

namespace Wire

/-- Nothing is in Redis, and nothing has been received. -/
def initial : Wire where
  pending := []
  processing := fun _ => []
  deadLetter := []
  rawJob := fun _ => none
  rawJobs := fun _ => []

/-- The lists after a command. -/
def execute (wire : Wire) : ListCommand → Wire
  | .none => wire
  | .push raw => { wire with pending := raw :: wire.pending }
  | .pop worker =>
    match wire.pending.getLast? with
    | none => wire
    | some raw =>
      { wire with
        pending := wire.pending.dropLast
        processing := Function.update wire.processing worker (raw :: wire.processing worker) }
  | .remove worker raw =>
    { wire with
      processing := Function.update wire.processing worker ((wire.processing worker).erase raw) }
  | .delete worker => { wire with processing := Function.update wire.processing worker [] }
  | .sendLetter raw => { wire with deadLetter := raw :: wire.deadLetter }

end Wire

/-! ## The commands of each service -/

/-- The command of a handler's call. -/
def PostPoint.command : PostPoint → ListCommand
  | .enqueue payload => .push payload.raw
  | .idle | .insert _ | .depth _ | .markFailed _ | .insertFailure _ | .answered _ | .crashed => .none

/-- The command of a worker's call, which has the text `rawJob` only. -/
def WorkerPoint.command (worker : WorkerId) (rawJob : Option Raw) : WorkerPoint → ListCommand
  | .pop => .pop worker
  | .repush _ => rawJob.elim .none .push
  | .discard _ | .acknowledge _ | .requeue .remove _ | .exhausted _ =>
    rawJob.elim .none (.remove worker)
  | .requeue .push _ => (rawJob.bind requeueRaw).elim .none .push
  | .deadLetterPush letter =>
    (rawJob.bind fun raw => letterRaw raw letter.failedAt letter.reason).elim .none .sendLetter
  | .claim _ | .statusCheck _ | .launch _ | .executing _ | .persist _ _ _ | .complete _ _ _
  | .requeue .update _ | .deadLetter _ _ | .deadLetterComplete _ _ _ => .none

/-- The command of a recovery's call, which has the texts `rawJobs` and its position in them. -/
def RecoverPoint.command (worker : WorkerId) (rawJobs : List Raw) : RecoverPoint → ListCommand
  | .push cursor => (rawJobs[cursor.visited.length]?.bind requeueRaw).elim .none .push
  | .deadLetterPush letter cursor =>
    (rawJobs[cursor.visited.length]?.bind fun raw =>
      letterRaw raw letter.failedAt letter.reason).elim .none .sendLetter
  | .delete _ => .delete worker
  | .list | .check _ | .reset _ | .deadLetter _ _ _ => .none

/-- The command of a scan's call. -/
def ScanPoint.command (rawJobs : List Raw) : ScanPoint → ListCommand
  | .recover point worker _ => point.command worker rawJobs
  | .idle | .acquire | .detect | .release | .finished => .none

/-- The command of a call of the startup recovery. -/
def StartupPoint.command : StartupPoint → ListCommand
  | .rehydrate row _ => .push (payloadOfRow row).raw
  | .idle | .resetRunning | .checkDepth | .selectPending | .finished | .failed => .none

namespace Wire

/-- The command that a label sends. -/
def command (wire : Wire) (state : Platform) : Label → ListCommand
  | .gateway jobId outcome => if outcome.applied then (state.posts jobId).command else .none
  | .worker worker outcome =>
    match state.workers worker with
    | .running point => if outcome.applied then point.command worker (wire.rawJob worker) else .none
    | .absent | .crashed => .none
  | .scan lockId outcome =>
    if outcome.applied then (state.scans lockId).command (wire.rawJobs lockId) else .none
  | .startup outcome => if outcome.applied then state.startup.command else .none
  | _ => .none

/-- The texts that arrive with a reply: what BRPOPLPUSH has moved, and what LRANGE lists. -/
def receive (wire : Wire) (state : Platform) : Label → Wire
  | .worker worker outcome =>
    if state.workers worker = .running .pop then
      -- Each iteration begins with a variable that is null.
      { wire with
        rawJob := Function.update wire.rawJob worker
          (if outcome = .resolves then wire.pending.getLast? else none) }
    else wire
  | .scan lockId .resolves =>
    match state.scans lockId with
    | .recover .list worker _ =>
      { wire with rawJobs := Function.update wire.rawJobs lockId (wire.processing worker) }
    | _ => wire
  | _ => wire

/-- The texts after a step of the platform. -/
def follow (state : Platform) (label : Label) (wire : Wire) : Wire :=
  -- A reply is made of the lists before the command.
  (wire.receive state label).execute (wire.command state label)

end Wire

/-- The platform, whose lists are kept as texts too. -/
abbrev wiredPlatform : Machine (Platform × Wire) Label := platform.tracking Wire.follow

end CodeExecution

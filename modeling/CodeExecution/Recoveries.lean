import CodeExecution.Effects
import CodeExecution.Settings

/-! What an observer of the scans notices: how each element of a recovered list is dealt with. -/

namespace CodeExecution

/-- What a recovery does about one element. -/
inductive RecoveryAct where
  /-- Its job was found terminal. -/
  | skipped
  /-- The row was set to PENDING for the next attempt. -/
  | reset
  /-- The payload of the next attempt was pushed to the pending list. -/
  | requeued
  /-- A letter was pushed to the dead-letter list. -/
  | deadLettered
  deriving DecidableEq, Repr

/-- One act of a scan on the element at a position of a worker's list. -/
structure RecoveryNotice where
  lockId : LockId
  worker : WorkerId
  position : Nat
  job : QueuePayload
  act : RecoveryAct
  deriving DecidableEq, Repr

/-- The act that the next call of a recovery is, with the iteration it belongs to. -/
def RecoverPoint.act? (store : Store) : RecoverPoint → Option (Cursor × RecoveryAct)
  | .check cursor =>
    if isTerminalStatus (store.statusOf cursor.job.jobId) then some (cursor, .skipped) else none
  | .reset cursor => some (cursor, .reset)
  | .push cursor => some (cursor, .requeued)
  | .deadLetterPush _ cursor => some (cursor, .deadLettered)
  | .list | .deadLetter _ _ _ | .delete _ => none

/-- The notice of an act, at the position of the iteration. -/
def Cursor.notice (cursor : Cursor) (lockId : LockId) (worker : WorkerId) (act : RecoveryAct) :
    RecoveryNotice where
  lockId := lockId
  worker := worker
  -- The loop has finished with exactly the elements before the current one.
  position := cursor.visited.length
  job := cursor.job
  act := act

/-- Whether an act comes about when its call ends this way. -/
def CallOutcome.shows (act : RecoveryAct) : CallOutcome → Bool
  | .resolves => true
  -- A lost reply does not undo a write, but nothing is skipped without the status.
  | .rejects applied => applied && act ≠ .skipped

/-- What is noticed of the recoveries at a step. -/
def recoveries (state : Platform) : Label → List RecoveryNotice
  | .scan lockId outcome =>
    match state.scans lockId with
    | .recover point worker _ =>
      match point.act? state.store with
      | some (cursor, act) => if outcome.shows act then [cursor.notice lockId worker act] else []
      | none => []
    | .idle | .acquire | .detect | .release | .finished => []
  | _ => []

/-- The platform with everything that the recoveries have done so far. -/
abbrev recordedPlatform : Machine (Platform × List RecoveryNotice) Label :=
  platform.recording recoveries

/-- A step is noticed once at most. -/
theorem recoveries_cases (state : Platform) (label : Label) :
    recoveries state label = [] ∨ ∃ notice, recoveries state label = [notice] := by
  -- A step is one call of one scan.
  unfold recoveries
  split
  · split
    · split
      · split
        · exact .inr ⟨_, rfl⟩
        · exact .inl rfl
      · exact .inl rfl
    all_goals exact .inl rfl
  · exact .inl rfl

/-- A notice names the scan that acts, and the iteration it is at. -/
theorem mem_recoveries {state : Platform} {label : Label} {notice : RecoveryNotice}
    (noticed : notice ∈ recoveries state label) :
    ∃ lockId outcome point worker rest cursor act, label = .scan lockId outcome ∧
      state.scans lockId = .recover point worker rest ∧
      point.act? state.store = some (cursor, act) ∧ notice = cursor.notice lockId worker act := by
  -- Only the calls of a recovery are noticed.
  cases label with
  | scan lockId outcome =>
    simp only [recoveries] at noticed
    split at noticed
    · next point worker rest recovers =>
      split at noticed
      · next cursor act acts =>
        obtain ⟨_, same⟩ : outcome.shows act = true ∧ notice = cursor.notice lockId worker act := by
          simpa using noticed
        exact ⟨lockId, outcome, point, worker, rest, cursor, act, rfl, recovers, acts, same⟩
      · simp at noticed
    all_goals simp at noticed
  | _ => simp [recoveries] at noticed

/-! ## Repeated scans -/

/-- Scans come one after another: the lock key expires only once the scan that held it is gone. -/
def sequential (state : Platform) : Label → Bool
  | .lockExpires => abandonedLock state
  | _ => true

/-- The element of an iteration has been requeued before, or its job has been by another scan. -/
def Cursor.requeuedBy (cursor : Cursor) (lockId : LockId) (worker : WorkerId)
    (earlier : RecoveryNotice) : Bool :=
  earlier.worker = worker && earlier.act = .requeued &&
    (earlier.position = cursor.visited.length ||
      (earlier.job.jobId = cursor.job.jobId && earlier.lockId ≠ lockId))

/-- A scan that comes to an element which has been requeued before finds its job terminal. -/
def resumesFinished (dead : WorkerId) (recorded : Platform × List RecoveryNotice) : Label → Bool
  | .scan lockId .resolves =>
    match recorded.1.scans lockId with
    | .recover (.check cursor) worker _ =>
      worker ≠ dead || jobClosed recorded.1 cursor.job.jobId ||
        recorded.2.all fun earlier => !cursor.requeuedBy lockId dead earlier
    | _ => true
  | _ => true

/-- How often the element at a position of a worker's list has been requeued. -/
def requeuesAt (worker : WorkerId) (position : Nat) (history : List RecoveryNotice) : Nat :=
  history.countP fun notice =>
    notice.worker = worker && notice.position = position && notice.act = .requeued

/-! ## Beside a live owner -/

/-- The payload that a letter was written for. -/
def DLQPayload.payload (letter : DLQPayload) : QueuePayload where
  jobId := letter.jobId
  userId := letter.userId
  code := letter.code
  language := letter.language
  retryCount := letter.retryCount
  submittedAt := letter.submittedAt

/-- One element of a worker's list, from the LRANGE of a recovery on. -/
structure Element where
  entry : Entry
  /-- Its position in what the LRANGE has read, unless it has come since. -/
  position? : Option Nat
  /-- Its worker has pushed its payload back to the pending list since. -/
  pushedBack : Bool
  deriving DecidableEq, Repr

/-- The elements that an LRANGE reads. -/
def elementsRead (entries : List Entry) : List Element :=
  entries.mapIdx fun position entry => { entry, position? := some position, pushedBack := false }

/-- The job that a worker pushes back to the pending list at a step, which LREM will remove next. -/
def pushesBack? (worker : WorkerId) (state : Platform) : Label → Option QueuePayload
  | .worker mover outcome =>
    match state.workers worker with
    | .running (.repush job) | .running (.requeue .push job) =>
      if mover = worker && outcome.applied then some job else none
    | _ => none
  | _ => none

/-- The element that LREM would remove is one that has been pushed back. -/
def markPushedBack (entry : Entry) : List Element → List Element
  | [] => []
  | element :: rest =>
    if element.entry = entry then { element with pushedBack := true } :: rest
    else element :: markPushedBack entry rest

/-- What becomes of the elements of a worker's list at a step. -/
def trackElements (worker : WorkerId) (state : Platform) (label : Label) (elements : List Element) :
    List Element :=
  match state.effect label with
  | .pop owner entry =>
    if owner = worker then { entry, position? := none, pushedBack := false } :: elements else elements
  -- LREM removes the first of equal elements.
  | .remove owner job =>
    if owner = worker then elements.eraseP fun element => element.entry = .payload job else elements
  | .delete owner => if owner = worker then [] else elements
  | _ =>
    match pushesBack? worker state label with
    | some job => markPushedBack (.payload job) elements
    | none => elements

/-- The jobs that a worker has popped since the LRANGE, and has neither removed nor pushed back. -/
def unfinished (elements : List Element) : List QueuePayload :=
  elements.filterMap fun element =>
    match element.entry, element.position? with
    | .payload job, none => if element.pushedBack then none else some job
    | _, _ => none

/-- A recovery of the worker's list has skipped, requeued or dead-lettered the element it read there. -/
def recoveredAt (history : List RecoveryNotice) (worker : WorkerId) (position : Nat) : Prop :=
  ∃ notice ∈ history, notice.worker = worker ∧ notice.position = position ∧ notice.act ≠ .reset

/-- An element may be deleted: it was recovered, its worker has pushed it back, or its job is over. -/
def Element.Handled (element : Element) (state : Platform) (history : List RecoveryNotice)
    (worker : WorkerId) : Prop :=
  ∀ job, element.entry = .payload job →
    (∃ position ∈ element.position?, recoveredAt history worker position) ∨
    element.pushedBack = true ∨ jobClosed state job.jobId = true

/-- The worker takes up no job. -/
def popsNothing (worker : WorkerId) (state : Platform) (label : Label) : Prop :=
  ∀ entry, state.effect label ≠ .pop worker entry

/-- Workers, handlers and one scan act, and no second recovery. -/
def besideWorkers (lockId : LockId) : Label → Bool
  | .scanStart other | .scan other _ | .detect other _ _ | .scanDies other => other = lockId
  | .startupBegin | .startup _ | .startupSelect _ => false
  | .clock _ | .post _ _ _ _ | .gateway _ _ | .gatewayCrash _ | .workerStart _ | .worker _ _
  | .launch _ | .sandbox _ _ | .workerCrash _ | .lockExpires => true

end CodeExecution

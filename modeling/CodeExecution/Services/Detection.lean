import CodeExecution.Library.CursorScan
import CodeExecution.Services.Platform

/-! The detection of dead workers: heartbeats, and the two SCAN loops of `runReaperScan`. -/

namespace CodeExecution

/-! ## Keys -/

/-- `QUEUE_KEYS.PROCESSING`. -/
def processingKey (worker : WorkerId) : String := "jobs:queue:processing:" ++ worker

/-- `QUEUE_KEYS.HEARTBEAT`. -/
def heartbeatKey (worker : WorkerId) : String := "worker:heartbeat:" ++ worker

/-- `text.replace(pattern, '')` with a string as its pattern: the first occurrence is removed. -/
def removeFirst (pattern : List Char) : List Char → List Char
  | [] => []
  | char :: rest =>
    if pattern.isPrefixOf (char :: rest) then (char :: rest).drop pattern.length
    else char :: removeFirst pattern rest

def extractWorkerIdFromQueue (queueKey : String) : WorkerId :=
  .ofList (removeFirst "jobs:queue:processing:".toList queueKey.toList)

def extractWorkerIdFromHeartbeat (heartbeatKey : String) : WorkerId :=
  .ofList (removeFirst "worker:heartbeat:".toList heartbeatKey.toList)

/-- A pattern in front is the first occurrence. -/
theorem removeFirst_append {pattern : List Char} (filled : pattern ≠ []) (rest : List Char) :
    removeFirst pattern (pattern ++ rest) = rest := by
  obtain ⟨first, others, rfl⟩ := List.exists_cons_of_ne_nil filled
  have leads : (first :: others).isPrefixOf (first :: (others ++ rest)) = true := by
    rw [← List.cons_append, List.isPrefixOf_iff_prefix]
    exact List.prefix_append _ _
  rw [List.cons_append, removeFirst, if_pos leads, ← List.cons_append, List.drop_left]

/-- What stands behind such a pattern is read back. -/
theorem ofList_removeFirst {pattern : String} (filled : pattern.toList ≠ []) (rest : String) :
    String.ofList (removeFirst pattern.toList (pattern ++ rest).toList) = rest := by
  rw [String.toList_append, removeFirst_append filled, String.ofList_toList]

/-- The identifier is read back from the key of a list, whatever it is. -/
@[simp] theorem extractWorkerIdFromQueue_key (worker : WorkerId) :
    extractWorkerIdFromQueue (processingKey worker) = worker := by
  unfold extractWorkerIdFromQueue processingKey
  exact ofList_removeFirst (by simp) worker

/-- So it is from the key of a heartbeat. -/
@[simp] theorem extractWorkerIdFromHeartbeat_key (worker : WorkerId) :
    extractWorkerIdFromHeartbeat (heartbeatKey worker) = worker := by
  unfold extractWorkerIdFromHeartbeat heartbeatKey
  exact ofList_removeFirst (by simp) worker

/-! ## The loops of `scanKeys` -/

/-- The iteration that a scan is in, if its first SCAN has been answered. -/
inductive ScanLoops where
  /-- The iteration over `jobs:queue:processing:*`. -/
  | queues (iteration : Option (CursorScan String))
  /-- The iteration over `worker:heartbeat:*`. -/
  | heartbeats (processingQueueKeys : List String) (iteration : Option (CursorScan String))

namespace ScanLoops

/-- The keys of Redis have changed. -/
def watch (queues beats : Set String) : ScanLoops → ScanLoops
  | .queues iteration => .queues (iteration.map fun scan => scan.watch queues)
  | .heartbeats keys iteration => .heartbeats keys (iteration.map fun scan => scan.watch beats)

/-- The iteration that the next SCAN belongs to; the first one begins it. -/
def iteration (queues beats : Set String) : ScanLoops → CursorScan String
  | .queues iteration => iteration.getD (.start queues)
  | .heartbeats _ iteration => iteration.getD (.start beats)

/-- A SCAN returns some keys, and cursor 0 with the last ones. -/
def page (queues beats : Set String) (found : List String) (last : Bool) (loops : ScanLoops) :
    ScanLoops :=
  let scan := (loops.iteration queues beats).add found
  match loops with
  | .queues _ => if last then .heartbeats scan.found none else .queues (some scan)
  | .heartbeats keys _ => .heartbeats keys (some scan)

/-- The keys of the lists, once the loop over them has ended. -/
def queueKeys? : ScanLoops → Option (List String)
  | .queues _ => none
  | .heartbeats keys _ => some keys

end ScanLoops

/-! ## The platform with its heartbeats -/

/-- The platform, the keys that workers refresh, and the loops of the scans. -/
structure Detection where
  platform : Platform
  /-- The key `worker:heartbeat:{workerId}` exists. -/
  heartbeats : WorkerId → Bool
  /-- The first `sendHeartbeat` of a worker has settled. -/
  announced : WorkerId → Bool
  loops : LockId → ScanLoops

/-- One thing that happens on it. -/
inductive DetectionLabel where
  /-- Something other than the detection. -/
  | platform (label : Label)
  /-- `sendHeartbeat` of a worker, which catches its errors. -/
  | heartbeat (worker : WorkerId) (outcome : CallOutcome)
  /-- A heartbeat reaches its time to live. -/
  | heartbeatExpires (worker : WorkerId)
  /-- A SCAN of a scan's current loop is answered. -/
  | scanPage (lockId : LockId) (found : List String) (last : Bool)
  deriving DecidableEq

namespace Detection

/-- No worker has sent a heartbeat. -/
def initial : Detection where
  platform := .initial
  heartbeats := fun _ => false
  announced := fun _ => false
  loops := fun _ => .queues none

variable (state : Detection)

/-- The keys that match `jobs:queue:processing:*`: an empty list has none. -/
def processingKeys : Set String :=
  {key | ∃ worker, state.platform.store.processing worker ≠ [] ∧ key = processingKey worker}

/-- The keys that match `worker:heartbeat:*`. -/
def heartbeatKeys : Set String :=
  {key | ∃ worker, state.heartbeats worker = true ∧ key = heartbeatKey worker}

/-- The iterations that the next pages of a scan belong to. -/
def iteration (lockId : LockId) : CursorScan String :=
  (state.loops lockId).iteration state.processingKeys state.heartbeatKeys

/-- The scan has its page. -/
def withPage (lockId : LockId) (found : List String) (last : Bool) : Detection :=
  { state with
    loops := Function.update state.loops lockId
      ((state.loops lockId).page state.processingKeys state.heartbeatKeys found last) }

/-- What a label does, apart from the keys that come and go by it. -/
def act : DetectionLabel → Option Detection
  | .platform label =>
    match label with
    -- The dead workers are those of the loops.
    | .detect _ _ _ => none
    -- `processQueue` sends a heartbeat before it starts its loop.
    | .workerStart worker =>
      if state.announced worker then
        (state.platform.step (.workerStart worker)).map fun platform => { state with platform }
      else none
    | label => (state.platform.step label).map fun platform => { state with platform }
  | .heartbeat worker outcome =>
    match state.platform.workers worker with
    | .crashed => none
    | _ => some { state with
        heartbeats :=
          if outcome.applied then Function.update state.heartbeats worker true
          else state.heartbeats
        announced := Function.update state.announced worker true }
  | .heartbeatExpires worker =>
    some { state with heartbeats := Function.update state.heartbeats worker false }
  | .scanPage lockId found last =>
    match state.platform.scans lockId with
    | .detect =>
      match (state.loops lockId).queueKeys?, last with
      | some queueKeys, true =>
        -- Both loops have ended, and the two sets are compared.
        (state.platform.step (.detect lockId (queueKeys.map extractWorkerIdFromQueue)
          (((state.iteration lockId).add found).found.map extractWorkerIdFromHeartbeat))).map
            fun platform => { state.withPage lockId found last with platform }
      | _, _ => some (state.withPage lockId found last)
    | _ => none

/-- All iterations see the keys as they are now. -/
def watch : Detection :=
  { state with
    loops := fun lockId =>
      (state.loops lockId).watch state.processingKeys state.heartbeatKeys }

end Detection

/-- The machine of the platform with its heartbeats. -/
def detection : Machine Detection DetectionLabel where
  step state label := (state.act label).map Detection.watch

/-- Redis answers a SCAN as its documentation promises. -/
def scanGuarantee (state : Detection) : DetectionLabel → Prop
  | .scanPage lockId found last => (state.iteration lockId).Returns found last
  | .platform _ | .heartbeat _ _ | .heartbeatExpires _ => True

end CodeExecution

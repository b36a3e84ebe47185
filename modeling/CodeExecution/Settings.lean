import Mathlib.Data.List.Dedup
import CodeExecution.Services.Platform

/-! The settings that runs are taken in: which failures may happen, and which may not. -/

namespace CodeExecution

/-- The dead workers a scan is told of have all really crashed. -/
def truthfulDetection (state : Platform) (processingWorkerIds aliveWorkerIds : List WorkerId) : Bool :=
  (deadWorkerIds processingWorkerIds aliveWorkerIds).all fun worker =>
    state.workers worker = .crashed

/-- The scan that owns the lock key is gone, if there is one. -/
def abandonedLock (state : Platform) : Bool :=
  state.store.reaperLock.all fun owner => !(state.scans owner).critical

/--
Any call may reject, any sandbox may fail to launch, and any worker or handler may die.

One monitor scans for dead workers and is not restarted.
It is never wrong about a death, and no scan outlives its lock.
The code ensures neither: a heartbeat may lapse, and the lock is not renewed while a scan goes on.
-/
def supervised (state : Platform) : Label → Bool
  | .detect _ processingWorkerIds aliveWorkerIds =>
    truthfulDetection state processingWorkerIds aliveWorkerIds
  | .lockExpires => abandonedLock state
  | .scanDies _ | .startupBegin | .startup _ | .startupSelect _ => false
  | .clock _ | .post _ _ _ _ | .gateway _ _ | .gatewayCrash _ | .workerStart _ | .worker _ _
  | .launch _ | .sandbox _ _ | .workerCrash _ | .scanStart _ | .scan _ _ => true

/-- Workers may crash and sandboxes may fail to launch, but every call resolves. -/
def launchFaults (state : Platform) : Label → Bool
  | .gateway _ outcome | .worker _ outcome | .scan _ outcome => outcome = .resolves
  | .gatewayCrash _ => false
  | label => supervised state label

/-- Workers may crash between any two calls, every call resolves, and every sandbox ends. -/
def crashStop (state : Platform) : Label → Bool
  | .sandbox _ result => result.isSome
  | label => launchFaults state label

/-- The same where scans take any time: the lock's TTL may run out while its scan is still at work. -/
def untimedCrashStop (state : Platform) : Label → Bool
  | .lockExpires => true
  | label => crashStop state label

/-- No scan outlives its lock, which nothing renews: the TTL runs out only once that scan is gone. -/
def lockOutlasts (state : Platform) : Label → Bool
  | .lockExpires => abandonedLock state
  | _ => true

/-- The crash-stop setting is the one with scans of any length in which no lock runs out under one. -/
theorem crashStop_iff {state : Platform} {label : Label} :
    crashStop state label = true ↔
      untimedCrashStop state label = true ∧ lockOutlasts state label = true := by
  -- Only the expiry of the lock is restricted in one and free in the other.
  cases label <;> simp [crashStop, launchFaults, supervised, untimedCrashStop, lockOutlasts]

/-- The job has a terminal status. -/
def jobClosed (state : Platform) (jobId : JobId) : Bool :=
  isTerminalStatus (state.store.statusOf jobId)

/-- Every job of these elements has a terminal status. -/
def allClosed (state : Platform) (entries : List Entry) : Bool :=
  (jobsIn entries).all (jobClosed state)

/-- No worker dies between pushing the next copy of a job and removing the old one. -/
def cleanCrash (state : Platform) (worker : WorkerId) : Bool :=
  match state.workers worker with
  | .running (.requeue .remove job) => jobClosed state job.jobId
  | _ => true

/-- Sandboxes may fail and workers may crash, but not between the two copies of a requeued job. -/
def crashesCleanly (state : Platform) : Label → Bool
  | .workerCrash worker => cleanCrash state worker
  | label => launchFaults state label

/--
No failure falls between handing a job on and the acknowledgement that removes its old element.

A job is handed on when its result is committed or its next copy is pushed.
Where the job is over by then, a lost acknowledgement leaves only a harmless element behind.
-/
def cleanFailure (state : Platform) : Label → Bool
  | .gateway jobId (.rejects applied) =>
    match state.posts jobId with
    | .enqueue _ => !applied
    -- The job is on the pending list, and the catch block will overwrite its status.
    | .depth _ => state.store.statusOf jobId = some .failed
    | _ => true
  | .worker worker (.rejects applied) =>
    match state.workers worker with
    | .running (.persist .commit _ _) | .running (.requeue .push _) => !applied
    -- The result is committed, and the catch block will requeue the job.
    | .running (.acknowledge _) | .running (.complete _ _ _) => false
    | .running (.requeue .remove job) => applied || jobClosed state job.jobId
    | _ => true
  | .workerCrash worker => cleanCrash state worker
  | .scan lockId (.rejects applied) =>
    match state.scans lockId with
    | .recover (.push cursor) _ _ => !applied && allClosed state cursor.visited
    | .recover (.delete visited) _ _ => applied || allClosed state visited
    -- The visited elements stay in the dead list, and the next scan reads them again.
    | .recover (.check cursor) _ _ | .recover (.reset cursor) _ _
    | .recover (.deadLetter _ _ cursor) _ _ | .recover (.deadLetterPush _ cursor) _ _ =>
      allClosed state cursor.visited
    | _ => true
  | _ => true

/-! ## What an observer of the workers notices -/

/-- The two things that count for the attempts at a job. -/
inductive Notice where
  /-- A worker starts the sandbox of a job. -/
  | sandboxStarted (jobId : JobId)
  /-- A worker crashes with an element of the job in its processing list. -/
  | crashedHolding (worker : WorkerId) (jobId : JobId)
  deriving DecidableEq, Repr

/-- What is noticed at a step. -/
def notices (state : Platform) : Label → List Notice
  | .launch worker =>
    match state.workers worker with
    | .running (.launch job) => [.sandboxStarted job.jobId]
    | _ => []
  -- Each crashed worker counts once for each job it was holding.
  | .workerCrash worker =>
    (jobsIn (state.store.processing worker)).dedup.map (.crashedHolding worker)
  | _ => []

/-- How often the sandbox of a job was started. -/
def startsOf (jobId : JobId) (noticed : List Notice) : Nat :=
  noticed.count (.sandboxStarted jobId)

/-- How many workers crashed while they were holding a job. -/
def crashesOf (jobId : JobId) (noticed : List Notice) : Nat :=
  noticed.countP fun
    | .crashedHolding _ held => held = jobId
    | .sandboxStarted _ => false

@[simp] theorem startsOf_nil (jobId : JobId) : startsOf jobId [] = 0 := rfl

@[simp] theorem crashesOf_nil (jobId : JobId) : crashesOf jobId [] = 0 := rfl

@[simp] theorem startsOf_append (jobId : JobId) (earlier later : List Notice) :
    startsOf jobId (earlier ++ later) = startsOf jobId earlier + startsOf jobId later :=
  List.count_append

@[simp] theorem crashesOf_append (jobId : JobId) (earlier later : List Notice) :
    crashesOf jobId (earlier ++ later) = crashesOf jobId earlier + crashesOf jobId later :=
  List.countP_append

/-- A crash counts once for a job the worker was holding, and not at all for any other. -/
theorem crashesOf_crash (jobId : JobId) (worker : WorkerId) (held : List JobId) :
    crashesOf jobId (held.dedup.map (.crashedHolding worker)) = if jobId ∈ held then 1 else 0 := by
  -- Without repetitions, a job is counted as often as it occurs.
  have counted : crashesOf jobId (held.dedup.map (.crashedHolding worker)) =
      held.dedup.count jobId := by
    rw [crashesOf, List.countP_map, List.count]
    congr 1
  rw [counted, List.count_dedup]

/-- A crash starts no sandbox. -/
theorem startsOf_crash (jobId : JobId) (worker : WorkerId) (held : List JobId) :
    startsOf jobId (held.dedup.map (.crashedHolding worker)) = 0 := by
  -- The two notices differ.
  simp [startsOf, List.count_eq_zero]

/-! ## Label sequences that scenarios are made of -/

/-- The program `1`. -/
def oneLiner : ClientText := [0x31]

/-- A request for a one-line program, answered once it is enqueued. -/
def submission (jobId : JobId) : List Label :=
  .post jobId oneLiner .python none :: List.replicate 3 (.gateway jobId .resolves)

/-- The payload that such a request leads to, as long as the clocks stand still. -/
def submittedPayload (jobId : JobId) : QueuePayload where
  jobId := jobId
  userId := .absent
  code := oneLiner
  language := .python
  retryCount := 0
  submittedAt := 0

/-- Calls of a worker that all resolve. -/
def workerCalls (worker : WorkerId) (count : Nat) : List Label :=
  List.replicate count (.worker worker .resolves)

/-- A worker starts, takes the oldest pending job, claims it and starts its sandbox. -/
def takingUp (worker : WorkerId) : List Label :=
  .workerStart worker :: workerCalls worker 2 ++ [.launch worker]

/-- Calls of a scan that all resolve. -/
def scanCalls (lockId : LockId) (count : Nat) : List Label :=
  List.replicate count (.scan lockId .resolves)

/-- A scan takes the lock and finds one dead worker. -/
def detecting (lockId : LockId) (worker : WorkerId) : List Label :=
  [.scanStart lockId, .scan lockId .resolves, .detect lockId [worker] []]

/-- A sandbox that ends well. -/
def cleanExit : SandboxResult where
  exitCode := some 0
  stdout := ""
  stderr := ""
  timedOut := false
  oomKilled := false
  outputTruncated := false
  streamOutputLimitExceeded := false
  executionTimeMs := 1
  memoryUsedBytes := none

end CodeExecution

import CodeExecution.Library.Machine
import CodeExecution.Services.Gateway
import CodeExecution.Services.Reaper

/-! The platform: all handlers, workers and scans over one store, interleaved call by call. -/

namespace CodeExecution

/-- A worker process: not started yet, running, or gone for good. -/
inductive WorkerState where
  | absent
  | running (point : WorkerPoint)
  | crashed
  deriving DecidableEq, Repr

/--
The state of the whole platform.

Handlers are keyed by the job id they drew, and scans by their lock id, so neither is used twice.
-/
structure Platform where
  store : Store
  posts : JobId → PostPoint
  workers : WorkerId → WorkerState
  scans : LockId → ScanPoint
  startup : StartupPoint

/-- Nothing submitted, no worker started, and a monitor that has not scanned yet. -/
def Platform.initial : Platform where
  store := .empty
  posts := fun _ => .idle
  workers := fun _ => .absent
  scans := fun _ => .idle
  startup := .idle

/-- One thing that happens on the platform. -/
inductive Label where
  /-- The clocks are read at some later point. -/
  | clock (now : Timestamp)
  /-- A request arrives, and its handler draws a job id. -/
  | post (jobId : JobId) (code : ClientText) (language : Language) (userId : Option ClientText)
  /-- The next awaited call of a handler. -/
  | gateway (jobId : JobId) (outcome : CallOutcome)
  /-- The process of a handler dies. -/
  | gatewayCrash (jobId : JobId)
  /-- A worker starts its loop. -/
  | workerStart (worker : WorkerId)
  /-- The next awaited call of a worker. -/
  | worker (worker : WorkerId) (outcome : CallOutcome)
  /-- A worker starts the sandbox of the job it has claimed. -/
  | launch (worker : WorkerId)
  /-- `runInSandbox` resolves with a result, or rejects. -/
  | sandbox (worker : WorkerId) (result : Option SandboxResult)
  /-- A worker dies. -/
  | workerCrash (worker : WorkerId)
  /-- `runReaperScan` is called. -/
  | scanStart (lockId : LockId)
  /-- The next awaited call of a scan. -/
  | scan (lockId : LockId) (outcome : CallOutcome)
  /-- Both SCAN loops of a scan have returned these workers. -/
  | detect (lockId : LockId) (processingWorkerIds aliveWorkerIds : List WorkerId)
  /-- A scan stops without running its finally block. -/
  | scanDies (lockId : LockId)
  /-- The lock key reaches its time to live. -/
  | lockExpires
  /-- A monitor restarts. -/
  | startupBegin
  /-- The next awaited call of the startup recovery. -/
  | startup (outcome : CallOutcome)
  /-- The startup recovery reads the PENDING rows in this order. -/
  | startupSelect (rows : List SubmissionRow)
  deriving DecidableEq

namespace Platform

/-- A handler has moved on. -/
def withPost (state : Platform) (jobId : JobId) (after : PostPoint × Store) : Platform :=
  { state with store := after.2, posts := Function.update state.posts jobId after.1 }

/-- A worker has moved on. -/
def withWorker (state : Platform) (worker : WorkerId) (after : WorkerPoint × Store) : Platform :=
  { state with
    store := after.2
    workers := Function.update state.workers worker (.running after.1) }

/-- A scan has moved on. -/
def withScan (state : Platform) (lockId : LockId) (after : ScanPoint × Store) : Platform :=
  { state with store := after.2, scans := Function.update state.scans lockId after.1 }

/-- The startup recovery has moved on. -/
def withStartup (state : Platform) (after : StartupPoint × Store) : Platform :=
  { state with store := after.2, startup := after.1 }

section Fields

variable (state : Platform) (jobId : JobId) (worker : WorkerId) (lockId : LockId)

@[simp] theorem withPost_store (after : PostPoint × Store) :
    (state.withPost jobId after).store = after.2 := rfl

@[simp] theorem withPost_posts (after : PostPoint × Store) :
    (state.withPost jobId after).posts = Function.update state.posts jobId after.1 := rfl

@[simp] theorem withPost_workers (after : PostPoint × Store) :
    (state.withPost jobId after).workers = state.workers := rfl

@[simp] theorem withPost_scans (after : PostPoint × Store) :
    (state.withPost jobId after).scans = state.scans := rfl

@[simp] theorem withWorker_store (after : WorkerPoint × Store) :
    (state.withWorker worker after).store = after.2 := rfl

@[simp] theorem withWorker_posts (after : WorkerPoint × Store) :
    (state.withWorker worker after).posts = state.posts := rfl

@[simp] theorem withWorker_workers (after : WorkerPoint × Store) :
    (state.withWorker worker after).workers =
      Function.update state.workers worker (.running after.1) := rfl

@[simp] theorem withWorker_scans (after : WorkerPoint × Store) :
    (state.withWorker worker after).scans = state.scans := rfl

@[simp] theorem withScan_store (after : ScanPoint × Store) :
    (state.withScan lockId after).store = after.2 := rfl

@[simp] theorem withScan_posts (after : ScanPoint × Store) :
    (state.withScan lockId after).posts = state.posts := rfl

@[simp] theorem withScan_workers (after : ScanPoint × Store) :
    (state.withScan lockId after).workers = state.workers := rfl

@[simp] theorem withScan_scans (after : ScanPoint × Store) :
    (state.withScan lockId after).scans = Function.update state.scans lockId after.1 := rfl

@[simp] theorem withStartup_store (after : StartupPoint × Store) :
    (state.withStartup after).store = after.2 := rfl

@[simp] theorem withStartup_posts (after : StartupPoint × Store) :
    (state.withStartup after).posts = state.posts := rfl

@[simp] theorem withStartup_workers (after : StartupPoint × Store) :
    (state.withStartup after).workers = state.workers := rfl

@[simp] theorem withStartup_scans (after : StartupPoint × Store) :
    (state.withStartup after).scans = state.scans := rfl

@[simp] theorem withStartup_startup (after : StartupPoint × Store) :
    (state.withStartup after).startup = after.1 := rfl

end Fields

/-- One step of the platform, where the label is enabled. -/
def step (state : Platform) : Label → Option Platform
  | .clock now => some { state with store := { state.store with now } }
  | .post jobId code language userId =>
    match state.posts jobId with
    | .idle =>
      some (state.withPost jobId
        (receivePost jobId code language userId state.store.now, state.store))
    | _ => none
  | .gateway jobId outcome =>
    let point := state.posts jobId
    (awaitCall outcome (point.resolve state.store) point.handler state.store).map
      (state.withPost jobId)
  | .gatewayCrash jobId => some (state.withPost jobId (.crashed, state.store))
  | .workerStart worker =>
    match state.workers worker with
    | .absent => some (state.withWorker worker (.pop, state.store))
    | _ => none
  | .worker worker outcome =>
    match state.workers worker with
    | .running point =>
      (awaitCall outcome (point.resolve worker state.store) point.handler state.store).map
        (state.withWorker worker)
    | _ => none
  | .launch worker =>
    match state.workers worker with
    | .running (.launch job) => some (state.withWorker worker (.executing job, state.store))
    | _ => none
  | .sandbox worker result =>
    match state.workers worker with
    | .running point =>
      (point.sandboxSettled result).map fun next => state.withWorker worker (next, state.store)
    | _ => none
  | .workerCrash worker =>
    match state.workers worker with
    | .running _ => some { state with workers := Function.update state.workers worker .crashed }
    | _ => none
  | .scanStart lockId =>
    match state.scans lockId with
    | .idle => some (state.withScan lockId (.acquire, state.store))
    | _ => none
  | .scan lockId outcome =>
    let point := state.scans lockId
    (awaitCall outcome (point.resolve lockId state.store) point.handler state.store).map
      (state.withScan lockId)
  | .detect lockId processingWorkerIds aliveWorkerIds =>
    match state.scans lockId with
    | .detect =>
      some (state.withScan lockId
        (.recoverAll (deadWorkerIds processingWorkerIds aliveWorkerIds), state.store))
    | _ => none
  | .scanDies lockId => some (state.withScan lockId (.finished, state.store))
  | .lockExpires => some { state with store := { state.store with reaperLock := none } }
  | .startupBegin => some (state.withStartup (.resetRunning, state.store))
  | .startup outcome =>
    (awaitCall outcome (state.startup.resolve state.store) state.startup.handler
      state.store).map state.withStartup
  | .startupSelect rows =>
    match state.startup with
    | .selectPending =>
      if state.store.pendingRows rows then
        some (state.withStartup (.rehydrateAll rows, state.store))
      else none
    | _ => none

/-- Everything that the step of a label can do, with its guard. -/
inductive Stepped (state : Platform) : Label → Platform → Prop
  | clock (now : Timestamp) :
      Stepped state (.clock now) { state with store := { state.store with now } }
  | post {jobId : JobId} {code : ClientText} {language : Language} {userId : Option ClientText}
      (idle : state.posts jobId = .idle) :
      Stepped state (.post jobId code language userId) (state.withPost jobId
        (receivePost jobId code language userId state.store.now, state.store))
  | gateway {jobId : JobId} {outcome : CallOutcome} {after : PostPoint × Store}
      (went : awaitCall outcome ((state.posts jobId).resolve state.store)
        (state.posts jobId).handler state.store = some after) :
      Stepped state (.gateway jobId outcome) (state.withPost jobId after)
  | gatewayCrash (jobId : JobId) :
      Stepped state (.gatewayCrash jobId) (state.withPost jobId (.crashed, state.store))
  | workerStart {worker : WorkerId} (absent : state.workers worker = .absent) :
      Stepped state (.workerStart worker) (state.withWorker worker (.pop, state.store))
  | worker {worker : WorkerId} {outcome : CallOutcome} {point : WorkerPoint}
      {after : WorkerPoint × Store} (running : state.workers worker = .running point)
      (went : awaitCall outcome (point.resolve worker state.store) point.handler state.store =
        some after) :
      Stepped state (.worker worker outcome) (state.withWorker worker after)
  | launch {worker : WorkerId} {job : QueuePayload}
      (running : state.workers worker = .running (.launch job)) :
      Stepped state (.launch worker) (state.withWorker worker (.executing job, state.store))
  | sandbox {worker : WorkerId} {result : Option SandboxResult} {point after : WorkerPoint}
      (running : state.workers worker = .running point)
      (settled : point.sandboxSettled result = some after) :
      Stepped state (.sandbox worker result) (state.withWorker worker (after, state.store))
  | workerCrash {worker : WorkerId} {point : WorkerPoint}
      (running : state.workers worker = .running point) :
      Stepped state (.workerCrash worker)
        { state with workers := Function.update state.workers worker .crashed }
  | scanStart {lockId : LockId} (idle : state.scans lockId = .idle) :
      Stepped state (.scanStart lockId) (state.withScan lockId (.acquire, state.store))
  | scan {lockId : LockId} {outcome : CallOutcome} {after : ScanPoint × Store}
      (went : awaitCall outcome ((state.scans lockId).resolve lockId state.store)
        (state.scans lockId).handler state.store = some after) :
      Stepped state (.scan lockId outcome) (state.withScan lockId after)
  | detect {lockId : LockId} {processingWorkerIds aliveWorkerIds : List WorkerId}
      (detecting : state.scans lockId = .detect) :
      Stepped state (.detect lockId processingWorkerIds aliveWorkerIds) (state.withScan lockId
        (.recoverAll (deadWorkerIds processingWorkerIds aliveWorkerIds), state.store))
  | scanDies (lockId : LockId) :
      Stepped state (.scanDies lockId) (state.withScan lockId (.finished, state.store))
  | lockExpires :
      Stepped state .lockExpires { state with store := { state.store with reaperLock := none } }
  | startupBegin : Stepped state .startupBegin (state.withStartup (.resetRunning, state.store))
  | startup {outcome : CallOutcome} {after : StartupPoint × Store}
      (went : awaitCall outcome (state.startup.resolve state.store) state.startup.handler
        state.store = some after) :
      Stepped state (.startup outcome) (state.withStartup after)
  | startupSelect {rows : List SubmissionRow} (selecting : state.startup = .selectPending)
      (ordered : state.store.pendingRows rows) :
      Stepped state (.startupSelect rows) (state.withStartup (.rehydrateAll rows, state.store))

/-- Nothing else comes of a step. -/
theorem step_cases {state next : Platform} {label : Label} (stepped : state.step label = some next) :
    Stepped state label next := by
  -- The guard of each label is the match that `step` makes.
  cases label with
  | clock now =>
    obtain rfl := Option.some.inj stepped
    exact .clock now
  | gatewayCrash jobId =>
    obtain rfl := Option.some.inj stepped
    exact .gatewayCrash jobId
  | scanDies lockId =>
    obtain rfl := Option.some.inj stepped
    exact .scanDies lockId
  | lockExpires =>
    obtain rfl := Option.some.inj stepped
    exact .lockExpires
  | startupBegin =>
    obtain rfl := Option.some.inj stepped
    exact .startupBegin
  -- These have a guard on the point that the process is at.
  | post jobId code language userId =>
    simp only [step] at stepped
    split at stepped
    · next idle => obtain rfl := Option.some.inj stepped; exact .post idle
    · simp at stepped
  | workerStart worker =>
    simp only [step] at stepped
    split at stepped
    · next absent => obtain rfl := Option.some.inj stepped; exact .workerStart absent
    · simp at stepped
  | launch worker =>
    simp only [step] at stepped
    split at stepped
    · next running => obtain rfl := Option.some.inj stepped; exact .launch running
    · simp at stepped
  | workerCrash worker =>
    simp only [step] at stepped
    split at stepped
    · next running => obtain rfl := Option.some.inj stepped; exact .workerCrash running
    · simp at stepped
  | scanStart lockId =>
    simp only [step] at stepped
    split at stepped
    · next idle => obtain rfl := Option.some.inj stepped; exact .scanStart idle
    · simp at stepped
  | detect lockId processingWorkerIds aliveWorkerIds =>
    simp only [step] at stepped
    split at stepped
    · next detecting => obtain rfl := Option.some.inj stepped; exact .detect detecting
    · simp at stepped
  -- These are awaited calls, with the outcome of the label.
  | worker worker outcome =>
    simp only [step] at stepped
    split at stepped
    · next running =>
      obtain ⟨after, went, rfl⟩ := Option.map_eq_some_iff.mp stepped
      exact .worker running went
    · simp at stepped
  | sandbox worker result =>
    simp only [step] at stepped
    split at stepped
    · next running =>
      obtain ⟨after, settled, rfl⟩ := Option.map_eq_some_iff.mp stepped
      exact .sandbox running settled
    · simp at stepped
  | gateway jobId outcome =>
    obtain ⟨after, went, rfl⟩ := Option.map_eq_some_iff.mp stepped
    exact .gateway went
  | scan lockId outcome =>
    obtain ⟨after, went, rfl⟩ := Option.map_eq_some_iff.mp stepped
    exact .scan went
  | startup outcome =>
    obtain ⟨after, went, rfl⟩ := Option.map_eq_some_iff.mp stepped
    exact .startup went
  | startupSelect rows =>
    simp only [step] at stepped
    split at stepped
    · next selecting =>
      split at stepped
      · next ordered => obtain rfl := Option.some.inj stepped; exact .startupSelect selecting ordered
      · simp at stepped
    · simp at stepped

/-! ## What a step does to the processes -/

/-- What the last step did to a worker that is running after it. -/
theorem step_worker {state next : Platform} {label : Label} {worker : WorkerId}
    {point : WorkerPoint} (stepped : state.step label = some next)
    (running : next.workers worker = .running point) :
    (state.workers worker = .running point ∧ ∀ outcome, label ≠ .worker worker outcome) ∨
    (∃ outcome before after, label = .worker worker outcome ∧
      state.workers worker = .running before ∧
      awaitCall outcome (before.resolve worker state.store) before.handler state.store =
        some (point, after) ∧ next = state.withWorker worker (point, after)) ∨
    (∃ job, label = .launch worker ∧ state.workers worker = .running (.launch job) ∧
      point = .executing job ∧ next = state.withWorker worker (.executing job, state.store)) ∨
    (∃ result before, label = .sandbox worker result ∧
      state.workers worker = .running before ∧ before.sandboxSettled result = some point ∧
      next = state.withWorker worker (point, state.store)) ∨
    (label = .workerStart worker ∧ state.workers worker = .absent ∧ point = .pop ∧
      next = state.withWorker worker (.pop, state.store)) := by
  -- Every label moves one process at most, and the others stay where they are.
  cases step_cases stepped with
  | @worker mover outcome before after was went =>
    by_cases same : worker = mover
    · subst same
      obtain rfl : after.1 = point := by simpa using running
      exact .inr (.inl ⟨outcome, before, after.2, rfl, was, went, rfl⟩)
    · exact .inl ⟨by simpa [same] using running, by simp [Ne.symm same]⟩
  | @launch mover job was =>
    by_cases same : worker = mover
    · subst same
      obtain rfl : .executing job = point := by simpa using running
      exact .inr (.inr (.inl ⟨job, rfl, was, rfl, rfl⟩))
    · exact .inl ⟨by simpa [same] using running, by simp⟩
  | @sandbox mover result before after was settled =>
    by_cases same : worker = mover
    · subst same
      obtain rfl : after = point := by simpa using running
      exact .inr (.inr (.inr (.inl ⟨result, before, rfl, was, settled, rfl⟩)))
    · exact .inl ⟨by simpa [same] using running, by simp⟩
  | @workerStart mover was =>
    by_cases same : worker = mover
    · subst same
      obtain rfl : .pop = point := by simpa using running
      exact .inr (.inr (.inr (.inr ⟨rfl, was, rfl, rfl⟩)))
    · exact .inl ⟨by simpa [same] using running, by simp⟩
  | @workerCrash mover _ was =>
    by_cases same : worker = mover
    · -- A worker that has just crashed is not running.
      subst same
      simp at running
    · exact .inl ⟨by simpa [same] using running, by simp⟩
  | _ => exact .inl ⟨running, by simp⟩

/-- A worker that is running before a step is running after it, unless it crashes. -/
theorem step_running {state next : Platform} {label : Label} {worker : WorkerId}
    {point : WorkerPoint} (stepped : state.step label = some next)
    (running : state.workers worker = .running point) :
    (∃ later, next.workers worker = .running later) ∨
    (label = .workerCrash worker ∧
      next = { state with workers := Function.update state.workers worker .crashed }) := by
  -- Only the crash of this worker ends it.
  have kept : ∀ mover after, ∃ later, (state.withWorker mover after).workers worker = .running later := by
    intro mover after
    by_cases same : worker = mover
    · subst same; exact ⟨after.1, by simp⟩
    · exact ⟨point, by simp [same, running]⟩
  cases step_cases stepped with
  | workerStart | worker | launch | sandbox => exact .inl (kept _ _)
  | @workerCrash mover =>
    by_cases same : worker = mover
    · subst same; exact .inr ⟨rfl, rfl⟩
    · exact .inl ⟨point, by simp [same, running]⟩
  | _ => exact .inl ⟨point, running⟩

/-- A crashed worker has no further effect. -/
theorem step_crashed {state next : Platform} {label : Label} {worker : WorkerId}
    (stepped : state.step label = some next) (crashed : state.workers worker = .crashed) :
    next.workers worker = .crashed := by
  -- Every move of a worker needs it absent or running.
  have other : ∀ mover fresh, state.workers mover ≠ .crashed →
      Function.update state.workers mover fresh worker = .crashed := by
    intro mover fresh alive
    have different : worker ≠ mover := fun same => alive (same ▸ crashed)
    simp [different, crashed]
  cases step_cases stepped with
  | workerStart was | worker was | launch was | sandbox was | workerCrash was =>
    exact other _ _ (by simp [was])
  | _ => exact crashed

/-- A worker that is not started stays absent. -/
theorem step_absent {state next : Platform} {label : Label} {worker : WorkerId}
    (stepped : state.step label = some next) (absent : state.workers worker = .absent)
    (unstarted : label ≠ .workerStart worker) : next.workers worker = .absent := by
  -- Every other move of a worker needs it running.
  have other : ∀ mover fresh, mover ≠ worker →
      Function.update state.workers mover fresh worker = .absent := by
    intro mover fresh different
    simp [different.symm, absent]
  cases step_cases stepped with
  | @workerStart mover was =>
    refine other _ _ ?_
    intro same
    subst same
    exact unstarted rfl
  | @worker mover _ _ _ was | @launch mover _ was | @sandbox mover _ _ _ was
  | @workerCrash mover _ was =>
    refine other _ _ ?_
    intro same
    subst same
    simp [was] at absent
  | _ => exact absent

/-- What a step did to a handler. -/
theorem step_post {state next : Platform} {label : Label} (stepped : state.step label = some next)
    (jobId : JobId) :
    (next.posts jobId = state.posts jobId ∧ ∀ outcome, label ≠ .gateway jobId outcome) ∨
    (∃ code language userId, label = .post jobId code language userId ∧
      state.posts jobId = .idle ∧ next = state.withPost jobId
        (receivePost jobId code language userId state.store.now, state.store)) ∨
    (∃ outcome after, label = .gateway jobId outcome ∧
      awaitCall outcome ((state.posts jobId).resolve state.store) (state.posts jobId).handler
        state.store = some after ∧ next = state.withPost jobId after) ∨
    (label = .gatewayCrash jobId ∧ next = state.withPost jobId (.crashed, state.store)) := by
  -- Every label moves one process at most, and the others stay where they are.
  cases step_cases stepped with
  | @post key code language userId idle =>
    by_cases same : jobId = key
    · subst same
      exact .inr (.inl ⟨code, language, userId, rfl, idle, rfl⟩)
    · exact .inl ⟨by simp [same], by simp⟩
  | @gateway key outcome after went =>
    by_cases same : jobId = key
    · subst same
      exact .inr (.inr (.inl ⟨outcome, after, rfl, went, rfl⟩))
    · exact .inl ⟨by simp [same], by simp [Ne.symm same]⟩
  | gatewayCrash key =>
    by_cases same : jobId = key
    · subst same
      exact .inr (.inr (.inr ⟨rfl, rfl⟩))
    · exact .inl ⟨by simp [same], by simp⟩
  | _ => exact .inl ⟨rfl, by simp⟩

/-- What a step did to a scan. -/
theorem step_scan {state next : Platform} {label : Label} (stepped : state.step label = some next)
    (lockId : LockId) :
    (next.scans lockId = state.scans lockId ∧ (∀ outcome, label ≠ .scan lockId outcome)) ∨
    (label = .scanStart lockId ∧ state.scans lockId = .idle ∧
      next = state.withScan lockId (.acquire, state.store)) ∨
    (∃ outcome after, label = .scan lockId outcome ∧
      awaitCall outcome ((state.scans lockId).resolve lockId state.store)
        (state.scans lockId).handler state.store = some after ∧
      next = state.withScan lockId after) ∨
    (∃ processingWorkerIds aliveWorkerIds,
      label = .detect lockId processingWorkerIds aliveWorkerIds ∧
      state.scans lockId = .detect ∧ next = state.withScan lockId
        (.recoverAll (deadWorkerIds processingWorkerIds aliveWorkerIds), state.store)) ∨
    (label = .scanDies lockId ∧ next = state.withScan lockId (.finished, state.store)) := by
  -- Every label moves one process at most, and the others stay where they are.
  cases step_cases stepped with
  | @scanStart key idle =>
    by_cases same : lockId = key
    · subst same
      exact .inr (.inl ⟨rfl, idle, rfl⟩)
    · exact .inl ⟨by simp [same], by simp⟩
  | @scan key outcome after went =>
    by_cases same : lockId = key
    · subst same
      exact .inr (.inr (.inl ⟨outcome, after, rfl, went, rfl⟩))
    · exact .inl ⟨by simp [same], by simp [Ne.symm same]⟩
  | @detect key processingWorkerIds aliveWorkerIds detecting =>
    by_cases same : lockId = key
    · subst same
      exact .inr (.inr (.inr (.inl ⟨processingWorkerIds, aliveWorkerIds, rfl, detecting, rfl⟩)))
    · exact .inl ⟨by simp [same], by simp⟩
  | scanDies key =>
    by_cases same : lockId = key
    · subst same
      exact .inr (.inr (.inr (.inr ⟨rfl, rfl⟩)))
    · exact .inl ⟨by simp [same], by simp⟩
  | _ => exact .inl ⟨rfl, by simp⟩

/-- A scan that is not started stays out of everything, also when its process dies. -/
theorem step_unstarted {state next : Platform} {label : Label} {lockId : LockId}
    (stepped : state.step label = some next)
    (away : state.scans lockId = .idle ∨ state.scans lockId = .finished)
    (unstarted : label ≠ .scanStart lockId) :
    next.scans lockId = .idle ∨ next.scans lockId = .finished := by
  rcases step_scan stepped lockId with ⟨same, _⟩ | ⟨rfl, _, _⟩ | ⟨outcome, after, rfl, went, rfl⟩ |
    ⟨_, _, _, detecting, _⟩ | ⟨_, rfl⟩
  · rw [same]
    exact away
  · exact absurd rfl unstarted
  · -- Neither point has a call.
    rcases away with idle | finished
    · rcases outcome with _ | _ | _ <;> simp [idle, awaitCall, ScanPoint.resolve, ScanPoint.handler] at went
    · rcases outcome with _ | _ | _ <;>
        simp [finished, awaitCall, ScanPoint.resolve, ScanPoint.handler] at went
  · simp [detecting] at away
  · simp

end Platform

/-! ## What a step does to the store -/

/-- Whether the label is an awaited call that takes effect on a server. -/
def Label.applies : Label → Bool
  | .gateway _ outcome | .worker _ outcome | .scan _ outcome | .startup outcome => outcome.applied
  | _ => false

/-- A step makes one call on the store, or leaves everything but the clock and the lock key alone. -/
inductive Platform.StoreStep (state next : Platform) : Label → Prop
  /-- No call takes effect, but the lock key may have expired. -/
  | aside {label : Label} (lost : label.applies = false) (now : Timestamp) (lock : Option LockId)
      (same : next.store = { state.store with now, reaperLock := lock })
      (unexpired : label ≠ .lockExpires → lock = state.store.reaperLock) : StoreStep state next label
  /-- A handler's call takes effect. -/
  | gateway {jobId : JobId} {outcome : CallOutcome} {reply : PostPoint × Store}
      (applied : outcome.applied = true)
      (resolved : (state.posts jobId).resolve state.store = some reply)
      (same : next.store = reply.2) (moved : outcome = .resolves → next = state.withPost jobId reply) :
      StoreStep state next (.gateway jobId outcome)
  /-- A worker's call takes effect. -/
  | worker {worker : WorkerId} {outcome : CallOutcome} {point : WorkerPoint}
      {reply : WorkerPoint × Store} (applied : outcome.applied = true)
      (running : state.workers worker = .running point)
      (resolved : point.resolve worker state.store = some reply) (same : next.store = reply.2)
      (moved : outcome = .resolves → next = state.withWorker worker reply) :
      StoreStep state next (.worker worker outcome)
  /-- A scan's call takes effect. -/
  | scan {lockId : LockId} {outcome : CallOutcome} {reply : ScanPoint × Store}
      (applied : outcome.applied = true)
      (resolved : (state.scans lockId).resolve lockId state.store = some reply)
      (same : next.store = reply.2) (moved : outcome = .resolves → next = state.withScan lockId reply) :
      StoreStep state next (.scan lockId outcome)
  /-- A call of the startup recovery takes effect. -/
  | startup {outcome : CallOutcome} {reply : StartupPoint × Store}
      (applied : outcome.applied = true)
      (resolved : state.startup.resolve state.store = some reply) (same : next.store = reply.2)
      (moved : outcome = .resolves → next = state.withStartup reply) :
      StoreStep state next (.startup outcome)

namespace Platform

/-- Every step changes the store in one of these ways. -/
theorem step_store {state next : Platform} {label : Label}
    (stepped : state.step label = some next) : StoreStep state next label := by
  -- Only the four kinds of calls write to a store, and only where they take effect.
  cases step_cases stepped with
  | gateway went =>
    rcases awaitCall_store went with ⟨applied, reply, resolved, same, replied⟩ | ⟨lost, same⟩
    · exact .gateway applied resolved same fun answered => by rw [replied answered]
    · exact .aside lost _ _ same fun _ => rfl
  | worker running went =>
    rcases awaitCall_store went with ⟨applied, reply, resolved, same, replied⟩ | ⟨lost, same⟩
    · exact .worker applied running resolved same fun answered => by rw [replied answered]
    · exact .aside lost _ _ same fun _ => rfl
  | scan went =>
    rcases awaitCall_store went with ⟨applied, reply, resolved, same, replied⟩ | ⟨lost, same⟩
    · exact .scan applied resolved same fun answered => by rw [replied answered]
    · exact .aside lost _ _ same fun _ => rfl
  | startup went =>
    rcases awaitCall_store went with ⟨applied, reply, resolved, same, replied⟩ | ⟨lost, same⟩
    · exact .startup applied resolved same fun answered => by rw [replied answered]
    · exact .aside lost _ _ same fun _ => rfl
  | lockExpires => exact .aside rfl _ _ rfl fun unexpired => absurd rfl unexpired
  | _ => exact .aside rfl _ _ rfl fun _ => rfl

end Platform

/-- The job whose sandbox a live worker is inside. -/
def Platform.executing? (state : Platform) (worker : WorkerId) : Option JobId :=
  match state.workers worker with
  | .running (.executing job) => some job.jobId
  | _ => none

/-- A worker executes a job exactly when it is at that point of its program. -/
theorem Platform.executing_iff {state : Platform} {worker : WorkerId} {jobId : JobId} :
    state.executing? worker = some jobId ↔
      ∃ job, state.workers worker = .running (.executing job) ∧ job.jobId = jobId := by
  -- The other points are not inside a sandbox.
  unfold Platform.executing?
  split
  · next job running => simp [running]
  · next notExecuting =>
    constructor
    · simp
    · intro executing
      obtain ⟨job, running, _⟩ := executing
      exact absurd running (notExecuting job)

/-- The platform as a labelled machine. -/
def platform : Machine Platform Label where
  step := Platform.step

end CodeExecution

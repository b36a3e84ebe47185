import CodeExecution.Lifecycle
import CodeExecution.Services.Platform

/-! The effects that calls have on the store: one for each command that writes, whoever sends it. -/

namespace CodeExecution

/-- What a call writes. -/
inductive Effect where
  /-- A command that only reads, or a statement of an uncommitted transaction. -/
  | unchanged
  | submit (payload : QueuePayload)
  | claim (jobId : JobId)
  | markFailed (jobId : JobId)
  | requeueRow (jobId : JobId) (retryCount : Nat)
  | resetRunning
  | insertFailure (jobId : JobId)
  | commitResult (jobId : JobId) (result : SandboxResult)
  | commitDeadLetter (letter : DLQPayload)
  | pop (worker : WorkerId) (entry : Entry)
  | push (entry : Entry)
  | remove (worker : WorkerId) (job : QueuePayload)
  | delete (worker : WorkerId)
  | sendLetter (letter : DLQPayload)
  | stream (call : StreamCall) (jobId : JobId) (chunk : StreamChunk)
  | acquireLock (lockId : LockId)
  | releaseLock (lockId : LockId)
  deriving DecidableEq, Repr

/-- The store after an effect. -/
def Effect.apply (store : Store) : Effect → Store
  | .unchanged => store
  | .submit payload => store.insertSubmission (submissionRow payload)
  | .claim jobId => store.claim jobId
  | .markFailed jobId => store.setStatus jobId .failed
  | .requeueRow jobId retryCount => store.requeueRow jobId retryCount
  | .resetRunning => store.resetRunning
  | .insertFailure jobId =>
    store.upsertResult (enqueueFailureResult jobId) fun row =>
      { row with
        errorMessage := (enqueueFailureResult jobId).errorMessage
        errorCategory := (enqueueFailureResult jobId).errorCategory }
  | .commitResult jobId result => store.commitResult jobId result
  | .commitDeadLetter letter => store.commitDeadLetter letter
  | .pop worker entry => store.moveToProcessing worker entry
  | .push entry => store.pushPending entry
  | .remove worker job => store.removeProcessing worker (.payload job)
  | .delete worker => store.deleteProcessing worker
  | .sendLetter letter => store.pushDeadLetter letter
  | .stream call jobId chunk => call.effect jobId chunk store
  | .acquireLock lockId => store.acquireLock lockId
  | .releaseLock lockId => store.releaseLock lockId

/-- The effects that write to the tables. -/
def Effect.onTables : Effect → Bool
  | .submit _ | .claim _ | .markFailed _ | .requeueRow _ _ | .resetRunning | .insertFailure _
  | .commitResult _ _ | .commitDeadLetter _ => true
  | _ => false

/-- They write nothing else. -/
theorem Effect.apply_tables {effect : Effect} (tables : effect.onTables = true) (store : Store) :
    ∃ submissions results, effect.apply store = { store with submissions, results } := by
  -- A transaction upserts a result and sets a status.
  cases effect with
  | submit _ | claim _ | markFailed _ | requeueRow _ _ | resetRunning =>
    exact ⟨_, store.results, rfl⟩
  | insertFailure jobId =>
    obtain ⟨results, written⟩ := store.upsertResult_eq (enqueueFailureResult jobId) fun row =>
      { row with
        errorMessage := (enqueueFailureResult jobId).errorMessage
        errorCategory := (enqueueFailureResult jobId).errorCategory }
    exact ⟨store.submissions, results, written⟩
  | commitResult jobId result =>
    obtain ⟨results, written⟩ := store.commitResult_eq jobId result
    exact ⟨_, results, written⟩
  | commitDeadLetter letter =>
    obtain ⟨results, written⟩ := store.commitDeadLetter_eq letter
    exact ⟨_, results, written⟩
  | _ => simp [Effect.onTables] at tables

/-! ## The effects of each service -/

/-- The effect of a handler's call. -/
def PostPoint.effect : PostPoint → Effect
  | .insert payload => .submit payload
  | .enqueue payload => .push (.payload payload)
  | .markFailed payload => .markFailed payload.jobId
  | .insertFailure payload => .insertFailure payload.jobId
  | .idle | .depth _ | .answered _ | .crashed => .unchanged

/-- A handler's call that resolves has this effect, and inserts rows under free keys alone. -/
theorem PostPoint.resolve_effect {point : PostPoint} {store : Store} {after : PostPoint × Store}
    (resolved : point.resolve store = some after) : after.2 = point.effect.apply store ∧
      ∀ payload, point.effect = .submit payload → store.hasSubmission payload.jobId = false := by
  -- Each resolved call is one command, and the INSERT looks at the key first.
  obtain ⟨next, later⟩ := after
  cases PostPoint.resolve_cases resolved with
  | @insert payload free =>
    refine ⟨rfl, fun own same => ?_⟩
    obtain rfl : payload = own := by simpa [PostPoint.effect] using same
    exact free
  | enqueue | depth | markFailed | insertFailure => exact ⟨rfl, by simp [PostPoint.effect]⟩

/-- The effect of a worker's call. -/
def WorkerPoint.effect (worker : WorkerId) (store : Store) : WorkerPoint → Effect
  | .pop =>
    match store.pending.getLast? with
    | none => .unchanged
    | some entry => .pop worker entry
  | .claim job => .claim job.jobId
  | .repush job => .push (.payload job)
  | .discard job | .acknowledge job | .requeue .remove job | .exhausted job => .remove worker job
  | .persist .commit job result => .commitResult job.jobId result
  | .complete call chunk job => .stream call job.jobId chunk
  | .requeue .update job => .requeueRow job.jobId (job.retryCount + 1)
  | .requeue .push job => .push (.payload (job.withRetry (job.retryCount + 1)))
  | .deadLetter .commit letter => .commitDeadLetter letter
  | .deadLetterPush letter => .sendLetter letter
  | .deadLetterComplete call chunk letter => .stream call letter.jobId chunk
  | .statusCheck _ | .launch _ | .executing _ | .persist _ _ _ | .deadLetter _ _ => .unchanged

/-- A worker's call that resolves has this effect. -/
theorem WorkerPoint.resolve_effect {worker : WorkerId} {point : WorkerPoint} {store : Store}
    {after : WorkerPoint × Store} (resolved : point.resolve worker store = some after) :
    after.2 = (point.effect worker store).apply store := by
  -- A transaction writes at its COMMIT alone.
  obtain ⟨next, later⟩ := after
  cases WorkerPoint.resolve_cases resolved with
  | timeout last | pop last | unparsed last =>
    simp only [WorkerPoint.effect, last]
    rfl
  | _ => rfl

/-- A worker writes single rows, of jobs that are there. -/
theorem WorkerPoint.effect_reaches (point : WorkerPoint) (worker : WorkerId) (store : Store) :
    (∀ payload, point.effect worker store ≠ .submit payload) ∧
      point.effect worker store ≠ .resetRunning := by
  -- No branch of the loop makes one of these two effects.
  unfold WorkerPoint.effect
  repeat' split
  all_goals simp

/-- The effect of a recovery's call. -/
def RecoverPoint.effect (worker : WorkerId) : RecoverPoint → Effect
  | .reset cursor => .requeueRow cursor.job.jobId (cursor.job.retryCount + 1)
  | .push cursor => .push (.payload (cursor.job.withRetry (cursor.job.retryCount + 1)))
  | .deadLetter .commit letter _ => .commitDeadLetter letter
  | .deadLetterPush letter _ => .sendLetter letter
  | .delete _ => .delete worker
  | .list | .check _ | .deadLetter _ _ _ => .unchanged

/-- A recovery's call that resolves has this effect. -/
theorem RecoverPoint.resolve_effect {worker : WorkerId} {point : RecoverPoint} {store : Store}
    {after : Option RecoverPoint × Store} (resolved : point.resolve worker store = some after) :
    after.2 = (point.effect worker).apply store := by
  -- The SELECT and the statements of the open transaction write nothing.
  obtain ⟨next, later⟩ := after
  cases RecoverPoint.resolve_cases resolved <;> rfl

/-- The effect of a scan's call. -/
def ScanPoint.effect (lockId : LockId) (store : Store) : ScanPoint → Effect
  | .acquire => if store.reaperLock = none then .acquireLock lockId else .unchanged
  | .recover point worker _ => point.effect worker
  | .release => .releaseLock lockId
  | .idle | .detect | .finished => .unchanged

/-- A scan's call that resolves has this effect. -/
theorem ScanPoint.resolve_effect {lockId : LockId} {point : ScanPoint} {store : Store}
    {after : ScanPoint × Store} (resolved : point.resolve lockId store = some after) :
    after.2 = (point.effect lockId store).apply store := by
  -- The SET NX looks at the key, and all other writes of a scan are its recovery's.
  obtain ⟨next, later⟩ := after
  cases ScanPoint.resolve_cases resolved with
  | acquires free => rw [ScanPoint.effect, if_pos free]; rfl
  | yields taken => rw [ScanPoint.effect, if_neg taken]; rfl
  | rollback | release => rfl
  | recover replied => exact RecoverPoint.resolve_effect replied

/-- The effect of a call of the startup recovery. -/
def StartupPoint.effect : StartupPoint → Effect
  | .resetRunning => .resetRunning
  | .rehydrate row _ => .push (.payload (payloadOfRow row))
  | .idle | .checkDepth | .selectPending | .finished | .failed => .unchanged

/-- A call of the startup recovery that resolves has this effect. -/
theorem StartupPoint.resolve_effect {point : StartupPoint} {store : Store}
    {after : StartupPoint × Store} (resolved : point.resolve store = some after) :
    after.2 = point.effect.apply store := by
  -- The two queries are answered by steps of their own.
  cases point with
  | resetRunning | checkDepth | rehydrate row rest => obtain rfl := Option.some.inj resolved; rfl
  | idle | selectPending | finished | failed => simp [StartupPoint.resolve] at resolved

/-! ## The effect of a step -/

/-- The effect of the call that a label makes, if it takes effect on a server. -/
def Platform.effect (state : Platform) : Label → Effect
  | .gateway jobId outcome => if outcome.applied then (state.posts jobId).effect else .unchanged
  | .worker worker outcome =>
    match state.workers worker with
    | .running point => if outcome.applied then point.effect worker state.store else .unchanged
    | .absent | .crashed => .unchanged
  | .scan lockId outcome =>
    if outcome.applied then (state.scans lockId).effect lockId state.store else .unchanged
  | .startup outcome => if outcome.applied then state.startup.effect else .unchanged
  | _ => .unchanged

/-- A label whose call is lost has no effect. -/
theorem Platform.effect_lost {state : Platform} {label : Label} (lost : label.applies = false) :
    state.effect label = .unchanged := by
  -- Effects come from calls that are applied.
  cases label with
  | worker worker outcome =>
    have unapplied : outcome.applied = false := lost
    simp only [Platform.effect, unapplied]
    split <;> rfl
  | gateway _ outcome | scan _ outcome | startup outcome =>
    have unapplied : outcome.applied = false := lost
    simp [Platform.effect, unapplied]
  | _ => rfl

/-- A step changes the store by its effect, but for the clock and the lock key. -/
theorem Platform.step_effect {state next : Platform} {label : Label}
    (stepped : state.step label = some next) :
    (∃ now lock, next.store =
      { (state.effect label).apply state.store with now, reaperLock := lock } ∧
      (label ≠ .lockExpires → lock = ((state.effect label).apply state.store).reaperLock)) ∧
    ∀ payload, state.effect label = .submit payload →
      state.store.hasSubmission payload.jobId = false := by
  -- Each kind of call has its own effects, and only handlers insert rows.
  cases Platform.step_store stepped with
  | aside lost now lock same unexpired =>
    rw [Platform.effect_lost lost]
    exact ⟨⟨now, lock, same, unexpired⟩, by simp⟩
  | gateway applied resolved same _ =>
    obtain ⟨written, fresh⟩ := PostPoint.resolve_effect resolved
    simp only [Platform.effect, applied, if_true]
    exact ⟨⟨_, _, same.trans written, fun _ => rfl⟩, fresh⟩
  | @worker worker _ point _ applied running resolved same _ =>
    have written := WorkerPoint.resolve_effect resolved
    simp only [Platform.effect, running, applied, if_true]
    exact ⟨⟨_, _, same.trans written, fun _ => rfl⟩, fun payload made =>
      absurd made ((point.effect_reaches worker state.store).1 payload)⟩
  | @scan lockId _ _ applied resolved same _ =>
    have written := ScanPoint.resolve_effect resolved
    simp only [Platform.effect, applied, if_true]
    refine ⟨⟨_, _, same.trans written, fun _ => rfl⟩, fun payload made => ?_⟩
    unfold ScanPoint.effect RecoverPoint.effect at made
    repeat' split at made
    all_goals simp at made
  | startup applied resolved same _ =>
    have written := StartupPoint.resolve_effect resolved
    simp only [Platform.effect, applied, if_true]
    refine ⟨⟨_, _, same.trans written, fun _ => rfl⟩, fun payload made => ?_⟩
    unfold StartupPoint.effect at made
    split at made <;> simp at made

/-- Where an effect comes from. -/
theorem Platform.effect_source {state : Platform} {label : Label} {effect : Effect}
    (made : state.effect label = effect) (writes : effect ≠ .unchanged) :
    (∃ jobId outcome, label = .gateway jobId outcome ∧ (state.posts jobId).effect = effect) ∨
    (∃ worker outcome point, label = .worker worker outcome ∧
      state.workers worker = .running point ∧ point.effect worker state.store = effect) ∨
    (∃ lockId outcome, label = .scan lockId outcome ∧
      (state.scans lockId).effect lockId state.store = effect) ∨
    ∃ outcome, label = .startup outcome ∧ state.startup.effect = effect := by
  -- The effect is that of the call, whoever makes it, and a lost call has none.
  subst made
  cases label with
  | gateway jobId outcome =>
    simp only [Platform.effect] at writes ⊢
    split at writes
    · next applied => exact .inl ⟨jobId, outcome, rfl, by rw [if_pos applied]⟩
    · exact absurd rfl writes
  | worker worker outcome =>
    simp only [Platform.effect] at writes ⊢
    split at writes
    · next point running =>
      split at writes
      · next applied =>
        exact .inr (.inl ⟨worker, outcome, point, rfl, running, by simp [applied]⟩)
      · exact absurd rfl writes
    · exact absurd rfl writes
    · exact absurd rfl writes
  | scan lockId outcome =>
    simp only [Platform.effect] at writes ⊢
    split at writes
    · next applied => exact .inr (.inr (.inl ⟨lockId, outcome, rfl, by rw [if_pos applied]⟩))
    · exact absurd rfl writes
  | startup outcome =>
    simp only [Platform.effect] at writes ⊢
    split at writes
    · next applied => exact .inr (.inr (.inr ⟨outcome, rfl, by rw [if_pos applied]⟩))
    · exact absurd rfl writes
  | _ => exact absurd rfl writes

/-- Only the startup recovery writes to the whole table. -/
theorem Platform.effect_resetRunning {state : Platform} {label : Label}
    (made : state.effect label = .resetRunning) :
    ∃ outcome, label = .startup outcome ∧ state.startup = .resetRunning := by
  -- The other services name the rows they write.
  rcases Platform.effect_source made (by simp) with
    ⟨_, _, _, source⟩ | ⟨_, _, _, _, _, source⟩ | ⟨_, _, _, source⟩ | ⟨outcome, rfl, source⟩
  · unfold PostPoint.effect at source
    split at source <;> simp at source
  · exact absurd source (WorkerPoint.effect_reaches _ _ _).2
  · unfold ScanPoint.effect RecoverPoint.effect at source
    repeat' split at source
    all_goals simp at source
  · unfold StartupPoint.effect at source
    split at source
    · next at_ => exact ⟨outcome, rfl, at_⟩
    all_goals simp at source

/-- Effects that nobody but workers and scans have. -/
def Effect.recovers : Effect → Bool
  | .pop _ _ | .remove _ _ | .delete _ | .sendLetter _ | .commitDeadLetter _ | .acquireLock _
  | .releaseLock _ => true
  | _ => false

/-- Such an effect comes from a worker, from a recovery, or from a scan that moves the lock. -/
theorem Platform.effect_recovers {state : Platform} {label : Label} {effect : Effect}
    (made : state.effect label = effect) (recovers : effect.recovers = true) :
    (∃ worker outcome point, label = .worker worker outcome ∧
      state.workers worker = .running point ∧ point.effect worker state.store = effect) ∨
    ∃ lockId outcome, label = .scan lockId outcome ∧
      ((∃ point worker rest, state.scans lockId = .recover point worker rest ∧
          point.effect worker = effect) ∨
        (state.scans lockId = .acquire ∧ state.store.reaperLock = none ∧
          effect = .acquireLock lockId) ∨
        (state.scans lockId = .release ∧ effect = .releaseLock lockId)) := by
  -- Handlers and the startup recovery only write rows and push.
  have writes : effect ≠ .unchanged := by
    intro same
    subst same
    simp [Effect.recovers] at recovers
  rcases Platform.effect_source made writes with
    ⟨_, _, _, source⟩ | worker | ⟨lockId, outcome, rfl, source⟩ | ⟨_, _, source⟩
  · unfold PostPoint.effect at source
    split at source <;> subst source <;> simp [Effect.recovers] at recovers
  · exact .inl worker
  · refine .inr ⟨lockId, outcome, rfl, ?_⟩
    unfold ScanPoint.effect at source
    split at source
    · next at_ =>
      split at source
      · next free => exact .inr (.inl ⟨at_, free, source.symm⟩)
      · exact absurd source.symm writes
    · next point worker rest at_ => exact .inl ⟨point, worker, rest, at_, source⟩
    · next at_ => exact .inr (.inr ⟨at_, source.symm⟩)
    all_goals exact absurd source.symm writes
  · unfold StartupPoint.effect at source
    split at source <;> subst source <;> simp [Effect.recovers] at recovers

/-- Effects that nobody but workers have. -/
def Effect.byWorkers : Effect → Bool
  | .claim _ | .pop _ _ | .remove _ _ | .commitResult _ _ | .stream _ _ _ => true
  | _ => false

/-- Such an effect comes from a worker that runs. -/
theorem Platform.effect_byWorker {state : Platform} {label : Label} {effect : Effect}
    (made : state.effect label = effect) (byWorkers : effect.byWorkers = true) :
    ∃ worker outcome point, label = .worker worker outcome ∧
      state.workers worker = .running point ∧ point.effect worker state.store = effect := by
  -- Handlers insert and give up, recoveries requeue and bury, and the startup recovery resets.
  have writes : effect ≠ .unchanged := by
    intro same
    subst same
    simp [Effect.byWorkers] at byWorkers
  rcases Platform.effect_source made writes with
    ⟨_, _, _, source⟩ | worker | ⟨_, _, _, source⟩ | ⟨_, _, source⟩
  · unfold PostPoint.effect at source
    split at source <;> subst source <;> simp [Effect.byWorkers] at byWorkers
  · exact worker
  · unfold ScanPoint.effect RecoverPoint.effect at source
    repeat' split at source
    all_goals subst source; simp [Effect.byWorkers] at byWorkers
  · unfold StartupPoint.effect at source
    split at source <;> subst source <;> simp [Effect.byWorkers] at byWorkers

/-- Only a worker at the head of its loop pops, and it pops the oldest element into its own list. -/
theorem Platform.effect_pop {state : Platform} {label : Label} {owner : WorkerId} {entry : Entry}
    (made : state.effect label = .pop owner entry) :
    ∃ outcome, label = .worker owner outcome ∧ state.workers owner = .running .pop ∧
      state.store.pending.getLast? = some entry := by
  -- The loop of a worker is the only one that takes from the pending list.
  obtain ⟨worker, outcome, point, rfl, running, source⟩ := Platform.effect_byWorker made rfl
  unfold WorkerPoint.effect at source
  split at source
  · split at source
    · simp at source
    · next last =>
      obtain ⟨rfl, rfl⟩ := Effect.pop.inj source
      exact ⟨outcome, rfl, running, last⟩
  all_goals simp at source

/-- The payload a point is about to remove from the worker's own list. -/
def WorkerPoint.removes? : WorkerPoint → Option QueuePayload
  | .discard job | .acknowledge job | .requeue .remove job | .exhausted job => some job
  | _ => none

/-- Only a worker removes single payloads, and only from its own list. -/
theorem Platform.effect_remove {state : Platform} {label : Label} {owner : WorkerId}
    {job : QueuePayload} (made : state.effect label = .remove owner job) :
    ∃ outcome point, label = .worker owner outcome ∧ state.workers owner = .running point ∧
      point.removes? = some job := by
  -- Recoveries delete whole lists instead.
  obtain ⟨worker, outcome, point, rfl, running, source⟩ := Platform.effect_byWorker made rfl
  have own : worker = owner ∧ point.removes? = some job := by
    unfold WorkerPoint.effect at source
    repeat' split at source
    all_goals simp at source
    all_goals obtain ⟨rfl, rfl⟩ := source; exact ⟨rfl, rfl⟩
  obtain ⟨rfl, removes⟩ := own
  exact ⟨outcome, point, rfl, running, removes⟩

/-- Only the end of a recovery deletes a list. -/
theorem Platform.effect_delete {state : Platform} {label : Label} {owner : WorkerId}
    (made : state.effect label = .delete owner) : ∃ lockId outcome visited rest,
      label = .scan lockId outcome ∧ state.scans lockId = .recover (.delete visited) owner rest := by
  -- Workers remove single payloads instead.
  rcases Platform.effect_recovers made rfl with ⟨_, _, _, _, _, source⟩ |
    ⟨lockId, outcome, rfl, ⟨point, worker, rest, recovers, source⟩ | ⟨_, _, source⟩ | ⟨_, source⟩⟩
  · unfold WorkerPoint.effect at source
    repeat' split at source
    all_goals simp at source
  · unfold RecoverPoint.effect at source
    split at source
    all_goals simp at source
    obtain rfl := source
    exact ⟨lockId, outcome, _, rest, rfl, recovers⟩
  all_goals simp at source

/-- Letters are sent by workers and by recoveries. -/
theorem Platform.effect_sendLetter {state : Platform} {label : Label} {letter : DLQPayload}
    (made : state.effect label = .sendLetter letter) :
    (∃ sender outcome, label = .worker sender outcome ∧
      state.workers sender = .running (.deadLetterPush letter)) ∨
    ∃ lockId outcome cursor owner rest, label = .scan lockId outcome ∧
      state.scans lockId = .recover (.deadLetterPush letter cursor) owner rest := by
  -- Both send the letter that their transaction has committed.
  rcases Platform.effect_recovers made rfl with ⟨worker, outcome, point, rfl, running, source⟩ |
    ⟨lockId, outcome, rfl, ⟨point, owner, rest, recovers, source⟩ | ⟨_, _, source⟩ | ⟨_, source⟩⟩
  · unfold WorkerPoint.effect at source
    repeat' split at source
    all_goals simp at source
    obtain rfl := source
    exact .inl ⟨worker, outcome, rfl, running⟩
  · unfold RecoverPoint.effect at source
    split at source
    all_goals simp at source
    obtain rfl := source
    exact .inr ⟨lockId, outcome, _, owner, rest, rfl, recovers⟩
  all_goals simp at source

/-- Dead-letter transactions are committed by workers and by recoveries. -/
theorem Platform.effect_commitDeadLetter {state : Platform} {label : Label} {letter : DLQPayload}
    (made : state.effect label = .commitDeadLetter letter) :
    (∃ sender outcome, label = .worker sender outcome ∧
      state.workers sender = .running (.deadLetter .commit letter)) ∨
    ∃ lockId outcome cursor owner rest, label = .scan lockId outcome ∧
      state.scans lockId = .recover (.deadLetter .commit letter cursor) owner rest := by
  -- Both services have the same transaction.
  rcases Platform.effect_recovers made rfl with ⟨worker, outcome, point, rfl, running, source⟩ |
    ⟨lockId, outcome, rfl, ⟨point, owner, rest, recovers, source⟩ | ⟨_, _, source⟩ | ⟨_, source⟩⟩
  · unfold WorkerPoint.effect at source
    repeat' split at source
    all_goals simp at source
    obtain rfl := source
    exact .inl ⟨worker, outcome, rfl, running⟩
  · unfold RecoverPoint.effect at source
    split at source
    all_goals simp at source
    obtain rfl := source
    exact .inr ⟨lockId, outcome, _, owner, rest, rfl, recovers⟩
  all_goals simp at source

/-- Result transactions are committed by workers. -/
theorem Platform.effect_commitResult {state : Platform} {label : Label} {jobId : JobId}
    {result : SandboxResult} (made : state.effect label = .commitResult jobId result) :
    ∃ worker outcome job, label = .worker worker outcome ∧
      state.workers worker = .running (.persist .commit job result) ∧ job.jobId = jobId := by
  -- No other service has results.
  obtain ⟨worker, outcome, point, rfl, running, source⟩ := Platform.effect_byWorker made rfl
  unfold WorkerPoint.effect at source
  repeat' split at source
  all_goals simp at source
  obtain ⟨rfl, rfl⟩ := source
  exact ⟨worker, outcome, _, rfl, running, rfl⟩

/-- The two effects of a handler's catch block. -/
def Effect.compensates : Effect → Bool
  | .markFailed _ | .insertFailure _ => true
  | _ => false

/-- Only handlers compensate. -/
theorem Platform.effect_compensates {state : Platform} {label : Label} {effect : Effect}
    (made : state.effect label = effect) (compensates : effect.compensates = true) :
    ∃ key outcome, label = .gateway key outcome ∧ (state.posts key).effect = effect := by
  -- All other writers of a status or a result use a transaction, or requeue the job.
  have writes : effect ≠ .unchanged := by
    intro same
    subst same
    simp [Effect.compensates] at compensates
  rcases Platform.effect_source made writes with
    ⟨key, outcome, rfl, source⟩ | ⟨_, _, _, _, _, source⟩ | ⟨_, _, _, source⟩ | ⟨_, _, source⟩
  · exact ⟨key, outcome, rfl, source⟩
  · unfold WorkerPoint.effect at source
    repeat' split at source
    all_goals subst source; simp [Effect.compensates] at compensates
  · unfold ScanPoint.effect RecoverPoint.effect at source
    repeat' split at source
    all_goals subst source; simp [Effect.compensates] at compensates
  · unfold StartupPoint.effect at source
    split at source <;> subst source <;> simp [Effect.compensates] at compensates

/-- The compensating update is the first call of a handler's catch block. -/
theorem Platform.effect_markFailed {state : Platform} {label : Label} {jobId : JobId}
    (made : state.effect label = .markFailed jobId) :
    ∃ key outcome payload, label = .gateway key outcome ∧
      state.posts key = .markFailed payload ∧ payload.jobId = jobId := by
  -- The handler stands at the call that has this effect.
  obtain ⟨key, outcome, rfl, source⟩ := Platform.effect_compensates made rfl
  unfold PostPoint.effect at source
  split at source
  all_goals simp at source
  next gives => exact ⟨key, outcome, _, rfl, gives, source⟩

/-- The failure result is its second call. -/
theorem Platform.effect_insertFailure {state : Platform} {label : Label} {jobId : JobId}
    (made : state.effect label = .insertFailure jobId) :
    ∃ key outcome payload, label = .gateway key outcome ∧
      state.posts key = .insertFailure payload ∧ payload.jobId = jobId := by
  -- The handler stands at the call that has this effect.
  obtain ⟨key, outcome, rfl, source⟩ := Platform.effect_compensates made rfl
  unfold PostPoint.effect at source
  split at source
  all_goals simp at source
  next inserts => exact ⟨key, outcome, _, rfl, inserts, source⟩

/-- The lock key is moved by scans that acquire it while it is free, or release it. -/
theorem Platform.effect_lock {state : Platform} {label : Label} {effect : Effect}
    {lockId : LockId} (made : state.effect label = effect)
    (moves : effect = .acquireLock lockId ∨ effect = .releaseLock lockId) :
    ∃ outcome, label = .scan lockId outcome ∧
      ((effect = .acquireLock lockId ∧ state.scans lockId = .acquire ∧
          state.store.reaperLock = none) ∨
        (effect = .releaseLock lockId ∧ state.scans lockId = .release)) := by
  -- No call of a recovery is about the lock.
  have recovers : effect.recovers = true := by rcases moves with rfl | rfl <;> rfl
  rcases Platform.effect_recovers made recovers with ⟨_, _, _, _, _, source⟩ |
    ⟨own, outcome, rfl, ⟨point, _, _, _, source⟩ | ⟨at_, free, rfl⟩ | ⟨at_, rfl⟩⟩
  · unfold WorkerPoint.effect at source
    repeat' split at source
    all_goals subst source; simp at moves
  · unfold RecoverPoint.effect at source
    split at source
    all_goals subst source; simp at moves
  · obtain rfl : own = lockId := by simpa using moves
    exact ⟨outcome, rfl, .inl ⟨rfl, at_, free⟩⟩
  · obtain rfl : own = lockId := by simpa using moves
    exact ⟨outcome, rfl, .inr ⟨rfl, at_⟩⟩

end CodeExecution

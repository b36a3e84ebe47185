import CodeExecution.Effects

/-! Who writes which row, and how: all changes of rows are phases of one job's life. -/

namespace CodeExecution

/-! ## Effects on the rows -/

/-- Results do not touch the submissions. -/
theorem Store.recordOf_upsertResult (store : Store) (fresh : ResultRow)
    (merge : ResultRow → ResultRow) : (store.upsertResult fresh merge).recordOf = store.recordOf := by
  -- Only the results are replaced.
  obtain ⟨results, written⟩ := store.upsertResult_eq fresh merge
  rw [written]
  rfl

/-- The result transaction closes the job. -/
theorem Store.recordOf_commitResult (store : Store) (committed jobId : JobId)
    (result : SandboxResult) : (store.commitResult committed result).recordOf jobId =
      (store.setStatus committed (finalOutcome result).1).recordOf jobId := by
  -- Beside the result it sets the final status, and nothing else.
  obtain ⟨results, written⟩ := store.commitResult_eq committed result
  rw [written, recordOf_setStatus, recordOf_setStatus]
  rfl

/-- The dead-letter transaction closes the job as FAILED. -/
theorem Store.recordOf_commitDeadLetter (store : Store) (letter : DLQPayload) (jobId : JobId) :
    (store.commitDeadLetter letter).recordOf jobId =
      (store.setStatus letter.jobId .failed).recordOf jobId := by
  -- Beside the result it sets the status, and nothing else.
  obtain ⟨results, written⟩ := store.commitDeadLetter_eq letter
  rw [written, recordOf_setStatus, recordOf_setStatus]
  rfl

/-- The row that an effect writes, and how, apart from the bulk update. -/
def Effect.write? : Effect → Option (JobId × Phase)
  | .submit payload => some (payload.jobId, .submit)
  | .claim jobId => some (jobId, .claim)
  | .markFailed jobId => some (jobId, .close .failed)
  | .requeueRow jobId retryCount => some (jobId, .retry retryCount)
  | .commitResult jobId result => some (jobId, .close (finalOutcome result).1)
  | .commitDeadLetter letter => some (letter.jobId, .close .failed)
  | _ => none

/-- An effect writes that row and no other. -/
theorem Effect.recordOf_apply {effect : Effect} {store : Store} (notReset : effect ≠ .resetRunning)
    (fresh : ∀ payload, effect = .submit payload → store.hasSubmission payload.jobId = false)
    (jobId : JobId) :
    (effect.apply store).recordOf jobId =
      match effect.write? with
      | some (written, phase) =>
        if jobId = written then phase.apply (store.recordOf jobId) else store.recordOf jobId
      | none => store.recordOf jobId := by
  -- A statement with a key reaches the row of that key alone, and Redis keys carry no record.
  cases effect with
  | submit payload =>
    have absent : store.recordOf (submissionRow payload).id = none := by
      simpa [Store.recordOf, Store.hasSubmission, submissionRow] using fresh payload rfl
    rw [Effect.apply, Store.recordOf_insertSubmission _ absent]
    rfl
  | claim written | markFailed written | requeueRow written retryCount =>
    by_cases same : jobId = written <;>
      simp [Effect.apply, Effect.write?, Phase.apply, same]
  | commitResult committed result =>
    rw [Effect.apply, Store.recordOf_commitResult]
    by_cases same : jobId = committed <;> simp [Effect.write?, Phase.apply, same]
  | commitDeadLetter letter =>
    rw [Effect.apply, Store.recordOf_commitDeadLetter]
    by_cases same : jobId = letter.jobId <;> simp [Effect.write?, Phase.apply, same]
  | resetRunning => exact absurd rfl notReset
  | insertFailure failed =>
    rw [Effect.apply, Store.recordOf_upsertResult]
    rfl
  | stream call streamed chunk => cases call <;> rfl
  | releaseLock lockId =>
    simp only [Effect.apply, Store.releaseLock]
    split <;> rfl
  | _ => rfl

/-- A job has a row exactly if it has a record. -/
theorem Store.hasSubmission_eq (store : Store) (jobId : JobId) :
    store.hasSubmission jobId = (store.recordOf jobId).isSome := by
  -- Both look the row up.
  simp [Store.hasSubmission, Store.recordOf]

/-- The job that a transaction ends. -/
def Effect.finishes? : Effect → Option JobId
  | .commitResult jobId _ => some jobId
  | .commitDeadLetter letter => some letter.jobId
  | _ => none

/-- A job that is FAILED stays so unless its row is requeued or closed by a transaction. -/
theorem Effect.failed_stays {effect : Effect} {store : Store} {jobId : JobId}
    (failed : store.statusOf jobId = some .failed)
    (fresh : ∀ payload, effect = .submit payload → store.hasSubmission payload.jobId = false)
    (unrequeued : ∀ retryCount, effect ≠ .requeueRow jobId retryCount)
    (unfinished : effect.finishes? ≠ some jobId) :
    (effect.apply store).statusOf jobId = some .failed := by
  rw [Store.statusOf_eq] at failed ⊢
  obtain ⟨⟨status, retryCount⟩, found, isFailed⟩ := Option.map_eq_some_iff.mp failed
  obtain rfl : status = .failed := isFailed
  by_cases resets : effect = .resetRunning
  · -- The bulk update reaches RUNNING rows.
    subst resets
    simp [Effect.apply, found]
  rw [Effect.recordOf_apply resets fresh]
  cases effect with
  | submit payload =>
    have other : jobId ≠ payload.jobId := by
      intro same
      subst same
      have absent := fresh payload rfl
      simp [Store.hasSubmission_eq, found] at absent
    simp [Effect.write?, other, found]
  | claim claimed | markFailed written =>
    -- A claim needs a PENDING row, and the other update writes the same status.
    simp only [Effect.write?, Phase.apply, found]
    split <;> simp
  | requeueRow requeued count =>
    have other : jobId ≠ requeued := by
      intro same
      subst same
      exact unrequeued count rfl
    simp [Effect.write?, other, found]
  | commitResult committed result =>
    have other : jobId ≠ committed := by
      intro same
      subst same
      exact unfinished rfl
    simp [Effect.write?, other, found]
  | commitDeadLetter letter =>
    have other : jobId ≠ letter.jobId := by
      intro same
      subst same
      exact unfinished rfl
    simp [Effect.write?, other, found]
  | resetRunning => exact absurd rfl resets
  | _ => simp [Effect.write?, found]

/-! ## Effects on the results -/

/-- The row that an effect inserts as a result, and what it does on a conflict. -/
def Effect.upsert? : Effect → Option (ResultRow × (ResultRow → ResultRow))
  | .insertFailure jobId =>
    some (enqueueFailureResult jobId, fun row =>
      { row with
        errorMessage := (enqueueFailureResult jobId).errorMessage
        errorCategory := (enqueueFailureResult jobId).errorCategory })
  | .commitResult jobId result =>
    some (sandboxResultRow jobId result, fun _ => sandboxResultRow jobId result)
  | .commitDeadLetter letter =>
    some (deadLetterResultRow letter, fun row =>
      { deadLetterResultRow letter with
        executionTimeMs := row.executionTimeMs
        memoryUsedBytes := row.memoryUsedBytes })
  | _ => none

/-- An effect upserts that result and no other. -/
theorem Effect.results_apply (effect : Effect) (store : Store) :
    (effect.apply store).results =
      match effect.upsert? with
      | some (fresh, merge) => (store.upsertResult fresh merge).results
      | none => store.results := by
  -- A transaction also writes a status, which is kept in the other table.
  cases effect with
  | stream call streamed chunk => cases call <;> rfl
  | releaseLock lockId =>
    simp only [Effect.apply, Store.releaseLock]
    split <;> rfl
  | _ => rfl

/-- The transactions write results, and so does a handler that gives up. -/
theorem Effect.results_isSome {effect : Effect} (store : Store) (jobId : JobId)
    (uncompensated : ∀ failed, effect ≠ .insertFailure failed) :
    ((effect.apply store).results.lookup jobId).isSome =
      ((store.results.lookup jobId).isSome || effect.finishes? = some jobId) := by
  -- An upsert leaves one row under its key.
  rw [Effect.results_apply]
  cases effect with
  | commitResult committed result =>
    simp only [Effect.upsert?, Store.results_upsertResult, Effect.finishes?]
    by_cases same : committed = jobId
    · simp [same, sandboxResultRow]
    · simp [Ne.symm same, same, sandboxResultRow]
  | commitDeadLetter letter =>
    simp only [Effect.upsert?, Store.results_upsertResult, Effect.finishes?]
    by_cases same : letter.jobId = jobId
    · simp [same, deadLetterResultRow]
    · simp [Ne.symm same, same, deadLetterResultRow]
  | insertFailure failed => exact absurd rfl (uncompensated failed)
  | _ => exact (Bool.or_false _).symm

/-- A result stays unless a handler gives up its job, or a transaction ends it. -/
theorem Effect.results_other {effect : Effect} {store : Store} {jobId : JobId}
    (compensates : effect ≠ .insertFailure jobId)
    (unfinished : effect.finishes? ≠ some jobId) :
    (effect.apply store).results.lookup jobId = store.results.lookup jobId := by
  -- An upsert reaches the result of its own job alone.
  have other : ∀ fresh merge, effect.upsert? = some (fresh, merge) → jobId ≠ fresh.jobId := by
    intro fresh merge upserts same
    subst same
    cases effect with
    | insertFailure failed =>
      obtain ⟨rfl, _⟩ := Prod.mk.inj (Option.some.inj upserts)
      exact compensates rfl
    | commitResult committed result =>
      obtain ⟨rfl, _⟩ := Prod.mk.inj (Option.some.inj upserts)
      exact unfinished rfl
    | commitDeadLetter letter =>
      obtain ⟨rfl, _⟩ := Prod.mk.inj (Option.some.inj upserts)
      exact unfinished rfl
    | _ => simp [Effect.upsert?] at upserts
  rw [Effect.results_apply]
  split
  · next fresh merge upserts => rw [Store.results_upsertResult, if_neg (other fresh merge upserts)]
  · rfl

/-- No effect deletes a result. -/
theorem Effect.results_stay (effect : Effect) {store : Store} {jobId : JobId}
    (found : (store.results.lookup jobId).isSome = true) :
    ((effect.apply store).results.lookup jobId).isSome = true := by
  -- Results are inserted and updated, and never deleted.
  rw [Effect.results_apply]
  split
  · rw [Store.results_upsertResult]
    split
    · rfl
    · exact found
  · exact found

/-! ## Results of dead-lettered jobs -/

/-- The stored result of a job says that it was dead-lettered. -/
def Store.hasDeadLetterResult (store : Store) (jobId : JobId) : Bool :=
  -- This category is written by the dead-letter transactions alone.
  (store.results.lookup jobId).any fun row => row.errorCategory = some .workerCrash

/-- An upsert makes such a result only from rows of this category. -/
theorem Store.hasDeadLetterResult_upsert {store : Store} {fresh : ResultRow}
    {merge : ResultRow → ResultRow} (other : fresh.errorCategory ≠ some .workerCrash)
    (merged : ∀ row, (merge row).errorCategory ≠ some .workerCrash) {jobId : JobId}
    (later : (store.upsertResult fresh merge).hasDeadLetterResult jobId = true) :
    store.hasDeadLetterResult jobId = true := by
  -- The upserted row has another category, and the other rows are the old ones.
  unfold Store.hasDeadLetterResult at later ⊢
  rw [Store.results_upsertResult] at later
  split at later
  · cases found : store.results.lookup jobId with
    | none => simp [found, other] at later
    | some row => simp [found, merged row] at later
  · exact later

/-- Only the dead-letter transaction of a job makes a dead-letter result for it. -/
theorem Effect.deadLetterResult {effect : Effect} {store : Store} {jobId : JobId}
    (later : (effect.apply store).hasDeadLetterResult jobId = true) :
    store.hasDeadLetterResult jobId = true ∨
      ∃ letter, effect = .commitDeadLetter letter ∧ letter.jobId = jobId := by
  -- The two other upserts write other categories, and all other effects write no result.
  unfold Store.hasDeadLetterResult at later
  rw [Effect.results_apply] at later
  cases effect with
  | commitDeadLetter letter =>
    by_cases same : letter.jobId = jobId
    · exact .inr ⟨letter, rfl, same⟩
    · simp only [Effect.upsert?] at later
      rw [Store.results_upsertResult, if_neg (by simpa [deadLetterResultRow] using Ne.symm same)]
        at later
      exact .inl later
  | commitResult finished result =>
    exact .inl (Store.hasDeadLetterResult_upsert (finalOutcome_category result)
      (fun _ => finalOutcome_category result) later)
  | insertFailure failed =>
    exact .inl (Store.hasDeadLetterResult_upsert (by simp [enqueueFailureResult])
      (by simp [enqueueFailureResult]) later)
  | _ => exact .inl later

/-- A dead-letter transaction makes one. -/
theorem Store.hasDeadLetterResult_commitDeadLetter (store : Store) (letter : DLQPayload) :
    (store.commitDeadLetter letter).hasDeadLetterResult letter.jobId = true := by
  -- It writes its category, whether or not there was a result.
  have written : (store.commitDeadLetter letter).results = _ :=
    Effect.results_apply (.commitDeadLetter letter) store
  have key : letter.jobId = (deadLetterResultRow letter).jobId := rfl
  unfold Store.hasDeadLetterResult
  rw [written]
  simp only [Effect.upsert?]
  rw [Store.results_upsertResult, if_pos key]
  cases store.results.lookup letter.jobId <;> simp [deadLetterResultRow]

/-! ## Writers -/

/-- The calls that write a row: whose they are, and which phase they are. -/
inductive Platform.Writes (state : Platform) : Label → JobId → Phase → Prop
  /-- A handler inserts the row. -/
  | submit {jobId : JobId} {outcome : CallOutcome} {payload : QueuePayload}
      (inserts : state.posts jobId = .insert payload) :
      Writes state (.gateway jobId outcome) payload.jobId .submit
  /-- A handler gives up a job that it could not enqueue. -/
  | markFailed {jobId : JobId} {outcome : CallOutcome} {payload : QueuePayload}
      (gives : state.posts jobId = .markFailed payload) :
      Writes state (.gateway jobId outcome) payload.jobId (.close .failed)
  /-- A worker claims the job. -/
  | claim {worker : WorkerId} {outcome : CallOutcome} {job : QueuePayload}
      (running : state.workers worker = .running (.claim job)) :
      Writes state (.worker worker outcome) job.jobId .claim
  /-- A worker commits the result. -/
  | commit {worker : WorkerId} {outcome : CallOutcome} {job : QueuePayload} {result : SandboxResult}
      (running : state.workers worker = .running (.persist .commit job result)) :
      Writes state (.worker worker outcome) job.jobId (.close (finalOutcome result).1)
  /-- A worker requeues the job. -/
  | requeue {worker : WorkerId} {outcome : CallOutcome} {job : QueuePayload}
      (running : state.workers worker = .running (.requeue .update job)) :
      Writes state (.worker worker outcome) job.jobId (.retry (job.retryCount + 1))
  /-- A worker dead-letters the job. -/
  | deadLetter {worker : WorkerId} {outcome : CallOutcome} {letter : DLQPayload}
      (running : state.workers worker = .running (.deadLetter .commit letter)) :
      Writes state (.worker worker outcome) letter.jobId (.close .failed)
  /-- A recovery requeues the job. -/
  | recoverRequeue {lockId : LockId} {outcome : CallOutcome} {cursor : Cursor} {worker : WorkerId}
      {rest : List WorkerId} (recovers : state.scans lockId = .recover (.reset cursor) worker rest) :
      Writes state (.scan lockId outcome) cursor.job.jobId (.retry (cursor.job.retryCount + 1))
  /-- A recovery dead-letters the job. -/
  | recoverDeadLetter {lockId : LockId} {outcome : CallOutcome} {letter : DLQPayload}
      {cursor : Cursor} {worker : WorkerId} {rest : List WorkerId}
      (recovers : state.scans lockId = .recover (.deadLetter .commit letter cursor) worker rest) :
      Writes state (.scan lockId outcome) letter.jobId (.close .failed)

/-- Effects that write a row come from these calls. -/
theorem Platform.effect_writes {state : Platform} {label : Label} {jobId : JobId} {phase : Phase}
    (write : (state.effect label).write? = some (jobId, phase)) : state.Writes label jobId phase := by
  -- The startup recovery writes no single row, and all other effects that write one are listed.
  have writes : state.effect label ≠ .unchanged := by
    intro same
    simp [same, Effect.write?] at write
  rcases Platform.effect_source rfl writes with ⟨key, outcome, rfl, source⟩ |
    ⟨worker, outcome, point, rfl, running, source⟩ | ⟨lockId, outcome, rfl, source⟩ |
    ⟨outcome, rfl, source⟩
  all_goals rw [← source] at write
  -- A handler inserts or fails its row.
  · cases at_ : state.posts key with
    | insert payload =>
      rw [at_] at write
      obtain ⟨rfl, rfl⟩ := Prod.mk.inj (Option.some.inj write)
      exact .submit at_
    | markFailed payload =>
      rw [at_] at write
      obtain ⟨rfl, rfl⟩ := Prod.mk.inj (Option.some.inj write)
      exact .markFailed at_
    | _ => simp [at_, PostPoint.effect, Effect.write?] at write
  -- A worker claims, commits, requeues or dead-letters.
  · unfold WorkerPoint.effect at write
    repeat' split at write
    all_goals try simp [Effect.write?] at write
    all_goals obtain ⟨rfl, rfl⟩ := write
    · exact .claim running
    · exact .commit running
    · exact .requeue running
    · exact .deadLetter running
  · cases at_ : state.scans lockId with
    | recover point worker rest =>
      rw [at_] at write
      simp only [ScanPoint.effect] at write
      unfold RecoverPoint.effect at write
      split at write
      all_goals try simp [Effect.write?] at write
      all_goals obtain ⟨rfl, rfl⟩ := write
      · exact .recoverRequeue at_
      · exact .recoverDeadLetter at_
    | acquire =>
      simp only [at_, ScanPoint.effect] at write
      split at write <;> simp [Effect.write?] at write
    | _ => simp [at_, ScanPoint.effect, Effect.write?] at write
  · unfold StartupPoint.effect at write
    split at write <;> simp [Effect.write?] at write

/-- A step changes the decisive columns by its effect alone. -/
theorem Platform.step_recordOf_apply {state next : Platform} {label : Label}
    (stepped : state.step label = some next) {jobId : JobId} :
    next.store.recordOf jobId = ((state.effect label).apply state.store).recordOf jobId := by
  -- The clock and the lock key carry no record.
  obtain ⟨⟨now, lock, same, _⟩, _⟩ := Platform.step_effect stepped
  rw [same]
  rfl

/-- A step leaves the row of a job alone or writes it, except for the bulk update at startup. -/
theorem Platform.step_recordOf {state next : Platform} {label : Label}
    (stepped : state.step label = some next)
    (notReset : state.startup = .resetRunning → ∀ outcome, label ≠ .startup outcome)
    (jobId : JobId) :
    next.store.recordOf jobId = state.store.recordOf jobId ∨
      ∃ phase, state.Writes label jobId phase ∧
        next.store.recordOf jobId = phase.apply (state.store.recordOf jobId) := by
  -- The effect writes one row at most, once the bulk update is ruled out.
  have unreset : state.effect label ≠ .resetRunning := by
    intro resets
    obtain ⟨outcome, isLabel, at_⟩ := Platform.effect_resetRunning resets
    exact notReset at_ outcome isLabel
  rw [Platform.step_recordOf_apply stepped]
  rw [Effect.recordOf_apply unreset (Platform.step_effect stepped).2]
  split
  · next written phase write =>
    split
    · next same => exact .inr ⟨phase, Platform.effect_writes (same ▸ write), rfl⟩
    · exact .inl rfl
  · exact .inl rfl

end CodeExecution

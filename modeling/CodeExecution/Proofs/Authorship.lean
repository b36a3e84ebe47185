import CodeExecution.Authors
import CodeExecution.Proofs.RowWrites
import CodeExecution.Proofs.ScanSteps

/-! Transactions write statuses and results together, so the two tables agree until somebody splits them. -/

namespace CodeExecution

variable {state next : Platform} {label : Label} {store : Store} {jobId : JobId}

/-! ## Rows stay -/

/-- No phase removes a record. -/
theorem Phase.apply_isSome (phase : Phase) {record : JobRecord} (stored : record.isSome = true) :
    (phase.apply record).isSome = true := by
  cases phase <;> simp [Phase.apply, stored]

/-- No step removes a row. -/
theorem Platform.step_hasSubmission (stepped : state.step label = some next)
    (stored : state.store.hasSubmission jobId = true) : next.store.hasSubmission jobId = true := by
  -- Rows are inserted and updated, and the bulk update keeps all of them.
  rw [Store.hasSubmission_eq] at stored ⊢
  rw [Platform.step_recordOf_apply stepped]
  by_cases resets : state.effect label = .resetRunning
  · simpa [resets, Effect.apply] using stored
  · rw [Effect.recordOf_apply resets (Platform.step_effect stepped).2]
    split
    · split
      · exact Phase.apply_isSome _ stored
      · exact stored
    · exact stored

/-! ## Rows behind the program points -/

/-- The job whose row a handler has inserted, and may have to mark as failed. -/
def PostPoint.inserted? : PostPoint → Option JobId
  | .enqueue payload | .depth payload | .markFailed payload => some payload.jobId
  | .idle | .insert _ | .insertFailure _ | .answered _ | .crashed => none

/-- The job whose row the foreign key of an open transaction has found. -/
def WorkerPoint.checked? : WorkerPoint → Option JobId
  | .persist .updateStatus job _ | .persist .commit job _ => some job.jobId
  | .deadLetter .commit letter => some letter.jobId
  | _ => none

/-- The same for the transaction of a recovery. -/
def RecoverPoint.checked? : RecoverPoint → Option JobId
  | .deadLetter .commit letter _ => some letter.jobId
  | _ => none

/-- Every commit and every compensating update finds the row of its job. -/
structure Stored (state : Platform) : Prop where
  inserted : ∀ key jobId, (state.posts key).inserted? = some jobId →
    state.store.hasSubmission jobId = true
  workers : ∀ worker point jobId, state.workers worker = .running point →
    point.checked? = some jobId → state.store.hasSubmission jobId = true
  scans : ∀ lockId point worker rest jobId, state.scans lockId = .recover point worker rest →
    point.checked? = some jobId → state.store.hasSubmission jobId = true

/-- The retry path starts without a transaction. -/
theorem requeueWithBackoff_checked (job : QueuePayload) :
    (requeueWithBackoff job).checked? = none := by
  unfold requeueWithBackoff
  split <;> rfl

/-- A resolved call leads behind the foreign key only past its check. -/
theorem WorkerPoint.resolve_checked {worker : WorkerId} {point : WorkerPoint} {store : Store}
    {after : WorkerPoint × Store} (resolved : point.resolve worker store = some after)
    (checked : after.1.checked? = some jobId) :
    point.checked? = some jobId ∨ store.hasSubmission jobId = true := by
  -- The check is made by the INSERT into `submission_results`.
  obtain ⟨next, later⟩ := after
  cases WorkerPoint.resolve_cases resolved with
  | insertResult stored | letterInsert stored =>
    obtain rfl := Option.some.inj checked
    exact .inr stored
  | updateStatus => exact .inl checked
  | rollback => simp [requeueWithBackoff_checked] at checked
  | _ => simp [WorkerPoint.checked?] at checked

/-- A failed call leads to no point behind the foreign key. -/
theorem WorkerPoint.handler_checked {point after : WorkerPoint}
    (handled : point.handler = some after) : after.checked? = none := by
  -- Handlers lead to a rollback, to the retry path or back to the loop.
  cases point with
  | persist call job result | deadLetter call letter =>
    cases call <;> obtain rfl := Option.some.inj handled <;>
      first | rfl | exact requeueWithBackoff_checked _
  | launch job | executing job => simp [WorkerPoint.handler] at handled
  | _ =>
    obtain rfl := Option.some.inj handled
    first | rfl | exact requeueWithBackoff_checked _

/-- The loop of a recovery goes to no COMMIT. -/
theorem RecoverPoint.visit_checked (visited todo : List Entry) :
    (RecoverPoint.visit visited todo).checked? = none := by
  -- It goes to the SELECT of an element, or to the final DEL.
  rcases RecoverPoint.visit_cases visited todo with ⟨cursor, at_⟩ | ⟨all, at_⟩ <;> rw [at_] <;> rfl

/-- A recovery gets behind the foreign key only past its check. -/
theorem RecoverPoint.resolve_checked {worker : WorkerId} {point after : RecoverPoint}
    {store later : Store} (resolved : point.resolve worker store = some (some after, later))
    (checked : after.checked? = some jobId) : store.hasSubmission jobId = true := by
  -- Only the INSERT into `submission_results` is followed by a COMMIT.
  cases RecoverPoint.resolve_cases resolved with
  | insertResult stored =>
    obtain rfl := Option.some.inj checked
    exact stored
  | list | skip | push | sendLetter =>
    simp [Cursor.advance, RecoverPoint.visit_checked] at checked
  | _ => simp [RecoverPoint.checked?] at checked

/-- A handler that may have to mark its job as failed has inserted the row, now or before. -/
theorem PostPoint.call_inserted {point : PostPoint} {outcome : CallOutcome}
    {after : PostPoint × Store}
    (went : awaitCall outcome (point.resolve store) point.handler store = some after)
    (inserted : after.1.inserted? = some jobId) :
    point.inserted? = some jobId ∨ after.2.hasSubmission jobId = true := by
  -- The INSERT leads to the push, and the push and the depth read lead to the catch block.
  obtain ⟨next, later⟩ := after
  rcases PostPoint.call_cases went with ⟨_, resolved⟩ | ⟨payload, rfl | rfl, rfl⟩ | rfl
  · cases resolved with
    | @insert payload free =>
      obtain rfl : payload.jobId = jobId := by simpa [PostPoint.inserted?] using inserted
      have absent : store.recordOf (submissionRow payload).id = none := by
        simpa [Store.hasSubmission_eq, submissionRow] using free
      right
      rw [Store.hasSubmission_eq, Store.recordOf_insertSubmission _ absent]
      simp [submissionRow]
    | enqueue => exact .inl inserted
    | depth | markFailed | insertFailure => simp [PostPoint.inserted?] at inserted
  · exact .inl inserted
  · exact .inl inserted
  · simp [PostPoint.inserted?] at inserted

/-- A handler writes a failure result only once it has marked its job as failed. -/
theorem PostPoint.call_insertFailure {point : PostPoint} {outcome : CallOutcome}
    {payload : QueuePayload} {later : Store}
    (went : awaitCall outcome (point.resolve store) point.handler store =
      some (.insertFailure payload, later)) : outcome = .resolves ∧ point = .markFailed payload := by
  -- No exception leads there.
  rcases PostPoint.call_cases went with ⟨rfl, resolved⟩ | ⟨_, _, impossible⟩ | impossible
  · cases resolved with
    | markFailed => exact ⟨rfl, rfl⟩
  · simp at impossible
  · simp at impossible

/-- Every label keeps this. -/
theorem Stored.step (stored : Stored state) (stepped : state.step label = some next) :
    Stored next where
  inserted key jobId point := by
    -- A handler inserts the row itself, and no step removes it.
    rcases Platform.step_post stepped key with ⟨same, _⟩ | ⟨_, _, _, _, _, rfl⟩ |
      ⟨outcome, after, rfl, went, rfl⟩ | ⟨_, rfl⟩
    · exact Platform.step_hasSubmission stepped (stored.inserted key jobId (same ▸ point))
    · simp [receivePost, PostPoint.inserted?] at point
    · rcases PostPoint.call_inserted went (by simpa using point) with earlier | found
      · exact Platform.step_hasSubmission stepped (stored.inserted key jobId earlier)
      · simpa using found
    · simp [PostPoint.inserted?] at point
  workers worker point jobId running checked := by
    -- A worker has found the row at its INSERT.
    rcases Platform.step_worker stepped running with ⟨same, _⟩ |
      ⟨outcome, before, after, rfl, was, went, rfl⟩ | ⟨job, rfl, was, rfl, rfl⟩ |
      ⟨result, before, rfl, was, settled, rfl⟩ | ⟨rfl, was, rfl, rfl⟩
    · exact Platform.step_hasSubmission stepped (stored.workers worker point jobId same checked)
    · refine Platform.step_hasSubmission stepped ?_
      rcases awaitCall_cases went with ⟨_, resolved⟩ | ⟨_, _, handled, same⟩ |
        ⟨_, _, _, _, handled, same⟩
      · rcases WorkerPoint.resolve_checked resolved checked with earlier | found
        · exact stored.workers worker before jobId was earlier
        · exact found
      · obtain ⟨rfl, _⟩ := Prod.mk.inj same
        simp [WorkerPoint.handler_checked handled] at checked
      · obtain ⟨rfl, _⟩ := Prod.mk.inj same
        simp [WorkerPoint.handler_checked handled] at checked
    · simp [WorkerPoint.checked?] at checked
    · unfold WorkerPoint.sandboxSettled at settled
      split at settled
      · split at settled <;> obtain rfl := Option.some.inj settled
        · simp [WorkerPoint.checked?] at checked
        · simp [requeueWithBackoff_checked] at checked
      · simp at settled
    · simp [WorkerPoint.checked?] at checked
  scans lockId point worker rest jobId recovers checked := by
    -- So has a scan.
    rcases Platform.step_scan stepped lockId with ⟨same, _⟩ | ⟨rfl, _, rfl⟩ |
      ⟨outcome, after, rfl, went, rfl⟩ | ⟨_, _, rfl, _, rfl⟩ | ⟨rfl, rfl⟩
    · exact Platform.step_hasSubmission stepped
        (stored.scans lockId point worker rest jobId (same ▸ recovers) checked)
    · simp at recovers
    · refine Platform.step_hasSubmission stepped ?_
      obtain ⟨stands, later⟩ := after
      obtain rfl : stands = .recover point worker rest := by simpa using recovers
      rcases ScanPoint.call_recover went with ⟨was, _, _, resolved⟩ | ⟨_, _, _, _, rfl⟩ |
        ⟨rfl, _, _, _⟩
      · exact RecoverPoint.resolve_checked resolved checked
      · simp [RecoverPoint.checked?] at checked
      · simp [RecoverPoint.checked?] at checked
    · obtain ⟨rfl, _⟩ := ScanPoint.recoverAll_recover (by simpa using recovers)
      simp [RecoverPoint.checked?] at checked
    · simp at recovers

/-- Before the first request there is nothing to find. -/
theorem Stored.initial : Stored Platform.initial where
  inserted := by simp [Platform.initial, PostPoint.inserted?]
  workers := by simp [Platform.initial]
  scans := by simp [Platform.initial]

/-- A handler gets to its failure result only by marking its job as failed. -/
theorem Platform.uncompensated_step (stepped : state.step label = some next)
    (unmarked : ∀ jobId, state.effect label ≠ .markFailed jobId)
    (before : ∀ key payload, state.posts key ≠ .insertFailure payload) (key : JobId)
    (payload : QueuePayload) : next.posts key ≠ .insertFailure payload := by
  -- The compensating INSERT follows the UPDATE to FAILED only.
  intro at_
  rcases Platform.step_post stepped key with ⟨same, _⟩ | ⟨_, _, _, _, _, rfl⟩ |
    ⟨outcome, after, rfl, went, rfl⟩ | ⟨_, rfl⟩
  · exact before key payload (same ▸ at_)
  · simp [receivePost] at at_
  · obtain ⟨point, later⟩ := after
    obtain rfl : point = .insertFailure payload := by simpa using at_
    obtain ⟨rfl, gives⟩ := PostPoint.call_insertFailure went
    exact unmarked payload.jobId (by simp [Platform.effect, gives, CallOutcome.applied, PostPoint.effect])
  · simp at at_

/-! ## What an effect does to the two tables -/

/-- The effects that write a status without its result, on a job that may be over. -/
def Effect.splits (store : Store) (jobId : JobId) : Effect → Bool
  | .markFailed _ | .insertFailure _ => true
  | .requeueRow requeued _ => requeued = jobId && isTerminalStatus (store.statusOf jobId)
  | _ => false

/-- Apart from those, the effects that end a job are the ones that write its result. -/
theorem Effect.closed {effect : Effect} {store : Store} {jobId : JobId}
    (whole : effect.splits store jobId = false)
    (fresh : ∀ payload, effect = .submit payload → store.hasSubmission payload.jobId = false) :
    isTerminalStatus ((effect.apply store).statusOf jobId) =
      (isTerminalStatus (store.statusOf jobId) ||
        (effect.finishes? = some jobId && store.hasSubmission jobId)) := by
  -- The phases of the other effects lead from one open status to another.
  simp only [Store.statusOf_eq, Store.hasSubmission_eq]
  by_cases resets : effect = .resetRunning
  · subst resets
    simp only [Effect.apply, Store.recordOf_resetRunning, Effect.finishes?]
    rcases store.recordOf jobId with _ | ⟨status, retryCount⟩
    · rfl
    · cases status <;> rfl
  rw [Effect.recordOf_apply resets fresh]
  cases effect with
  | markFailed _ | insertFailure _ => simp [Effect.splits] at whole
  | resetRunning => exact absurd rfl resets
  | submit payload =>
    have absent : store.recordOf payload.jobId = none := by
      simpa [Store.hasSubmission_eq] using fresh payload rfl
    by_cases same : jobId = payload.jobId
    · subst same
      simp [Effect.write?, Phase.apply, Effect.finishes?, absent, isTerminalStatus,
        SubmissionStatus.isTerminal]
    · simp [Effect.write?, Effect.finishes?, same]
  | claim claimed =>
    by_cases same : jobId = claimed
    · subst same
      rcases store.recordOf jobId with _ | ⟨status, retryCount⟩
      · simp [Effect.write?, Phase.apply, Effect.finishes?]
      · cases status <;>
          simp [Effect.write?, Phase.apply, Effect.finishes?, isTerminalStatus,
            SubmissionStatus.isTerminal]
    · simp [Effect.write?, Effect.finishes?, same]
  -- A retry of an open row leaves it open.
  | requeueRow requeued retryCount =>
    by_cases same : jobId = requeued
    · subst same
      have still : isTerminalStatus (store.statusOf jobId) = false := by
        simpa [Effect.splits] using whole
      rw [Store.statusOf_eq] at still
      rw [still]
      rcases store.recordOf jobId with _ | record <;>
        simp [Effect.write?, Phase.apply, Effect.finishes?, isTerminalStatus,
          SubmissionStatus.isTerminal]
    · simp [Effect.write?, Effect.finishes?, same]
  -- The two transactions close a row that is there.
  | commitResult committed result =>
    by_cases same : jobId = committed
    · subst same
      rcases store.recordOf jobId with _ | record <;>
        simp [Effect.write?, Phase.apply, Effect.finishes?, isTerminalStatus,
          finalOutcome_terminal]
    · simp [Effect.write?, Effect.finishes?, same, Ne.symm same]
  | commitDeadLetter letter =>
    by_cases same : jobId = letter.jobId
    · subst same
      rcases store.recordOf letter.jobId with _ | record <;>
        simp [Effect.write?, Phase.apply, Effect.finishes?, isTerminalStatus,
          SubmissionStatus.isTerminal]
    · simp [Effect.write?, Effect.finishes?, same, Ne.symm same]
  | _ => simp [Effect.write?, Effect.finishes?]

/-- A transaction writes the status and the whole result of the job that it ends. -/
theorem Effect.columns_finishes {effect : Effect} (finishes : effect.finishes? = some jobId)
    (store : Store) : effect.columns store jobId = .status :: resultColumns := by
  -- There are two such transactions.
  unfold Effect.finishes? at finishes
  split at finishes
  all_goals simp at finishes
  all_goals simp [Effect.columns, finishes]

/-- All other effects leave the result alone, but for a handler that gives up. -/
theorem Effect.finishes_of_result {effect : Effect} {column : Column}
    (uncompensated : ∀ failed, effect ≠ .insertFailure failed)
    (written : column ∈ effect.columns store jobId) (result : column ∈ resultColumns) :
    effect.finishes? = some jobId := by
  -- They write the status at most, which is no column of the result.
  have notStatus : column ≠ .status := by
    intro same
    subst same
    simp [resultColumns] at result
  cases effect with
  | insertFailure failed => exact absurd rfl (uncompensated failed)
  | commitResult committed result =>
    simp only [Effect.columns] at written
    split at written
    · next same => exact congrArg some same
    · simp at written
  | commitDeadLetter letter =>
    simp only [Effect.columns] at written
    split at written
    · next same => exact congrArg some same
    · simp at written
  | submit _ | claim _ | markFailed _ | requeueRow _ _ | resetRunning =>
    simp only [Effect.columns] at written
    split at written <;> simp [notStatus] at written
  | _ => simp [Effect.columns] at written

/-- And they write no column of a job that is over. -/
theorem Effect.columns_closed {effect : Effect} (whole : effect.splits store jobId = false)
    (fresh : ∀ payload, effect = .submit payload → store.hasSubmission payload.jobId = false)
    (closed : isTerminalStatus (store.statusOf jobId) = true)
    (unfinished : effect.finishes? ≠ some jobId) : effect.columns store jobId = [] := by
  -- Claims and the bulk update look at the status, and an INSERT needs a free key.
  cases effect with
  | markFailed _ | insertFailure _ => simp [Effect.splits] at whole
  | submit payload =>
    have other : payload.jobId ≠ jobId := by
      intro same
      subst same
      have absent := fresh payload rfl
      rw [Store.hasSubmission_eq] at absent
      rw [Store.statusOf_eq, Option.isSome_eq_false_iff.mp absent |> Option.isNone_iff_eq_none.mp]
        at closed
      simp [isTerminalStatus] at closed
    simp [Effect.columns, other]
  | claim claimed =>
    have busy : store.statusOf jobId ≠ some .pending := by
      intro waiting
      simp [waiting, isTerminalStatus, SubmissionStatus.isTerminal] at closed
    simp [Effect.columns, busy]
  | resetRunning =>
    have idle : store.statusOf jobId ≠ some .running := by
      intro running
      simp [running, isTerminalStatus, SubmissionStatus.isTerminal] at closed
    simp [Effect.columns, idle]
  | requeueRow requeued retryCount =>
    have other : requeued ≠ jobId := by
      intro same
      subst same
      simp [Effect.splits, closed] at whole
    simp [Effect.columns, other]
  | commitResult committed result =>
    have other : committed ≠ jobId := fun same => unfinished (congrArg some same)
    simp [Effect.columns, other]
  | commitDeadLetter letter =>
    have other : letter.jobId ≠ jobId := fun same => unfinished (congrArg some same)
    simp [Effect.columns, other]
  | _ => rfl

/-- A transaction that ends a job is committed by a worker or a scan, and finds the row. -/
theorem Stored.finishes (stored : Stored state)
    (finishes : (state.effect label).finishes? = some jobId) :
    state.store.hasSubmission jobId = true ∧
      ∃ writer, label.writer? = some writer ∧ ∀ key, writer ≠ .handler key := by
  -- The foreign key has been checked before the COMMIT.
  cases made : state.effect label with
  | commitResult committed result =>
    obtain rfl : committed = jobId := by simpa [made, Effect.finishes?] using finishes
    obtain ⟨worker, _, job, rfl, running, rfl⟩ := Platform.effect_commitResult made
    exact ⟨stored.workers worker _ _ running rfl, .worker worker, rfl, by simp⟩
  | commitDeadLetter letter =>
    obtain rfl : letter.jobId = jobId := by simpa [made, Effect.finishes?] using finishes
    rcases Platform.effect_commitDeadLetter made with
      ⟨sender, _, rfl, running⟩ | ⟨lockId, _, cursor, owner, rest, rfl, recovers⟩
    · exact ⟨stored.workers sender _ _ running rfl, .worker sender, rfl, by simp⟩
    · exact ⟨stored.scans lockId _ _ _ _ recovers rfl, .scan lockId, rfl, by simp⟩
  | _ => simp [made, Effect.finishes?] at finishes

end CodeExecution

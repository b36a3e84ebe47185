import CodeExecution.Proofs.StartupAlone

/-! The startup recovery over an empty Redis, followed row by row. -/

namespace CodeExecution

variable {lost store : Store}

/-! ## Rows and payloads -/

/-- A row is open while its status is not terminal. -/
def SubmissionRow.isOpen (row : SubmissionRow) : Bool :=
  -- PENDING and RUNNING are the two other statuses.
  !row.status.isTerminal

/-- Rewriting status and retry count changes a row's payload by the count alone. -/
theorem payloadOfRow_updateSubmissions {condition : SubmissionRow → Bool}
    {change : SubmissionRow → SubmissionRow} {jobId : JobId} {row : SubmissionRow}
    (found : (store.updateSubmissions condition change).submissions.lookup jobId = some row)
    (columns : ∀ row, payloadOfRow { change row with id := row.id } =
      (payloadOfRow row).withRetry (change row).retryCount) :
    ∃ old, store.submissions.lookup jobId = some old ∧
      payloadOfRow row = (payloadOfRow old).withRetry row.retryCount := by
  -- The row stays where it is, and the condition decides whether it is rewritten.
  simp only [Store.updateSubmissions, KeyedTable.lookup_updateWhere] at found
  obtain ⟨old, stored, rewritten⟩ := Option.map_eq_some_iff.mp found
  refine ⟨old, stored, ?_⟩
  split at rewritten
  · subst rewritten
    exact columns old
  · subst rewritten
    rfl

/-- Every effect leaves what a row's payload is made of alone, or inserts the row. -/
theorem Effect.payloadOfRow_apply {effect : Effect}
    (fresh : ∀ payload, effect = .submit payload → store.hasSubmission payload.jobId = false)
    {jobId : JobId} {row : SubmissionRow}
    (found : (effect.apply store).submissions.lookup jobId = some row) :
    (∃ payload, effect = .submit payload ∧ row = submissionRow payload) ∨
    ∃ old, store.submissions.lookup jobId = some old ∧
      payloadOfRow row = (payloadOfRow old).withRetry row.retryCount := by
  -- The updates set a status and sometimes a retry count, and Redis commands touch no table.
  cases effect with
  | submit payload =>
    have free : store.submissions.lookup (submissionRow payload).id = none := by
      simpa [Store.hasSubmission, submissionRow] using fresh payload rfl
    simp only [Effect.apply, Store.insertSubmission, KeyedTable.lookup_insert _ _ _ free] at found
    split at found
    · obtain rfl := Option.some.inj found
      exact .inl ⟨payload, rfl, rfl⟩
    · exact .inr ⟨row, found, rfl⟩
  | claim _ | markFailed _ | requeueRow _ _ | resetRunning =>
    simp only [Effect.apply, Store.claim, Store.setStatus, Store.requeueRow, Store.resetRunning]
      at found
    exact .inr (payloadOfRow_updateSubmissions found fun _ => rfl)
  | commitResult committed result =>
    obtain ⟨results, written⟩ := store.commitResult_eq committed result
    rw [Effect.apply, written, Store.setStatus] at found
    exact .inr (payloadOfRow_updateSubmissions found fun _ => rfl)
  | commitDeadLetter letter =>
    obtain ⟨results, written⟩ := store.commitDeadLetter_eq letter
    rw [Effect.apply, written, Store.setStatus] at found
    exact .inr (payloadOfRow_updateSubmissions found fun _ => rfl)
  | insertFailure failed =>
    obtain ⟨results, written⟩ := store.upsertResult_eq (enqueueFailureResult failed) fun row =>
      { row with
        errorMessage := (enqueueFailureResult failed).errorMessage
        errorCategory := (enqueueFailureResult failed).errorCategory }
    rw [Effect.apply, written] at found
    exact .inr ⟨row, found, rfl⟩
  | stream call streamed chunk => cases call <;> exact .inr ⟨row, found, rfl⟩
  | releaseLock lockId =>
    simp only [Effect.apply, Store.releaseLock] at found
    split at found <;> exact .inr ⟨row, found, rfl⟩
  | _ => exact .inr ⟨row, found, rfl⟩

/-! ## The table after the bulk update -/

/-- The table that the bulk update has left, at the time it ran. -/
def ResetAfter (lost store : Store) : Prop :=
  ∃ now, store.submissions = ({ lost with now } : Store).resetRunning.submissions

/-- A row that was open is PENDING, and any other row is as before. -/
theorem ResetAfter.lookup (reset : ResetAfter lost store) {jobId : JobId} {row : SubmissionRow}
    (found : lost.submissions.lookup jobId = some row) :
    (row.isOpen = true → store.statusOf jobId = some .pending) ∧
    (row.isOpen = false → store.submissions.lookup jobId = some row) := by
  obtain ⟨now, same⟩ := reset
  -- The reset writes RUNNING rows only, and leaves a PENDING one PENDING.
  have read : store.submissions.lookup jobId = some (if row.status = .running then
      { row with status := .pending, updatedAt := now } else row) := by
    rw [same, Store.resetRunning, Store.updateSubmissions, KeyedTable.lookup_updateWhere, found]
    simp
  rw [Store.statusOf, read]
  cases status : row.status <;> simp [SubmissionRow.isOpen, SubmissionStatus.isTerminal, status]

/-- The PENDING rows are those that were open, with the payloads they had. -/
theorem ResetAfter.payloads (reset : ResetAfter lost store) :
    (store.submissions.select fun row => row.status = .pending).map payloadOfRow =
      (lost.submissions.select SubmissionRow.isOpen).map payloadOfRow := by
  obtain ⟨now, same⟩ := reset
  rw [same, Store.resetRunning, Store.updateSubmissions, KeyedTable.select_updateWhere,
    List.map_map]
  -- A row meets the condition afterwards exactly if it was open before.
  have isOpen : (fun row : SubmissionRow => decide ((if decide (row.status = .running) = true then
      { row with id := row.id, status := .pending, updatedAt := now } else row).status = .pending)) =
      SubmissionRow.isOpen := by
    funext row
    cases status : row.status <;> simp [SubmissionRow.isOpen, SubmissionStatus.isTerminal, status]
  show List.map _ (lost.submissions.select _) = _
  rw [isOpen]
  refine List.map_congr_left fun row _ => ?_
  simp only [Function.comp_apply]
  split <;> rfl

/-! ## Phases -/

/-- How far the recovery has come, over the tables of one store and without a pending payload at first. -/
inductive Rebuilding (lost store : Store) : StartupPoint → Prop where
  /-- Nothing has been written. -/
  | resetting (rows : store.submissions = lost.submissions) (results : store.results = lost.results)
      (empty : store.pending = []) : Rebuilding lost store .resetRunning
  /-- The rows are reset, and the list is still empty. -/
  | reading {point : StartupPoint} (reset : ResetAfter lost store)
      (results : store.results = lost.results) (empty : store.pending = [])
      (reads : point = .checkDepth ∨ point = .selectPending) : Rebuilding lost store point
  /-- Some of the rows that were read have been pushed, in their order. -/
  | rehydrating (pushed left : List SubmissionRow) (reset : ResetAfter lost store)
      (results : store.results = lost.results) (read : store.pendingRows (pushed ++ left))
      (pending : store.pending = (pushed.map fun row => .payload (payloadOfRow row)).reverse) :
      Rebuilding lost store (.rehydrateAll left)
  /-- A call has rejected. -/
  | failed : Rebuilding lost store .failed

/-- A resolved call of the recovery brings it to its next phase. -/
theorem Rebuilding.resolves {point : StartupPoint} {after : StartupPoint × Store}
    (phase : Rebuilding lost store point) (resolved : point.resolve store = some after) :
    Rebuilding lost after.2 after.1 := by
  -- The three calls that can resolve are the UPDATE, the LLEN and an LPUSH.
  cases phase with
  | resetting rows results empty =>
    obtain rfl := Option.some.inj resolved
    refine .reading ⟨store.now, ?_⟩ results empty (.inl rfl)
    simp only [Store.resetRunning, Store.updateSubmissions, rows]
  | reading reset results empty reads =>
    rcases reads with rfl | rfl
    · obtain rfl := Option.some.inj resolved
      exact .reading reset results empty (.inr (by simp [empty]))
    · simp [StartupPoint.resolve] at resolved
  | rehydrating pushed left reset results read pending =>
    cases left with
    | nil => simp [StartupPoint.rehydrateAll, StartupPoint.resolve] at resolved
    | cons row rest =>
      obtain rfl := Option.some.inj resolved
      refine .rehydrating (pushed ++ [row]) rest reset results ?_ ?_
      · rw [List.append_assoc]
        exact read
      · simp [Store.pushPending, pending]
  | failed => simp [StartupPoint.resolve] at resolved

/-- A step of the recovery on its own keeps its phases. -/
theorem Rebuilding.step {state next : Platform} {label : Label}
    (phase : Rebuilding lost state.store state.startup) (permitted : startupAlone label = true)
    (stepped : platform.step state label = some next) :
    Rebuilding lost next.store next.startup := by
  refine startupAlone_step ?_ (fun _ _ _ phase resolved => phase.resolves resolved) ?_
    (fun _ => .failed) phase permitted stepped
  · -- No row and no list depends on the clock.
    intro store now point phase
    cases phase with
    | resetting rows results empty => exact .resetting rows results empty
    | reading reset results empty reads => exact .reading reset results empty reads
    | rehydrating pushed left reset results read pending =>
      exact .rehydrating pushed left reset results read pending
    | failed => exact .failed
  · intro store rows phase read
    generalize at_ : StartupPoint.selectPending = point at phase
    cases phase with
    | reading reset results empty reads => exact .rehydrating [] rows reset results read empty
    | rehydrating _ left _ _ _ _ => cases left <;> simp [StartupPoint.rehydrateAll] at at_
    | resetting | failed => simp at at_

end CodeExecution

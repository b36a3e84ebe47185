import CodeExecution.Proofs.Authorship
import CodeExecution.Proofs.Engagement

/-! A submission that its handler gave up: nobody has started it, and nobody will. -/

namespace CodeExecution

variable {state next : Platform} {label : Label} {store : Store} {jobId : JobId}

/-! ## Rows that somebody has taken up -/

/-- The row is there, and is no longer as its handler inserted it. -/
def JobRecord.Touched (record : JobRecord) : Prop :=
  record.isSome = true ∧ record ≠ some (.pending, 0)

/-- A job that is over is touched. -/
theorem JobRecord.touched_of_terminal {record : JobRecord}
    (terminal : isTerminalStatus (record.map Prod.fst) = true) : record.Touched := by
  -- PENDING is no terminal status.
  rcases record with _ | ⟨status, retryCount⟩
  · simp [isTerminalStatus] at terminal
  · refine ⟨rfl, ?_⟩
    intro same
    obtain ⟨rfl, _⟩ := Prod.mk.inj (Option.some.inj same)
    simp [isTerminalStatus, SubmissionStatus.isTerminal] at terminal

/-- A phase after the insertion leaves a touched row touched. -/
theorem Phase.apply_touched {phase : Phase} {record : JobRecord} (touched : record.Touched)
    (later : phase ≠ .submit) (counts : phase ≠ .retry 0) (ends : phase ≠ .close .pending) :
    JobRecord.Touched (phase.apply record) := by
  -- Only the insertion makes the row that handlers start with.
  obtain ⟨stored, changed⟩ := touched
  obtain ⟨⟨status, retryCount⟩, rfl⟩ := Option.isSome_iff_exists.mp stored
  cases phase with
  | submit => exact absurd rfl later
  | claim =>
    refine ⟨by simp [Phase.apply], ?_⟩
    by_cases waiting : status = .pending
    · simp [Phase.apply, waiting]
    · simp [Phase.apply, waiting]
  | retry count =>
    refine ⟨by simp [Phase.apply], ?_⟩
    have positive : count ≠ 0 := by
      intro same
      subst same
      exact counts rfl
    simpa [Phase.apply] using positive
  | close final =>
    refine ⟨by simp [Phase.apply], ?_⟩
    have other : final ≠ .pending := by
      intro same
      subst same
      exact ends rfl
    simp [Phase.apply, other]

/-- No writer goes back to the first row. -/
theorem Platform.Writes.progress {phase : Phase} (writes : state.Writes label jobId phase) :
    phase ≠ .retry 0 ∧ phase ≠ .close .pending := by
  -- Requeues count up, and every closing status is terminal.
  cases writes with
  | @commit _ _ _ result _ =>
    refine ⟨by simp, fun same => ?_⟩
    have terminal := finalOutcome_terminal result
    rw [Phase.close.inj same] at terminal
    simp [SubmissionStatus.isTerminal] at terminal
  | _ => exact ⟨by simp, by simp⟩

/-- A touched row stays touched, unless the monitor restarts. -/
theorem Platform.step_touched (stepped : state.step label = some next)
    (kept : state.effect label ≠ .resetRunning)
    (touched : JobRecord.Touched (state.store.recordOf jobId)) :
    JobRecord.Touched (next.store.recordOf jobId) := by
  -- A second row for the same job is rejected by the primary key.
  have fresh := (Platform.step_effect stepped).2
  rw [Platform.step_recordOf_apply stepped, Effect.recordOf_apply kept fresh]
  split
  · next written phase write =>
    split
    · next isJob =>
      subst isJob
      obtain ⟨counts, ends⟩ := (Platform.effect_writes write).progress
      refine Phase.apply_touched touched ?_ counts ends
      intro same
      subst same
      cases made : state.effect label with
      | submit payload =>
        obtain rfl : payload.jobId = jobId := by simpa [made, Effect.write?] using write
        have absent := fresh payload made
        rw [Store.hasSubmission_eq, touched.1] at absent
        simp at absent
      | _ => simp [made, Effect.write?] at write
    · exact touched
  · exact touched

/-! ## Refused submissions -/

/-- The row is FAILED, and if it has a result, then it is the one of its handler. -/
def Store.refused (store : Store) (jobId : JobId) : Bool :=
  store.statusOf jobId = some .failed &&
    (store.results.lookup jobId).all fun row =>
      row.errorMessage = (enqueueFailureResult jobId).errorMessage &&
        row.errorCategory = (enqueueFailureResult jobId).errorCategory

/--
A handler gives up only a row that nobody has touched, and nobody touches it afterwards.

No worker has claimed or requeued the job when its handler's update takes effect,
and no requeue and no dead-letter transaction takes effect on a job that was given up.
The monitor is not restarted.
-/
def refusesCleanly (state : Platform) (label : Label) : Bool :=
  match state.effect label with
  | .markFailed jobId => state.store.recordOf jobId = some (.pending, 0)
  | .requeueRow jobId _ => !state.store.refused jobId
  | .commitDeadLetter letter => !state.store.refused letter.jobId
  | .resetRunning => false
  | _ => true

/-- Two reads tell whether a job is refused. -/
theorem Store.refused_iff (store : Store) (jobId : JobId) :
    store.refused jobId = true ↔ store.statusOf jobId = some .failed ∧
      ∀ row, store.results.lookup jobId = some row →
        row.errorMessage = (enqueueFailureResult jobId).errorMessage ∧
          row.errorCategory = (enqueueFailureResult jobId).errorCategory := by
  -- A result that is absent contradicts nothing.
  cases found : store.results.lookup jobId <;> simp [Store.refused, found]

/-- The result of a transaction is never classified as unknown. -/
theorem Effect.results_finishes {effect : Effect} (finishes : effect.finishes? = some jobId) :
    ∃ row, (effect.apply store).results.lookup jobId = some row ∧
      row.errorCategory ≠ some .unknown := by
  -- Sandboxes and dead letters have categories of their own.
  rw [Effect.results_apply]
  cases effect with
  | commitResult committed result =>
    obtain rfl : committed = jobId := by simpa [Effect.finishes?] using finishes
    have known : (finalOutcome result).2.2 ≠ some .unknown := by
      unfold finalOutcome
      repeat' split
      all_goals simp
    have key : committed = (sandboxResultRow committed result).jobId := rfl
    simp only [Effect.upsert?]
    rw [Store.results_upsertResult, if_pos key]
    refine ⟨_, rfl, ?_⟩
    cases store.results.lookup committed <;> exact known
  | commitDeadLetter letter =>
    obtain rfl : letter.jobId = jobId := by simpa [Effect.finishes?] using finishes
    have key : letter.jobId = (deadLetterResultRow letter).jobId := rfl
    simp only [Effect.upsert?]
    rw [Store.results_upsertResult, if_pos key]
    refine ⟨_, rfl, ?_⟩
    cases store.results.lookup letter.jobId <;> simp [deadLetterResultRow]
  | _ => simp [Effect.finishes?] at finishes

/-- The failure result of a handler is the one that a refused job may have. -/
theorem Effect.results_insertFailure {row : ResultRow}
    (found : ((Effect.insertFailure jobId).apply store).results.lookup jobId = some row) :
    row.errorMessage = (enqueueFailureResult jobId).errorMessage ∧
      row.errorCategory = (enqueueFailureResult jobId).errorCategory := by
  -- On a conflict the two columns are the ones that are rewritten.
  rw [Effect.results_apply] at found
  simp only [Effect.upsert?] at found
  have key : jobId = (enqueueFailureResult jobId).jobId := rfl
  rw [Store.results_upsertResult, if_pos key] at found
  obtain rfl := Option.some.inj found
  cases store.results.lookup jobId <;> exact ⟨rfl, rfl⟩

/-- A refused job stays refused unless its row is requeued or closed by a transaction. -/
theorem Effect.refused_stays {effect : Effect} (refused : store.refused jobId = true)
    (fresh : ∀ payload, effect = .submit payload → store.hasSubmission payload.jobId = false)
    (unrequeued : ∀ retryCount, effect ≠ .requeueRow jobId retryCount)
    (unfinished : effect.finishes? ≠ some jobId) : (effect.apply store).refused jobId = true := by
  -- The result stays, or is written once more by the handler.
  rw [Store.refused_iff] at refused ⊢
  refine ⟨Effect.failed_stays refused.1 fresh unrequeued unfinished, fun row found => ?_⟩
  by_cases compensates : effect = .insertFailure jobId
  · subst compensates
    exact Effect.results_insertFailure found
  · refine refused.2 row ?_
    rw [← found, Effect.results_other compensates unfinished]

/-- A job becomes refused by its handler's update, or by its handler's result. -/
theorem Effect.refused_before {effect : Effect} (refused : (effect.apply store).refused jobId = true)
    (fresh : ∀ payload, effect = .submit payload → store.hasSubmission payload.jobId = false) :
    store.refused jobId = true ∨ effect = .markFailed jobId ∨ effect = .insertFailure jobId := by
  -- The results of transactions have other categories, and all other phases lead to other statuses.
  rw [Store.refused_iff] at refused ⊢
  obtain ⟨failed, results⟩ := refused
  by_cases marks : effect = .markFailed jobId
  · exact .inr (.inl marks)
  by_cases compensates : effect = .insertFailure jobId
  · exact .inr (.inr compensates)
  left
  -- The result of a transaction is none of a refusal.
  have unfinished : effect.finishes? ≠ some jobId := by
    intro finishes
    have written : ∃ row, (effect.apply store).results.lookup jobId = some row ∧
        row.errorCategory ≠ some .unknown := Effect.results_finishes finishes
    obtain ⟨row, found, known⟩ := written
    exact known (results row found).2
  rw [Effect.results_other compensates unfinished] at results
  refine ⟨?_, results⟩
  rw [Store.statusOf_eq] at failed ⊢
  by_cases resets : effect = .resetRunning
  · subst resets
    rw [Effect.apply, Store.recordOf_resetRunning] at failed
    rcases found : store.recordOf jobId with _ | ⟨status, retryCount⟩
    · simp [found] at failed
    · cases status <;> simp [found] at failed ⊢
  rw [Effect.recordOf_apply resets fresh] at failed
  -- A phase that leads to FAILED is a transaction's or the handler's.
  cases effect with
  | submit payload =>
    by_cases same : jobId = payload.jobId
    · simp [Effect.write?, Phase.apply, same] at failed
    · simpa [Effect.write?, same] using failed
  | claim claimed =>
    simp only [Effect.write?, Phase.apply] at failed
    rcases found : store.recordOf jobId with _ | ⟨status, retryCount⟩
    · simp [found] at failed
    · cases status <;> simp [found] at failed ⊢
      all_goals split at failed <;> simp at failed
  | markFailed written =>
    have other : jobId ≠ written := fun same => marks (congrArg _ same.symm)
    simpa [Effect.write?, other] using failed
  | requeueRow requeued retryCount =>
    by_cases same : jobId = requeued
    · simp only [Effect.write?, Phase.apply, if_pos same] at failed
      rcases found : store.recordOf jobId with _ | record <;> simp [found] at failed
    · simpa [Effect.write?, same] using failed
  | commitResult committed result =>
    have other : jobId ≠ committed := fun same => unfinished (congrArg _ same.symm)
    simpa [Effect.write?, other] using failed
  | commitDeadLetter letter =>
    have other : jobId ≠ letter.jobId := fun same => unfinished (congrArg _ same.symm)
    simpa [Effect.write?, other] using failed
  | resetRunning => exact absurd rfl resets
  | _ => exact failed

end CodeExecution

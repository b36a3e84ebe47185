import CodeExecution.Proofs.Authorship

/-! Statuses and results: when a reader of both tables can rely on their agreement. -/

namespace CodeExecution

variable {authored after : Platform × Authors} {label : Label}

/-! ## The invariant -/

/-- The two tables tell the same story, and will tell it after the next transaction. -/
structure Agreed (authored : Platform × Authors) : Prop where
  /-- Every commit will find its row. -/
  stored : Stored authored.1
  /-- No handler has got as far as a failure result. -/
  uncompensated : ∀ key payload, authored.1.posts key ≠ .insertFailure payload
  /-- A job has a result exactly if it is over. -/
  paired : ∀ jobId, (authored.1.store.results.lookup jobId).isSome = jobClosed authored.1 jobId
  /-- The status and the result of a job that is over have one writer. -/
  author : ∀ jobId, jobClosed authored.1 jobId = true →
    ∃ writer, ∀ column, authored.2 jobId column = some writer
  /-- No handler has written a column of a result. -/
  services : ∀ jobId key, ∀ column ∈ resultColumns, authored.2 jobId column ≠ some (.handler key)

/-- The rows that a join finds are one or none. -/
theorem Store.resultsOf_length (store : Store) (jobId : JobId) :
    (store.resultsOf jobId).length = if (store.results.lookup jobId).isSome then 1 else 0 := by
  -- The job id is the key of the results.
  rw [Store.resultsOf, KeyedTable.select_key]
  cases store.results.lookup jobId <;> rfl

/-- The invariant is about every reader. -/
theorem Agreed.rowsAgree (agreed : Agreed authored) (jobId : JobId) : RowsAgree authored jobId where
  paired := by rw [Store.resultsOf_length, agreed.paired jobId]
  author := agreed.author jobId

/-- Before the first request both tables are empty. -/
theorem Agreed.unwritten : Agreed unwritten where
  stored := .initial
  uncompensated := by simp [CodeExecution.unwritten, Platform.initial]
  paired _ := rfl
  author jobId closed := by
    simp [CodeExecution.unwritten, Platform.initial, jobClosed, Store.statusOf, Store.empty,
      isTerminalStatus] at closed
  services := by simp [CodeExecution.unwritten]

/-! ## Steps -/

/-- No failure result is ever inserted. -/
theorem Agreed.effect_ne_insertFailure (agreed : Agreed authored) (failed : JobId) :
    authored.1.effect label ≠ .insertFailure failed := by
  intro made
  obtain ⟨key, _, payload, _, inserts, _⟩ := Platform.effect_insertFailure made
  exact agreed.uncompensated key payload inserts

/-- Writes that go together split no job's status from its result. -/
theorem Agreed.whole (agreed : Agreed authored) (together : writesTogether authored.1 label = true)
    (jobId : JobId) : (authored.1.effect label).splits authored.1.store jobId = false := by
  -- The two splitting writes are the ones that the condition excludes.
  cases made : authored.1.effect label with
  | markFailed failed => simp [writesTogether, made] at together
  | insertFailure failed => exact absurd made (agreed.effect_ne_insertFailure failed)
  | requeueRow requeued retryCount =>
    by_cases same : requeued = jobId
    · subst same
      simpa [writesTogether, made, jobClosed, Effect.splits] using together
    · simp [Effect.splits, same]
  | _ => rfl

/-- Every step that writes together keeps the agreement. -/
theorem Agreed.step (agreed : Agreed authored) (together : writesTogether authored.1 label = true)
    (stepped : authoredPlatform.step authored label = some after) : Agreed after := by
  -- A job changes its status to a terminal one, its result and their writer in one transaction.
  obtain ⟨moved, written⟩ := Machine.tracking_step.mp stepped
  obtain ⟨⟨now, lock, same, _⟩, fresh⟩ := Platform.step_effect moved
  have whole := agreed.whole together
  have uncompensated : ∀ failed, authored.1.effect label ≠ .insertFailure failed :=
    agreed.effect_ne_insertFailure
  have closed : ∀ jobId, jobClosed after.1 jobId = (jobClosed authored.1 jobId ||
      ((authored.1.effect label).finishes? = some jobId && authored.1.store.hasSubmission jobId)) := by
    intro jobId
    rw [jobClosed, same]
    exact Effect.closed (whole jobId) fresh
  refine ⟨agreed.stored.step moved, Platform.uncompensated_step moved ?_ agreed.uncompensated,
    fun jobId => ?_, fun jobId isOver => ?_, ?_⟩
  · intro jobId made
    simp [writesTogether, made] at together
  · have results : (after.1.store.results.lookup jobId).isSome =
        ((authored.1.store.results.lookup jobId).isSome ||
          (authored.1.effect label).finishes? = some jobId) := by
      rw [same]
      exact Effect.results_isSome _ jobId uncompensated
    rw [results, closed, agreed.paired]
    by_cases finishes : (authored.1.effect label).finishes? = some jobId
    · simp [finishes, (agreed.stored.finishes finishes).1]
    · simp [finishes]
  · rw [written]
    by_cases finishes : (authored.1.effect label).finishes? = some jobId
    · obtain ⟨_, writer, isWriter, _⟩ := agreed.stored.finishes finishes
      -- The transaction has written every column itself.
      refine ⟨writer, fun column => ?_⟩
      have all : column ∈ Column.status :: resultColumns := by cases column <;> decide
      simp [Authors.track, Effect.columns_finishes finishes, all, isWriter]
    · have before : jobClosed authored.1 jobId = true := by simpa [closed, finishes] using isOver
      obtain ⟨writer, wrote⟩ := agreed.author jobId before
      exact ⟨writer, fun column => by
        simp [Authors.track, Effect.columns_closed (whole jobId) fresh before finishes, wrote]⟩
  · intro jobId key column result
    rw [written]
    simp only [Authors.track]
    split
    · next writes =>
      have finishes := Effect.finishes_of_result uncompensated writes result
      obtain ⟨_, writer, isWriter, other⟩ := agreed.stored.finishes finishes
      simpa [isWriter] using other key
    · exact agreed.services jobId key column result

/-- A step after which every reader finds agreement writes together. -/
theorem Agreed.writesTogether (agreed : Agreed authored)
    (stepped : authoredPlatform.step authored label = some after)
    (rows : ∀ jobId, RowsAgree after jobId) : writesTogether authored.1 label = true := by
  -- The two other writes would take a status away from its result.
  obtain ⟨moved, written⟩ := Machine.tracking_step.mp stepped
  obtain ⟨⟨now, lock, same, _⟩, _⟩ := Platform.step_effect moved
  cases made : authored.1.effect label with
  | markFailed jobId =>
    -- The handler has written the status alone.
    obtain ⟨key, _, payload, rfl, gives, rfl⟩ := Platform.effect_markFailed made
    have failed : after.1.store.statusOf payload.jobId = some .failed := by
      have stored := agreed.stored.inserted key payload.jobId (by rw [gives]; rfl)
      rw [Store.hasSubmission_eq] at stored
      obtain ⟨record, found⟩ := Option.isSome_iff_exists.mp stored
      have marked : after.1.store.recordOf payload.jobId =
          (authored.1.store.setStatus payload.jobId .failed).recordOf payload.jobId := by
        rw [same, made]
        rfl
      rw [Store.statusOf_eq, marked]
      simp [found]
    obtain ⟨writer, wrote⟩ := (rows payload.jobId).author (by rw [jobClosed, failed]; rfl)
    have byHandler : some (Writer.handler key) = some writer := by
      rw [← wrote .status, written]
      simp [Authors.track, made, Effect.columns, Label.writer?]
    have earlier : authored.2 payload.jobId .exitCode = some writer := by
      rw [← wrote .exitCode, written]
      simp [Authors.track, made, Effect.columns]
    exact absurd (earlier.trans byHandler.symm)
      (agreed.services payload.jobId key .exitCode (by decide))
  | requeueRow jobId retryCount =>
    -- The old result stays behind.
    by_contra split_
    have isOver : jobClosed authored.1 jobId = true := by
      simpa [CodeExecution.writesTogether, made] using split_
    have open_ : jobClosed after.1 jobId = false := by
      have requeued : after.1.store.recordOf jobId =
          (authored.1.store.requeueRow jobId retryCount).recordOf jobId := by
        rw [same, made]
        rfl
      rw [jobClosed, Store.statusOf_eq, requeued, Store.recordOf_requeueRow]
      cases authored.1.store.recordOf jobId <;>
        simp [isTerminalStatus, SubmissionStatus.isTerminal]
    have kept : (after.1.store.results.lookup jobId).isSome = true := by
      have uncompensated : ∀ failed, authored.1.effect label ≠ .insertFailure failed :=
        agreed.effect_ne_insertFailure
      have results := Effect.results_isSome authored.1.store jobId uncompensated
      rw [same]
      simpa [agreed.paired, isOver] using results
    have paired := (rows jobId).paired
    rw [Store.resultsOf_length, kept, open_] at paired
    simp at paired
  | _ => simp [CodeExecution.writesTogether, made]

/-! ## The guarantee -/

/--
Statuses and results agree throughout a run exactly if all its steps write them together.

This is so for every run, whatever crashes or rejects in it.
-/
theorem result_agreement {trace : List Label} {final : Platform × Authors} :
    authoredPlatform.Runs (fun authored label => ∀ after,
        authoredPlatform.step authored label = some after → ∀ jobId, RowsAgree after jobId)
      unwritten trace final ↔
    authoredPlatform.Runs (fun authored label => writesTogether authored.1 label = true)
      unwritten trace final := by
  -- Under the invariant, a step keeps the agreement exactly if it writes together.
  constructor
  · intro run
    refine (run.reguard Agreed Agreed.unwritten ?_).1
    intro authored label after agreed rows stepped
    have together := agreed.writesTogether stepped (rows after stepped)
    exact ⟨together, agreed.step together stepped⟩
  · intro run
    refine (run.reguard Agreed Agreed.unwritten ?_).1
    intro authored label after agreed together stepped
    have kept := agreed.step together stepped
    refine ⟨fun other stepped' jobId => ?_, kept⟩
    obtain rfl : after = other := Option.some.inj (stepped.symm.trans stepped')
    exact kept.rowsAgree jobId

/-- A terminal status without a result is no agreement, and neither is a result without one. -/
theorem RowsAgree.not_of_read {jobId : JobId} {rows : Nat} {closed : Bool}
    (read : ((authored.1.store.resultsOf jobId).length, jobClosed authored.1 jobId) = (rows, closed))
    (unpaired : rows ≠ if closed then 1 else 0) : ¬ RowsAgree authored jobId := by
  obtain ⟨rfl, rfl⟩ := Prod.mk.inj read
  exact fun agree => unpaired agree.paired

/--
A failed LPUSH leaves a FAILED job without a result, until the handler's next statement.

A failed LREM after the commit leaves a PENDING job with a result.
-/
theorem result_agreement_lost :
    (∃ final, authoredPlatform.Runs (fun _ _ => True) unwritten
      [.post "job" oneLiner .python none, .gateway "job" .resolves,
        .gateway "job" (.rejects false), .gateway "job" .resolves] final ∧
      ¬ RowsAgree final "job") ∧
    ∃ final, authoredPlatform.Runs (fun _ _ => True) unwritten
      (submission "job" ++ takingUp "w" ++ [.sandbox "w" (some cleanExit)] ++ workerCalls "w" 5 ++
        [.worker "w" (.rejects false), .worker "w" .resolves]) final ∧
      ¬ RowsAgree final "job" := by
  -- Both runs are executed, and both tables are read at their ends.
  obtain ⟨failed, refusal, unfinished⟩ := Machine.runs_of_guardedRun authoredPlatform
    (fun _ _ => True) unwritten [.post "job" oneLiner .python none, .gateway "job" .resolves,
      .gateway "job" (.rejects false), .gateway "job" .resolves]
    (fun final => ((final.1.store.resultsOf "job").length, jobClosed final.1 "job"))
    (0, true) (by decide)
  obtain ⟨requeued, retry, stale⟩ := Machine.runs_of_guardedRun authoredPlatform
    (fun _ _ => True) unwritten
    (submission "job" ++ takingUp "w" ++ [.sandbox "w" (some cleanExit)] ++ workerCalls "w" 5 ++
      [.worker "w" (.rejects false), .worker "w" .resolves])
    (fun final => ((final.1.store.resultsOf "job").length, jobClosed final.1 "job"))
    (1, false) (by decide)
  exact ⟨⟨failed, refusal, RowsAgree.not_of_read unfinished (by decide)⟩,
    requeued, retry, RowsAgree.not_of_read stale (by decide)⟩

end CodeExecution

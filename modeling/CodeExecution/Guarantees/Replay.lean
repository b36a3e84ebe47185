import CodeExecution.Proofs.Printing

/-! Replayed streams and stored results: when a client reads the same output in both. -/

namespace CodeExecution

variable {jobId : JobId} {state next : Printing}

/-! ## Behind the COMMIT -/

/-- A job is closed with this result, and its stream holds this data. -/
structure Concluded (jobId : JobId) (row : ResultRow) (data : OutputStream → List UInt16)
    (state : Printing) : Prop where
  closed : (state.platform.store.recordOf jobId).IsClosed
  result : state.platform.store.results.lookup jobId = some row
  data : ∀ stream, dataOn stream (state.entries jobId) = data stream

/-- The COMMIT closes the job with its result, and adds nothing to the stream. -/
theorem Steady.commit (steady : Steady state.platform) {worker : WorkerId} {job : QueuePayload}
    {result : SandboxResult}
    (commits : state.platform.workers worker = .running (.persist .commit job result))
    (stepped : printing.step state (.platform (.worker worker .resolves)) = some next) :
    Concluded job.jobId (sandboxResultRow job.jobId result)
      (fun stream => dataOn stream (state.entries job.jobId)) next := by
  have taken : state.step (.platform (.worker worker .resolves)) = some next := stepped
  cases Printing.step_cases taken with
  | @platform _ after settled moved =>
    obtain rfl : state.platform.withWorker worker
        (.acknowledge job, state.platform.store.commitResult job.jobId result) = after := by
      simpa [Platform.step, commits, awaitCall, WorkerPoint.resolve] using moved
    have isOpen : (state.platform.store.recordOf job.jobId).IsOpen :=
      steady.orderly.sound.relied _ _ _ (.working commits rfl)
    refine ⟨?_, ?_, fun stream => steady.marking.dataOn_addEntry _ state.entries job.jobId stream⟩
    · obtain ⟨status, retryCount, found, -⟩ := isOpen
      refine ⟨(finalOutcome result).1, retryCount, ?_, finalOutcome_terminal result⟩
      rw [Platform.withWorker_store, Store.recordOf_commitResult, Store.recordOf_setStatus]
      simp [found]
    · -- On a conflict the row of an earlier attempt is overwritten.
      have key : job.jobId = (sandboxResultRow job.jobId result).jobId := rfl
      show (state.platform.store.upsertResult _ _).results.lookup job.jobId = _
      rw [Store.results_upsertResult, if_pos key]
      cases found : state.platform.store.results.lookup job.jobId with
      | none => rfl
      | some earlier =>
        rw [Option.elim_some, KeyedTable.key_of_lookup found]
        rfl

/-- Whatever happens later, result and data stay as they are. -/
theorem Concluded.step {row : ResultRow} {data : OutputStream → List UInt16}
    (concluded : Concluded jobId row data state) (steady : Steady state.platform) {label : PrintingLabel}
    (setting : crashStopping state label = true) (stepped : printing.step state label = some next) :
    Concluded jobId row data next := by
  have orderly := steady.orderly
  cases Printing.step_cases stepped with
  | @platform label after _ moved =>
    obtain ⟨⟨now, lock, same, -⟩, -⟩ := Platform.step_effect moved
    have uncompensated : state.platform.effect label ≠ .insertFailure jobId := by
      -- No handler stands in its catch block.
      intro made
      obtain ⟨key, _, payload, -, inserts, -⟩ := Platform.effect_insertFailure made
      have isRoutine := steady.routine.posts key
      simp [inserts, PostPoint.routine] at isRoutine
    refine ⟨?_, ?_, fun stream =>
      (steady.marking.dataOn_addEntry label state.entries jobId stream).trans (concluded.data stream)⟩
    · have kept := orderly.keeps_closed
        (.snoc .nil (steady.routine.cleanlySupervised setting) moved) concluded.closed
      exact kept ▸ concluded.closed
    · show after.store.results.lookup jobId = some row
      rw [same]
      exact (Effect.results_other uncompensated
        (orderly.effect_unfinished concluded.closed label)).trans concluded.result
  | output => exact ⟨concluded.closed, concluded.result, concluded.data⟩
  | @add worker execution key chunk going executes nextChunk =>
    refine ⟨concluded.closed, concluded.result, fun stream => ?_⟩
    -- Whoever executes a job relies on it being open.
    obtain ⟨job, runs, rfl⟩ := Platform.executing_iff.mp executes
    have different : jobId ≠ job.jobId := by
      intro same
      subst same
      exact concluded.closed.not_open (orderly.sound.relied _ _ _ (.working runs rfl))
    exact (congrArg (dataOn stream) (Function.update_of_ne different ..)).trans (concluded.data stream)

/-! ## The guarantee -/

/--
The stream of a completed job and its stored result.

Without truncation they hold the same data of an output exactly if the stream had no such data when
the attempt that completed the job was launched.
-/
theorem replay_equals_stored_iff {earlier later : List PrintingLabel} {final : Printing}
    {launched : List StreamEntry} {worker : WorkerId} {job : QueuePayload} {result : SandboxResult}
    (run : (printing.tracking (launchedOf jobId)).Runs
      (fun reached label => crashStopping reached.1 label = true) (.initial, []) earlier
      (state, launched))
    (commits : state.platform.workers worker = .running (.persist .commit job result))
    (own : job.jobId = jobId)
    (committed : printing.step state (.platform (.worker worker .resolves)) = some next)
    (continued : printing.Runs (fun reached label => crashStopping reached label = true) next later
      final) :
    ∃ row, final.platform.store.results.lookup jobId = some row ∧ (row.outputTruncated = false →
      ∀ stream, dataOn stream (final.entries jobId) = Utf16.encode (row.text stream).toList ↔
        dataOn stream launched = []) := by
  -- What the completing attempt has added is what it stores, and nothing is added behind it.
  have reached := run.preserves
    (fun reached => Steady reached.1.platform ∧ Printed jobId reached.1 reached.2)
    ⟨Steady.initial, Printed.initial⟩ fun _ _ _ holds setting stepped => by
      obtain ⟨moved, same⟩ := Machine.tracking_step.mp stepped
      rw [same]
      exact ⟨holds.1.printing_step setting moved, holds.2.step holds.1 setting moved⟩
  obtain ⟨steady, printed⟩ := reached
  subst own
  have concluded := continued.preserves
    (fun reached => Steady reached.platform ∧ Concluded job.jobId (sandboxResultRow job.jobId result)
      (fun stream => dataOn stream (state.entries job.jobId)) reached)
    ⟨steady.printing_step rfl committed, steady.commit commits committed⟩
    fun _ _ _ holds setting stepped =>
      ⟨holds.1.printing_step setting stepped, holds.2.step holds.1 setting stepped⟩
  refine ⟨_, concluded.2.result, fun whole stream => ?_⟩
  rw [concluded.2.data stream, printed.settled worker .commit job result commits rfl whole stream,
    List.append_left_eq_self]

/-- A request for a job that a worker takes up and prints one letter for. -/
private def firstAttempt : List PrintingLabel :=
  (submission "job" ++ takingUp "w1").map .platform ++ [.output "w1" ⟨.stdout, [97]⟩]

/-- The worker dies, and another one takes the job up again and prints the same letter. -/
private def secondAttempt : List PrintingLabel :=
  (.workerCrash "w1" :: detecting "s" "w1" ++ scanCalls "s" 6 ++ takingUp "w2").map .platform ++
    [.output "w2" ⟨.stdout, [97]⟩, .add "w2"]

/-- What the sandbox of that attempt resolves with. -/
private def letterResult : SandboxResult := { cleanExit with stdout := "a" }

/-- The sandbox resolves, and the worker begins its transaction. -/
private def persisting : List PrintingLabel :=
  (.sandbox "w2" (some letterResult) :: workerCalls "w2" 4).map .platform

/-- The calls behind the COMMIT. -/
private def completing : List PrintingLabel := (workerCalls "w2" 4).map .platform

/-- The guarantee for a job whose first attempt has added nothing when its worker dies. -/
theorem replay_equals_stored_example : ∃ state launched next final,
    (printing.tracking (launchedOf "job")).Runs
      (fun reached label => crashStopping reached.1 label = true) (.initial, [])
      (firstAttempt ++ secondAttempt ++ persisting) (state, launched) ∧
    printing.step state (.platform (.worker "w2" .resolves)) = some next ∧
    printing.Runs (fun reached label => crashStopping reached label = true) next completing final ∧
    ∃ row, final.platform.store.results.lookup "job" = some row ∧ (row.outputTruncated = false →
      ∀ stream, dataOn stream (final.entries "job") = Utf16.encode (row.text stream).toList) := by
  -- The runs are executed, and the last part is the guarantee's.
  obtain ⟨⟨state, launched⟩, run, shown⟩ := Machine.runs_of_guardedRun
    (printing.tracking (launchedOf "job"))
    (fun reached label => crashStopping reached.1 label = true) (.initial, [])
    (firstAttempt ++ secondAttempt ++ persisting)
    (fun reached => (reached.2, reached.1.platform.workers "w2",
      (printing.guardedRun (fun reached label => crashStopping reached label = true) reached.1
        (.platform (.worker "w2" .resolves) :: completing)).isSome))
    ([], .running (.persist .commit ((submittedPayload "job").withRetry 1) letterResult), true)
    (by decide)
  simp only [Prod.mk.injEq] at shown
  obtain ⟨rfl, commits, executed⟩ := shown
  obtain ⟨final, reached⟩ := Option.isSome_iff_exists.mp executed
  obtain ⟨-, next, committed, continued⟩ := (Machine.runs_iff_guardedRun.mpr reached).uncons
  obtain ⟨row, found, agrees⟩ := replay_equals_stored_iff run commits rfl committed continued
  exact ⟨state, [], next, final, run, committed, continued, row, found,
    fun whole stream => (agrees whole stream).mpr rfl⟩

/-- The letter is stored once and replayed twice, where the first attempt has added it too. -/
theorem replay_differs : ∃ final row,
    printing.Runs (fun reached label => crashStopping reached label = true) .initial
      (firstAttempt ++ .add "w1" :: secondAttempt ++ persisting ++
        .platform (.worker "w2" .resolves) :: completing) final ∧
    final.platform.store.statusOf "job" = some .completed ∧
    final.platform.store.results.lookup "job" = some row ∧ row.outputTruncated = false ∧
    row.text .stdout = "a" ∧ dataOn .stdout (final.entries "job") = Utf16.encode "aa".toList ∧
    dataOn .stdout (final.entries "job") ≠ Utf16.encode (row.text .stdout).toList := by
  -- Nothing is removed from the stream between the attempts.
  obtain ⟨final, run, shown⟩ := Machine.runs_of_guardedRun printing
    (fun reached label => crashStopping reached label = true) .initial
    (firstAttempt ++ .add "w1" :: secondAttempt ++ persisting ++
      .platform (.worker "w2" .resolves) :: completing)
    (fun final => (final.platform.store.statusOf "job", final.platform.store.results.lookup "job",
      dataOn .stdout (final.entries "job")))
    (some .completed, some (sandboxResultRow "job" letterResult), [97, 97]) (by decide)
  simp only [Prod.mk.injEq] at shown
  obtain ⟨completed, found, data⟩ := shown
  exact ⟨final, _, run, completed, found, rfl, rfl, by rw [data]; decide, by rw [data]; decide⟩

end CodeExecution

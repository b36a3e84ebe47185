import CodeExecution.Guarantees.SandboxRun
import CodeExecution.Proofs.Authorship
import CodeExecution.Settings
import CodeExecution.Services.Sandboxed

/-! Completed jobs: one execution that exited well and that nobody killed, whatever else fails. -/

namespace CodeExecution

variable {state next : Sandboxed} {label : SandboxedLabel} {trace : List SandboxedLabel}
  {jobId : JobId} {result : SandboxResult}

/-- The runs of the platform with its calls, whatever fails in them. -/
abbrev SandboxedRuns (trace : List SandboxedLabel) (state : Sandboxed) : Prop :=
  sandboxed.Runs (fun _ _ => True) .initial trace state

/-! ## The calls of the workers -/

/-- Every call has come about by its own events. -/
def Sandboxed.Underway (state : Sandboxed) : Prop :=
  ∀ worker call, state.calls worker = some call → ∃ events, SandboxRuns 0 events call

/-- A label of the platform begins calls and ends them. -/
theorem Sandboxed.callsAfter_cases {label : Label} {worker : WorkerId} {call : SandboxRun}
    (going : state.callsAfter label worker = some call) :
    call = .start 0 ∨ state.calls worker = some call := by
  -- A call that is neither begun nor ended is as it was.
  unfold callsAfter at going
  split at going
  · next mover =>
    by_cases same : worker = mover
    · exact .inl (by simpa [same, eq_comm] using going)
    · exact .inr (by simpa [same] using going)
  · next mover _ =>
    by_cases same : worker = mover
    · simp [same] at going
    · exact .inr (by simpa [same] using going)
  · next mover =>
    by_cases same : worker = mover
    · simp [same] at going
    · exact .inr (by simpa [same] using going)
  · exact .inr going

/-- A step moves one call by one event at most. -/
theorem Sandboxed.Underway.step (underway : state.Underway)
    (stepped : sandboxed.step state label = some next) : next.Underway := by
  -- An event of one execution extends its run and leaves the others.
  have moves : ∀ {worker call after} {entries : JobId → List StreamEntry} (event : SandboxEvent),
      state.calls worker = some call → runInSandbox.step call event = some after →
      Underway ({ state with entries }.withCall worker after) := by
    intro worker call after entries event going moved own reached found
    by_cases same : own = worker
    · subst same
      obtain rfl : after = reached := by simpa [withCall] using found
      obtain ⟨events, runs⟩ := underway own call going
      exact ⟨_, .snoc runs trivial moved⟩
    · exact underway own reached (by simpa [withCall, same] using found)
  cases step_cases stepped with
  | platform settled moved =>
    intro worker call going
    rcases callsAfter_cases going with rfl | was
    · exact ⟨[], .nil⟩
    · exact underway worker call was
  | @sandbox worker event _ _ _ going moved => exact moves event going moved
  | link going executes found moved => exact moves .link going moved

/-- Every reachable state has only such calls. -/
theorem Sandboxed.Underway.reached (run : SandboxedRuns trace state) : state.Underway :=
  run.preserves Underway (by intro worker call going; simp [Sandboxed.initial] at going)
    fun _ _ _ underway _ stepped => underway.step stepped

/-- A sandbox that settles with a result has resolved with it. -/
theorem Sandboxed.settles_result {worker : WorkerId}
    (settled : state.settles (.sandbox worker (some result)) = true) :
    ∃ call resolution, state.calls worker = some call ∧ call.promise = .resolved resolution ∧
      resolution.Gives result := by
  simp only [settles] at settled
  split at settled
  -- The guard demands a call that has resolved with a result like this.
  · next resolution own promised given =>
    obtain rfl := Option.some.inj given
    obtain ⟨call, going, resolved⟩ := Option.map_eq_some_iff.mp promised
    exact ⟨call, resolution, going, resolved, of_decide_eq_true settled⟩
  · next given => simp at given
  · simp at settled

/-! ## The result of a commit -/

/-- Some call of the run, made for the job, has resolved with the result. -/
def EndedBy (trace : List SandboxedLabel) (jobId : JobId) (result : SandboxResult) : Prop :=
  ∃ earlier later middle worker call resolution, trace = earlier ++ later ∧
    SandboxedRuns earlier middle ∧ middle.platform.executing? worker = some jobId ∧
    middle.calls worker = some call ∧ call.promise = .resolved resolution ∧ resolution.Gives result

/-- It has done so for the rest of the run. -/
theorem EndedBy.snoc (ended : EndedBy trace jobId result) (label : SandboxedLabel) :
    EndedBy (trace ++ [label]) jobId result := by
  obtain ⟨earlier, later, middle, worker, call, resolution, rfl, own⟩ := ended
  exact ⟨earlier, later ++ [label], middle, worker, call, resolution, List.append_assoc _ _ _, own⟩

/-- The row has everything that the worker takes over from a result, but for what it makes of it. -/
structure ResultRow.Shows (row : ResultRow) (result : SandboxResult) : Prop where
  exitCode : row.exitCode = result.exitCode
  stdout : row.stdout = result.stdout
  stderr : row.stderr = result.stderr
  executionTimeMs : row.executionTimeMs = some result.executionTimeMs
  memoryUsedBytes : row.memoryUsedBytes = result.memoryUsedBytes
  outputTruncated : row.outputTruncated = result.outputTruncated

/-- What the workers commit comes from calls, and a COMPLETED job has been committed so. -/
structure Sandboxed.Committing (trace : List SandboxedLabel) (state : Sandboxed) : Prop where
  persisting : ∀ worker point job result,
    state.platform.workers worker = .running (.persist point job result) →
      EndedBy trace job.jobId result
  completed : ∀ jobId, state.platform.store.statusOf jobId = some .completed →
    ∃ row result, state.platform.store.results.lookup jobId = some row ∧
      EndedBy trace jobId result ∧ (finalOutcome result).1 = .completed ∧ row.Shows result

/-- A failed call leads into a result transaction only from inside it. -/
theorem WorkerPoint.handler_persist {before : WorkerPoint} {point : TxPoint} {job : QueuePayload}
    (handled : before.handler = some (.persist point job result)) :
    ∃ earlier, before = .persist earlier job result := by
  have requeues : ∀ own, requeueWithBackoff own ≠ .persist point job result := by
    intro own
    unfold requeueWithBackoff
    split <;> simp
  -- The transaction rolls back, and everything else goes to the retry path or the loop.
  unfold handler at handled
  split at handled
  all_goals first
    | exact absurd (Option.some.inj handled) (requeues _)
    | (obtain ⟨_, rfl, rfl⟩ := WorkerPoint.persist.inj (Option.some.inj handled); exact ⟨_, rfl⟩)
    | simp at handled

/-- A worker that is inside a result transaction was so before, or its sandbox has just settled. -/
theorem Platform.step_persist {before after : Platform} {label : Label} {worker : WorkerId}
    {point : TxPoint} {job : QueuePayload} (stepped : before.step label = some after)
    (running : after.workers worker = .running (.persist point job result)) :
    (∃ earlier, before.workers worker = .running (.persist earlier job result)) ∨
      (label = .sandbox worker (some result) ∧ before.workers worker = .running (.executing job)) := by
  rcases Platform.step_worker stepped running with ⟨same, _⟩ |
    ⟨outcome, was, later, rfl, before, went, _⟩ | ⟨_, _, _, impossible, _⟩ |
    ⟨settled, was, rfl, before, settles, _⟩ | ⟨_, _, impossible, _⟩
  · exact .inl ⟨point, same⟩
  · -- The calls of a transaction follow each other, also to its ROLLBACK.
    left
    rcases awaitCall_cases went with ⟨_, resolved⟩ | ⟨_, _, handled, same⟩ |
      ⟨_, _, _, _, handled, same⟩
    · obtain ⟨earlier, rfl⟩ := WorkerPoint.resolve_persist resolved
      exact ⟨earlier, before⟩
    · obtain ⟨rfl, _⟩ := Prod.mk.inj same
      obtain ⟨earlier, rfl⟩ := WorkerPoint.handler_persist handled
      exact ⟨earlier, before⟩
    · obtain ⟨rfl, _⟩ := Prod.mk.inj same
      obtain ⟨earlier, rfl⟩ := WorkerPoint.handler_persist handled
      exact ⟨earlier, before⟩
  · simp at impossible
  · unfold WorkerPoint.sandboxSettled at settles
    split at settles
    · split at settles
      · obtain ⟨_, rfl, rfl⟩ := WorkerPoint.persist.inj (Option.some.inj settles)
        exact .inr ⟨rfl, before⟩
      · have begins := Option.some.inj settles
        unfold requeueWithBackoff at begins
        split at begins <;> simp at begins
    · simp at settles
  · simp at impossible

/-! ## The table rows -/

/-- A job becomes COMPLETED by the commit of a result, and by nothing else. -/
theorem Effect.completes {effect : Effect} {store : Store}
    (fresh : ∀ payload, effect = .submit payload → store.hasSubmission payload.jobId = false)
    (completed : (effect.apply store).statusOf jobId = some .completed) :
    (store.statusOf jobId = some .completed ∧ effect.finishes? ≠ some jobId) ∨
      ∃ result, effect = .commitResult jobId result ∧ (finalOutcome result).1 = .completed := by
  rw [Store.statusOf_eq] at completed ⊢
  obtain ⟨⟨status, retryCount⟩, found, isCompleted⟩ := Option.map_eq_some_iff.mp completed
  obtain rfl : status = .completed := isCompleted
  -- The other writes of a status write another one.
  have unwritten : ∀ phase, effect.write? = some (jobId, phase) →
      (∀ record, phase.apply record ≠ some (.completed, retryCount)) →
      effect ≠ .resetRunning → False := by
    intro phase write other unreset
    rw [Effect.recordOf_apply unreset fresh, write] at found
    exact other _ (by simpa using found)
  by_cases resets : effect = .resetRunning
  -- The reset touches RUNNING rows only.
  · subst resets
    rw [Effect.apply, Store.recordOf_resetRunning] at found
    obtain ⟨⟨before, count⟩, stored, same⟩ := Option.map_eq_some_iff.mp found
    refine .inl ⟨?_, by simp [Effect.finishes?]⟩
    cases before <;> simp at same
    simp [stored]
  -- A write of another row leaves this one.
  · have kept : effect.write? = none ∨ (∃ other phase, effect.write? = some (other, phase) ∧
        jobId ≠ other) → store.recordOf jobId = some (.completed, retryCount) := by
      intro elsewhere
      rw [Effect.recordOf_apply resets fresh] at found
      rcases elsewhere with none | ⟨other, phase, write, different⟩
      · simpa [none] using found
      · simpa [write, different] using found
    cases effect with
    | resetRunning => exact absurd rfl resets
    | commitResult committed result =>
      by_cases same : jobId = committed
      · subst same
        rw [Effect.recordOf_apply resets fresh] at found
        simp only [Effect.write?, if_true, Phase.apply, Option.map_eq_some_iff] at found
        obtain ⟨record, _, written⟩ := found
        exact .inr ⟨result, rfl, (Prod.mk.inj written).1⟩
      · refine .inl ⟨by simp [kept (.inr ⟨_, _, rfl, same⟩)], ?_⟩
        simpa [Effect.finishes?] using Ne.symm same
    | commitDeadLetter letter =>
      by_cases same : jobId = letter.jobId
      · subst same
        exact (unwritten _ rfl (by rintro (_ | _) <;> simp [Phase.apply]) resets).elim
      · refine .inl ⟨by simp [kept (.inr ⟨_, _, rfl, same⟩)], ?_⟩
        simpa [Effect.finishes?] using Ne.symm same
    | submit payload =>
      by_cases same : jobId = payload.jobId
      · subst same
        exact (unwritten _ rfl (by simp [Phase.apply]) resets).elim
      · exact .inl ⟨by simp [kept (.inr ⟨_, _, rfl, same⟩)], by simp [Effect.finishes?]⟩
    | markFailed written | requeueRow written _ =>
      by_cases same : jobId = written
      · subst same
        exact (unwritten _ rfl (by rintro (_ | _) <;> simp [Phase.apply]) resets).elim
      · exact .inl ⟨by simp [kept (.inr ⟨_, _, rfl, same⟩)], by simp [Effect.finishes?]⟩
    | claim claimed =>
      by_cases same : jobId = claimed
      · subst same
        rw [Effect.recordOf_apply resets fresh] at found
        simp only [Effect.write?, if_true, Phase.apply, Option.map_eq_some_iff] at found
        obtain ⟨⟨before, count⟩, stored, written⟩ := found
        refine .inl ⟨?_, by simp [Effect.finishes?]⟩
        cases before <;> simp at written
        simp [stored]
      · exact .inl ⟨by simp [kept (.inr ⟨_, _, rfl, same⟩)], by simp [Effect.finishes?]⟩
    | _ => exact .inl ⟨by simp [kept (.inl rfl)], by simp [Effect.finishes?]⟩

/-- What shows a result goes on showing it, unless a transaction ends the job again. -/
theorem Effect.shows_stays {effect : Effect} {store : Store} {row : ResultRow}
    (found : store.results.lookup jobId = some row) (shows_ : row.Shows result)
    (unfinished : effect.finishes? ≠ some jobId) :
    ∃ later, (effect.apply store).results.lookup jobId = some later ∧ later.Shows result := by
  by_cases compensates : effect = .insertFailure jobId
  · -- A handler that gives up overwrites the message and the category alone.
    subst compensates
    rw [Effect.results_apply]
    simp only [Effect.upsert?]
    rw [Store.results_upsertResult, if_pos (show jobId = (enqueueFailureResult jobId).jobId from rfl),
      found]
    exact ⟨_, rfl, ⟨shows_.exitCode, shows_.stdout, shows_.stderr, shows_.executionTimeMs,
      shows_.memoryUsedBytes, shows_.outputTruncated⟩⟩
  · rw [Effect.results_other compensates unfinished]
    exact ⟨row, found, shows_⟩

/-- Every step keeps this. -/
theorem Sandboxed.Committing.step (committing : state.Committing trace)
    (run : SandboxedRuns trace state) (stepped : sandboxed.step state label = some next) :
    next.Committing (trace ++ [label]) := by
  cases step_cases stepped with
  | sandbox _ _ _ | link _ _ _ _ => exact {
      persisting := fun worker point job result running =>
        (committing.persisting worker point job result running).snoc _
      completed := by
        intro jobId completed
        obtain ⟨row, result, found, ended, own⟩ := committing.completed jobId completed
        exact ⟨row, result, found, ended.snoc _, own⟩ }
  | @platform label platform settled moved =>
    have persisting : ∀ worker point job result,
        platform.workers worker = .running (.persist point job result) →
          EndedBy (trace ++ [.platform label]) job.jobId result := by
      intro worker point job result running
      rcases Platform.step_persist moved running with ⟨earlier, before⟩ | ⟨rfl, executes⟩
      · exact (committing.persisting worker earlier job result before).snoc _
      · -- The sandbox has settled with what its call has resolved with.
        obtain ⟨call, resolution, going, resolved, gives⟩ := settles_result settled
        have executing : state.platform.executing? worker = some job.jobId :=
          Platform.executing_iff.mpr ⟨job, executes, rfl⟩
        exact ⟨trace, [_], state, worker, call, resolution, rfl, run, executing, going, resolved, gives⟩
    refine ⟨persisting, ?_⟩
    intro jobId completed
    obtain ⟨⟨now, lock, same, _⟩, fresh⟩ := Platform.step_effect moved
    have completed' : ((state.platform.effect label).apply state.platform.store).statusOf jobId =
        some .completed := by
      have status : platform.store.statusOf jobId = some .completed := completed
      rw [same] at status
      exact status
    have results : platform.store.results =
        ((state.platform.effect label).apply state.platform.store).results := by rw [same]
    show ∃ row result, platform.store.results.lookup jobId = some row ∧ _
    rw [results]
    rcases Effect.completes fresh completed' with ⟨was, unfinished⟩ | ⟨result, made, succeeded⟩
    · obtain ⟨row, result, found, ended, succeeded, own⟩ := committing.completed jobId was
      obtain ⟨later, found', own'⟩ := Effect.shows_stays found own unfinished
      exact ⟨later, result, found', ended.snoc _, succeeded, own'⟩
    · -- The commit writes the whole row of a result that its worker had.
      obtain ⟨worker, outcome, job, rfl, running, rfl⟩ := Platform.effect_commitResult made
      have ended := (committing.persisting worker .commit job result running).snoc
        (.platform (.worker worker outcome))
      rw [made, Effect.results_apply]
      simp only [Effect.upsert?]
      rw [Store.results_upsertResult, if_pos (show job.jobId = (sandboxResultRow _ result).jobId from rfl)]
      cases state.platform.store.results.lookup job.jobId with
      | none => exact ⟨_, result, rfl, ended, succeeded, ⟨rfl, rfl, rfl, rfl, rfl, rfl⟩⟩
      | some row => exact ⟨_, result, rfl, ended, succeeded, ⟨rfl, rfl, rfl, rfl, rfl, rfl⟩⟩

/-- Every reachable state commits so. -/
theorem Sandboxed.Committing.reached (run : SandboxedRuns trace state) : state.Committing trace := by
  refine run.preserves_trace (fun trace state => state.Committing trace) ?_
    fun _ _ _ _ run committing _ stepped => committing.step run stepped
  exact ⟨by simp [Sandboxed.initial, Platform.initial],
    by simp [Sandboxed.initial, Platform.initial, Store.empty, Store.statusOf]⟩

/-! ## What a COMPLETED job shows -/

/--
A COMPLETED job was executed by a program that exited with 0 by itself, and its row has what that wrote.

This holds whatever calls have failed or processes have crashed: no other attempt at the job has mixed
its output with that of the one that committed, and the exit code stands only for a program that was
killed for no reason.
-/
theorem completed_by_one_execution (run : SandboxedRuns trace state)
    (completed : state.platform.store.statusOf jobId = some .completed) :
    ∃ row earlier later middle worker call events,
      state.platform.store.results.lookup jobId = some row ∧
      trace = earlier ++ later ∧ SandboxedRuns earlier middle ∧
      middle.platform.executing? worker = some jobId ∧ middle.calls worker = some call ∧
      SandboxRuns 0 events call ∧ exitsIn events = [some 0] ∧ call.kills = [] ∧
      SandboxEvent.timeout ∉ events ∧ shownBytes (printedIn events) ≤ maxStreamOutputBytes ∧
      row.exitCode = some 0 ∧
      ∀ stream, row.text stream = String.ofList (persisted (shownOn stream (printedIn events))) := by
  obtain ⟨row, result, found, ended, succeeded, own⟩ :=
    (Sandboxed.Committing.reached run).completed jobId completed
  obtain ⟨earlier, later, middle, worker, call, resolution, rfl, before, executing, going, resolved,
    gives⟩ := ended
  obtain ⟨events, runs⟩ := Sandboxed.Underway.reached before worker call going
  have faithful := SandboxRun.Faithful.reached runs
  -- The classification says that the program exited with 0 and that nobody has killed it.
  obtain ⟨kills, oom⟩ := faithful.told resolved gives
  obtain ⟨exit, untimed, unexceeded⟩ := (finalOutcome_causes oom).1.mp succeeded
  have unkilled : call.kills = [] := kills.eq_nil_iff.mpr ⟨untimed, unexceeded⟩
  obtain ⟨closing, computed, rfl, _⟩ := faithful.resolved resolution resolved
  have exits : exitsIn events = [some 0] := by
    rw [(faithful.closing closing computed).exits, ← exit]
    exact congrArg (fun code => [code]) gives.exitCode.symm
  have unfired : SandboxEvent.timeout ∉ events := by
    intro fired
    have timedOut : call.timedOut = true := by rw [faithful.timedOut, timesOut, decide_eq_true fired]
    simpa [unkilled] using faithful.kills.timeout_mem.mpr timedOut
  have within : shownBytes (printedIn events) ≤ maxStreamOutputBytes := by
    by_contra beyond
    have exceeded := (sandboxOutput_exceeded_iff (printedIn events)).mpr (by omega)
    rw [← faithful.output] at exceeded
    simpa [unkilled] using faithful.kills.limit_mem.mpr exceeded
  refine ⟨row, earlier, later, middle, worker, call, events, found, rfl, before, executing, going, runs,
    exits, unkilled, unfired, within, own.exitCode.trans exit, ?_⟩
  -- Within the limit, every event counts for the row.
  intro stream
  have text : row.text stream = String.ofList (call.output.accumulator stream) := by
    cases stream with
    | stdout => exact own.stdout.trans gives.stdout
    | stderr => exact own.stderr.trans gives.stderr
  rw [text, faithful.output, sandboxOutput_within within]
  cases stream <;> rfl

/-- A job whose program prints a letter, beside the calls of the worker that executes it. -/
private def printingJob : List SandboxedLabel :=
  (submission "job" ++ takingUp "w1").map .platform ++
    [.sandbox "w1" (.spawn .writes), .sandbox "w1" (.data ⟨.stdout, [97]⟩),
      .sandbox "w1" (.close (some 0)), .link "w1" true, .sandbox "w1" .resume] ++
    (.sandbox "w1" (some { cleanExit with stdout := "a", executionTimeMs := 0 }) ::
      workerCalls "w1" 5).map .platform

/-- The guarantee for that job. -/
theorem completed_by_one_execution_example : ∃ state, SandboxedRuns printingJob state ∧
    state.platform.store.statusOf "job" = some .completed ∧
    ∃ row, state.platform.store.results.lookup "job" = some row ∧ row.exitCode = some 0 := by
  obtain ⟨state, run, completed⟩ := Machine.runs_of_guardedRun sandboxed (fun _ _ => True) .initial
    printingJob (fun state => state.platform.store.statusOf "job") (some .completed) (by decide)
  obtain ⟨row, _, _, _, _, _, _, found, _, _, _, _, _, _, _, _, _, exit, _⟩ :=
    completed_by_one_execution run completed
  exact ⟨state, run, completed, row, found, exit⟩

/-! ## The calls as the sandboxes of the platform -/

/-- What is left of a call when only its outputs and its queue are kept. -/
def SandboxRun.execution (call : SandboxRun) : Execution := ⟨call.output, call.settledLinks⟩

/-- The platform with its sandboxes, as its calls make it out. -/
def Sandboxed.printing (state : Sandboxed) : Printing where
  platform := state.platform
  executions := fun worker => (state.calls worker).map SandboxRun.execution
  entries := state.entries

/-- A crash-stop setting in which no XADD of a sandbox fails. -/
def Sandboxed.crashStopping (state : Sandboxed) : SandboxedLabel → Bool
  | .platform label => crashStop state.platform label
  | .sandbox _ _ => true
  | .link _ added => added

/-- A call that moves on, but not by a link, handles a `data` event or shows nothing. -/
theorem SandboxRun.execution_step {call after : SandboxRun} {event : SandboxEvent}
    (other : event ≠ .link) (moved : call.step event = some after) :
    after.execution = call.execution ∨ ∃ printed, after.execution =
      { call.execution with output := call.execution.output.handleOutput printed } := by
  -- Only the `data` listeners handle output, and only a link settles one.
  cases event with
  | link => exact absurd rfl other
  | data printed =>
    simp only [SandboxRun.step, Option.ite_none_right_eq_some] at moved
    obtain rfl := Option.some.inj moved.2
    exact .inr ⟨printed, rfl⟩
  | clock now =>
    simp only [SandboxRun.step, Option.ite_none_right_eq_some] at moved
    obtain rfl := Option.some.inj moved.2
    exact .inl rfl
  | spawn outcome =>
    simp only [SandboxRun.step, Option.ite_none_right_eq_some] at moved
    obtain rfl := Option.some.inj moved.2
    cases outcome <;> exact .inl rfl
  | timeout =>
    simp only [SandboxRun.step] at moved
    split at moved
    · simp only [Option.ite_none_right_eq_some] at moved
      obtain rfl := Option.some.inj moved.2
      exact .inl rfl
    · simp at moved
  | error =>
    simp only [SandboxRun.step, Option.ite_none_right_eq_some] at moved
    obtain rfl := Option.some.inj moved.2
    exact .inl rfl
  | close exitCode =>
    simp only [SandboxRun.step, Option.ite_none_right_eq_some] at moved
    obtain ⟨_, moved⟩ := moved
    split at moved <;> (obtain rfl := Option.some.inj moved; exact .inl rfl)
  | resume =>
    simp only [SandboxRun.step] at moved
    split at moved
    · simp only [Option.ite_none_right_eq_some] at moved
      obtain rfl := Option.some.inj moved.2
      exact .inl rfl
    · simp at moved

/-- The sandboxes of a state whose call has moved on. -/
theorem Sandboxed.printing_withCall (worker : WorkerId) (call : SandboxRun) :
    (state.withCall worker call).printing = state.printing.withExecution worker call.execution := by
  simp only [printing, withCall, Printing.withExecution, Printing.mk.injEq, true_and, and_true]
  funext other
  by_cases same : other = worker
  · simp [same]
  · simp [same]

/-- A sandbox that has not moved on is where it was. -/
theorem Printing.withExecution_self {state : Printing} {worker : WorkerId} {execution : Execution}
    (going : state.executions worker = some execution) :
    state.withExecution worker execution = state := by
  rw [withExecution, ← going, Function.update_eq_self]

/-- A label of the platform changes the sandboxes as it changes the calls. -/
theorem Sandboxed.printing_callsAfter (label : Label) :
    (fun worker => (state.callsAfter label worker).map SandboxRun.execution) =
      state.printing.executionsAfter label := by
  -- A call begins with no output and no link, and it ends where the sandbox does.
  funext other
  cases label with
  | launch worker | workerCrash worker =>
    by_cases same : other = worker
    · subst same
      simp [callsAfter, Printing.executionsAfter, SandboxRun.execution, SandboxRun.start]
    · simp [callsAfter, Printing.executionsAfter, printing, same]
  | sandbox worker _ =>
    by_cases same : other = worker
    · subst same
      simp [callsAfter, Printing.executionsAfter]
    · simp [callsAfter, Printing.executionsAfter, printing, same]
  | _ => rfl

/-- A call that has resolved has come to the end of its sandbox. -/
theorem Sandboxed.printing_settles (run : SandboxedRuns trace state) {label : Label}
    (settled : state.settles label = true) : state.printing.settles label = true := by
  unfold Printing.settles
  split
  · next worker result =>
    obtain ⟨call, resolution, going, resolved, gives⟩ := settles_result settled
    obtain ⟨events, runs⟩ := Underway.reached run worker call going
    -- A call resolves from its closing, which has the texts of the output and waits for all links.
    obtain ⟨closing, _, rfl, all⟩ := (SandboxRun.Faithful.reached runs).resolved resolution resolved
    simp only [printing, going, Option.map_some, Option.any_some, Execution.settles,
      decide_eq_true_iff]
    exact ⟨all, gives.stdout, gives.stderr, gives.outputTruncated, gives.streamOutputLimitExceeded⟩
  · rfl

/--
The platform with the whole of its calls behaves like the one with nothing but their outputs.

Timers, clocks, kills and the settling of promises only decide which of its runs come about.
-/
theorem sandboxed_refines_printing
    (run : sandboxed.Runs (fun state label => state.crashStopping label = true) .initial trace state) :
    ∃ events, printing.Runs (fun state label => crashStopping state label = true) .initial events
      state.printing := by
  refine run.refines printing (fun state label => crashStopping state label = true)
    Sandboxed.printing ?_
  intro trace state label next earlier setting stepped
  -- An event of a call that shows nothing is matched by no step.
  cases Sandboxed.step_cases stepped with
  | @platform label platform settled moved =>
    refine .inr ⟨.platform label, setting, ?_⟩
    have settles := Sandboxed.printing_settles earlier.unguarded settled
    simp only [CodeExecution.printing, Printing.step, settles, if_true]
    rw [show state.printing.platform.step label = some platform from moved, Option.map_some,
      ← Sandboxed.printing_callsAfter]
    rfl
  | @sandbox worker event call after other going moved =>
    have before : state.printing.executions worker = some call.execution := by
      simp [Sandboxed.printing, going]
    rw [Sandboxed.printing_withCall]
    rcases SandboxRun.execution_step other moved with same | ⟨printed, same⟩
    · left
      rw [same]
      exact Printing.withExecution_self before
    · refine .inr ⟨.output worker printed, rfl, ?_⟩
      rw [same]
      simp only [CodeExecution.printing, Printing.step, before, Option.map_some]
  | @link worker added call after jobId chunk going executes found moved =>
    obtain rfl : added = true := setting
    have before : state.printing.executions worker = some call.execution := by
      simp [Sandboxed.printing, going]
    simp only [SandboxRun.step, Option.ite_none_right_eq_some] at moved
    obtain rfl := Option.some.inj moved.2
    refine .inr ⟨.add worker, rfl, ?_⟩
    rw [Sandboxed.printing_withCall]
    have chunk' : call.execution.nextChunk = some chunk := found
    have executing : state.printing.platform.executing? worker = some jobId := executes
    simp only [CodeExecution.printing, Printing.step, before, executing, chunk', Option.map_some]
    rfl

/-- The refinement for the job whose program prints a letter. -/
theorem sandboxed_refines_printing_example : ∃ state events,
    sandboxed.Runs (fun state label => state.crashStopping label = true) .initial printingJob state ∧
    printing.Runs (fun state label => crashStopping state label = true) .initial events
      state.printing ∧ state.platform.store.statusOf "job" = some .completed := by
  obtain ⟨state, run, completed⟩ := Machine.runs_of_guardedRun sandboxed
    (fun state label => state.crashStopping label = true) .initial printingJob
    (fun state => state.platform.store.statusOf "job") (some .completed) (by decide)
  -- The executed run is refined by one with the output alone.
  obtain ⟨events, refined⟩ := sandboxed_refines_printing run
  exact ⟨state, events, run, refined, completed⟩

end CodeExecution

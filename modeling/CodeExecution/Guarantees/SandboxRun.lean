import CodeExecution.Proofs.SandboxRun

/-! The result of a sandbox: what each of its fields says about the child, the timer and the kills. -/

namespace CodeExecution

variable {run next : SandboxRun} {trace : List SandboxEvent} {start : Instant}

/--
Whatever the order of its events, a call resolves with what its child and its timer have done.

The child has closed once, nothing it has printed is missing, every link of `publishQueue` has settled,
and exit code 137 counts as running out of memory exactly where the worker itself has killed nothing.
-/
theorem sandbox_resolution {resolution : SandboxResolution}
    (runs : SandboxRuns start trace run) (resolved : run.promise = .resolved resolution) :
    exitsIn trace = [resolution.exitCode] ∧
    resolution.output = sandboxOutput (printedIn trace) ∧
    (resolution.timedOut = true ↔ .timeout ∈ trace) ∧
    (resolution.oomKilled = true ↔ resolution.exitCode = some 137 ∧ run.kills = []) ∧
    (.timeout ∈ run.kills ↔ .timeout ∈ trace) ∧
    (.streamOutputLimit ∈ run.kills ↔ maxStreamOutputBytes < shownBytes (printedIn trace)) ∧
    run.kills.Nodup ∧
    run.settledLinks = resolution.output.published.length ∧
    resolution.containerInitMs + resolution.codeRuntimeMs ≤ resolution.executionTimeMs + 1 ∧
    (.timeout ∈ trace → 5000 ≤ resolution.executionTimeMs) := by
  have faithful := SandboxRun.Faithful.reached runs
  obtain ⟨closing, computed, rfl, all⟩ := faithful.resolved resolution resolved
  have closed := faithful.closing closing computed
  have timedOut : run.timedOut = true ↔ .timeout ∈ trace := by
    rw [faithful.timedOut, timesOut, decide_eq_true_iff]
  have once : run.kills.Nodup := by
    -- Each of the two reasons is counted once at most.
    rw [List.nodup_iff_count_le_one]
    rintro (_ | _)
    · rw [faithful.kills.timeout]; exact Bool.toNat_le _
    · rw [faithful.kills.limit]; exact Bool.toNat_le _
  refine ⟨closed.exits, faithful.output, timedOut, closed.oomKilled,
    faithful.kills.timeout_mem.trans timedOut, ?_, once, all, closed.phases,
    fun fired => closed.timeLimit (timedOut.mpr fired)⟩
  rw [faithful.kills.limit_mem, faithful.output]
  exact sandboxOutput_exceeded_iff _

/-- The message about an exit code is not the one about the limit. -/
theorem exitMessage_ne (exitCode : Option Int) :
    "Execution failed with exit code " ++ showExitCode exitCode ≠
      "Stream output limit exceeded (limit: 1 MB)" := by
  -- They begin with different letters.
  intro same
  have letters := congrArg String.toList same
  rw [String.toList_append] at letters
  simp at letters

/-- What the branches of the classification say about a result whose fields agree. -/
theorem finalOutcome_causes {result : SandboxResult}
    (oom : result.oomKilled = true ↔ result.exitCode = some 137 ∧
      result.timedOut = false ∧ result.streamOutputLimitExceeded = false) :
    ((finalOutcome result).1 = .completed ↔ result.exitCode = some 0 ∧
      result.timedOut = false ∧ result.streamOutputLimitExceeded = false) ∧
    ((finalOutcome result).1 = .timeout ↔ result.timedOut = true) ∧
    ((finalOutcome result).2.2 = some .timeout ↔ result.timedOut = true) ∧
    ((finalOutcome result).2.2 = some .oom ↔ result.exitCode = some 137 ∧
      result.timedOut = false ∧ result.streamOutputLimitExceeded = false) ∧
    ((finalOutcome result).2.2 = some .syntaxError ↔
      (result.timedOut = false ∧ result.streamOutputLimitExceeded = false) ∧
        result.exitCode ≠ some 0 ∧ result.exitCode ≠ some 137 ∧
        (includes result.stderr "SyntaxError" || includes result.stderr "IndentationError") = true) ∧
    ((finalOutcome result).2.1 = some "Stream output limit exceeded (limit: 1 MB)" ↔
      result.timedOut = false ∧ result.streamOutputLimitExceeded = true) := by
  -- The tests are made in the order of the branches, and only the exit code is left for the last one.
  unfold finalOutcome
  cases timedOut : result.timedOut with
  | true => simp
  | false =>
    cases exceeded : result.streamOutputLimitExceeded with
    | true => simp
    | false =>
      cases killed : result.oomKilled with
      | true =>
        have code := (oom.mp killed).1
        simp [code]
      | false =>
        have other : result.exitCode ≠ some 137 := by
          intro code
          have both := oom.mpr ⟨code, timedOut, exceeded⟩
          simp [killed] at both
        by_cases clean : result.exitCode = some 0
        · simp [clean]
        · cases syntactic :
            includes result.stderr "SyntaxError" || includes result.stderr "IndentationError" <;>
            simp [clean, other, exitMessage_ne]

/-- What the worker is told about the kills of a call whose promise has resolved. -/
theorem SandboxRun.Faithful.told {resolution : SandboxResolution} {result : SandboxResult}
    (faithful : run.Faithful trace) (resolved : run.promise = .resolved resolution)
    (gives : resolution.Gives result) :
    KillsMatch run.kills result.timedOut result.streamOutputLimitExceeded ∧
      (result.oomKilled = true ↔ result.exitCode = some 137 ∧
        result.timedOut = false ∧ result.streamOutputLimitExceeded = false) := by
  obtain ⟨closing, computed, rfl, _⟩ := faithful.resolved resolution resolved
  have timedOut : result.timedOut = run.timedOut := gives.timedOut
  have exceeded : result.streamOutputLimitExceeded = run.output.streamOutputLimitExceeded :=
    gives.streamOutputLimitExceeded
  have exit : result.exitCode = closing.exitCode := gives.exitCode
  have oomKilled : result.oomKilled = run.oomKilled := gives.oomKilled
  have kills : KillsMatch run.kills result.timedOut result.streamOutputLimitExceeded := by
    rw [timedOut, exceeded]
    exact faithful.kills
  -- The `close` listener looks at the same two variables for an exit code of 137.
  refine ⟨kills, ?_⟩
  rw [oomKilled, exit, ← kills.eq_nil_iff]
  exact (faithful.closing closing computed).oomKilled

/--
The worker's classification of a result is decided by the exit code and by what the worker has killed.

COMPLETED and OOM stand for containers that nobody has killed, and a timeout hides every other cause.
-/
theorem sandbox_classified {resolution : SandboxResolution} {result : SandboxResult}
    (runs : SandboxRuns start trace run) (resolved : run.promise = .resolved resolution)
    (gives : resolution.Gives result) :
    ((finalOutcome result).1 = .completed ↔ result.exitCode = some 0 ∧ run.kills = []) ∧
    ((finalOutcome result).1 = .timeout ↔ .timeout ∈ run.kills) ∧
    ((finalOutcome result).2.2 = some .timeout ↔ .timeout ∈ run.kills) ∧
    ((finalOutcome result).2.2 = some .oom ↔ result.exitCode = some 137 ∧ run.kills = []) ∧
    ((finalOutcome result).2.2 = some .syntaxError ↔
      run.kills = [] ∧ result.exitCode ≠ some 0 ∧ result.exitCode ≠ some 137 ∧
        (includes result.stderr "SyntaxError" || includes result.stderr "IndentationError") = true) ∧
    ((finalOutcome result).2.1 = some "Stream output limit exceeded (limit: 1 MB)" ↔
      run.kills = [.streamOutputLimit]) := by
  obtain ⟨kills, oom⟩ := (SandboxRun.Faithful.reached runs).told resolved gives
  -- Everything about the kills is in the flags that the result is classified by.
  rw [kills.timeout_mem, kills.eq_nil_iff, kills.eq_singleton_iff]
  exact finalOutcome_causes oom

/-- A program that prints one line and is then killed for running too long. -/
def timedOutRun : List SandboxEvent :=
  [.spawn .writes, .data ⟨.stdout, Utf8.encode "tick\n".toList⟩, .clock 5100000000, .timeout,
    .close (some 137), .link, .resume]

/-- What its call resolves with. -/
def timedOutResolution : SandboxResolution where
  exitCode := some 137
  output := sandboxOutput [⟨.stdout, Utf8.encode "tick\n".toList⟩]
  timedOut := true
  oomKilled := false
  executionTimeMs := 5100
  containerInitMs := 0
  codeRuntimeMs := 5100

/-- That program reaches its resolution. -/
theorem timedOutRun_resolves : ∃ run, SandboxRuns 0 timedOutRun run ∧
    run.promise = .resolved timedOutResolution ∧ run.kills = [.timeout] := by
  obtain ⟨run, runs, both⟩ := Machine.runs_of_guardedRun runInSandbox (fun _ _ => True) (.start 0)
    timedOutRun (fun run => (run.promise, run.kills))
    (.resolved timedOutResolution, [.timeout]) (by decide)
  obtain ⟨resolved, kills⟩ := Prod.mk.inj both
  exact ⟨run, runs, resolved, kills⟩

/-- The guarantee for that program, whose exit code does not count as running out of memory. -/
theorem sandbox_resolution_example : ∃ run, SandboxRuns 0 timedOutRun run ∧
    run.promise = .resolved timedOutResolution ∧ 5000 ≤ timedOutResolution.executionTimeMs := by
  obtain ⟨run, runs, resolved, _⟩ := timedOutRun_resolves
  obtain ⟨_, _, timedOut, _, _, _, _, _, _, limit⟩ := sandbox_resolution runs resolved
  exact ⟨run, runs, resolved, limit (timedOut.mp rfl)⟩

/-- What the worker sees of that resolution. -/
def timedOutResult : SandboxResult where
  exitCode := some 137
  stdout := String.ofList timedOutResolution.output.stdout
  stderr := ""
  timedOut := true
  oomKilled := false
  outputTruncated := false
  streamOutputLimitExceeded := false
  executionTimeMs := 5100
  memoryUsedBytes := none

theorem timedOutResolution_gives : timedOutResolution.Gives timedOutResult where
  exitCode := rfl
  stdout := rfl
  stderr := by decide
  timedOut := rfl
  oomKilled := rfl
  outputTruncated := by decide
  streamOutputLimitExceeded := by decide
  executionTimeMs := rfl
  memoryUsedBytes := by decide

/-- The guarantee for that program: the timeout decides, and not the exit code. -/
theorem sandbox_classified_example : (finalOutcome timedOutResult).1 = .timeout ∧
    (finalOutcome timedOutResult).2.2 ≠ some .oom := by
  obtain ⟨run, runs, resolved, kills⟩ := timedOutRun_resolves
  obtain ⟨_, timeout, _, oom, _⟩ := sandbox_classified runs resolved timedOutResolution_gives
  exact ⟨timeout.mpr (by simp [kills]), fun same => by simpa [kills] using (oom.mp same).2⟩

/-! ## Behind the end of a call -/

/-- Nothing that happens behind the `close` event changes what the call has done. -/
structure SandboxRun.SettledAs (ended run : SandboxRun) : Prop where
  closed : run.childClosed = true
  spawned : run.spawnIssuedAt ≠ none
  unarmed : ∀ due, run.timer ≠ .armed due
  promise : run.promise = ended.promise
  output : run.output = ended.output
  kills : run.kills = ended.kills

/-- A settled promise is not settled again. -/
theorem SandboxPromise.settle_of_ne {promise : SandboxPromise} (settled : promise ≠ .pending)
    (next : SandboxPromise) : promise.settle next = promise := by
  cases promise with
  | pending => exact absurd rfl settled
  | resolved _ | rejected => rfl

/-- Every event that is still possible leaves it so. -/
theorem SandboxRun.SettledAs.step {ended : SandboxRun} {event : SandboxEvent}
    (own : ended.SettledAs run) (settled : ended.promise ≠ .pending)
    (stepped : runInSandbox.step run event = some next) : ended.SettledAs next := by
  have kept : ∀ promise, run.promise.settle promise = ended.promise := fun promise => by
    rw [SandboxPromise.settle_of_ne (by rw [own.promise]; exact settled), own.promise]
  -- The child emits nothing any more, and the timer cannot fire.
  simp only [runInSandbox] at stepped
  cases event with
  | clock now =>
    simp only [SandboxRun.step, Option.ite_none_right_eq_some] at stepped
    obtain rfl := Option.some.inj stepped.2
    exact ⟨own.closed, own.spawned, own.unarmed, own.promise, own.output, own.kills⟩
  | spawn outcome => simp [SandboxRun.step, own.spawned] at stepped
  | data printed => simp [SandboxRun.step, SandboxRun.childOpen, own.closed] at stepped
  | timeout =>
    simp only [SandboxRun.step] at stepped
    split at stepped
    · next due armed => exact absurd armed (own.unarmed due)
    · simp at stepped
  | error =>
    simp only [SandboxRun.step, Option.ite_none_right_eq_some] at stepped
    obtain rfl := Option.some.inj stepped.2
    exact ⟨own.closed, own.spawned, run.timer.clear_cases.1, kept _, own.output, own.kills⟩
  | close exitCode => simp [SandboxRun.step, SandboxRun.childOpen, own.closed] at stepped
  | link =>
    simp only [SandboxRun.step, Option.ite_none_right_eq_some] at stepped
    obtain rfl := Option.some.inj stepped.2
    exact ⟨own.closed, own.spawned, own.unarmed, own.promise, own.output, own.kills⟩
  | resume =>
    simp only [SandboxRun.step] at stepped
    split at stepped
    · simp only [Option.ite_none_right_eq_some] at stepped
      obtain rfl := Option.some.inj stepped.2
      exact ⟨own.closed, own.spawned, own.unarmed, kept _, own.output, own.kills⟩
    · simp at stepped

/--
Once a call has resolved, no later event makes it kill a container, print or settle again.

No timer is left that could kill the container of the next attempt, which has the same name.
A kill that was issued before may still be on its way, since nobody awaits it.
-/
theorem sandbox_settled {resolution : SandboxResolution} {later : List SandboxEvent}
    (runs : SandboxRuns start trace run) (resolved : run.promise = .resolved resolution)
    (continued : runInSandbox.Runs (fun _ _ => True) run later next) :
    next.promise = .resolved resolution ∧ next.kills = run.kills ∧ next.output = run.output := by
  have faithful := SandboxRun.Faithful.reached runs
  obtain ⟨closing, computed, _, _⟩ := faithful.resolved resolution resolved
  have closed := faithful.closing closing computed
  have settled : run.promise ≠ .pending := by simp [resolved]
  have spawned : run.spawnIssuedAt ≠ none := by
    intro waits
    have unclosed := faithful.unspawned waits
    simp [closed.closed] at unclosed
  -- The invariant compares every later state with the one in which the call had resolved.
  have own : run.SettledAs next := continued.preserves run.SettledAs
    ⟨closed.closed, spawned, closed.unarmed, rfl, rfl, rfl⟩
    fun _ _ _ own _ stepped => own.step settled stepped
  exact ⟨own.promise.trans resolved, own.kills, own.output⟩

/-- The guarantee for a call whose child reports an error when it is over. -/
theorem sandbox_settled_example : ∃ run next, SandboxRuns 0 timedOutRun run ∧
    runInSandbox.Runs (fun _ _ => True) run [.error] next ∧
    next.promise = .resolved timedOutResolution ∧ next.kills = [.timeout] := by
  obtain ⟨run, runs, both⟩ := Machine.runs_of_guardedRun runInSandbox (fun _ _ => True) (.start 0)
    timedOutRun (fun run => (run.promise, run.kills, run.step .error |>.isSome))
    (.resolved timedOutResolution, [.timeout], true) (by decide)
  obtain ⟨resolved, kills, possible⟩ := by simpa using both
  obtain ⟨next, stepped⟩ := Option.isSome_iff_exists.mp possible
  -- The child may still report an error, which nobody hears.
  have continued : runInSandbox.Runs (fun _ _ => True) run [.error] next :=
    .snoc .nil trivial stepped
  obtain ⟨same, unkilled, _⟩ := sandbox_settled runs resolved continued
  exact ⟨run, next, runs, continued, same, unkilled.trans kills⟩

end CodeExecution

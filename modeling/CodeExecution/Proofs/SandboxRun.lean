import CodeExecution.Proofs.Printing
import CodeExecution.Services.SandboxRun

/-! The invariant of a `runInSandbox` call: its variables say what its events were. -/

namespace CodeExecution

variable {run next : SandboxRun} {trace : List SandboxEvent} {event : SandboxEvent}

/-! ## What is read off the events -/

/-- The output in a `data` event. -/
def SandboxEvent.data? : SandboxEvent → Option OutputEvent
  | .data event => some event
  | _ => none

/-- The exit code in a `close` event. -/
def SandboxEvent.exitCode? : SandboxEvent → Option (Option Int)
  | .close exitCode => some exitCode
  | _ => none

/-- Everything that the child has printed. -/
def printedIn (trace : List SandboxEvent) : List OutputEvent :=
  trace.filterMap SandboxEvent.data?

/-- The exit codes that the child has closed with. -/
def exitsIn (trace : List SandboxEvent) : List (Option Int) :=
  trace.filterMap SandboxEvent.exitCode?

/-- The timeout has fired. -/
def timesOut (trace : List SandboxEvent) : Bool :=
  .timeout ∈ trace

theorem printedIn_concat (trace : List SandboxEvent) (event : SandboxEvent) :
    printedIn (trace ++ [event]) = printedIn trace ++ event.data?.toList := by
  rw [printedIn, List.filterMap_append, ← printedIn]
  cases event <;> rfl

theorem exitsIn_concat (trace : List SandboxEvent) (event : SandboxEvent) :
    exitsIn (trace ++ [event]) = exitsIn trace ++ event.exitCode?.toList := by
  rw [exitsIn, List.filterMap_append, ← exitsIn]
  cases event <;> rfl

theorem timesOut_concat (trace : List SandboxEvent) (event : SandboxEvent) :
    timesOut (trace ++ [event]) = (timesOut trace || decide (event = .timeout)) := by
  simp [timesOut, eq_comm]

/-! ## The kills -/

/-- An output is killed for at the event that exceeds the limit, and at no other. -/
theorem SandboxOutput.handleOutput_kills (output : SandboxOutput) (event : OutputEvent) :
    (output.handleOutput event).kills = output.kills +
      if (output.handleOutput event).streamOutputLimitExceeded = true ∧
        output.streamOutputLimitExceeded = false then 1 else 0 := by
  -- Behind the limit nothing is handled, and below it nothing is killed.
  have noted : ∀ text, (output.noteReport text).kills = output.kills ∧
      (output.noteReport text).streamOutputLimitExceeded = output.streamOutputLimitExceeded := by
    intro text
    unfold noteReport
    split <;> exact ⟨rfl, rfl⟩
  have assigned : ∀ (own : SandboxOutput) (stream : OutputStream) (value : List Char),
      (own.assign stream value).kills = own.kills ∧
        (own.assign stream value).streamOutputLimitExceeded = own.streamOutputLimitExceeded := by
    intro own stream value
    cases stream <;> exact ⟨rfl, rfl⟩
  obtain ⟨kills, limit⟩ := noted (Utf8.decode event.data)
  unfold handleOutput
  split
  · next exceeded => simp [exceeded]
  · next within =>
    have going : output.streamOutputLimitExceeded = false := by simpa using within
    dsimp only
    split
    · simp [kills, limit, going]
    · split
      · simp [exceedLimit, kills, going]
      · simp [accept, (assigned _ _ _).1, (assigned _ _ _).2, kills, limit, going]

/-- The container is killed for the timeout and for the limit, once each. -/
structure KillsMatch (kills : List KillReason) (timedOut exceeded : Bool) : Prop where
  timeout : kills.count .timeout = timedOut.toNat
  limit : kills.count .streamOutputLimit = exceeded.toNat

/-- Nothing is killed where neither has happened. -/
theorem KillsMatch.eq_nil_iff {kills : List KillReason} {timedOut exceeded : Bool}
    (own : KillsMatch kills timedOut exceeded) : kills = [] ↔ timedOut = false ∧ exceeded = false := by
  -- A reason that is there counts.
  constructor
  · rintro rfl
    have none := own.timeout
    have none' := own.limit
    simp only [List.count_nil] at none none'
    cases timedOut <;> cases exceeded <;> simp at none none' ⊢
  · rintro ⟨rfl, rfl⟩
    cases kills with
    | nil => rfl
    | cons reason rest =>
      have none := own.timeout
      have none' := own.limit
      cases reason <;> simp at none none'

/-- Nothing but the limit has killed exactly where it alone has happened. -/
theorem KillsMatch.eq_singleton_iff {kills : List KillReason} {timedOut exceeded : Bool}
    (own : KillsMatch kills timedOut exceeded) :
    kills = [.streamOutputLimit] ↔ timedOut = false ∧ exceeded = true := by
  have timeout := own.timeout
  have limit := own.limit
  -- The list of reasons is known by how often it has each of them.
  constructor
  · rintro rfl
    cases timedOut <;> cases exceeded <;> simp at timeout limit ⊢
  · rintro ⟨rfl, rfl⟩
    cases kills with
    | nil => simp at limit
    | cons reason rest =>
      cases reason with
      | timeout => simp at timeout
      | streamOutputLimit =>
        rw [List.count_cons_self] at limit
        rw [List.count_cons_of_ne (by simp)] at timeout
        have last : KillsMatch rest false false := ⟨timeout, by simpa using limit⟩
        rw [last.eq_nil_iff.mpr ⟨rfl, rfl⟩]

/-- The timeout is a reason exactly where it has fired. -/
theorem KillsMatch.timeout_mem {kills : List KillReason} {timedOut exceeded : Bool}
    (own : KillsMatch kills timedOut exceeded) : .timeout ∈ kills ↔ timedOut = true := by
  rw [← List.count_pos_iff, own.timeout]
  cases timedOut <;> simp

/-- The limit is a reason exactly where it has been exceeded. -/
theorem KillsMatch.limit_mem {kills : List KillReason} {timedOut exceeded : Bool}
    (own : KillsMatch kills timedOut exceeded) : .streamOutputLimit ∈ kills ↔ exceeded = true := by
  rw [← List.count_pos_iff, own.limit]
  cases exceeded <;> simp

/-! ## Times -/

/-- Two times that are rounded apart come to one millisecond more than their sum at most. -/
theorem roundMs_phases {start issued first now : Nat} (behind : start ≤ issued)
    (printed : issued ≤ first) (before : first ≤ now) :
    roundMs (first - issued) + roundMs (now - first) ≤ roundMs (now - start) + 1 := by
  unfold roundMs
  omega

/-- Five seconds are not rounded down. -/
theorem le_roundMs {start now : Nat} (passed : start + sandboxTimeout ≤ now) :
    5000 ≤ roundMs (now - start) := by
  unfold sandboxTimeout at passed
  unfold roundMs
  omega

/-! ## The invariant of a call -/

/-- The instants that a call has read are in order. -/
structure SandboxRun.InOrder (run : SandboxRun) : Prop where
  started : run.startTime ≤ run.now
  spawned : ∀ issued, run.spawnIssuedAt = some issued → run.startTime ≤ issued ∧ issued ≤ run.now
  printed : ∀ first, run.firstOutputAt = some first →
    first ≤ run.now ∧ ∃ issued, run.spawnIssuedAt = some issued ∧ issued ≤ first
  armed : ∀ due, run.timer = .armed due →
    ∃ issued, run.spawnIssuedAt = some issued ∧ due = issued + sandboxTimeout
  timedOut : run.timedOut = true → run.startTime + sandboxTimeout ≤ run.now
  unspawned : run.spawnIssuedAt = none → run.timer = .unset

/-- What has been computed at the `close` event. -/
structure Closing.Matches (closing : Closing) (trace : List SandboxEvent) (run : SandboxRun) : Prop where
  exits : exitsIn trace = [closing.exitCode]
  closed : run.childClosed = true
  unarmed : ∀ due, run.timer ≠ .armed due
  oomKilled : run.oomKilled = true ↔ closing.exitCode = some 137 ∧ run.kills = []
  awaited : closing.awaited = run.output.published.length
  phases : closing.containerInitMs + closing.codeRuntimeMs ≤ closing.executionTimeMs + 1
  timeLimit : run.timedOut = true → 5000 ≤ closing.executionTimeMs

/-- The variables of a call say what its events were. -/
structure SandboxRun.Faithful (trace : List SandboxEvent) (run : SandboxRun) : Prop where
  inOrder : run.InOrder
  output : run.output = sandboxOutput (printedIn trace)
  timedOut : run.timedOut = timesOut trace
  fired : run.timedOut = true ↔ run.timer = .fired
  kills : KillsMatch run.kills run.timedOut run.output.streamOutputLimitExceeded
  unclosed : run.childClosed = false → exitsIn trace = [] ∧ run.closing = none
  unkilled : run.closing = none → run.oomKilled = false
  closing : ∀ closing, run.closing = some closing → closing.Matches trace run
  links : run.settledLinks ≤ run.output.published.length
  resolved : ∀ resolution, run.promise = .resolved resolution → ∃ closing,
    run.closing = some closing ∧ resolution = run.resolution closing ∧
      run.settledLinks = run.output.published.length
  unspawned : run.spawnIssuedAt = none → run.childClosed = false

/-- The clock of a call may stand anywhere at first. -/
theorem SandboxRun.Faithful.start (now : Instant) : (SandboxRun.start now).Faithful [] where
  -- Nothing has been spawned, printed, armed or computed.
  inOrder := {
    started := Nat.le_refl _
    spawned := by simp [SandboxRun.start]
    printed := by simp [SandboxRun.start]
    armed := by simp [SandboxRun.start]
    timedOut := by simp [SandboxRun.start]
    unspawned := fun _ => rfl }
  output := rfl
  timedOut := rfl
  fired := by simp [SandboxRun.start]
  kills := ⟨rfl, rfl⟩
  unclosed := fun _ => ⟨rfl, rfl⟩
  unkilled := fun _ => rfl
  closing := by simp [SandboxRun.start]
  links := Nat.zero_le _
  resolved := by simp [SandboxRun.start]
  unspawned := fun _ => rfl

/-- A promise resolves by what settles it, and stays resolved. -/
theorem SandboxPromise.settle_resolved {promise next : SandboxPromise}
    {resolution : SandboxResolution} (settled : promise.settle next = .resolved resolution) :
    promise = .resolved resolution ∨ (promise = .pending ∧ next = .resolved resolution) := by
  cases promise with
  | pending => exact .inr ⟨rfl, settled⟩
  | resolved _ | rejected => exact .inl settled

/-- A timer that is cleared is not armed, and has fired just if it had. -/
theorem TimeoutTimer.clear_cases (timer : TimeoutTimer) :
    (∀ due, timer.clear ≠ .armed due) ∧ (timer.clear = .fired ↔ timer = .fired) ∧
      (timer.clear = .unset ↔ timer = .unset) := by
  cases timer <;> simp [clear]

namespace SandboxRun

/-- The order of the instants does not depend on the other variables. -/
theorem InOrder.later (inOrder : run.InOrder) (now : run.now ≤ next.now)
    (startTime : next.startTime = run.startTime) (issued : next.spawnIssuedAt = run.spawnIssuedAt)
    (first : next.firstOutputAt = run.firstOutputAt)
    (armed : ∀ due, next.timer = .armed due → run.timer = .armed due)
    (unset : run.timer = .unset → next.timer = .unset)
    (timedOut : next.timedOut = run.timedOut) : next.InOrder where
  -- Each field bounds a kept instant by the clock, which has only gone on.
  started := by rw [startTime]; exact inOrder.started.trans now
  spawned := by
    rw [issued, startTime]
    intro at_ spawned
    obtain ⟨behind, before⟩ := inOrder.spawned at_ spawned
    exact ⟨behind, before.trans now⟩
  printed := by
    rw [issued, first]
    intro at_ printed
    obtain ⟨before, spawned⟩ := inOrder.printed at_ printed
    exact ⟨before.trans now, spawned⟩
  armed := by
    rw [issued]
    exact fun due isArmed => inOrder.armed due (armed due isArmed)
  timedOut := by
    rw [timedOut, startTime]
    exact fun fired => (inOrder.timedOut fired).trans now
  unspawned := by
    rw [issued]
    exact fun unspawned => unset (inOrder.unspawned unspawned)

/-- The two phases of a call come to its whole time, but for their rounding. -/
theorem InOrder.phases (inOrder : run.InOrder) {issued : Instant}
    (spawned : run.spawnIssuedAt = some issued) (exitCode : Option Int) :
    (run.closingAt issued exitCode).containerInitMs + (run.closingAt issued exitCode).codeRuntimeMs ≤
      (run.closingAt issued exitCode).executionTimeMs + 1 := by
  -- Without any output there is one phase alone.
  rw [closingAt_executionTimeMs]
  unfold closingAt
  dsimp only
  split
  · next first printed =>
    obtain ⟨before, other, spawned', behind⟩ := inOrder.printed first printed
    obtain rfl : issued = other := Option.some.inj (spawned.symm.trans spawned')
    exact roundMs_phases (inOrder.spawned issued spawned).1 behind before
  · rw [Nat.add_zero]
    exact Nat.le_add_right _ 1

/-- An event that the child does not emit leaves what the `close` listener has computed. -/
theorem Faithful.closing_aside (faithful : run.Faithful trace) (closing : next.closing = run.closing)
    (quiet : event.exitCode? = none) (closed : next.childClosed = run.childClosed)
    (unarmed : ∀ own, run.closing = some own → ∀ due, next.timer = .armed due → run.timer = .armed due)
    (oomKilled : next.oomKilled = run.oomKilled) (kills : next.kills = run.kills)
    (output : next.output = run.output) (timedOut : next.timedOut = run.timedOut) :
    ∀ own, next.closing = some own → own.Matches (trace ++ [event]) next := by
  -- Everything that is compared with is as it was.
  intro own computed
  have was := faithful.closing own (closing ▸ computed)
  exact {
    exits := by rw [exitsIn_concat, quiet, Option.toList_none, List.append_nil]; exact was.exits
    closed := closed.trans was.closed
    unarmed := fun due armed => was.unarmed due (unarmed own (closing ▸ computed) due armed)
    oomKilled := by rw [oomKilled, kills]; exact was.oomKilled
    awaited := by rw [output]; exact was.awaited
    phases := was.phases
    timeLimit := fun fired => was.timeLimit (timedOut ▸ fired) }

/-- So does an event that the child does not emit with the other things it says. -/
theorem Faithful.aside (faithful : run.Faithful trace) (inOrder : next.InOrder)
    (silent : event.data? = none) (quiet : event.exitCode? = none) (untimed : event ≠ .timeout)
    (closing : next.closing = run.closing) (closed : next.childClosed = run.childClosed)
    (unarmed : ∀ own, run.closing = some own → ∀ due, next.timer = .armed due → run.timer = .armed due)
    (fired : next.timer = .fired ↔ run.timer = .fired)
    (oomKilled : next.oomKilled = run.oomKilled) (kills : next.kills = run.kills)
    (output : next.output = run.output) (timedOut : next.timedOut = run.timedOut)
    (links : next.settledLinks ≤ run.output.published.length)
    (resolved : ∀ resolution, next.promise = .resolved resolution → ∃ closing,
      run.closing = some closing ∧ resolution = run.resolution closing ∧
        next.settledLinks = run.output.published.length)
    (unspawned : next.spawnIssuedAt = none → run.spawnIssuedAt = none) :
    next.Faithful (trace ++ [event]) where
  inOrder := inOrder
  -- The trace grows by an event that prints nothing, ends nothing and is no timeout.
  output := by
    rw [output, faithful.output, printedIn_concat, silent, Option.toList_none, List.append_nil]
  timedOut := by
    rw [timedOut, faithful.timedOut, timesOut_concat, decide_eq_false untimed, Bool.or_false]
  fired := by rw [timedOut, fired]; exact faithful.fired
  kills := by rw [kills, timedOut, output]; exact faithful.kills
  unclosed := by
    rw [closed, closing, exitsIn_concat, quiet, Option.toList_none, List.append_nil]
    exact faithful.unclosed
  unkilled := by rw [closing, oomKilled]; exact faithful.unkilled
  closing := faithful.closing_aside closing quiet closed unarmed oomKilled kills output timedOut
  links := by rw [output]; exact links
  resolved := by
    intro given settled
    obtain ⟨own, computed, same, all⟩ := resolved given settled
    refine ⟨own, closing.trans computed, ?_, by rw [output]; exact all⟩
    -- The resolution is made of fields that the step keeps.
    rw [same, resolution, resolution, output, timedOut, oomKilled]
  unspawned := fun issued => closed ▸ faithful.unspawned (unspawned issued)

/-- A promise that was resolved before is resolved as it was. -/
theorem Faithful.resolved_before (faithful : run.Faithful trace) {promise : SandboxPromise}
    (unresolved : ∀ resolution, promise ≠ .resolved resolution) (resolution : SandboxResolution)
    (settled : run.promise.settle promise = .resolved resolution) : ∃ closing,
      run.closing = some closing ∧ resolution = run.resolution closing ∧
        run.settledLinks = run.output.published.length := by
  rcases SandboxPromise.settle_resolved settled with was | ⟨_, now⟩
  · exact faithful.resolved resolution was
  · exact absurd now (unresolved resolution)

/-- The clock moves on. -/
theorem Faithful.clock (faithful : run.Faithful trace) {now : Instant} (later : run.now ≤ now) :
    ({ run with now } : SandboxRun).Faithful (trace ++ [.clock now]) :=
  faithful.aside (faithful.inOrder.later later rfl rfl rfl (fun _ armed => armed) id rfl) rfl rfl
    (by simp) rfl rfl (fun _ _ _ armed => armed) .rfl rfl rfl rfl rfl faithful.links faithful.resolved id

/-- A link of `publishQueue` settles. -/
theorem Faithful.link (faithful : run.Faithful trace)
    (left : run.settledLinks < run.output.published.length) :
    ({ run with settledLinks := run.settledLinks + 1 } : SandboxRun).Faithful (trace ++ [.link]) := by
  -- A promise that is resolved has no link left.
  refine faithful.aside
    (faithful.inOrder.later (Nat.le_refl _) rfl rfl rfl (fun _ armed => armed) id rfl) rfl rfl
    (by simp) rfl rfl (fun _ _ _ armed => armed) .rfl rfl rfl rfl rfl left ?_ id
  intro given settled
  obtain ⟨_, _, _, all⟩ := faithful.resolved given settled
  omega

/-- An `error` event rejects the promise, if nothing has settled it. -/
theorem Faithful.onError (faithful : run.Faithful trace) :
    run.onError.Faithful (trace ++ [.error]) := by
  obtain ⟨unarmed, fired, unset⟩ := run.timer.clear_cases
  refine faithful.aside ?_ rfl rfl (by simp) rfl rfl
    (fun _ _ due armed => absurd armed (unarmed due)) fired rfl rfl rfl rfl faithful.links
    (faithful.resolved_before (by simp)) id
  exact faithful.inOrder.later (Nat.le_refl _) rfl rfl rfl
    (fun due armed => absurd armed (unarmed due)) unset.mpr rfl

/-- The child is spawned, or `spawn` throws. -/
theorem Faithful.spawn (faithful : run.Faithful trace) (waits : run.spawnIssuedAt = none)
    (outcome : SpawnOutcome) : (run.spawn outcome).Faithful (trace ++ [.spawn outcome]) := by
  have unset := faithful.inOrder.unspawned waits
  have unfired : run.timedOut = false := by
    have none := faithful.fired
    simpa [unset] using none
  have unclosed : run.closing = none := (faithful.unclosed (faithful.unspawned waits)).2
  have unprinted : run.firstOutputAt = none := by
    cases first : run.firstOutputAt with
    | none => rfl
    | some at_ =>
      obtain ⟨_, issued, spawned, _⟩ := faithful.inOrder.printed at_ first
      simp [waits] at spawned
  -- Whatever the outcome, the spawn is the first instant behind the start.
  have inOrder : ∀ after : SandboxRun, after.now = run.now → after.startTime = run.startTime →
      after.spawnIssuedAt = some run.now → after.firstOutputAt = none → after.timedOut = false →
      (∀ due, after.timer = .armed due → due = run.now + sandboxTimeout) → after.InOrder := by
    intro after now startTime issued first untimed armed
    exact {
      started := by rw [now, startTime]; exact faithful.inOrder.started
      spawned := by
        intro at_ spawned
        obtain rfl := Option.some.inj (issued.symm.trans spawned)
        rw [now, startTime]
        exact ⟨faithful.inOrder.started, Nat.le_refl _⟩
      printed := by simp [first]
      armed := fun due isArmed => ⟨run.now, issued, armed due isArmed⟩
      timedOut := by simp [untimed]
      unspawned := by simp [issued] }
  -- Nothing is computed before there is a child, so nothing has to be compared with.
  have vacuous : ∀ (after : SandboxRun) own, run.closing = some own → ∀ due,
      after.timer = .armed due → run.timer = .armed due := by simp [unclosed]
  cases outcome with
  | throws =>
    exact faithful.aside (inOrder _ rfl rfl rfl unprinted unfired (by simp [SandboxRun.spawn, unset]))
      rfl rfl (by simp) rfl rfl (vacuous _) .rfl rfl rfl rfl rfl faithful.links
      (faithful.resolved_before (by simp)) (by simp [SandboxRun.spawn])
  -- Without pipes the first `on` throws, and the timer is armed by then.
  | withoutPipes =>
    exact faithful.aside
      (inOrder _ rfl rfl rfl unprinted unfired (by simp [SandboxRun.spawn, eq_comm]))
      rfl rfl (by simp) rfl rfl (vacuous _) (by simp [SandboxRun.spawn, unset]) rfl rfl rfl rfl
      faithful.links (faithful.resolved_before (by simp)) (by simp [SandboxRun.spawn])
  | writes =>
    exact faithful.aside
      (inOrder _ rfl rfl rfl unprinted unfired (by simp [SandboxRun.spawn, eq_comm]))
      rfl rfl (by simp) rfl rfl (vacuous _) (by simp [SandboxRun.spawn, unset]) rfl rfl rfl rfl
      faithful.links faithful.resolved (by simp [SandboxRun.spawn])
  | writeThrows =>
    exact faithful.aside (inOrder _ rfl rfl rfl unprinted unfired (by simp [SandboxRun.spawn]))
      rfl rfl (by simp) rfl rfl (vacuous _) (by simp [SandboxRun.spawn, unset]) rfl rfl rfl rfl
      faithful.links (faithful.resolved_before (by simp)) (by simp [SandboxRun.spawn])

/-- An armed timer belongs to a child that has not closed. -/
theorem Faithful.armed_open (faithful : run.Faithful trace) {due : Instant}
    (armed : run.timer = .armed due) : run.timedOut = false ∧ run.closing = none := by
  constructor
  · have fired := faithful.fired
    simpa [armed] using fired
  · cases computed : run.closing with
    | none => rfl
    | some own => exact absurd armed ((faithful.closing own computed).unarmed due)

/-- The timeout kills the container. -/
theorem Faithful.onTimeout (faithful : run.Faithful trace) {due : Instant}
    (armed : run.timer = .armed due) (passed : due ≤ run.now) :
    run.onTimeout.Faithful (trace ++ [.timeout]) := by
  obtain ⟨untimed, unclosed⟩ := faithful.armed_open armed
  obtain ⟨issued, spawned, rfl⟩ := faithful.inOrder.armed due armed
  obtain ⟨behind, _⟩ := faithful.inOrder.spawned issued spawned
  exact {
    inOrder := {
      started := faithful.inOrder.started
      spawned := faithful.inOrder.spawned
      printed := faithful.inOrder.printed
      armed := by simp [SandboxRun.onTimeout]
      timedOut := fun _ => (Nat.add_le_add_right behind _).trans passed
      unspawned := by
        intro waits
        exact absurd (spawned.symm.trans waits) (by simp) }
    output := by
      rw [printedIn_concat]
      simpa [SandboxRun.onTimeout, SandboxEvent.data?] using faithful.output
    timedOut := by simp [SandboxRun.onTimeout, timesOut_concat]
    fired := by simp [SandboxRun.onTimeout]
    kills := by
      -- The timeout had not been a reason before.
      have timeout := faithful.kills.timeout
      rw [untimed] at timeout
      exact ⟨by simpa [SandboxRun.onTimeout] using timeout,
        by simpa [SandboxRun.onTimeout] using faithful.kills.limit⟩
    unclosed := by
      rw [exitsIn_concat]
      simpa [SandboxRun.onTimeout, SandboxEvent.exitCode?] using faithful.unclosed
    unkilled := faithful.unkilled
    closing := by
      intro own computed
      have computed' : run.closing = some own := computed
      simp [unclosed] at computed'
    links := faithful.links
    resolved := by
      intro given settled
      obtain ⟨own, computed, _⟩ := faithful.resolved given settled
      simp [unclosed] at computed
    unspawned := faithful.unspawned }

/-- An open child has been spawned, and nothing is computed from its end. -/
theorem Faithful.open_cases (faithful : run.Faithful trace) (isOpen : run.childOpen = true) :
    exitsIn trace = [] ∧ run.closing = none ∧ run.childClosed = false ∧
      ∃ issued, run.spawnIssuedAt = some issued := by
  -- The timer is set behind the spawn.
  obtain ⟨_, set, unclosed⟩ : run.piped = true ∧ run.timer ≠ .unset ∧ run.childClosed = false := by
    simpa [childOpen] using isOpen
  obtain ⟨none, uncomputed⟩ := faithful.unclosed unclosed
  refine ⟨none, uncomputed, unclosed, ?_⟩
  cases issued : run.spawnIssuedAt with
  | none => exact absurd (faithful.inOrder.unspawned issued) set
  | some at_ => exact ⟨at_, rfl⟩

/-- A `data` event is handled. -/
theorem Faithful.onData (faithful : run.Faithful trace) (isOpen : run.childOpen = true)
    (event : OutputEvent) : (run.onData event).Faithful (trace ++ [.data event]) := by
  obtain ⟨none, uncomputed, unclosed, issued, spawned⟩ := faithful.open_cases isOpen
  obtain ⟨_, before⟩ := faithful.inOrder.spawned issued spawned
  have output : run.output.handleOutput event = sandboxOutput (printedIn (trace ++ [.data event])) := by
    rw [printedIn_concat, faithful.output]
    simp [SandboxEvent.data?, sandboxOutput]
  have unresolved : ∀ given, run.promise ≠ .resolved given := by
    intro given settled
    obtain ⟨own, computed, _⟩ := faithful.resolved given settled
    simp [uncomputed] at computed
  exact {
    inOrder := {
      started := faithful.inOrder.started
      spawned := faithful.inOrder.spawned
      printed := by
        intro first printed
        cases was : run.firstOutputAt with
        | none =>
          obtain rfl : run.now = first := by simpa [SandboxRun.onData, was] using printed
          exact ⟨Nat.le_refl _, issued, spawned, before⟩
        | some earlier =>
          obtain rfl : earlier = first := by simpa [SandboxRun.onData, was] using printed
          exact faithful.inOrder.printed earlier was
      armed := faithful.inOrder.armed
      timedOut := faithful.inOrder.timedOut
      unspawned := faithful.inOrder.unspawned }
    output := output
    timedOut := by
      rw [timesOut_concat]
      simpa [SandboxRun.onData] using faithful.timedOut
    fired := faithful.fired
    kills := by
      -- The container is killed at the one event that exceeds the limit.
      have added := run.output.handleOutput_kills event
      have more : (run.output.handleOutput event).kills - run.output.kills =
          if (run.output.handleOutput event).streamOutputLimitExceeded = true ∧
            run.output.streamOutputLimitExceeded = false then 1 else 0 := by omega
      have stays : run.output.streamOutputLimitExceeded = true →
          (run.output.handleOutput event).streamOutputLimitExceeded = true := by
        intro exceeded
        rw [SandboxOutput.handleOutput_exceeded exceeded, exceeded]
      refine ⟨?_, ?_⟩
      · simpa [SandboxRun.onData, List.count_replicate] using faithful.kills.timeout
      · have limit := faithful.kills.limit
        simp only [SandboxRun.onData, List.count_append, List.count_replicate_self, limit, more]
        cases was : run.output.streamOutputLimitExceeded with
        | true => simp [stays was]
        | false => cases (run.output.handleOutput event).streamOutputLimitExceeded <;> rfl
    unclosed := by
      rw [exitsIn_concat]
      simpa [SandboxRun.onData, SandboxEvent.exitCode?] using faithful.unclosed
    unkilled := faithful.unkilled
    closing := by
      intro own computed
      have computed' : run.closing = some own := computed
      simp [uncomputed] at computed'
    links := by
      -- What has been published stays published.
      obtain ⟨more, grown⟩ := SandboxOutput.handleOutput_published run.output event
      have links := faithful.links
      show run.settledLinks ≤ (run.output.handleOutput event).published.length
      rw [grown, List.length_append]
      omega
    resolved := fun given settled => absurd settled (unresolved given)
    unspawned := faithful.unspawned }

/-- The child closes without a `close` listener. -/
theorem Faithful.unheard (faithful : run.Faithful trace) (isOpen : run.childOpen = true)
    (exitCode : Option Int) : ({ run with childClosed := true } : SandboxRun).Faithful
      (trace ++ [.close exitCode]) := by
  obtain ⟨_, uncomputed, _, issued, spawned⟩ := faithful.open_cases isOpen
  -- No handler listens yet, so the event only ends the child.
  exact {
    inOrder := faithful.inOrder.later (Nat.le_refl _) rfl rfl rfl (fun _ armed => armed) id rfl
    output := by
      rw [printedIn_concat]
      simpa [SandboxEvent.data?] using faithful.output
    timedOut := by
      rw [timesOut_concat]
      simpa using faithful.timedOut
    fired := faithful.fired
    kills := faithful.kills
    unclosed := by simp
    unkilled := faithful.unkilled
    closing := by
      intro own computed
      have computed' : run.closing = some own := computed
      simp [uncomputed] at computed'
    links := faithful.links
    resolved := faithful.resolved
    unspawned := fun waits => absurd (spawned.symm.trans waits) (by simp) }

/-- The `close` listener clears the timer and computes what it will resolve with. -/
theorem Faithful.onClose (faithful : run.Faithful trace) (isOpen : run.childOpen = true)
    {issued : Instant} (spawned : run.spawnIssuedAt = some issued) (exitCode : Option Int) :
    ({ run.onClose issued exitCode with childClosed := true } : SandboxRun).Faithful
      (trace ++ [.close exitCode]) := by
  obtain ⟨none, uncomputed, _, _, _⟩ := faithful.open_cases isOpen
  obtain ⟨unarmed, fired, unset⟩ := run.timer.clear_cases
  -- Nothing was computed before, so nothing is resolved yet.
  have unresolved : ∀ given, run.promise ≠ .resolved given := by
    intro given settled
    obtain ⟨own, computed, _⟩ := faithful.resolved given settled
    simp [uncomputed] at computed
  exact {
    inOrder := faithful.inOrder.later (Nat.le_refl _) rfl rfl rfl
      (fun due armed => absurd armed (unarmed due)) unset.mpr rfl
    output := by
      rw [printedIn_concat]
      simpa [SandboxRun.onClose, SandboxEvent.data?] using faithful.output
    timedOut := by
      rw [timesOut_concat]
      simpa [SandboxRun.onClose] using faithful.timedOut
    fired := faithful.fired.trans fired.symm
    kills := faithful.kills
    unclosed := by simp
    unkilled := by simp [SandboxRun.onClose]
    closing := by
      intro own computed
      obtain rfl := Option.some.inj computed
      exact {
        exits := by rw [exitsIn_concat, none]; rfl
        closed := rfl
        unarmed := unarmed
        -- The handler sets the flag by the exit code 137, unless the code has sent kills itself.
        oomKilled := by
          show (run.oomKilled || _) = true ↔ exitCode = some 137 ∧ run.kills = []
          rw [faithful.unkilled uncomputed, faithful.kills.eq_nil_iff]
          simp
        awaited := rfl
        phases := faithful.inOrder.phases spawned exitCode
        timeLimit := by
          intro timedOut
          rw [closingAt_executionTimeMs]
          exact le_roundMs (faithful.inOrder.timedOut timedOut) }
    links := faithful.links
    resolved := fun given settled => absurd settled (unresolved given)
    unspawned := fun waits => absurd (spawned.symm.trans waits) (by simp) }

/-- The `close` listener goes on. -/
theorem Faithful.resume (faithful : run.Faithful trace) {closing : Closing}
    (computed : run.closing = some closing) (awaited : closing.awaited ≤ run.settledLinks) :
    ({ run with promise := run.promise.settle (.resolved (run.resolution closing)) } :
      SandboxRun).Faithful (trace ++ [.resume]) := by
  -- The queue has not grown since the child closed.
  refine faithful.aside
    (faithful.inOrder.later (Nat.le_refl _) rfl rfl rfl (fun _ armed => armed) id rfl) rfl rfl
    (by simp) rfl rfl (fun _ _ _ armed => armed) .rfl rfl rfl rfl rfl faithful.links ?_ id
  intro given settled
  rcases SandboxPromise.settle_resolved settled with was | ⟨_, now⟩
  · exact faithful.resolved given was
  · have all := (faithful.closing closing computed).awaited
    have links := faithful.links
    exact ⟨closing, computed, (SandboxPromise.resolved.inj now).symm, Nat.le_antisymm links (all ▸ awaited)⟩

/-- Every event keeps the variables faithful. -/
theorem Faithful.step (faithful : run.Faithful trace)
    (stepped : runInSandbox.step run event = some next) : next.Faithful (trace ++ [event]) := by
  -- Each event has its own listener, behind the guard of the step.
  simp only [runInSandbox] at stepped
  cases event with
  | clock now =>
    simp only [SandboxRun.step, Option.ite_none_right_eq_some] at stepped
    obtain ⟨later, same⟩ := stepped
    obtain rfl := Option.some.inj same
    exact faithful.clock later
  | spawn outcome =>
    simp only [SandboxRun.step, Option.ite_none_right_eq_some] at stepped
    obtain ⟨waits, same⟩ := stepped
    obtain rfl := Option.some.inj same
    exact faithful.spawn waits outcome
  | data printed =>
    simp only [SandboxRun.step, Option.ite_none_right_eq_some] at stepped
    obtain ⟨isOpen, same⟩ := stepped
    obtain rfl := Option.some.inj same
    exact faithful.onData isOpen printed
  | timeout =>
    simp only [SandboxRun.step] at stepped
    split at stepped
    · next due armed =>
      simp only [Option.ite_none_right_eq_some] at stepped
      obtain ⟨passed, same⟩ := stepped
      obtain rfl := Option.some.inj same
      exact faithful.onTimeout armed passed
    · simp at stepped
  | error =>
    simp only [SandboxRun.step, Option.ite_none_right_eq_some] at stepped
    obtain ⟨_, same⟩ := stepped
    obtain rfl := Option.some.inj same
    exact faithful.onError
  | close exitCode =>
    simp only [SandboxRun.step, Option.ite_none_right_eq_some] at stepped
    obtain ⟨isOpen, heard⟩ := stepped
    split at heard
    · next issued spawned _ =>
      obtain rfl := Option.some.inj heard
      exact faithful.onClose isOpen spawned exitCode
    · obtain rfl := Option.some.inj heard
      exact faithful.unheard isOpen exitCode
  | link =>
    simp only [SandboxRun.step, Option.ite_none_right_eq_some] at stepped
    obtain ⟨left, same⟩ := stepped
    obtain rfl := Option.some.inj same
    exact faithful.link left
  | resume =>
    simp only [SandboxRun.step] at stepped
    split at stepped
    · next closing computed =>
      simp only [Option.ite_none_right_eq_some] at stepped
      obtain ⟨awaited, same⟩ := stepped
      obtain rfl := Option.some.inj same
      exact faithful.resume computed awaited
    · simp at stepped

end SandboxRun

/-- The runs of one call that begins at some instant. -/
abbrev SandboxRuns (start : Instant) (trace : List SandboxEvent) (run : SandboxRun) : Prop :=
  runInSandbox.Runs (fun _ _ => True) (.start start) trace run

/-- A call is faithful after any events. -/
theorem SandboxRun.Faithful.reached {start : Instant} (runs : SandboxRuns start trace run) :
    run.Faithful trace :=
  runs.preserves_trace (fun trace run => run.Faithful trace) (.start start)
    fun _ _ _ _ _ faithful _ stepped => faithful.step stepped

/-- The limit counts as exceeded exactly where more than it has been printed. -/
theorem sandboxOutput_exceeded_iff (events : List OutputEvent) :
    (sandboxOutput events).streamOutputLimitExceeded = true ↔
      maxStreamOutputBytes < shownBytes events := by
  -- The events stay within the limit, or the first one beyond it ends the counting.
  rcases sandboxOutput_cases events with ⟨within, _, state⟩ | ⟨event, rest, split, _, less, state⟩
  · rw [state]
    exact ⟨fun exceeded => absurd exceeded (by simp [accepting]), fun more => by omega⟩
  · have more : maxStreamOutputBytes < shownBytes events := by
      rw [split, shownBytes_append, ← List.singleton_append, shownBytes_append, shownBytes_singleton]
      omega
    rw [state]
    exact ⟨fun _ => more, fun _ => rfl⟩

end CodeExecution

import CodeExecution.Proofs.Patrol

/-! How long a dead worker's jobs wait: a bound in milliseconds on the time until its list is empty. -/

namespace CodeExecution

variable {state next : Patrol} {label : TimedLabel} {period duration : Nat} {worker : WorkerId}
  {lockId : LockId}

/-! ## The guarantee -/

/--
The list of a worker that has died is empty within a time to live, a period and the time of a scan.

The worker may die at any point, other workers and gateways may fail and crash, and the keys are read
page by page; the monitor keeps its schedule, and its calls resolve.
-/
theorem dead_lists_cleared_in_time {trace later : List TimedLabel}
    (short : duration < reaperIntervalMs)
    (run : patrol.Runs (onPatrol period duration) .initial trace state)
    (crashed : state.services.workers worker = .crashed)
    (continued : patrol.Runs (onPatrol period duration) state later next)
    (late : state.current.now + heartbeatTtlMs + period + duration < next.current.now) :
    next.services.store.processing worker = [] := by
  obtain ⟨before, reached⟩ := run.tracked trackPatrol .initial
  have rounds := reached.preserves (fun tracked => OnRounds period duration tracked.1 tracked.2) .initial
    fun tracked label after rounds permitted stepped => by
      obtain ⟨moved, same⟩ := Machine.tracking_step.mp stepped
      rw [same]
      exact rounds.step short permitted moved
  -- From the death on the key, and then the scans behind its expiry, are followed.
  have awaited : Awaited state.current.now period worker state before := {
    crashed := crashed
    silent := fun _ => rounds.living worker
    swept := fun lockId behind => by
      by_cases idle : state.services.scans lockId = .idle
      · exact .inr (by simp [idle, ScanPoint.sweeps])
      · obtain ⟨last, isLatest, called⟩ := rounds.called lockId idle
        have past : last ≤ state.current.now := rounds.past last isLatest
        have called : state.started lockId ≤ last := called
        omega
    round := .inl (by
      cases isLatest : state.latest with
      | none => exact Nat.zero_le _
      | some last =>
        have past : last ≤ state.current.now := rounds.past last isLatest
        exact Nat.le_trans past (Nat.le_add_right _ _)) }
  obtain ⟨after, followed⟩ := continued.tracked trackPatrol before
  have both := followed.preserves (fun tracked => OnRounds period duration tracked.1 tracked.2 ∧
    Awaited state.current.now period worker tracked.1 tracked.2) ⟨rounds, awaited⟩
    fun tracked label after both permitted stepped => by
      obtain ⟨moved, same⟩ := Machine.tracking_step.mp stepped
      rw [same]
      exact ⟨both.1.step short permitted moved, both.2.step both.1 permitted moved⟩
  obtain ⟨rounds', awaited'⟩ := both
  rcases awaited'.round with early | ⟨lockId, wasCalled, behind, soon⟩
  · have due : next.current.now ≤ next.latest.getD 0 + period := rounds'.due
    have early : next.latest.getD 0 ≤ state.current.now + heartbeatTtlMs := early
    omega
  · -- The scan that was called in time is over by now.
    have ended : (next.services.scans lockId).ongoing ≠ true := by
      intro ongoing
      have brief : next.current.now ≤ next.started lockId + duration := rounds'.brief lockId ongoing
      have soon : next.started lockId ≤ state.current.now + heartbeatTtlMs + period := soon
      omega
    refine (awaited'.swept lockId behind).resolve_right fun sweeps => ?_
    cases at_ : next.services.scans lockId with
    | idle => exact wasCalled at_
    | finished => simp [at_, ScanPoint.sweeps] at sweeps
    | _ => simp [at_, ScanPoint.ongoing] at ended

/-- One worker, and one scan that is answered at once, keep this schedule. -/
def keepsRounds (state : Patrol) : TimedLabel → Bool
  | .elapse ms =>
    (!state.current.current.heartbeats "w" || state.current.now + ms ≤ state.current.expiry "w") &&
      state.current.now + ms ≤ state.latest.getD 0 + 15001 && !(state.services.scans "s").ongoing
  | .act (.platform label) =>
    match label with
    | .scanStart lockId => lockId = "s" && state.latest = none
    | .scan lockId outcome => lockId = "s" && outcome = .resolves
    | .worker worker _ => worker = "w"
    | .detect _ _ _ | .scanDies _ | .startupBegin | .startup _ | .startupSelect _ => false
    | _ => true
  | .act (.heartbeat worker _) => worker = "w"
  | .act (.heartbeatExpires _) => true
  | .act (.scanPage lockId found last) =>
    match state.current.current.loops lockId with
    | .queues none => found = [processingKey "w"] && last && state.services.store.processing "w" ≠ []
    | .heartbeats _ none => found = [] && !state.current.current.heartbeats "w"
    | _ => false

/-- Nobody else has a key, and no other scan has been called. -/
structure Lone (state : Patrol) : Prop where
  beats : ∀ worker, state.current.current.heartbeats worker = true → worker = "w"
  lists : ∀ worker, state.services.store.processing worker ≠ [] → worker = "w"
  scans : ∀ lockId, state.services.scans lockId ≠ .idle → lockId = "s"

/-- The pages of such a scan are answered as promised. -/
theorem Lone.answered (lone : Lone state) {found : List String} {last : Bool}
    (permitted : keepsRounds state (.act (.scanPage lockId found last)) = true) :
    scanGuarantee state.current.current (.scanPage lockId found last) := by
  simp only [keepsRounds] at permitted
  rw [scanGuarantee, Detection.iteration]
  -- The only list and the only key are those of the worker itself.
  split at permitted
  · next loops =>
    obtain ⟨⟨rfl, _⟩, filled⟩ : (found = [processingKey "w"] ∧ last = true) ∧
        state.services.store.processing "w" ≠ [] := by simpa using permitted
    rw [loops]
    refine ⟨fun key member => ?_, fun _ key member => ?_⟩
    · exact ⟨"w", filled, List.mem_singleton.mp member⟩
    · obtain ⟨worker, listed, rfl⟩ := member
      obtain rfl := lone.lists worker listed
      simp
  · next loops =>
    obtain ⟨rfl, silent⟩ : found = [] ∧ state.current.current.heartbeats "w" = false := by
      simpa using permitted
    rw [loops]
    refine ⟨by simp, fun _ key member => ?_⟩
    obtain ⟨worker, beats, rfl⟩ := member
    obtain rfl := lone.beats worker beats
    simp [silent] at beats
  · simp at permitted

/-- The schedule of one worker and one scan is a schedule of the monitor. -/
theorem Lone.onPatrol (lone : Lone state) (permitted : keepsRounds state label = true)
    (stepped : patrol.step state label = some next) : onPatrol 15001 0 state label ∧ Lone next := by
  cases label with
  | elapse ms =>
    obtain ⟨⟨prompt, due⟩, quiet⟩ : ((state.current.current.heartbeats "w" = false ∨
        state.current.now + ms ≤ state.current.expiry "w") ∧
        state.current.now + ms ≤ state.latest.getD 0 + 15001) ∧
        (state.services.scans "s").ongoing = false := by
      simpa [keepsRounds] using permitted
    -- Time passes only up to the next deadline.
    refine ⟨⟨fun worker beats => ?_, due, fun lockId ongoing => ?_⟩, ?_⟩
    · obtain rfl := lone.beats worker beats
      exact prompt.resolve_left (by simp [beats])
    · have isOwn := lone.scans lockId (by
        intro idle
        simp [idle, ScanPoint.ongoing] at ongoing)
      subst isOwn
      simp [quiet] at ongoing
    · cases Patrol.step_moved stepped with
      | elapses same =>
        subst same
        exact ⟨lone.beats, lone.lists, lone.scans⟩
  | act label =>
    cases Patrol.step_moved stepped with
    | @acts mid _ ripe acted current times =>
    -- The guard of each label implies its part of the schedule.
    have keeps : onPatrol 15001 0 state (.act label) := by
      cases label with
      | platform own =>
        cases own with
        | scanStart lockId =>
          obtain ⟨_, unused⟩ : lockId = "s" ∧ state.latest = none := by
            simpa [keepsRounds] using permitted
          intro last isLatest
          simp [unused] at isLatest
        | scan lockId outcome =>
          obtain ⟨_, resolves⟩ : lockId = "s" ∧ outcome = .resolves := by
            simpa [keepsRounds] using permitted
          exact resolves
        | scanDies _ | startupBegin | startup _ | startupSelect _ => simp [keepsRounds] at permitted
        | _ => trivial
      | heartbeat _ _ | heartbeatExpires _ => trivial
      | scanPage lockId found last => exact lone.answered permitted
    have moved := Detection.step_moved acted
    have detected : next.current.current = mid := by simp [current]
    have services : next.services = mid.platform := by simp [Patrol.services, detected]
    -- Only the one worker and the one scan have acted.
    refine ⟨keeps, fun worker beats => ?_, fun worker filled => ?_, fun lockId called => ?_⟩
    · rw [detected] at beats
      cases moved with
      | platform _ _ _ same => exact lone.beats worker (by rw [← same.1]; exact beats)
      | page _ kept | compares _ _ kept => exact lone.beats worker (by rw [← kept.1]; exact beats)
      | @expires owner _ silenced =>
        by_cases own : worker = owner
        · simp [silenced, own] at beats
        · exact lone.beats worker (by simpa [silenced, own] using beats)
      | @heartbeat owner outcome _ _ sent =>
        obtain rfl : owner = "w" := by simpa [keepsRounds] using permitted
        by_contra other
        by_cases applied : outcome.applied = true
        · exact other (lone.beats worker (by simpa [sent, applied, other] using beats))
        · exact other (lone.beats worker (by simpa [sent, applied] using beats))
    · rw [services] at filled
      obtain ⟨_, went, rfl⟩ := Option.map_eq_some_iff.mp acted
      rcases (Detection.act_cases went).1 worker filled with before | pops
      · exact lone.lists worker before
      · -- Only the one worker pops.
        unfold Detection.pops at pops
        split at pops
        · split at pops
          · next popper entry made =>
            obtain rfl : popper = worker := by simpa using pops
            obtain ⟨_, rfl, _⟩ := Platform.effect_pop made
            simpa [keepsRounds] using permitted
          · simp at pops
        all_goals simp at pops
    · rw [services] at called
      by_cases starts : label = .platform (.scanStart lockId)
      · subst starts
        obtain ⟨isOwn, _⟩ : lockId = "s" ∧ state.latest = none := by
          simpa [keepsRounds] using permitted
        exact isOwn
      · exact lone.scans lockId ((Patrol.scan_moved keeps moved lockId).was_called starts called)

/-- Labels of the platform, on the clock. -/
def onClock (labels : List Label) : List TimedLabel :=
  labels.map fun label => .act (.platform label)

/-- A worker takes up a job, and dies. -/
def dyingRun : List TimedLabel :=
  onClock (submission "job") ++ [.act (.heartbeat "w" .resolves)] ++
    onClock (takingUp "w" ++ [.workerCrash "w"])

/-- Its key expires, and the next scan finds its list. -/
def roundsRun : List TimedLabel :=
  [.elapse 15000, .act (.heartbeatExpires "w"), .elapse 1] ++
    onClock [.scanStart "s", .scan "s" .resolves] ++
    [.act (.scanPage "s" [processingKey "w"] true), .act (.scanPage "s" [] true)] ++
    onClock (scanCalls "s" 6) ++ [.elapse 15001]

/-- The guarantee for a worker that dies in its sandbox, where its job is requeued. -/
theorem dead_lists_cleared_in_time_example : ∃ state next : Patrol,
    patrol.Runs (onPatrol 15001 0) .initial dyingRun state ∧
    patrol.Runs (onPatrol 15001 0) state roundsRun next ∧
    state.services.store.processing "w" = [.payload (submittedPayload "job")] ∧
    next.services.store.pending = [.payload ((submittedPayload "job").withRetry 1)] ∧
    next.services.store.processing "w" = [] := by
  obtain ⟨state, run, shown⟩ := Machine.runs_of_guardedRun patrol
    (fun state label => keepsRounds state label = true) .initial dyingRun
    (fun state => (state.services.workers "w", state.current.now, state.services.store.processing "w",
      (patrol.guardedRun (fun state label => keepsRounds state label = true) state roundsRun).map
        fun next => (next.current.now, next.services.store.pending)))
    (.crashed, 0, [.payload (submittedPayload "job")],
      some (30002, [.payload ((submittedPayload "job").withRetry 1)])) rfl
  simp only [Prod.mk.injEq] at shown
  obtain ⟨crashed, early, listed, executed⟩ := shown
  obtain ⟨next, continued, ends⟩ := Machine.runs_of_guardedRun _ _ _ _ _ _ executed
  obtain ⟨late, requeued⟩ := Prod.mk.inj ends
  -- The schedule that is decided along the run is one of the monitor.
  have alone : Lone Patrol.initial := ⟨by simp [Patrol.initial, Timed.initial, Detection.initial],
    fun _ filled => absurd rfl filled, fun _ called => absurd rfl called⟩
  obtain ⟨toState, lone⟩ := run.reguard Lone alone fun _ _ _ lone permitted stepped =>
    lone.onPatrol permitted stepped
  obtain ⟨toNext, _⟩ := continued.reguard Lone lone fun _ _ _ lone permitted stepped =>
    lone.onPatrol permitted stepped
  refine ⟨state, next, toState, toNext, listed, requeued,
    dead_lists_cleared_in_time (by decide) toState crashed toNext ?_⟩
  rw [early, late]
  decide

end CodeExecution

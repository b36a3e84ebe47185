import CodeExecution.Guarantees.Draining
import CodeExecution.Guarantees.Timing
import CodeExecution.Services.Patrol

/-! The rounds of a monitor that keeps its schedule, and a dead worker under them. -/

namespace CodeExecution

variable {state next : Patrol} {label : TimedLabel} {history : History} {period duration : Nat}
  {worker : WorkerId} {lockId : LockId}

/-! ## What a step does to a scan -/

/-- How a step moves one scan of a monitor that keeps its schedule. -/
inductive Patrol.ScanMoved (state : Patrol) (mid : Detection) (lockId : LockId) : DetectionLabel → Prop
  | stays {label : DetectionLabel} (same : mid.platform.scans lockId = state.services.scans lockId)
      (uncalled : ∀ outcome, label ≠ .platform (.scan lockId outcome))
      (unstarted : label ≠ .platform (.scanStart lockId)) : ScanMoved state mid lockId label
  | starts (idle : state.services.scans lockId = .idle) (acquires : mid.platform.scans lockId = .acquire) :
      ScanMoved state mid lockId (.platform (.scanStart lockId))
  | calls {outcome : CallOutcome}
      (resolved : (state.services.scans lockId).resolve lockId state.services.store =
        some (mid.platform.scans lockId, mid.platform.store)) :
      ScanMoved state mid lockId (.platform (.scan lockId outcome))
  /-- The two sets are compared behind the last page. -/
  | compares {found keys : List String} (detecting : state.services.scans lockId = .detect)
      (looped : (state.current.current.loops lockId).queueKeys? = some keys)
      (compared : mid.platform.scans lockId = .recoverAll
        (deadWorkerIds (keys.map extractWorkerIdFromQueue)
          (((state.current.current.iteration lockId).add found).found.map extractWorkerIdFromHeartbeat))) :
      ScanMoved state mid lockId (.scanPage lockId found true)

/-- Nothing else happens to a scan. -/
theorem Patrol.scan_moved {mid : Detection} {label : DetectionLabel}
    (permitted : onPatrol period duration state (.act label))
    (moved : Detection.Moved state.current.current mid label) (lockId : LockId) :
    ScanMoved state mid lockId label := by
  -- Heartbeats and pages short of the last one move no scan.
  cases moved with
  | heartbeat _ same | expires same | page same => exact .stays (by rw [same]) (by simp) (by simp)
  | @compares own found keys looped stepped =>
    rcases Platform.step_scan stepped lockId with ⟨same, _⟩ | ⟨other, _⟩ | ⟨_, _, other, _⟩ |
      ⟨_, _, isLabel, detecting, moved⟩ | ⟨other, _⟩
    · exact .stays same (by simp) (by simp)
    · simp at other
    · simp at other
    · obtain ⟨rfl, rfl, rfl⟩ := Label.detect.inj isLabel
      exact .compares detecting looped (by simp [moved])
    · simp at other
  | @platform own stepped undetected =>
    by_cases starts : own = .scanStart lockId
    · subst starts
      generalize isNext : mid.platform = later at stepped
      cases Platform.step_cases stepped with
      | scanStart idle => exact .starts idle (by simp [isNext])
    rcases Platform.step_scan stepped lockId with ⟨same, uncalled⟩ | ⟨other, _⟩ |
      ⟨outcome, after, rfl, went, moved⟩ | ⟨_, _, rfl, _⟩ | ⟨rfl, _⟩
    · exact .stays same (by simpa using uncalled) (by simpa using starts)
    · exact absurd other starts
    · obtain rfl : outcome = .resolves := permitted
      have same : after = (mid.platform.scans lockId, mid.platform.store) := by simp [moved]
      rw [same] at went
      exact .calls went
    · exact absurd rfl (undetected lockId _ _)
    · exact permitted.elim

/-- What a step leaves of the clock, and of the times at which scans were called. -/
inductive Patrol.Moved (state next : Patrol) : TimedLabel → Prop
  | elapses {ms : Nat}
      (same : next = { state with current := { state.current with now := state.current.now + ms } }) :
      Moved state next (.elapse ms)
  | acts {mid : Detection} {label : DetectionLabel} (ripe : state.current.ripe label = true)
      (acted : detection.step state.current.current label = some mid)
      (current : next.current = state.current.record mid label)
      (times : (∃ lockId, label = .platform (.scanStart lockId) ∧
          next.started = Function.update state.started lockId state.current.now ∧
          next.latest = some state.current.now) ∨
        ((∀ lockId, label ≠ .platform (.scanStart lockId)) ∧ next.started = state.started ∧
          next.latest = state.latest)) :
      Moved state next (.act label)

/-- Nothing else comes of a step. -/
theorem Patrol.step_moved (stepped : patrol.step state label = some next) : Moved state next label := by
  obtain ⟨after, went, rfl⟩ := Option.map_eq_some_iff.mp stepped
  cases label with
  | elapse ms =>
    obtain rfl := Option.some.inj went
    exact .elapses rfl
  | act label =>
    simp only [timed, Timed.step] at went
    split at went
    swap
    · simp at went
    next ripe =>
    obtain ⟨mid, acted, rfl⟩ := Option.map_eq_some_iff.mp went
    -- The call of a scan is the one label that is written down.
    by_cases starts : ∃ lockId, label = .platform (.scanStart lockId)
    · obtain ⟨lockId, rfl⟩ := starts
      exact .acts ripe acted rfl (.inl ⟨lockId, rfl, rfl, rfl⟩)
    · have other : ∀ lockId, label ≠ .platform (.scanStart lockId) := fun lockId same =>
        starts ⟨lockId, same⟩
      split
      · next lockId same => exact absurd (TimedLabel.act.inj same) (other lockId)
      · exact .acts ripe acted rfl (.inr ⟨other, rfl, rfl⟩)

/-- Loops have begun by the end of a step if they had, or if it was their first page. -/
theorem Detection.step_begun {state next : Detection} {label : DetectionLabel}
    (stepped : detection.step state label = some next) (lockId : LockId) :
    (next.loops lockId).begun = state.looping lockId label := by
  obtain ⟨mid, acted, rfl⟩ := Option.map_eq_some_iff.mp stepped
  have watched (queues beats : Set String) (loops : ScanLoops) :
      (loops.watch queues beats).begun = loops.begun := by
    cases loops with
    | queues iteration => cases iteration <;> rfl
    | heartbeats _ _ => rfl
  have paged (queues beats : Set String) (found : List String) (last : Bool) (loops : ScanLoops) :
      (loops.page queues beats found last).begun = true := by
    cases loops <;> cases last <;> rfl
  have reads : (mid.watch.loops lockId).begun = (mid.loops lockId).begun := watched _ _ _
  rw [reads]
  obtain ⟨_, same | ⟨own, found, last, rfl, same⟩⟩ := Detection.act_cases acted
  · rw [same]
    -- A page always moves the loops that it belongs to.
    cases label with
    | scanPage own found last =>
      by_cases isOwn : own = lockId
      · subst isOwn
        simp only [act] at acted
        split at acted
        · split at acted
          · obtain ⟨_, _, rfl⟩ := Option.map_eq_some_iff.mp acted
            rw [← same]
            simp [withPage, paged, looping]
          · obtain rfl := Option.some.inj acted
            rw [← same]
            simp [withPage, paged, looping]
        · simp at acted
      · simp [looping, isOwn]
    | platform _ | heartbeat _ _ | heartbeatExpires _ => rfl
  · rw [same]
    by_cases isOwn : own = lockId
    · subst isOwn
      simp [withPage, paged, looping]
    · simp [withPage, looping, isOwn, Ne.symm isOwn]

/-- Pages are for scans that are detecting. -/
theorem Detection.step_paging {state next : Detection} {found : List String} {last : Bool}
    (stepped : detection.step state (.scanPage lockId found last) = some next) :
    state.platform.scans lockId = .detect := by
  obtain ⟨mid, acted, _⟩ := Option.map_eq_some_iff.mp stepped
  simp only [act] at acted
  split at acted
  · assumption
  · simp at acted

/-- A scan that has been called does not go back to its beginning. -/
theorem ScanPoint.Resolved.onward {store after : Store} {point next : ScanPoint}
    (resolved : ScanPoint.Resolved lockId store point next after) :
    next ≠ .idle ∧ next ≠ .acquire := by
  -- The last dead worker is followed by the release.
  cases resolved with
  | acquires | yields | rollback | release => simp
  | @recover _ _ rest following _ replied =>
    rcases following with _ | following
    · cases rest <;> simp [ScanPoint.recoverNext, ScanPoint.recoverAll]
    · simp [ScanPoint.recoverNext]

/-- The loop over the dead workers is a critical section. -/
theorem ScanPoint.recoverAll_critical (dead : List WorkerId) :
    (ScanPoint.recoverAll dead).critical = true := by
  cases dead <;> rfl

/-! ## The rounds of the monitor -/

/-- The history that the loops of the scans refer to. -/
def trackPatrol (state : Patrol) (label : TimedLabel) (history : History) : History :=
  trackTimed state.current label history

/-- What the schedule keeps true of the scans and of the keys. -/
structure OnRounds (period duration : Nat) (state : Patrol) (history : History) : Prop where
  watched : Monitored state.current.current history
  /-- Loops that have not begun have nothing against anybody. -/
  fresh : ∀ lockId, (state.current.current.loops lockId).begun = false →
    ∀ worker, history.deserted lockId worker = true
  unbegun : ∀ lockId, state.services.scans lockId = .idle ∨ state.services.scans lockId = .acquire →
    (state.current.current.loops lockId).begun = false
  /-- The lock is held by a scan that is at work, or free. -/
  held : ∀ owner, state.services.store.reaperLock = some owner →
    (state.services.scans owner).critical = true
  alone : ∀ one two, (state.services.scans one).ongoing = true →
    (state.services.scans two).ongoing = true → one = two
  called : ∀ lockId, state.services.scans lockId ≠ .idle →
    ∃ last, state.latest = some last ∧ state.started lockId ≤ last
  brief : ∀ lockId, (state.services.scans lockId).ongoing = true →
    state.current.now ≤ state.started lockId + duration
  routine : ∀ lockId, (state.services.scans lockId).routine = true
  past : ∀ last, state.latest = some last → last ≤ state.current.now
  due : state.current.now ≤ state.latest.getD 0 + period
  /-- A key that is there has not outlived its time. -/
  prompt : ∀ worker, state.current.current.heartbeats worker = true →
    state.current.now ≤ state.current.expiry worker
  living : ∀ worker, state.current.expiry worker ≤ state.current.now + heartbeatTtlMs

/-- A scan that is at work has been called. -/
theorem ScanPoint.ongoing_of_critical {point : ScanPoint} (critical : point.critical = true) :
    point.ongoing = true := by
  cases point <;> first | rfl | simp [ScanPoint.critical] at critical

/-- As long as its scan is at work, a lock is held by it. -/
theorem Patrol.ScanMoved.critical {mid : Detection} {label : DetectionLabel}
    (moved : ScanMoved state mid lockId label) (was : (state.services.scans lockId).critical = true)
    (locked : mid.platform.store.reaperLock = some lockId) :
    (mid.platform.scans lockId).critical = true := by
  cases moved with
  | stays same => rw [same]; exact was
  | starts idle => simp [idle, ScanPoint.critical] at was
  | compares _ _ compared => rw [compared]; exact ScanPoint.recoverAll_critical _
  | calls resolved =>
    generalize state.services.scans lockId = point at was resolved
    generalize mid.platform.scans lockId = reached at resolved ⊢
    generalize mid.platform.store = store at resolved locked
    cases ScanPoint.resolve_cases resolved with
    | acquires | yields => simp [ScanPoint.critical] at was
    | rollback => rfl
    | @recover _ _ rest following =>
      rcases following with _ | following
      · exact ScanPoint.recoverAll_critical rest
      · rfl
    | release =>
      -- The release of the lock's own scan leaves it free.
      simp only [Store.releaseLock] at locked
      split at locked
      · simp at locked
      · next others => exact absurd locked others

/-- A scan that has returned, or has not been called, is not called by other steps. -/
theorem Patrol.ScanMoved.ongoing {mid : Detection} {label : DetectionLabel}
    (moved : ScanMoved state mid lockId label)
    (unstarted : label ≠ .platform (.scanStart lockId))
    (ongoing : (mid.platform.scans lockId).ongoing = true) :
    (state.services.scans lockId).ongoing = true := by
  -- Every call is made by a scan that was at work before it.
  cases moved with
  | stays same => rw [← same]; exact ongoing
  | starts => exact absurd rfl unstarted
  | compares detecting => simp [detecting, ScanPoint.ongoing]
  | calls resolved =>
    generalize state.services.scans lockId = point at resolved ⊢
    generalize mid.platform.scans lockId = reached at resolved
    generalize mid.platform.store = store at resolved
    cases ScanPoint.resolve_cases resolved <;> rfl

/-- A scan that has been called stays so. -/
theorem Patrol.ScanMoved.called {mid : Detection} {label : DetectionLabel}
    (moved : ScanMoved state mid lockId label) (was : state.services.scans lockId ≠ .idle) :
    mid.platform.scans lockId ≠ .idle := by
  -- Nothing leads back to a scan that has not been called.
  cases moved with
  | stays same => rw [same]; exact was
  | starts _ acquires => simp [acquires]
  | compares _ _ compared =>
    have critical : (mid.platform.scans lockId).critical = true := by
      rw [compared]
      exact ScanPoint.recoverAll_critical _
    intro idle
    simp [idle, ScanPoint.critical] at critical
  | calls resolved => exact (ScanPoint.resolve_cases resolved).onward.1

/-- A scan is called by its own label alone. -/
theorem Patrol.ScanMoved.was_called {mid : Detection} {label : DetectionLabel}
    (moved : ScanMoved state mid lockId label) (unstarted : label ≠ .platform (.scanStart lockId))
    (called : mid.platform.scans lockId ≠ .idle) : state.services.scans lockId ≠ .idle := by
  -- All moves but the start are of a scan that goes on.
  cases moved with
  | stays same => rw [← same]; exact called
  | starts => exact absurd rfl unstarted
  | compares detecting => simp [detecting]
  | calls resolved =>
    intro idle
    simp [idle, ScanPoint.resolve] at resolved

/-- A step of the platform other than these moves no lock. -/
theorem Detection.Moved.lock_cases {state mid : Detection} {label : DetectionLabel}
    (moved : Moved state mid label) :
    mid.platform.store.reaperLock = state.platform.store.reaperLock ∨
    mid.platform.store.reaperLock = none ∨
    ∃ lockId outcome, label = .platform (.scan lockId outcome) ∧
      state.platform.scans lockId = .acquire ∧ mid.platform.store.reaperLock = some lockId := by
  -- A lock is taken by a scan that acquires it, and is free once released or expired.
  have ofStep {own : Label} (stepped : state.platform.step own = some mid.platform) :
      mid.platform.store.reaperLock = state.platform.store.reaperLock ∨
      mid.platform.store.reaperLock = none ∨
      ∃ lockId outcome, own = .scan lockId outcome ∧
        state.platform.scans lockId = .acquire ∧ mid.platform.store.reaperLock = some lockId := by
    rcases Platform.step_lock stepped with
      same | rfl | ⟨lockId, outcome, isLabel, ⟨at_, _, taken⟩ | ⟨_, _, freed⟩⟩
    · exact .inl same
    · generalize mid.platform = later at stepped ⊢
      cases Platform.step_cases stepped
      exact .inr (.inl rfl)
    · exact .inr (.inr ⟨lockId, outcome, isLabel, at_, taken⟩)
    · exact .inr (.inl freed)
  cases moved with
  | heartbeat _ same | expires same | page same => exact .inl (by rw [same])
  | compares _ stepped =>
    rcases ofStep stepped with same | freed | ⟨_, _, other, _⟩
    · exact .inl same
    · exact .inr (.inl freed)
    · simp at other
  | platform stepped =>
    rcases ofStep stepped with same | freed | ⟨lockId, outcome, rfl, acquires⟩
    · exact .inl same
    · exact .inr (.inl freed)
    · exact .inr (.inr ⟨lockId, outcome, rfl, acquires⟩)

/-- A heartbeat lives for its full time from when it is sent, and other steps renew none. -/
theorem OnRounds.keys_act (rounds : OnRounds period duration state history) {label : DetectionLabel}
    {mid : Detection} (acted : detection.step state.current.current label = some mid)
    (current : next.current = state.current.record mid label) :
    (∀ worker, next.current.current.heartbeats worker = true →
      next.current.now ≤ next.current.expiry worker) ∧
    ∀ worker, next.current.expiry worker ≤ next.current.now + heartbeatTtlMs := by
  have now : next.current.now = state.current.now := by simp [current]
  have detected : next.current.current = mid := by simp [current]
  rw [now, detected]
  have quiet (same : next.current.expiry = state.current.expiry)
      (kept : ∀ worker, mid.heartbeats worker = true → state.current.current.heartbeats worker = true) :
      (∀ worker, mid.heartbeats worker = true → state.current.now ≤ next.current.expiry worker) ∧
        ∀ worker, next.current.expiry worker ≤ state.current.now + heartbeatTtlMs := by
    rw [same]
    exact ⟨fun worker beats => rounds.prompt worker (kept worker beats), rounds.living⟩
  have unsent (other : ∀ worker outcome, label ≠ .heartbeat worker outcome) :
      next.current.expiry = state.current.expiry := by
    rw [current]
    exact (state.current.record_heartbeats mid other).2.1
  cases Detection.step_moved acted with
  | platform _ _ _ same => exact quiet (unsent (by simp)) fun worker => by simp [same.1]
  | page _ kept | compares _ _ kept => exact quiet (unsent (by simp)) fun worker => by simp [kept.1]
  | @expires owner _ silenced =>
    refine quiet (unsent (by simp)) fun worker beats => ?_
    by_cases own : worker = owner
    · simp [silenced, own] at beats
    · simpa [silenced, own] using beats
  | @heartbeat owner outcome _ _ sent =>
    by_cases applied : outcome.applied = true
    · have expiry : next.current.expiry =
          Function.update state.current.expiry owner (state.current.now + heartbeatTtlMs) := by
        simp [current, Timed.record, applied]
      rw [expiry]
      constructor
      · intro worker beats
        by_cases own : worker = owner
        · simp [own]
        · rw [Function.update_of_ne own]
          exact rounds.prompt worker (by simpa [sent, applied, own] using beats)
      · intro worker
        by_cases own : worker = owner
        · simp [own]
        · rw [Function.update_of_ne own]
          exact rounds.living worker
    · -- A call that has not reached Redis renews nothing.
      refine quiet (by simp [current, Timed.record, applied]) fun worker beats => ?_
      simpa [sent, applied] using beats

/-- Loops that have not begun by now have still nothing against anybody. -/
theorem OnRounds.fresh_act (rounds : OnRounds period duration state history) {label : DetectionLabel}
    {mid : Detection} (acted : detection.step state.current.current label = some mid)
    (unbegun : (mid.loops lockId).begun = false) (worker : WorkerId) :
    (history.track state.current.current label).deserted lockId worker = true := by
  rw [Detection.step_begun acted] at unbegun
  -- Loops are begun by their first page, and never forgotten.
  have before : (state.current.current.loops lockId).begun = false := by
    unfold Detection.looping at unbegun
    split at unbegun
    · exact (Bool.or_eq_false_iff.mp unbegun).2
    all_goals exact unbegun
  simp [History.track, unbegun, rounds.fresh lockId before worker]

/-- The interval fires only after the scan before it is over. -/
theorem OnRounds.quiet (rounds : OnRounds period duration state history)
    (short : duration < reaperIntervalMs)
    (permitted : onPatrol period duration state (.act (.platform (.scanStart lockId)))) (other : LockId) :
    (state.services.scans other).ongoing = false := by
  by_contra running
  have running : (state.services.scans other).ongoing = true := by simpa using running
  have wasCalled : state.services.scans other ≠ .idle := by
    intro idle
    simp [idle, ScanPoint.ongoing] at running
  obtain ⟨last, isLatest, before⟩ := rounds.called other wasCalled
  -- It was called an interval ago at least, and takes less than that.
  have early : state.current.now ≤ state.started other + duration := rounds.brief other running
  have late : last + reaperIntervalMs ≤ state.current.now := permitted last isLatest
  omega

section Act

variable {label : DetectionLabel} {mid : Detection} (rounds : OnRounds period duration state history)
  (permitted : onPatrol period duration state (.act label))
  (acted : detection.step state.current.current label = some mid)

include rounds permitted acted

/-- A scan that is not detecting yet has no pages. -/
theorem OnRounds.unbegun_act
    (early : mid.platform.scans lockId = .idle ∨ mid.platform.scans lockId = .acquire) :
    (mid.loops lockId).begun = false := by
  rw [Detection.step_begun acted]
  have quiet (was : state.services.scans lockId = .idle ∨ state.services.scans lockId = .acquire) :
      state.current.current.looping lockId label = false := by
    have unbegun := rounds.unbegun lockId was
    cases label with
    | scanPage own found last =>
      -- The page is another scan's, since this one asks for none.
      have other : own ≠ lockId := by
        rintro rfl
        have detecting := Detection.step_paging acted
        simp [Patrol.services, detecting] at was
      simp [Detection.looping, unbegun, other]
    | platform _ | heartbeat _ _ | heartbeatExpires _ => exact unbegun
  -- No step leads back to the beginning of a scan.
  cases Patrol.scan_moved permitted (Detection.step_moved acted) lockId with
  | stays same => exact quiet (same ▸ early)
  | starts idle => exact quiet (.inl idle)
  | calls resolved =>
    obtain ⟨notIdle, notAcquire⟩ := (ScanPoint.resolve_cases resolved).onward
    rcases early with idle | acquires
    · exact absurd idle notIdle
    · exact absurd acquires notAcquire
  | compares _ _ compared =>
    have critical := ScanPoint.recoverAll_critical
    rw [compared] at early
    rcases early with same | same
    all_goals
      have impossible := same ▸ critical _
      simp [ScanPoint.critical] at impossible

/-- Whoever holds the lock by now is at work. -/
theorem OnRounds.held_act {owner : LockId} (locked : mid.platform.store.reaperLock = some owner) :
    (mid.platform.scans owner).critical = true := by
  have moved := Detection.step_moved acted
  have scan := Patrol.scan_moved permitted moved
  rcases moved.lock_cases with same | freed | ⟨lockId, outcome, rfl, acquires, taken⟩
  · exact (scan owner).critical (rounds.held owner (same ▸ locked)) locked
  · simp [freed] at locked
  · -- The lock has just been taken, so its scan goes on to detect.
    obtain rfl : lockId = owner := Option.some.inj (taken.symm.trans locked)
    cases scan lockId with
    | stays _ uncalled => exact absurd rfl (uncalled outcome)
    | calls resolved =>
      have at_ : state.services.scans lockId = .acquire := acquires
      rw [at_] at resolved
      generalize mid.platform.scans lockId = reached at resolved ⊢
      generalize mid.platform.store = store at resolved locked
      cases ScanPoint.resolve_cases resolved with
      | acquires => rfl
      | yields =>
        have critical := rounds.held lockId locked
        simp [at_, ScanPoint.critical] at critical

/-- One scan is at work at a time. -/
theorem OnRounds.alone_act (short : duration < reaperIntervalMs) {one two : LockId}
    (first : (mid.platform.scans one).ongoing = true)
    (second : (mid.platform.scans two).ongoing = true) : one = two := by
  have scan := Patrol.scan_moved permitted (Detection.step_moved acted)
  by_cases starts : ∃ lockId, label = .platform (.scanStart lockId)
  · obtain ⟨lockId, rfl⟩ := starts
    -- All the scans before the new one have returned.
    have isNew {scanned : LockId} (ongoing : (mid.platform.scans scanned).ongoing = true) :
        scanned = lockId := by
      by_contra different
      have was := (scan scanned).ongoing (by simpa using Ne.symm different) ongoing
      simp [rounds.quiet short permitted scanned] at was
    rw [isNew first, isNew second]
  · have other (lockId : LockId) : label ≠ .platform (.scanStart lockId) := fun same =>
      starts ⟨lockId, same⟩
    exact rounds.alone one two ((scan one).ongoing (other one) first)
      ((scan two).ongoing (other two) second)

-- The call of a scan is written down, and no other step is.
variable (times : (∃ lockId, label = .platform (.scanStart lockId) ∧
    next.started = Function.update state.started lockId state.current.now ∧
    next.latest = some state.current.now) ∨
  ((∀ lockId, label ≠ .platform (.scanStart lockId)) ∧ next.started = state.started ∧
    next.latest = state.latest))

include times

/-- Every scan has been called by the time of the latest one. -/
theorem OnRounds.called_act (wasCalled : mid.platform.scans lockId ≠ .idle) :
    ∃ last, next.latest = some last ∧ next.started lockId ≤ last := by
  have scan := Patrol.scan_moved permitted (Detection.step_moved acted) lockId
  rcases times with ⟨own, rfl, started, latest⟩ | ⟨other, started, latest⟩
  · refine ⟨state.current.now, latest, ?_⟩
    -- The new scan was called now, and the others no later.
    by_cases isOwn : lockId = own
    · subst isOwn
      simp [started]
    · obtain ⟨last, isLatest, before⟩ :=
        rounds.called lockId (scan.was_called (by simpa using Ne.symm isOwn) wasCalled)
      have past : last ≤ state.current.now := rounds.past last isLatest
      rw [started, Function.update_of_ne isOwn]
      omega
  · rw [started, latest]
    exact rounds.called lockId (scan.was_called (other lockId) wasCalled)

/-- A scan that is at work was called just now, or is still within its time. -/
theorem OnRounds.brief_act (ongoing : (mid.platform.scans lockId).ongoing = true) :
    state.current.now ≤ next.started lockId + duration := by
  have scan := Patrol.scan_moved permitted (Detection.step_moved acted) lockId
  -- Only the call of the scan itself writes its instant.
  rcases times with ⟨own, rfl, started, _⟩ | ⟨other, started, _⟩
  · by_cases isOwn : lockId = own
    · subst isOwn
      simp [started]
    · rw [started, Function.update_of_ne isOwn]
      exact rounds.brief lockId (scan.ongoing (by simpa using Ne.symm isOwn) ongoing)
  · rw [started]
    exact rounds.brief lockId (scan.ongoing (other lockId) ongoing)

/-- The rounds go on by every step of the schedule. -/
theorem OnRounds.act (short : duration < reaperIntervalMs)
    (current : next.current = state.current.record mid label) :
    OnRounds period duration next (history.track state.current.current label) := by
  have scan := Patrol.scan_moved permitted (Detection.step_moved acted)
  have detected : next.current.current = mid := by simp [current]
  have now : next.current.now = state.current.now := by simp [current]
  have services : next.services = mid.platform := by simp [Patrol.services, detected]
  -- The schedule permits only pages that Redis can reply with.
  have promised : scanGuarantee state.current.current label := by
    cases label with
    | scanPage _ _ _ => exact permitted
    | platform _ | heartbeat _ _ | heartbeatExpires _ => trivial
  -- The parts are proved one by one above.
  refine {
    watched := by rw [detected]; exact rounds.watched.step promised acted
    fresh := fun lockId unbegun => rounds.fresh_act acted (detected ▸ unbegun)
    unbegun := fun lockId early => ?_
    held := fun owner locked => ?_
    alone := fun one two first second => ?_
    called := fun lockId wasCalled => ?_
    brief := fun lockId ongoing => ?_
    routine := fun lockId => ?_
    past := fun last isLast => ?_
    due := ?_
    prompt := (rounds.keys_act acted current).1
    living := (rounds.keys_act acted current).2 }
  · rw [services] at early
    rw [detected]
    exact rounds.unbegun_act permitted acted early
  · rw [services] at locked ⊢
    exact rounds.held_act permitted acted locked
  · rw [services] at first second
    exact rounds.alone_act permitted acted short first second
  · rw [services] at wasCalled
    exact rounds.called_act permitted acted times wasCalled
  · rw [services] at ongoing
    rw [now]
    exact rounds.brief_act permitted acted times ongoing
  · rw [services]
    cases scan lockId with
    | stays same => rw [same]; exact rounds.routine lockId
    | starts _ acquires => rw [acquires]; rfl
    | calls resolved => exact ScanPoint.routine_resolve resolved
    | compares _ _ compared => rw [compared]; exact ScanPoint.recoverAll_routine _
  · rw [now]
    rcases times with ⟨_, _, _, latest⟩ | ⟨_, _, latest⟩
    · obtain rfl : state.current.now = last := Option.some.inj (latest.symm.trans isLast)
      exact Nat.le_refl _
    · exact rounds.past last (latest ▸ isLast)
  · rw [now]
    rcases times with ⟨_, _, _, latest⟩ | ⟨_, _, latest⟩
    · simp [latest]
    · rw [latest]
      exact rounds.due

end Act

/-- Time passes within the rounds. -/
theorem OnRounds.step (rounds : OnRounds period duration state history)
    (short : duration < reaperIntervalMs) (permitted : onPatrol period duration state label)
    (stepped : patrol.step state label = some next) :
    OnRounds period duration next (trackPatrol state label history) := by
  cases Patrol.step_moved stepped with
  | acts ripe acted current times => exact rounds.act permitted acted times short current
  | elapses same =>
    subst same
    obtain ⟨prompt, due, brief⟩ := permitted
    -- Time that passes moves nothing but the clock.
    exact {
      watched := rounds.watched
      fresh := rounds.fresh
      unbegun := rounds.unbegun
      held := rounds.held
      alone := rounds.alone
      called := rounds.called
      brief := brief
      routine := rounds.routine
      past := fun last isLast => Nat.le_trans (rounds.past last isLast) (Nat.le_add_right _ _)
      due := due
      prompt := prompt
      living := fun worker => by
        have living := rounds.living worker
        show state.current.expiry worker ≤ _
        dsimp only
        omega }

/-- The monitor begins its rounds with nothing called. -/
theorem OnRounds.initial : OnRounds period duration .initial .initial where
  watched := .initial
  fresh := fun _ _ _ => rfl
  unbegun := fun _ _ => rfl
  -- No scan is at work, no key is held and no instant has passed.
  held := by simp [Patrol.initial, Timed.initial, Detection.initial, Platform.initial, Store.empty]
  alone := fun _ _ ongoing => by
    simp [Patrol.initial, Timed.initial, Detection.initial, Platform.initial, ScanPoint.ongoing] at ongoing
  called := fun _ called => absurd rfl called
  brief := fun _ ongoing => by
    simp [Patrol.initial, Timed.initial, Detection.initial, Platform.initial, ScanPoint.ongoing] at ongoing
  routine := fun _ => rfl
  past := by simp [Patrol.initial]
  due := Nat.zero_le _
  prompt := by simp [Patrol.initial, Timed.initial, Detection.initial]
  living := fun _ => Nat.zero_le _

/-- The scans before this one are over, and have given up the lock. -/
theorem OnRounds.acquirable (rounds : OnRounds period duration state history)
    (acquires : state.services.scans lockId = .acquire) : state.services.store.reaperLock = none := by
  by_contra taken
  obtain ⟨owner, locked⟩ := Option.ne_none_iff_exists'.mp taken
  have critical := rounds.held owner locked
  obtain rfl := rounds.alone owner lockId (ScanPoint.ongoing_of_critical critical)
    (by rw [acquires]; rfl)
  simp [acquires, ScanPoint.critical] at critical

/-! ## A dead worker under the rounds -/

/-- What a scan that was called behind the expiry of a dead worker's key still has to do about it. -/
def ScanPoint.sweeps (worker : WorkerId) (deserted : Prop) : ScanPoint → Prop
  | .idle | .acquire => True
  | .detect => deserted
  | .recover _ current rest => worker = current ∨ worker ∈ rest
  -- It would have recovered the list by now.
  | .release | .finished => False

/-- The dead workers are recovered one after another. -/
theorem ScanPoint.sweeps_recoverAll {dead : List WorkerId} {deserted : Prop} (member : worker ∈ dead) :
    (ScanPoint.recoverAll dead).sweeps worker deserted := by
  cases dead with
  | nil => simp at member
  | cons first rest => exact List.mem_cons.mp member

/-- A worker has died, its key expires in time, and scans that are called behind the expiry visit it. -/
structure Awaited (moment period : Nat) (worker : WorkerId) (state : Patrol) (history : History) :
    Prop where
  crashed : state.services.workers worker = .crashed
  silent : state.current.current.heartbeats worker = true →
    state.current.expiry worker ≤ moment + heartbeatTtlMs
  swept : ∀ lockId, moment + heartbeatTtlMs < state.started lockId →
    state.services.store.processing worker = [] ∨
      (state.services.scans lockId).sweeps worker (history.deserted lockId worker = true)
  /-- Such a scan is called within one period. -/
  round : state.latest.getD 0 ≤ moment + heartbeatTtlMs ∨
    ∃ lockId, state.services.scans lockId ≠ .idle ∧ moment + heartbeatTtlMs < state.started lockId ∧
      state.started lockId ≤ moment + heartbeatTtlMs + period

/-- By now the key of the dead worker is gone. -/
theorem Awaited.deserted {moment : Nat} (awaited : Awaited moment period worker state history)
    (rounds : OnRounds period duration state history)
    (late : moment + heartbeatTtlMs < state.current.now)
    (listed : state.services.store.processing worker ≠ []) :
    state.current.current.deserts worker = true := by
  -- A key that is still there has outlived its time, against the schedule.
  have silent : state.current.current.heartbeats worker = false := by
    by_contra beats
    have beats : state.current.current.heartbeats worker = true := by simpa using beats
    have soon := rounds.prompt worker beats
    have gone := awaited.silent beats
    omega
  have filled : state.current.current.platform.store.processing worker ≠ [] := listed
  simp [Detection.deserts, filled, silent]

/-- A call of a recovery that resolves leaves the other dead workers to be visited. -/
theorem ScanPoint.sweeps_recover {store after : Store} {point : RecoverPoint}
    {current : WorkerId} {rest : List WorkerId} {following : Option RecoverPoint} {deserted : Prop}
    (replied : point.resolve current store = some (following, after))
    (sweeps : worker = current ∨ worker ∈ rest) (listed : after.processing worker ≠ []) :
    (ScanPoint.recoverNext current rest following).sweeps worker deserted := by
  cases following with
  | some following => exact sweeps
  | none =>
    -- Nothing follows the DEL of the list, which is not the one that is still there.
    cases RecoverPoint.resolve_cases replied with
    | delete =>
      refine ScanPoint.sweeps_recoverAll (sweeps.resolve_left ?_)
      rintro rfl
      simp [Store.deleteProcessing] at listed

/-- Whatever a scan does behind the expiry, it visits the dead worker before it ends. -/
theorem Awaited.swept_step {moment : Nat} (awaited : Awaited moment period worker state history)
    (rounds : OnRounds period duration state history) {label : DetectionLabel}
    (permitted : onPatrol period duration state (.act label)) {mid : Detection}
    (acted : detection.step state.current.current label = some mid)
    (late : moment + heartbeatTtlMs < state.started lockId) :
    mid.platform.store.processing worker = [] ∨ (mid.platform.scans lockId).sweeps worker
      ((history.track state.current.current label).deserted lockId worker = true) := by
  have moved := Detection.step_moved acted
  by_cases cleared : mid.platform.store.processing worker = []
  · exact .inl cleared
  -- The list is still there, and so it was before.
  have listed : state.services.store.processing worker ≠ [] := by
    intro empty
    rcases moved.platform_cases with same | ⟨own, stepped, _⟩
    · exact cleared (by rw [same]; exact empty)
    · rcases Platform.step_deadList stepped awaited.crashed with kept | gone
      · exact cleared (kept.trans empty)
      · exact cleared gone
  have sweeps := (awaited.swept lockId late).resolve_left listed
  refine .inr ?_
  by_cases idle : state.services.scans lockId = .idle
  · cases Patrol.scan_moved permitted moved lockId with
    | stays same => simp [same, idle, ScanPoint.sweeps]
    | starts _ acquires => simp [acquires, ScanPoint.sweeps]
    | calls resolved => simp [idle, ScanPoint.resolve] at resolved
    | compares detecting => simp [idle] at detecting
  -- The scan was called behind the expiry, so the worker is deserted from its first page on.
  obtain ⟨last, isLatest, before⟩ := rounds.called lockId idle
  have past := rounds.past last isLatest
  have deserts := awaited.deserted rounds (by omega) listed
  have still (deserted : history.deserted lockId worker = true) :
      (history.track state.current.current label).deserted lockId worker = true := by
    simp [History.track, deserted, deserts]
  cases Patrol.scan_moved permitted moved lockId with
  | starts was => exact absurd was idle
  | stays same =>
    rw [same]
    cases at_ : state.services.scans lockId with
    | detect => exact still (by simpa [at_, ScanPoint.sweeps] using sweeps)
    | idle | acquire => trivial
    | recover _ _ _ => simpa [at_, ScanPoint.sweeps] using sweeps
    | release | finished => simp [at_, ScanPoint.sweeps] at sweeps
  | @compares found keys detecting looped compared =>
    have deserted : Deserted state.current.current history lockId worker :=
      ⟨by simpa [detecting, ScanPoint.sweeps] using sweeps, deserts⟩
    obtain ⟨whole, seen⟩ := rounds.watched.heartbeats looped
    have once := whole.dead_once seen (seen.sound.add permitted) deserted
    rw [compared]
    exact ScanPoint.sweeps_recoverAll (List.count_pos_iff.mp (by omega))
  | calls resolved =>
    have routine := rounds.routine lockId
    have free (acquires : state.services.scans lockId = .acquire) := rounds.acquirable acquires
    have fresh := fun acquires => rounds.fresh lockId (rounds.unbegun lockId (.inr acquires)) worker
    generalize state.services.scans lockId = point at resolved sweeps routine free fresh
    generalize mid.platform.scans lockId = reached at resolved ⊢
    generalize mid.platform.store = store at resolved cleared
    cases ScanPoint.resolve_cases resolved with
    | acquires => exact still (fresh rfl)
    | yields taken => exact absurd (free rfl) taken
    | rollback => simp [ScanPoint.routine] at routine
    | recover replied => exact ScanPoint.sweeps_recover replied sweeps cleared
    | release => exact sweeps.elim

/-- A dead worker sends no heartbeat, so its key expires when it was due to. -/
theorem Awaited.silent_act {moment : Nat} (awaited : Awaited moment period worker state history)
    {label : DetectionLabel} {mid : Detection}
    (acted : detection.step state.current.current label = some mid)
    (current : next.current = state.current.record mid label)
    (beats : mid.heartbeats worker = true) : next.current.expiry worker ≤ moment + heartbeatTtlMs := by
  -- Only a heartbeat moves an expiry.
  have unsent (other : ∀ worker outcome, label ≠ .heartbeat worker outcome) :
      next.current.expiry = state.current.expiry := by
    rw [current]
    exact (state.current.record_heartbeats mid other).2.1
  cases Detection.step_moved acted with
  | platform _ _ _ same => rw [unsent (by simp)]; exact awaited.silent (by rw [← same.1]; exact beats)
  | page _ kept | compares _ _ kept =>
    rw [unsent (by simp)]
    exact awaited.silent (by rw [← kept.1]; exact beats)
  | @expires owner _ silenced =>
    rw [unsent (by simp)]
    rw [silenced] at beats
    by_cases own : worker = owner
    · simp [own] at beats
    · exact awaited.silent (by simpa [own] using beats)
  | @heartbeat owner outcome alive _ sent =>
    -- The sender lives, and is another worker.
    have other : worker ≠ owner := by
      rintro rfl
      exact alive awaited.crashed
    have expiry : next.current.expiry worker = state.current.expiry worker := by
      by_cases applied : outcome.applied = true <;> simp [current, Timed.record, applied, other]
    rw [expiry]
    refine awaited.silent ?_
    by_cases applied : outcome.applied = true <;> simpa [sent, applied, other] using beats

/-- The first scan behind the expiry is due one period after the last one before it. -/
theorem Awaited.round_act {moment : Nat} (awaited : Awaited moment period worker state history)
    (rounds : OnRounds period duration state history) {label : DetectionLabel}
    (permitted : onPatrol period duration state (.act label)) {mid : Detection}
    (acted : detection.step state.current.current label = some mid)
    (times : (∃ lockId, label = .platform (.scanStart lockId) ∧
        next.started = Function.update state.started lockId state.current.now ∧
        next.latest = some state.current.now) ∨
      ((∀ lockId, label ≠ .platform (.scanStart lockId)) ∧ next.started = state.started ∧
        next.latest = state.latest)) :
    next.latest.getD 0 ≤ moment + heartbeatTtlMs ∨
      ∃ lockId, mid.platform.scans lockId ≠ .idle ∧ moment + heartbeatTtlMs < next.started lockId ∧
        next.started lockId ≤ moment + heartbeatTtlMs + period := by
  have scan := Patrol.scan_moved permitted (Detection.step_moved acted)
  rcases awaited.round with early | ⟨lockId, wasCalled, behind, soon⟩
  · rcases times with ⟨own, rfl, started, latest⟩ | ⟨_, _, latest⟩
    · by_cases within : state.current.now ≤ moment + heartbeatTtlMs
      · exact .inl (by simpa [latest] using within)
      · -- The scan that is called now is that one.
        have due : state.current.now ≤ state.latest.getD 0 + period := rounds.due
        refine .inr ⟨own, ?_, ?_, ?_⟩
        · cases scan own with
          | stays _ _ unstarted => exact absurd rfl unstarted
          | starts _ acquires => simp [acquires]
        all_goals
          simp only [started, Function.update_self]
          omega
    · exact .inl (latest ▸ early)
  · refine .inr ⟨lockId, (scan lockId).called wasCalled, ?_⟩
    rcases times with ⟨own, rfl, started, _⟩ | ⟨_, started, _⟩
    · -- No scan is called twice.
      have other : lockId ≠ own := by
        rintro rfl
        cases scan lockId with
        | stays _ _ unstarted => exact absurd rfl unstarted
        | starts idle => exact wasCalled idle
      rw [started, Function.update_of_ne other]
      exact ⟨behind, soon⟩
    · rw [started]
      exact ⟨behind, soon⟩

/-- A dead worker's list is awaited until it is empty. -/
theorem Awaited.step {moment : Nat} (awaited : Awaited moment period worker state history)
    (rounds : OnRounds period duration state history)
    (permitted : onPatrol period duration state label) (stepped : patrol.step state label = some next) :
    Awaited moment period worker next (trackPatrol state label history) := by
  cases Patrol.step_moved stepped with
  | elapses same =>
    subst same
    exact ⟨awaited.crashed, awaited.silent, awaited.swept, awaited.round⟩
  | @acts mid label ripe acted current times =>
    have moved := Detection.step_moved acted
    have detected : next.current.current = mid := by simp [current]
    have services : next.services = mid.platform := by simp [Patrol.services, detected]
    refine {
      crashed := ?_
      silent := fun beats => awaited.silent_act acted current (detected ▸ beats)
      swept := fun lockId late => ?_
      round := by rw [services]; exact awaited.round_act rounds permitted acted times }
    · rw [services]
      exact moved.crashed awaited.crashed
    · rw [services]
      rcases times with ⟨own, rfl, started, _⟩ | ⟨_, started, _⟩
      · by_cases isOwn : lockId = own
        · -- A scan that has just been called still has everything before it.
          subst isOwn
          cases Patrol.scan_moved permitted moved lockId with
          | stays _ _ unstarted => exact absurd rfl unstarted
          | starts _ acquires => exact .inr (by simp [acquires, ScanPoint.sweeps])
        · rw [started, Function.update_of_ne isOwn] at late
          exact awaited.swept_step rounds permitted acted late
      · rw [started] at late
        exact awaited.swept_step rounds permitted acted late

end CodeExecution

import CodeExecution.Guarantees.Detection
import CodeExecution.Services.Timing

/-! Where the services keep their schedule, no live worker is taken for dead, and no scan loses its lock. -/

namespace CodeExecution

variable {state next : Timed} {label : TimedLabel} {history : History} {lag : Nat}

/-! ## Steps of the platform with its heartbeats -/

/-- What a label of the detection does to the platform and to the heartbeats. -/
inductive Detection.Moved (state next : Detection) : DetectionLabel → Prop
  /-- A worker starts once its first heartbeat has settled. -/
  | platform {label : Label} (stepped : state.platform.step label = some next.platform)
      (undetected : ∀ lockId queues beats, label ≠ .detect lockId queues beats)
      (announced : ∀ worker, label = .workerStart worker → state.announced worker = true)
      (same : next.heartbeats = state.heartbeats ∧ next.announced = state.announced) :
      Moved state next (.platform label)
  | heartbeat {worker : WorkerId} {outcome : CallOutcome}
      (alive : state.platform.workers worker ≠ .crashed) (same : next.platform = state.platform)
      (beats : next.heartbeats =
        if outcome.applied then Function.update state.heartbeats worker true else state.heartbeats)
      (announced : next.announced = Function.update state.announced worker true) :
      Moved state next (.heartbeat worker outcome)
  | expires {worker : WorkerId} (same : next.platform = state.platform)
      (beats : next.heartbeats = Function.update state.heartbeats worker false)
      (announced : next.announced = state.announced) : Moved state next (.heartbeatExpires worker)
  | page {lockId : LockId} {found : List String} {last : Bool} (same : next.platform = state.platform)
      (kept : next.heartbeats = state.heartbeats ∧ next.announced = state.announced)
      (goesOn : ∀ keys, (state.loops lockId).queueKeys? = some keys → last = false) :
      Moved state next (.scanPage lockId found last)
  /-- The last page is followed by the comparison of the two sets. -/
  | compares {lockId : LockId} {found keys : List String}
      (looped : (state.loops lockId).queueKeys? = some keys)
      (stepped : state.platform.step (.detect lockId (keys.map extractWorkerIdFromQueue)
        (((state.iteration lockId).add found).found.map extractWorkerIdFromHeartbeat)) =
          some next.platform)
      (kept : next.heartbeats = state.heartbeats ∧ next.announced = state.announced) :
      Moved state next (.scanPage lockId found true)

/-- Nothing else comes of a step. -/
theorem Detection.step_moved {state next : Detection} {label : DetectionLabel}
    (stepped : detection.step state label = some next) : Moved state next label := by
  -- The iterations watch the keys, and change nothing else.
  obtain ⟨mid, acted, rfl⟩ := Option.map_eq_some_iff.mp stepped
  cases label with
  | platform label =>
    simp only [act] at acted
    split at acted
    · simp at acted
    · next worker =>
      split at acted
      · next announced =>
        obtain ⟨platform, moved, rfl⟩ := Option.map_eq_some_iff.mp acted
        refine .platform moved (by simp) (fun other same => ?_) ⟨rfl, rfl⟩
        obtain rfl := Label.workerStart.inj same
        exact announced
      · simp at acted
    · next notDetect notStart =>
      obtain ⟨platform, moved, rfl⟩ := Option.map_eq_some_iff.mp acted
      exact .platform moved notDetect (fun worker same => absurd same (notStart worker)) ⟨rfl, rfl⟩
  | heartbeat worker outcome =>
    simp only [act] at acted
    split at acted
    · simp at acted
    · next alive =>
      obtain rfl := Option.some.inj acted
      exact .heartbeat alive rfl rfl rfl
  | heartbeatExpires worker =>
    obtain rfl := Option.some.inj acted
    exact .expires rfl rfl rfl
  | scanPage lockId found last =>
    simp only [act] at acted
    split at acted
    · split at acted
      · next keys looped =>
        obtain ⟨platform, moved, rfl⟩ := Option.map_eq_some_iff.mp acted
        exact .compares looped moved ⟨rfl, rfl⟩
      · next unfinished =>
        obtain rfl := Option.some.inj acted
        refine .page rfl ⟨rfl, rfl⟩ fun keys looped => ?_
        by_contra isLast
        exact unfinished keys looped (by simpa using isLast)
    · simp at acted

/-! ## The schedule -/

/-- What the schedule keeps true on the clock, beside what the loops have seen. -/
structure Scheduled (lag : Nat) (state : Timed) (history : History) : Prop where
  watched : Monitored state.current history
  /-- Only workers that have started pop, and they have sent a heartbeat before. -/
  started : ∀ worker, history.popped worker = true → state.current.platform.workers worker ≠ .absent
  announced : ∀ worker, state.current.platform.workers worker ≠ .absent →
    state.current.announced worker = true
  /-- A live worker that has sent a heartbeat has one, which outlasts the time to the next two. -/
  beats : ∀ worker, state.current.announced worker = true →
    state.current.platform.workers worker ≠ .crashed →
    state.current.heartbeats worker = true ∧
      state.now ≤ state.settled worker + heartbeatIntervalMs + lag ∧
      state.settled worker + heartbeatTtlMs ≤
        state.expiry worker + if state.missed worker then heartbeatIntervalMs + lag else 0
  lapsed : ∀ worker, history.lapsed worker = true →
    state.current.platform.workers worker = .crashed
  /-- A scan that is at work still has the time of its lock. -/
  locked : ∀ lockId, (state.current.platform.scans lockId).critical = true →
    state.now < state.lockExpiry

/-- The history of a run on the clock is that of its steps other than the passing of time. -/
def trackTimed (state : Timed) (label : TimedLabel) (history : History) : History :=
  match label with
  | .elapse _ => history
  | .act label => history.track state.current label

/-- A live worker's heartbeat is not ripe for its expiry. -/
theorem Scheduled.unripe (scheduled : Scheduled lag state history)
    (small : 2 * (heartbeatIntervalMs + lag) < heartbeatTtlMs) {worker : WorkerId}
    (announced : state.current.announced worker = true)
    (alive : state.current.platform.workers worker ≠ .crashed) :
    state.now < state.expiry worker := by
  obtain ⟨_, soon, late⟩ := scheduled.beats worker announced alive
  split at late <;> omega

/-- A worker that has popped by the end of a step had started before it. -/
theorem Scheduled.started_track (scheduled : Scheduled lag state history) {label : DetectionLabel}
    {worker : WorkerId} (popped : (history.track state.current label).popped worker = true) :
    state.current.platform.workers worker ≠ .absent := by
  -- Only the pop of a running worker is added to the history.
  simp only [History.track, Bool.or_eq_true] at popped
  rcases popped with before | pops
  · exact scheduled.started worker before
  · unfold Detection.pops at pops
    split at pops
    · split at pops
      · next popper entry made =>
        obtain rfl : popper = worker := by simpa using pops
        obtain ⟨_, _, running, _⟩ := Platform.effect_pop made
        simp [running]
      · simp at pops
    all_goals simp at pops

/-- A worker that has lapsed by the end of a step has crashed. -/
theorem Scheduled.lapsed_track (scheduled : Scheduled lag state history) {label : DetectionLabel}
    {worker : WorkerId} (lapses : (history.track state.current label).lapsed worker = true) :
    state.current.platform.workers worker = .crashed := by
  have cases : history.lapsed worker = true ∨
      ((history.track state.current label).popped worker = true ∧
        state.current.heartbeats worker = false) := by
    simpa [History.track] using lapses
  rcases cases with before | ⟨popped, silent⟩
  · exact scheduled.lapsed worker before
  · -- Whoever has popped had started, and so had sent a heartbeat.
    by_contra alive
    have announced := scheduled.announced worker (scheduled.started_track popped)
    have beats := (scheduled.beats worker announced alive).1
    simp [silent] at beats

@[simp] theorem Timed.record_current (state : Timed) (mid : Detection) (label : DetectionLabel) :
    (state.record mid label).current = mid := by
  unfold record
  split <;> rfl

@[simp] theorem Timed.record_now (state : Timed) (mid : Detection) (label : DetectionLabel) :
    (state.record mid label).now = state.now := by
  unfold record
  split <;> rfl

/-- Only a `sendHeartbeat` is remembered for the heartbeats. -/
theorem Timed.record_heartbeats (state : Timed) (mid : Detection) {label : DetectionLabel}
    (other : ∀ worker outcome, label ≠ .heartbeat worker outcome) :
    (state.record mid label).settled = state.settled ∧
      (state.record mid label).expiry = state.expiry ∧
      (state.record mid label).missed = state.missed := by
  unfold record
  -- The other branches write the clock, the lock or nothing.
  split
  · next worker outcome => exact absurd rfl (other worker outcome)
  all_goals exact ⟨rfl, rfl, rfl⟩

/-- The SCANs of a timely run are answered as promised. -/
theorem timely.promised {label : DetectionLabel} (permitted : timely lag state (.act label)) :
    scanGuarantee state.current label := by
  cases label with
  | scanPage lockId found last => exact permitted
  | platform _ | heartbeat _ _ | heartbeatExpires _ => trivial

/-- A label of the detection is a step of the platform, or leaves it alone. -/
theorem Detection.Moved.platform_cases {state next : Detection} {label : DetectionLabel}
    (moved : Moved state next label) : next.platform = state.platform ∨
      ∃ own, state.platform.step own = some next.platform ∧
        ∀ worker, own = .workerStart worker → state.announced worker = true := by
  cases moved with
  | platform stepped _ announced => exact .inr ⟨_, stepped, announced⟩
  | compares _ stepped => exact .inr ⟨_, stepped, by simp⟩
  | heartbeat _ same | expires same | page same => exact .inl same

/-- Processes start once. -/
theorem Detection.Moved.present {state next : Detection} {label : DetectionLabel}
    (moved : Moved state next label) {worker : WorkerId}
    (was : state.platform.workers worker ≠ .absent) : next.platform.workers worker ≠ .absent := by
  -- A process that was there has gone on or has died.
  rcases moved.platform_cases with same | ⟨own, stepped, _⟩
  · rwa [same]
  · cases at_ : state.platform.workers worker with
    | absent => exact absurd at_ was
    | crashed => simp [Platform.step_crashed stepped at_]
    | running point =>
      rcases Platform.step_running stepped at_ with ⟨later, running⟩ | ⟨_, died⟩
      · simp [running]
      · simp [died]

/-- Processes die once. -/
theorem Detection.Moved.crashed {state next : Detection} {label : DetectionLabel}
    (moved : Moved state next label) {worker : WorkerId}
    (was : state.platform.workers worker = .crashed) : next.platform.workers worker = .crashed := by
  rcases moved.platform_cases with same | ⟨own, stepped, _⟩
  · rwa [same]
  · exact Platform.step_crashed stepped was

/-- A scan gets to work by acquiring the lock while it is free. -/
theorem Platform.step_critical {state next : Platform} {label : Label} {lockId : LockId}
    (stepped : state.step label = some next) (critical : (next.scans lockId).critical = true) :
    (state.scans lockId).critical = true ∨ ∃ outcome, label = .scan lockId outcome ∧
      state.store.reaperLock = none ∧ next.store.reaperLock ≠ none := by
  rcases Platform.step_scan stepped lockId with ⟨same, _⟩ | ⟨_, _, rfl⟩ |
    ⟨outcome, after, rfl, went, rfl⟩ | ⟨_, _, _, detecting, _⟩ | ⟨_, rfl⟩
  · exact .inl (same ▸ critical)
  · simp [ScanPoint.critical] at critical
  · have reached : after.1.critical = true := by simpa using critical
    cases at_ : state.scans lockId with
    | detect | recover _ _ _ | release => exact .inl rfl
    | idle | finished =>
      rcases outcome with _ | _ | _ <;>
        simp [at_, awaitCall, ScanPoint.resolve, ScanPoint.handler] at went
    | acquire =>
      rw [at_] at went
      -- A rejected acquisition ends the call, and so does a lock that is taken.
      rcases awaitCall_cases went with ⟨_, resolved⟩ | ⟨_, _, handled, same⟩ |
        ⟨_, _, _, _, handled, same⟩
      · obtain ⟨point, later⟩ := after
        cases ScanPoint.resolve_cases resolved with
        | acquires free => exact .inr ⟨outcome, rfl, free, by simp [Store.acquireLock]⟩
        | yields => simp [ScanPoint.critical] at reached
      all_goals
        obtain rfl := Option.some.inj handled
        simp [same, ScanPoint.critical] at reached
  · exact .inl (by rw [detecting]; rfl)
  · simp [ScanPoint.critical] at critical

/-- A step remembers a lock for its full time, or keeps what it remembers of it. -/
theorem Timed.record_lock (state : Timed) (mid : Detection) (label : DetectionLabel) :
    (state.record mid label).lockExpiry = state.now + reaperLockTtlMs ∨
      (state.record mid label).lockExpiry = state.lockExpiry := by
  unfold record
  split
  · exact .inr rfl
  · -- The lock is given its time by the call that takes it.
    dsimp only
    split
    · exact .inl rfl
    · exact .inr rfl
  · exact .inr rfl

/-- A scan that is at work has the time of its lock, or has just been given it. -/
theorem Scheduled.locked_step (scheduled : Scheduled lag state history) {mid : Detection}
    {label : DetectionLabel} (moved : Detection.Moved state.current mid label) {lockId : LockId}
    (critical : (mid.platform.scans lockId).critical = true) :
    state.now < (state.record mid label).lockExpiry := by
  have fresh {expiry : Nat} (same : expiry = state.now + reaperLockTtlMs) : state.now < expiry := by
    simp [same, reaperLockTtlMs]
  have still (was : (state.current.platform.scans lockId).critical = true) :
      state.now < (state.record mid label).lockExpiry := by
    rcases state.record_lock mid label with renewed | kept
    · exact fresh renewed
    · exact kept ▸ scheduled.locked lockId was
  -- Only the acquisition makes a scan critical, and it is remembered.
  cases moved with
  | heartbeat _ same | expires same | page same => exact still (same ▸ critical)
  | @compares own _ _ _ stepped =>
    rcases Platform.step_critical stepped critical with was | ⟨_, impossible, _⟩
    · exact still was
    · simp at impossible
  | platform stepped =>
    rcases Platform.step_critical stepped critical with was | ⟨outcome, rfl, free, taken⟩
    · exact still was
    · exact fresh (if_pos ⟨free, taken⟩)

/-- A live worker's heartbeat is renewed in time by every step that keeps the schedule. -/
theorem Scheduled.beats_step (scheduled : Scheduled lag state history)
    (small : 2 * (heartbeatIntervalMs + lag) < heartbeatTtlMs) {mid : Detection}
    {label : DetectionLabel} (permitted : timely lag state (.act label))
    (ripe : state.ripe label = true) (moved : Detection.Moved state.current mid label)
    {worker : WorkerId} (announced : mid.announced worker = true)
    (alive : state.current.platform.workers worker ≠ .crashed) :
    mid.heartbeats worker = true ∧
      state.now ≤ (state.record mid label).settled worker + heartbeatIntervalMs + lag ∧
      (state.record mid label).settled worker + heartbeatTtlMs ≤
        (state.record mid label).expiry worker +
          if (state.record mid label).missed worker then heartbeatIntervalMs + lag else 0 := by
  -- Steps other than a heartbeat remember nothing new of it.
  have quiet (other : ∀ owner outcome, label ≠ .heartbeat owner outcome)
      (was : state.current.announced worker = true)
      (kept : mid.heartbeats worker = state.current.heartbeats worker) :
      mid.heartbeats worker = true ∧
        state.now ≤ (state.record mid label).settled worker + heartbeatIntervalMs + lag ∧
        (state.record mid label).settled worker + heartbeatTtlMs ≤
          (state.record mid label).expiry worker +
            if (state.record mid label).missed worker then heartbeatIntervalMs + lag else 0 := by
    obtain ⟨settled, expiry, missed⟩ := state.record_heartbeats mid other
    rw [settled, expiry, missed, kept]
    exact scheduled.beats worker was alive
  cases moved with
  | platform _ _ _ same =>
    exact quiet (by simp) (same.2 ▸ announced) (by rw [same.1])
  | page _ kept _ | compares _ _ kept =>
    exact quiet (by simp) (kept.2 ▸ announced) (by rw [kept.1])
  | @expires owner _ silenced same =>
    have was : state.current.announced worker = true := same ▸ announced
    -- The heartbeat that expires is not this one, which is not ripe.
    have other : worker ≠ owner := by
      rintro rfl
      have early := scheduled.unripe small was alive
      have late : state.expiry worker ≤ state.now := by
        simpa using (Bool.and_eq_true_iff.mp ripe).2
      omega
    exact quiet (by simp) was (by simp [silenced, other])
  | @heartbeat owner outcome _ _ sent same =>
    by_cases own : worker = owner
    · subst own
      by_cases applied : outcome.applied = true
      · simp [sent, applied, Timed.record]
        omega
      · -- A failure follows a success, so the key lives on until after the next heartbeat.
        have missing : outcome.applied = false := by simpa using applied
        obtain ⟨was, hit⟩ : state.current.announced worker = true ∧ state.missed worker = false := by
          simpa [timely, missing] using permitted
        obtain ⟨beats, soon, late⟩ := scheduled.beats worker was alive
        simp only [hit, Bool.false_eq_true, if_false] at late
        simp only [sent, missing, Timed.record, Bool.false_eq_true, if_false, Function.update_self,
          Bool.not_false, if_true]
        exact ⟨beats, by omega, by omega⟩
    · have was : state.current.announced worker = true := by simpa [same, own] using announced
      obtain ⟨beats, soon, late⟩ := scheduled.beats worker was alive
      by_cases applied : outcome.applied = true <;>
        simpa [sent, applied, Timed.record, own, beats] using ⟨soon, late⟩

/-- A worker that has just started has announced itself, and announcements stay. -/
theorem Scheduled.announced_step (scheduled : Scheduled lag state history) {mid : Detection}
    {label : DetectionLabel} (moved : Detection.Moved state.current mid label) {worker : WorkerId}
    (there : mid.platform.workers worker ≠ .absent) : mid.announced worker = true := by
  have was : state.current.announced worker = true := by
    by_cases absent : state.current.platform.workers worker = .absent
    · -- Only its own start makes a process of it.
      rcases moved.platform_cases with same | ⟨own, stepped, announces⟩
      · rw [same] at there
        exact absurd absent there
      · by_cases starts : own = .workerStart worker
        · exact announces worker starts
        · exact absurd (Platform.step_absent stepped absent starts) there
    · exact scheduled.announced worker absent
  cases moved with
  | platform _ _ _ same => rw [same.2]; exact was
  | page _ kept _ | compares _ _ kept => rw [kept.2]; exact was
  | expires _ _ same => rw [same]; exact was
  | @heartbeat owner _ _ _ _ same =>
    rw [same]
    by_cases own : worker = owner <;> simp [own, was]

/-- A timely step keeps the schedule. -/
theorem Scheduled.step (scheduled : Scheduled lag state history)
    (small : 2 * (heartbeatIntervalMs + lag) < heartbeatTtlMs) (permitted : timely lag state label)
    (stepped : timed.step state label = some next) :
    Scheduled lag next (trackTimed state label history) := by
  cases label with
  | elapse ms =>
    obtain rfl := Option.some.inj stepped
    obtain ⟨soon, held⟩ := permitted
    refine { scheduled with beats := fun worker announced alive => ?_, locked := held }
    -- Time passes no further than the next deadline of the worker.
    obtain ⟨beats, _, late⟩ := scheduled.beats worker announced alive
    exact ⟨beats, soon worker announced alive, late⟩
  | act label =>
    simp only [timed, Timed.step] at stepped
    split at stepped
    swap
    · simp at stepped
    next ripe =>
    obtain ⟨mid, went, rfl⟩ := Option.map_eq_some_iff.mp stepped
    have moved := Detection.step_moved went
    -- Each part of the schedule has its own lemma above.
    refine {
      watched := by
        rw [Timed.record_current]
        exact scheduled.watched.step permitted.promised went
      started := fun worker popped => by
        rw [Timed.record_current]
        exact moved.present (scheduled.started_track popped)
      announced := fun worker there => ?_
      beats := fun worker announced alive => ?_
      lapsed := fun worker lapses => by
        rw [Timed.record_current]
        exact moved.crashed (scheduled.lapsed_track lapses)
      locked := fun lockId critical => ?_ }
    · rw [Timed.record_current] at there ⊢
      exact scheduled.announced_step moved there
    · rw [Timed.record_current] at announced alive
      rw [Timed.record_current, Timed.record_now]
      exact scheduled.beats_step small permitted ripe moved announced fun was => alive (moved.crashed was)
    · rw [Timed.record_current] at critical
      rw [Timed.record_now]
      exact scheduled.locked_step moved critical

/-- Every timely run is on schedule. -/
theorem Scheduled.reached {trace : List TimedLabel}
    (small : 2 * (heartbeatIntervalMs + lag) < heartbeatTtlMs)
    (run : timed.Runs (timely lag) .initial trace state) :
    ∃ history, Scheduled lag state history := by
  obtain ⟨history, followed⟩ := run.tracked trackTimed .initial
  -- The instants are tracked beside the run, and the invariant speaks of both.
  refine ⟨history, followed.preserves (fun tracked => Scheduled lag tracked.1 tracked.2) ?_ ?_⟩
  · exact {
      watched := .initial
      started := by simp [History.initial]
      announced := by simp [Timed.initial, Detection.initial, Platform.initial]
      beats := by simp [Timed.initial, Detection.initial]
      lapsed := by simp [History.initial]
      locked := by simp [Timed.initial, Detection.initial, Platform.initial, ScanPoint.critical] }
  · intro tracked label next scheduled permitted stepped
    obtain ⟨moved, same⟩ := Machine.tracking_step.mp stepped
    rw [same]
    exact scheduled.step small permitted moved

/-- The dead workers that a scheduled scan finds have all crashed. -/
theorem Scheduled.truthful (scheduled : Scheduled lag state history) {lockId : LockId}
    {keys found : List String} (looped : (state.current.loops lockId).queueKeys? = some keys)
    (promised : (state.current.iteration lockId).Returns found true) :
    truthfulDetection state.current.platform (keys.map extractWorkerIdFromQueue)
      (((state.current.iteration lockId).add found).found.map extractWorkerIdFromHeartbeat) = true := by
  obtain ⟨whole, seen⟩ := scheduled.watched.heartbeats looped
  refine List.all_eq_true.mpr fun worker dead => ?_
  by_contra alive
  have alive : state.current.platform.workers worker ≠ .crashed := by simpa using alive
  -- A live worker that has popped has its key at the end, and never was without it.
  refine whole.not_dead seen (promised.2 rfl) (fun popped => ?_) dead
  have announced := scheduled.announced worker (scheduled.started worker popped)
  have kept : history.lapsed worker = false := by
    by_contra lapsed
    exact alive (scheduled.lapsed worker (by simpa using lapsed))
  exact ⟨kept, (scheduled.beats worker announced alive).1⟩

/-- A lock that expires on schedule has been left behind. -/
theorem Scheduled.abandoned (scheduled : Scheduled lag state history)
    (ripe : state.lockExpiry ≤ state.now) : abandonedLock state.current.platform = true := by
  have idle (owner : LockId) : (state.current.platform.scans owner).critical = false := by
    by_contra critical
    have early := scheduled.locked owner (by simpa using critical)
    omega
  unfold abandonedLock
  cases state.current.platform.store.reaperLock <;> simp [idle]

/-! ## The guarantee -/

/--
The schedule is what the supervised setting asks for.

If every first heartbeat arrives, two late heartbeats fit into a time to live, no two in a row fail,
and the scans are over before their lock expires, then no live worker is taken for dead and no scan
loses its lock: what the platform does in this run is a supervised run.
-/
theorem timely_runs_are_supervised {trace : List TimedLabel}
    (small : 2 * (heartbeatIntervalMs + lag) < heartbeatTtlMs)
    (run : timed.Runs (timely lag) .initial trace state) :
    platform.Runs (fun state label => supervised state label = true) .initial
      (timed.observe platformLabels .initial trace) state.current.platform := by
  refine run.projects platform (fun state label => supervised state label = true)
    (fun state => state.current.platform) platformLabels ?_
  intro trace state label next earlier permitted stepped
  obtain ⟨history, scheduled⟩ := Scheduled.reached small earlier
  cases label with
  | elapse ms =>
    obtain rfl := Option.some.inj stepped
    exact .nil
  | act label =>
    simp only [timed, Timed.step] at stepped
    split at stepped
    swap
    · simp at stepped
    next ripe =>
    obtain ⟨mid, went, rfl⟩ := Option.map_eq_some_iff.mp stepped
    simp only [Timed.record_current]
    have still (same : mid.platform = state.current.platform) :
        platform.Runs (fun state label => supervised state label = true) state.current.platform []
          mid.platform := same ▸ .nil
    -- The comparison of the two sets is the detection that the platform makes.
    cases Detection.step_moved went with
    | heartbeat _ same | expires same => exact still same
    | @page lockId found last same _ goesOn =>
      have none : platformLabels state (.act (.scanPage lockId found last)) = [] := by
        cases looped : (state.current.loops lockId).queueKeys? with
        | none => simp [platformLabels, looped]
        | some keys =>
          obtain rfl := goesOn keys looped
          simp [platformLabels]
      exact none ▸ still same
    | @compares lockId found keys looped compared =>
      have truthful : supervised state.current.platform (.detect lockId
          (keys.map extractWorkerIdFromQueue) (((state.current.iteration lockId).add
            found).found.map extractWorkerIdFromHeartbeat)) = true :=
        scheduled.truthful looped permitted
      simp only [platformLabels, looped]
      exact .snoc .nil truthful compared
    | @platform own moved undetected =>
      refine .snoc .nil ?_ moved
      cases own with
      | detect lockId queues beats => exact absurd rfl (undetected lockId queues beats)
      | lockExpires => exact scheduled.abandoned (by simpa [Timed.ripe] using ripe)
      | scanDies _ | startupBegin | startup _ | startupSelect _ => exact permitted.elim
      | _ => rfl

/-- One worker alone keeps its schedule, though some heartbeat may fail. -/
def punctual (state : Timed) : TimedLabel → Bool
  | .elapse ms => state.now + ms ≤ state.settled "w" + heartbeatIntervalMs + 2000
  | .act (.heartbeat worker outcome) =>
    worker = "w" && (outcome.applied || (state.current.announced "w" && !state.missed "w"))
  | .act label => label = .platform (.workerStart "w")

/-- Nobody else has announced itself, and no scan has begun. -/
def Solitary (state : Timed) : Prop :=
  (∀ worker, state.current.announced worker = true → worker = "w") ∧
    ∀ lockId, state.current.platform.scans lockId = .idle

/-- Such a worker keeps the schedule of the platform. -/
theorem timely_of_punctual (alone : Solitary state) (permitted : punctual state label = true)
    (stepped : timed.step state label = some next) : timely 2000 state label ∧ Solitary next := by
  obtain ⟨only, idle⟩ := alone
  cases label with
  | elapse ms =>
    obtain rfl := Option.some.inj stepped
    refine ⟨⟨fun worker announced _ => ?_, fun lockId critical => ?_⟩, only, idle⟩
    · obtain rfl := only worker announced
      simpa [punctual] using permitted
    · simp [idle lockId, ScanPoint.critical] at critical
  | act label =>
    simp only [timed, Timed.step] at stepped
    split at stepped
    swap
    · simp at stepped
    obtain ⟨mid, went, rfl⟩ := Option.map_eq_some_iff.mp stepped
    unfold Solitary
    rw [Timed.record_current]
    -- Such a worker only sends heartbeats, and starts.
    cases Detection.step_moved went with
    | @heartbeat worker outcome _ same _ sent =>
      obtain ⟨rfl, succeeds⟩ : worker = "w" ∧ (outcome.applied = true ∨
          (state.current.announced "w" = true ∧ state.missed "w" = false)) := by
        simpa [punctual] using permitted
      refine ⟨succeeds, fun other announced => ?_, fun lockId => by rw [same]; exact idle lockId⟩
      by_contra different
      exact different (only other (by simpa [sent, different] using announced))
    | @platform own moved _ _ same =>
      obtain rfl : own = .workerStart "w" := by simpa [punctual] using permitted
      refine ⟨trivial, by simpa [same.2] using only, fun lockId => ?_⟩
      rcases Platform.step_scan moved lockId with ⟨kept, _⟩ | ⟨other, _⟩ | ⟨_, _, other, _⟩ |
        ⟨_, _, other, _⟩ | ⟨other, _⟩
      · exact kept.trans (idle lockId)
      all_goals simp at other
    | expires | page | compares => simp [punctual] at permitted

/-- Between two heartbeats that arrive, one is lost. -/
def punctualRun : List TimedLabel :=
  [.act (.heartbeat "w" .resolves), .act (.platform (.workerStart "w")), .elapse 7000,
    .act (.heartbeat "w" (.rejects false)), .elapse 7000, .act (.heartbeat "w" .resolves)]

/-- The guarantee for a worker that misses one heartbeat, and is two seconds late with each. -/
theorem timely_runs_are_supervised_example : ∃ state,
    timed.Runs (timely 2000) .initial punctualRun state ∧ state.now = 14000 ∧
    platform.Runs (fun state label => supervised state label = true) .initial [.workerStart "w"]
      state.current.platform := by
  have executed : (timed.guardedRun (fun state label => punctual state label = true) .initial
      punctualRun).map (fun state => state.now) = some 14000 := by rfl
  obtain ⟨state, run, late⟩ := Machine.runs_of_guardedRun _ _ _ _ _ _ executed
  -- The computed guard implies the promises as long as the worker is the only one.
  obtain ⟨keeps, _⟩ := run.reguard Solitary
    ⟨by simp [Timed.initial, Detection.initial], fun _ => rfl⟩
    fun _ _ _ alone permitted stepped => timely_of_punctual alone permitted stepped
  exact ⟨state, keeps, late, timely_runs_are_supervised (by decide) keeps⟩

/-- A worker that is as late as it may be, and loses one heartbeat. -/
def lateRun (lag : Nat) : List TimedLabel :=
  [.act (.heartbeat "w" .resolves), .act (.platform (.workerStart "w")),
    .elapse (heartbeatIntervalMs + lag), .act (.heartbeat "w" (.rejects false)),
    .elapse (heartbeatIntervalMs + lag), .act (.heartbeatExpires "w")]

/-- Where two heartbeats do not fit into a time to live, such a worker is left without its key. -/
theorem lateRun_silences (large : heartbeatTtlMs ≤ 2 * (heartbeatIntervalMs + lag)) :
    ∃ state, timed.Runs (timely lag) .initial (lateRun lag) state ∧
      state.current.platform.workers "w" = .running .pop ∧ state.current.heartbeats "w" = false := by
  -- Only this worker has announced itself, and no scan has begun.
  have resting (now : Nat) (critical : ScanPoint.idle.critical = true) : now < 0 := by
    simp [ScanPoint.critical] at critical
  have alone (announced : WorkerId → Bool) (others : ∀ other, other ≠ "w" → announced other = false)
      (worker : WorkerId) (is : announced worker = true) : worker = "w" := by
    by_contra different
    simp [others worker different] at is
  -- Up to the expiry each step is taken in the state that the one before it has led to.
  obtain ⟨state, run, late, expires, beats, running⟩ :
      ∃ state, timed.Runs (timely lag) .initial ((lateRun lag).take 5) state ∧
        state.now = 0 + (heartbeatIntervalMs + lag) + (heartbeatIntervalMs + lag) ∧
        state.expiry "w" = 0 + heartbeatTtlMs ∧ state.current.heartbeats "w" = true ∧
        state.current.platform.workers "w" = .running .pop := by
    refine ⟨_, .cons (.inl rfl) rfl (.cons trivial rfl (.cons ⟨?_, fun _ => resting _⟩ rfl
      (.cons (.inr ⟨rfl, rfl⟩) rfl (.cons ⟨?_, fun _ => resting _⟩ rfl .nil)))), rfl, rfl, rfl, rfl⟩
    · intro worker announced _
      obtain rfl := alone (Function.update (fun _ => false) "w" true)
        (fun _ different => by simp [different]) worker announced
      show 0 + (heartbeatIntervalMs + lag) ≤ 0 + heartbeatIntervalMs + lag
      omega
    · intro worker announced _
      obtain rfl := alone (Function.update (Function.update (fun _ => false) "w" true) "w" true)
        (fun _ different => by simp [different]) worker announced
      show 0 + (heartbeatIntervalMs + lag) + (heartbeatIntervalMs + lag) ≤
        0 + (heartbeatIntervalMs + lag) + heartbeatIntervalMs + lag
      omega
  -- By then the key has lived for its whole time.
  have ripe : state.ripe (.heartbeatExpires "w") = true := by
    simp only [Timed.ripe, beats, expires, late, Bool.true_and, decide_eq_true_eq]
    omega
  refine ⟨_, run.snoc trivial (if_pos ripe), running, ?_⟩
  simp [Detection.watch, Timed.record]

/--
A live worker that loses one heartbeat at most in a row always has its key, exactly if it is never so
late that two intervals fill a time to live.

The first heartbeat is not among those that are lost, by the schedule.
-/
theorem heartbeat_margin (lag : Nat) :
    (∀ trace state, timed.Runs (timely lag) .initial trace state → ∀ worker point,
      state.current.platform.workers worker = .running point →
      state.current.heartbeats worker = true) ↔
    2 * (heartbeatIntervalMs + lag) < heartbeatTtlMs := by
  constructor
  · -- Too late a heartbeat is a counterexample, and a timely run is on schedule.
    intro keeps
    by_contra large
    obtain ⟨state, run, running, silent⟩ := lateRun_silences (Nat.le_of_not_lt large)
    simp [keeps _ state run "w" _ running] at silent
  · intro small trace state run worker point running
    obtain ⟨history, scheduled⟩ := Scheduled.reached small run
    have announced := scheduled.announced worker (by simp [running])
    exact (scheduled.beats worker announced (by simp [running])).1

end CodeExecution

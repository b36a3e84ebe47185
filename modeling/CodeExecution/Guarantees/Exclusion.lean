import CodeExecution.Proofs.Resumption

/-! The reaper's lock: exclusion as far as the key outlasts the work, and release by its owner alone. -/

namespace CodeExecution

variable {state next : Platform} {label : Label}

/-! ## The setting -/

/-- Between the acquired lock and the end of its recoveries a scan is working. -/
def ScanPoint.working : ScanPoint → Bool
  | .detect | .recover _ _ _ => true
  | .idle | .acquire | .release | .finished => false

/-- The lock key does not expire while the scan that owns it is working. -/
def outlasting (state : Platform) : Label → Bool
  | .lockExpires => state.store.reaperLock.all fun owner => !(state.scans owner).working
  | _ => true

/-- The worker whose list a scan is recovering. -/
def ScanPoint.recovers? : ScanPoint → Option WorkerId
  | .recover _ worker _ => some worker
  | .idle | .acquire | .detect | .release | .finished => none

/-- One scan at most is working, and no list is recovered by two. -/
structure Exclusive (state : Platform) : Prop where
  working : ∀ first second, (state.scans first).working = true → (state.scans second).working = true →
    first = second
  recovering : ∀ worker first second, (state.scans first).recovers? = some worker →
    (state.scans second).recovers? = some worker → first = second

/-- A working scan owns the lock key. -/
def Owned (state : Platform) : Prop :=
  ∀ lockId, (state.scans lockId).working = true → state.store.reaperLock = some lockId

/-! ## Runs -/

/-- The key holds one identifier, so its owners exclude each other. -/
theorem Owned.exclusive (owned : Owned state) : Exclusive state := by
  have alone : ∀ first second, (state.scans first).working = true → (state.scans second).working = true →
      first = second := by
    intro first second working working'
    have owner := owned first working
    rw [owned second working'] at owner
    exact (Option.some.inj owner).symm
  -- Whoever recovers a list is working.
  have works : ∀ {point : ScanPoint} {worker : WorkerId}, point.recovers? = some worker →
      point.working = true := by
    intro point worker recovers
    cases point with
    | recover _ _ _ => rfl
    | _ => exact absurd recovers nofun
  exact ⟨alone, fun worker first second recovers recovers' =>
    alone first second (works recovers) (works recovers')⟩

/-- As long as the key outlasts its owner's work, a step leaves it with its owner. -/
theorem Owned.step (owned : Owned state) (outlasts : outlasting state label = true)
    (stepped : platform.step state label = some next) : Owned next := by
  intro lockId working
  -- While this scan has been working, nobody else could move the lock.
  have kept : (state.scans lockId).working = true → next.store.reaperLock = some lockId := by
    intro was
    have owns := owned lockId was
    rcases Platform.step_lock stepped with
      same | expires | ⟨other, outcome, _, ⟨_, free, _⟩ | ⟨releases, others, _⟩⟩
    · rw [same]; exact owns
    · subst expires
      simp [outlasting, owns, was] at outlasts
    · simp [owns] at free
    · rw [owns] at others
      obtain rfl : lockId = other := Option.some.inj others
      simp [releases, ScanPoint.working] at was
  have critical : ∀ point : ScanPoint, point.working = true ↔ point.critical = true ∧ point ≠ .release := by
    intro point
    cases point <;> simp [ScanPoint.working, ScanPoint.critical]
  rcases Platform.step_scan stepped lockId with
    ⟨same, _⟩ | ⟨_, _, rfl⟩ | ⟨outcome, after, rfl, went, rfl⟩ | ⟨_, _, _, detecting, _⟩ | ⟨_, rfl⟩
  · rw [same] at working
    exact kept working
  · simp [ScanPoint.working] at working
  · -- A call that ends in the work began in it, or has just taken the lock.
    have inside : after.1.critical = true := ((critical _).mp (by simpa using working)).1
    rcases ScanPoint.call_critical went inside with both | ⟨_, taken⟩
    · exact kept ((critical _).mpr both)
    · exact taken
  · exact kept (by rw [detecting]; rfl)
  · simp [ScanPoint.working] at working

/-- Where the key expires under a working scan, another scan is let in. -/
theorem scans_overlap {owner other : LockId} (working : (state.scans owner).working = true)
    (idle : state.scans other = .idle) :
    ∃ next, platform.Runs (fun _ _ => True) state
      [.lockExpires, .scanStart other, .scan other .resolves] next ∧ ¬ Exclusive next := by
  have different : owner ≠ other := by
    intro same
    rw [same, idle] at working
    exact Bool.false_ne_true working
  -- The second scan finds no key, and goes on to its work.
  have expires : platform.step state .lockExpires =
      some { state with store := { state.store with reaperLock := none } } := rfl
  generalize expired : { state with store := { state.store with reaperLock := none } } = free at expires
  have starts : platform.step free (.scanStart other) =
      some (free.withScan other (.acquire, free.store)) := by
    subst expired
    simp [platform, Platform.step, idle]
  have enters : platform.step (free.withScan other (.acquire, free.store)) (.scan other .resolves) =
      some ((free.withScan other (.acquire, free.store)).withScan other
        (.detect, free.store.acquireLock other)) := by
    subst expired
    simp [platform, Platform.step, ScanPoint.resolve, awaitCall]
  refine ⟨_, .cons trivial expires (.cons trivial starts (.cons trivial enters .nil)), fun exclusive => ?_⟩
  refine different (exclusive.working owner other ?_ ?_)
  · subst expired
    simpa [different] using working
  · simp [ScanPoint.working]

/--
Scans exclude each other in every run in which no lock key expires under the scan that owns it.

Where one does, another scan is let in.
-/
theorem scans_exclude {trace : List Label}
    (run : platform.Runs (fun state label => outlasting state label = true) .initial trace state) :
    Exclusive state ∧
      ∀ owner other, (state.scans owner).working = true → state.scans other = .idle →
        ∃ next, platform.Runs (fun _ _ => True) state
          [.lockExpires, .scanStart other, .scan other .resolves] next ∧ ¬ Exclusive next := by
  -- Whoever works owns the lock, which has one owner.
  have owned : Owned state := run.preserves Owned (fun _ working => absurd working Bool.false_ne_true)
    fun _ _ _ owned outlasts stepped => owned.step outlasts stepped
  exact ⟨owned.exclusive, fun _ _ working idle => scans_overlap working idle⟩

/-- Of two scans at once, one recovers the list of a dead worker, and the other one has left. -/
theorem scans_exclude_example : ∃ state,
    platform.Runs (fun state label => outlasting state label = true) .initial
      (submission "job" ++ takingUp "w1" ++ [.workerCrash "w1"] ++ detecting "s1" "w1" ++
        [.scanStart "s2", .scan "s2" .resolves]) state ∧
    (state.scans "s1").recovers? = some "w1" ∧ state.scans "s2" = .finished ∧ Exclusive state := by
  -- The second scan fails to take the lock and has finished, while the first one is in a list.
  have executed : (platform.guardedRun (fun state label => outlasting state label = true) .initial
      (submission "job" ++ takingUp "w1" ++ [.workerCrash "w1"] ++ detecting "s1" "w1" ++
        [.scanStart "s2", .scan "s2" .resolves])).map
          (fun state => ((state.scans "s1").recovers?, state.scans "s2")) =
      some (some "w1", .finished) := by decide
  obtain ⟨state, run, shown⟩ := Machine.runs_of_guardedRun platform _ _ _ _ _ executed
  obtain ⟨recovers, leaves⟩ := Prod.mk.inj shown
  exact ⟨state, run, recovers, leaves, (scans_exclude run).1⟩

/-- A scan that outlives its lock is joined by another one, and both requeue the same job. -/
theorem scans_not_exclusive : ∃ state,
    platform.Runs (fun _ _ => True) .initial
      (submission "job" ++ takingUp "w1" ++ [.workerCrash "w1"] ++ detecting "s1" "w1" ++
        scanCalls "s1" 3 ++ .lockExpires :: detecting "s2" "w1" ++ scanCalls "s2" 4 ++
          scanCalls "s1" 1) state ∧
    jobsIn state.store.pending = ["job", "job"] ∧ ¬ Exclusive state := by
  -- The key expires under the first scan, so the second one detects the same worker.
  have executed : (platform.guardedRun (fun _ _ => True) .initial
      (submission "job" ++ takingUp "w1" ++ [.workerCrash "w1"] ++ detecting "s1" "w1" ++
        scanCalls "s1" 3 ++ .lockExpires :: detecting "s2" "w1" ++ scanCalls "s2" 4 ++
          scanCalls "s1" 1)).map (fun state => (jobsIn state.store.pending,
            (state.scans "s1").recovers?, (state.scans "s2").recovers?)) =
      some (["job", "job"], some "w1", some "w1") := by decide
  obtain ⟨state, run, shown⟩ := Machine.runs_of_guardedRun platform _ _ _ _ _ executed
  obtain ⟨requeued, recovers⟩ := Prod.mk.inj shown
  obtain ⟨first, second⟩ := Prod.mk.inj recovers
  exact ⟨state, run, requeued, fun exclusive =>
    absurd (exclusive.recovering "w1" "s1" "s2" first second) (by decide)⟩

/-! ## The release -/

/-- The last scan whose SET has found the key absent. -/
def acquirerAfter (state : Platform) (label : Label) (last : Option LockId) : Option LockId :=
  match state.effect label with
  | .acquireLock lockId => some lockId
  | _ => last

/-- The lock key as its scans leave it, when that scan was the last to acquire it. -/
structure LockKept (state : Platform) (last : Option LockId) : Prop where
  /-- The key is absent, or it holds the identifier of the last acquirer. -/
  holder : ∀ owner, state.store.reaperLock = some owner → last = some owner
  /-- The release step changes the key only while it holds the identifier of its own scan. -/
  release : ∀ lockId outcome next, state.scans lockId = .release →
    platform.step state (.scan lockId outcome) = some next →
    next.store.reaperLock ≠ state.store.reaperLock → state.store.reaperLock = some lockId

/-- Whatever a step does to the key, it holds no other identifier than the last acquirer's. -/
theorem holder_step {last : Option LockId}
    (holder : ∀ owner, state.store.reaperLock = some owner → last = some owner)
    (stepped : platform.step state label = some next) :
    ∀ owner, next.store.reaperLock = some owner → acquirerAfter state label last = some owner := by
  intro owner holds
  obtain ⟨⟨now, lock, same, unexpired⟩, _⟩ := Platform.step_effect stepped
  by_cases expires : label = .lockExpires
  · -- The expiry leaves no key.
    subst expires
    obtain rfl := Option.some.inj stepped
    simp at holds
  · have after : next.store.reaperLock = lock := by rw [same]
    rw [after, unexpired expires] at holds
    unfold acquirerAfter
    split
    · next lockId acquires =>
      rw [acquires] at holds
      exact holds
    · next others =>
      rcases (state.effect label).lock_cases state.store with
        kept | ⟨lockId, ⟨acquires, _⟩ | ⟨_, _, freed⟩⟩
      · exact holder owner (kept.symm.trans holds)
      · exact absurd acquires (others lockId)
      · rw [freed] at holds
        exact absurd holds nofun

/-- The script of a release changes the key only if its own scan holds it. -/
theorem release_own {lockId : LockId} {outcome : CallOutcome} (releases : state.scans lockId = .release)
    (stepped : platform.step state (.scan lockId outcome) = some next)
    (changed : next.store.reaperLock ≠ state.store.reaperLock) :
    state.store.reaperLock = some lockId := by
  have moved : state.step (.scan lockId outcome) = some next := stepped
  rcases Platform.step_lock moved with
    same | expires | ⟨other, _, isOther, ⟨acquires, _, _⟩ | ⟨_, owned, _⟩⟩
  · exact absurd same changed
  · exact absurd expires nofun
  · -- A scan that releases does not acquire.
    obtain ⟨rfl, -⟩ := Label.scan.inj isOther
    simp [releases] at acquires
  · obtain ⟨rfl, -⟩ := Label.scan.inj isOther
    exact owned

/--
Releasing the lock never frees the lock of another scan, wherever the key expires.

Where it never expires before its holder's release, one scan at most is in its critical section.
-/
theorem release_spares_others {trace : List Label} {last : Option LockId}
    (run : (platform.tracking acquirerAfter).Runs (fun _ _ => True) (.initial, none) trace (state, last)) :
    LockKept state last ∧
      (platform.Runs (fun state label => sequential state label = true) .initial trace state →
        ∀ first second, (state.scans first).critical = true → (state.scans second).critical = true →
          first = second) := by
  -- The key holds the last acquirer, and a release compares it with its own id.
  have holder : ∀ owner, state.store.reaperLock = some owner → last = some owner :=
    run.preserves (fun tracked => ∀ owner, tracked.1.store.reaperLock = some owner →
        tracked.2 = some owner)
      (fun _ holds => absurd holds nofun)
      fun tracked label after holder _ stepped => by
        obtain ⟨moved, same⟩ := Machine.tracking_step.mp stepped
        rw [same]
        exact holder_step holder moved
  refine ⟨⟨holder, fun _ _ _ releases stepped changed => release_own releases stepped changed⟩, ?_⟩
  intro ordered first second critical critical'
  have locked : Locked state := ordered.preserves Locked (.of_uncritical fun _ => rfl)
    fun _ _ _ locked ordered stepped => locked.step ordered stepped
  exact locked.alone critical critical'

/-- A scan whose lock has expired leaves the key to the scan that has acquired it since. -/
theorem release_spares_others_example : ∃ state,
    (platform.tracking acquirerAfter).Runs (fun _ _ => True) (.initial, none)
      (detecting "s1" "w1" ++ .lockExpires :: detecting "s2" "w2" ++ scanCalls "s1" 3)
      (state, some "s2") ∧
    state.scans "s1" = .finished ∧ state.store.reaperLock = some "s2" ∧ LockKept state (some "s2") := by
  -- The first scan releases a lock that has expired and belongs to the second.
  have executed : ((platform.tracking acquirerAfter).guardedRun (fun _ _ => True) (.initial, none)
      (detecting "s1" "w1" ++ .lockExpires :: detecting "s2" "w2" ++ scanCalls "s1" 3)).map
        (fun tracked => (tracked.2, tracked.1.scans "s1", tracked.1.store.reaperLock)) =
      some (some "s2", .finished, some "s2") := by decide
  obtain ⟨⟨state, last⟩, run, shown⟩ :=
    Machine.runs_of_guardedRun (platform.tracking acquirerAfter) _ _ _ _ _ executed
  obtain ⟨rfl, finished, holds⟩ : last = some "s2" ∧ state.scans "s1" = .finished ∧
      state.store.reaperLock = some "s2" := by simpa using shown
  exact ⟨state, run, finished, holds, (release_spares_others run).1⟩

end CodeExecution

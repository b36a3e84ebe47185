import CodeExecution.Proofs.Bootstrap
import CodeExecution.Services.Detection

/-! Which workers a scan takes for dead, while heartbeats and lists come and go under its loops. -/

namespace CodeExecution

/-! ## The past that matters -/

/-- A step moves an element to a worker's list. -/
def Detection.pops (state : Detection) : DetectionLabel → WorkerId → Bool
  | .platform label, worker =>
    match state.platform.effect label with
    | .pop popper _ => popper = worker
    | _ => false
  | .heartbeat _ _, _ | .heartbeatExpires _, _ | .scanPage _ _ _, _ => false

/-- A worker has a list, and no heartbeat. -/
def Detection.deserts (state : Detection) (worker : WorkerId) : Bool :=
  state.platform.store.processing worker ≠ [] && !state.heartbeats worker

/-- The first SCAN of the loops has been answered. -/
def ScanLoops.begun : ScanLoops → Bool
  | .queues none => false
  | .queues (some _) | .heartbeats _ _ => true

/-- A scan is in its loops, or begins them now. -/
def Detection.looping (state : Detection) (lockId : LockId) : DetectionLabel → Bool
  | .scanPage own _ _ => own = lockId || (state.loops lockId).begun
  | .platform _ | .heartbeat _ _ | .heartbeatExpires _ => (state.loops lockId).begun

/-- Loops have begun, or nothing is known of them. -/
theorem ScanLoops.begun_cases (loops : ScanLoops) : loops = .queues none ∨ loops.begun = true := by
  unfold begun
  split
  · exact .inl rfl
  · exact .inr rfl
  · exact .inr rfl

/-- What is remembered of the states so far. -/
structure History where
  /-- A BRPOPLPUSH of the worker has moved an element. -/
  popped : WorkerId → Bool
  /-- The heartbeat has been absent, at the first of these or since. -/
  lapsed : WorkerId → Bool
  /-- The list has been there without a heartbeat, ever since the loops of the scan began. -/
  deserted : LockId → WorkerId → Bool

/-- Nothing has happened. -/
def History.initial : History where
  popped := fun _ => false
  lapsed := fun _ => false
  deserted := fun _ _ => true

/-- The state that a step leaves is added to what is remembered. -/
def History.track (state : Detection) (label : DetectionLabel) (history : History) : History :=
  let popped := fun worker => history.popped worker || state.pops label worker
  { popped
    lapsed := fun worker => history.lapsed worker || (popped worker && !state.heartbeats worker)
    deserted := fun lockId worker =>
      history.deserted lockId worker && (!state.looping lockId label || state.deserts worker) }

variable {state next : Detection} {label : DetectionLabel} {history : History} {worker : WorkerId}
  {lockId : LockId} {scan : CursorScan String} {keys : List String}

/-- Pops are remembered. -/
theorem History.popped_track (popped : history.popped worker = true) :
    (history.track state label).popped worker = true := by
  simp [track, popped]

/-- A worker that has popped and has not lapsed had its heartbeat. -/
theorem History.beating (popped : history.popped worker = true)
    (kept : (history.track state label).lapsed worker = false) :
    history.lapsed worker = false ∧ state.heartbeats worker = true := by
  simpa [track, popped] using kept

/-- A worker that is deserted under the loops was so before. -/
theorem History.deserted_before (looping : state.looping lockId label = true)
    (deserted : (history.track state label).deserted lockId worker = true) :
    history.deserted lockId worker = true ∧ state.deserts worker = true := by
  simpa [track, looping] using deserted

/-! ## What the loops have seen -/

/-- A worker has not lapsed, and has its heartbeat. -/
def Beating (state : Detection) (history : History) (worker : WorkerId) : Prop :=
  history.lapsed worker = false ∧ state.heartbeats worker = true

/-- A worker has been deserted under the loops of a scan, and is so now. -/
def Deserted (state : Detection) (history : History) (lockId : LockId) (worker : WorkerId) : Prop :=
  history.deserted lockId worker = true ∧ state.deserts worker = true

/-- The keys are those of lists of workers that have popped. -/
def OfPopped (history : History) (key : String) : Prop :=
  ∃ worker, history.popped worker = true ∧ key = processingKey worker

/-- The iteration over the lists misses no deserted worker. -/
structure QueuesSeen (state : Detection) (history : History) (lockId : LockId)
    (scan : CursorScan String) : Prop where
  sound : scan.Sound
  ever : ∀ key ∈ scan.ever, OfPopped history key
  always : ∀ worker, Deserted state history lockId worker → processingKey worker ∈ scan.always

/-- The loop over the lists has missed no deserted worker. -/
structure QueuesFound (state : Detection) (history : History) (lockId : LockId)
    (keys : List String) : Prop where
  found : ∀ key ∈ keys, OfPopped history key
  complete : ∀ worker, Deserted state history lockId worker → processingKey worker ∈ keys

/-- The iteration over the heartbeats misses none of a worker that has not lapsed. -/
structure HeartbeatsSeen (state : Detection) (history : History) (lockId : LockId)
    (keys : List String) (scan : CursorScan String) : Prop where
  sound : scan.Sound
  ever : ∀ key ∈ scan.ever, ∃ worker, key = heartbeatKey worker
  always : ∀ worker, processingKey worker ∈ keys → Beating state history worker →
    heartbeatKey worker ∈ scan.always
  never : ∀ worker, Deserted state history lockId worker → heartbeatKey worker ∉ scan.ever

/-- What the loops of a scan have seen. -/
def ScanLoops.Seen (state : Detection) (history : History) (lockId : LockId) : ScanLoops → Prop
  | .queues iteration => ∀ scan ∈ iteration, QueuesSeen state history lockId scan
  | .heartbeats keys iteration => QueuesFound state history lockId keys ∧
    ∀ scan ∈ iteration, HeartbeatsSeen state history lockId keys scan

/-- Lists are those of workers that have popped, and all loops see what there is. -/
structure Monitored (state : Detection) (history : History) : Prop where
  listed : ∀ worker, state.platform.store.processing worker ≠ [] → history.popped worker = true
  seen : ∀ lockId, (state.loops lockId).Seen state history lockId

/-- Two workers have two heartbeats. -/
theorem heartbeatKey_inj {other : WorkerId} (same : heartbeatKey worker = heartbeatKey other) :
    worker = other := by
  simpa using congrArg extractWorkerIdFromHeartbeat same

/-- Two workers have two lists. -/
theorem processingKey_inj {other : WorkerId} (same : processingKey worker = processingKey other) :
    worker = other := by
  simpa using congrArg extractWorkerIdFromQueue same

/-! ## A page -/

/-- The iteration over the lists begins with those there are. -/
theorem Monitored.queues_start (watched : Monitored state history) :
    QueuesSeen state history lockId (.start state.processingKeys) where
  -- Every list that is there at the start is one that has been, and none is reported yet.
  sound := CursorScan.sound_start
  ever := by
    rintro key ⟨worker, filled, rfl⟩
    exact ⟨worker, watched.listed worker filled, rfl⟩
  always := by
    intro worker deserted
    have there : state.platform.store.processing worker ≠ [] ∧ state.heartbeats worker = false := by
      simpa [Detection.deserts] using deserted.2
    exact ⟨worker, there.1, rfl⟩

/-- The iteration over the heartbeats begins with those there are. -/
theorem heartbeats_start : HeartbeatsSeen state history lockId keys (.start state.heartbeatKeys) where
  sound := CursorScan.sound_start
  ever := by
    rintro key ⟨worker, _, rfl⟩
    exact ⟨worker, rfl⟩
  always := fun worker _ beating => ⟨worker, beating.2, rfl⟩
  never := by
    -- A deserted worker has no heartbeat.
    rintro worker deserted ⟨other, beats, same⟩
    obtain rfl := heartbeatKey_inj same
    simp [Deserted, Detection.deserts, beats] at deserted

/-- The iteration over the lists, begun or not. -/
theorem Monitored.queues (watched : Monitored state history)
    (looped : (state.loops lockId).queueKeys? = none) :
    QueuesSeen state history lockId (state.iteration lockId) := by
  have seen := watched.seen lockId
  unfold Detection.iteration
  -- Either the iteration has not begun, or it is the one that is watched.
  cases loops : state.loops lockId with
  | queues iteration =>
    rw [loops] at seen
    cases iteration with
    | none => exact watched.queues_start
    | some scan => exact seen scan rfl
  | heartbeats keys iteration => simp [loops, ScanLoops.queueKeys?] at looped

/-- The keys of the lists, and the iteration over the heartbeats, begun or not. -/
theorem Monitored.heartbeats (watched : Monitored state history)
    (looped : (state.loops lockId).queueKeys? = some keys) :
    QueuesFound state history lockId keys ∧
      HeartbeatsSeen state history lockId keys (state.iteration lockId) := by
  -- Where the iteration has not begun, it begins with the keys of now.
  have seen := watched.seen lockId
  unfold Detection.iteration
  cases loops : state.loops lockId with
  | queues iteration => simp [loops, ScanLoops.queueKeys?] at looped
  | heartbeats own iteration =>
    obtain rfl : own = keys := by simpa [loops, ScanLoops.queueKeys?] using looped
    rw [loops] at seen
    refine ⟨seen.1, ?_⟩
    cases iteration with
    | none => exact heartbeats_start
    | some scan => exact seen.2 scan rfl

/-- A page adds to what has been seen. -/
theorem Monitored.page (watched : Monitored state history) {found : List String} {last : Bool}
    (returns : (state.iteration lockId).Returns found last) :
    ((state.loops lockId).page state.processingKeys state.heartbeatKeys found last).Seen state history
      lockId := by
  cases loops : state.loops lockId with
  | queues iteration =>
    have begun := watched.queues (congrArg ScanLoops.queueKeys? loops)
    rw [Detection.iteration, loops] at begun returns
    rw [ScanLoops.page]
    split
    · next ends =>
      -- The last page completes what was there all the time.
      refine ⟨⟨fun key member => ?_, fun worker deserted => ?_⟩, nofun⟩
      · exact begun.ever key (begun.sound.add returns key member)
      · exact returns.2 ends _ (begun.always worker deserted)
    · -- A page before the last one is only remembered.
      rintro _ ⟨⟩
      exact ⟨begun.sound.add returns, begun.ever, begun.always⟩
  | heartbeats keys iteration =>
    obtain ⟨whole, begun⟩ := watched.heartbeats (congrArg ScanLoops.queueKeys? loops)
    rw [Detection.iteration, loops] at begun returns
    refine ⟨whole, ?_⟩
    rintro _ ⟨⟩
    exact ⟨begun.sound.add returns, begun.ever, begun.always, begun.never⟩

/-! ## A step -/

/-- A list that a step of the platform has filled is that of a worker that pops. -/
theorem Platform.step_fills {state next : Platform} {label : Label}
    (stepped : state.step label = some next) (filled : next.store.processing worker ≠ []) :
    state.store.processing worker ≠ [] ∨ ∃ entry, state.effect label = .pop worker entry := by
  obtain ⟨⟨now, lock, same, _⟩, _⟩ := Platform.step_effect stepped
  obtain ⟨entry, member⟩ := List.exists_mem_of_ne_nil _ filled
  rw [same] at member
  -- Only a pop brings an element into a list.
  rcases Effect.processing_arrives member with earlier | pops
  · exact .inl (List.ne_nil_of_mem earlier)
  · exact .inr ⟨entry, pops⟩

/-- Beside the keys, a label answers a SCAN or leaves the loops as they are. -/
theorem Detection.act_cases {mid : Detection} (acted : state.act label = some mid) :
    (∀ worker, mid.platform.store.processing worker ≠ [] →
      state.platform.store.processing worker ≠ [] ∨ state.pops label worker = true) ∧
    (mid.loops = state.loops ∨ ∃ lockId found last, label = .scanPage lockId found last ∧
      mid.loops = (state.withPage lockId found last).loops) := by
  cases label with
  | platform label =>
    -- The detection itself is left to the loops.
    have moved : ∃ platform, state.platform.step label = some platform ∧
        mid = { state with platform } := by
      simp only [act] at acted
      split at acted
      · simp at acted
      · split at acted
        · obtain ⟨platform, stepped, rfl⟩ := Option.map_eq_some_iff.mp acted
          exact ⟨platform, stepped, rfl⟩
        · simp at acted
      · obtain ⟨platform, stepped, rfl⟩ := Option.map_eq_some_iff.mp acted
        exact ⟨platform, stepped, rfl⟩
    obtain ⟨platform, stepped, rfl⟩ := moved
    refine ⟨fun worker filled => ?_, .inl rfl⟩
    refine (Platform.step_fills stepped filled).imp_right fun ⟨entry, pops⟩ => ?_
    simp [Detection.pops, pops]
  | heartbeat worker outcome =>
    simp only [act] at acted
    split at acted
    · simp at acted
    · obtain rfl := Option.some.inj acted
      exact ⟨fun _ filled => .inl filled, .inl rfl⟩
  | heartbeatExpires worker =>
    obtain rfl := Option.some.inj acted
    exact ⟨fun _ filled => .inl filled, .inl rfl⟩
  -- A page fills no list.
  | scanPage lockId found last =>
    simp only [act] at acted
    split at acted
    · split at acted
      · obtain ⟨platform, stepped, rfl⟩ := Option.map_eq_some_iff.mp acted
        refine ⟨fun worker filled => ?_, .inr ⟨lockId, found, _, rfl, rfl⟩⟩
        refine .inl ((Platform.step_fills stepped filled).resolve_right ?_)
        rintro ⟨_, pops⟩
        simp [Platform.effect] at pops
      · obtain rfl := Option.some.inj acted
        exact ⟨fun _ filled => .inl filled, .inr ⟨lockId, found, _, rfl, rfl⟩⟩
    · simp at acted

/-- What the loops have seen stays so once the keys have changed. -/
theorem ScanLoops.Seen.watch {loops : ScanLoops} (seen : loops.Seen state history lockId)
    (looping : loops = .queues none ∨ state.looping lockId label = true)
    (listed : ∀ worker, next.platform.store.processing worker ≠ [] →
      (history.track state label).popped worker = true) :
    (loops.watch next.processingKeys next.heartbeatKeys).Seen next (history.track state label)
      lockId := by
  rcases looping with rfl | looping
  · simp [ScanLoops.watch, ScanLoops.Seen]
  -- What is deserted now was so before, and what beats now did so before.
  have before : ∀ worker, Deserted next (history.track state label) lockId worker →
      Deserted state history lockId worker :=
    fun worker deserted => History.deserted_before looping deserted.1
  have popped : ∀ {key}, OfPopped history key → OfPopped (history.track state label) key := by
    rintro key ⟨worker, popped, same⟩
    exact ⟨worker, History.popped_track popped, same⟩
  cases loops with
  | queues iteration =>
    intro watched isWatched
    obtain ⟨scan, isScan, rfl⟩ := Option.map_eq_some_iff.mp isWatched
    obtain ⟨sound, ever, always⟩ := seen scan isScan
    refine ⟨sound.watch, ?_, fun worker deserted => ⟨always worker (before worker deserted), ?_⟩⟩
    · -- A key that comes meanwhile is that of a worker that has popped.
      rintro key (earlier | ⟨worker, filled, rfl⟩)
      · exact popped (ever key earlier)
      · exact ⟨worker, listed worker filled, rfl⟩
    · have there : next.platform.store.processing worker ≠ [] ∧ next.heartbeats worker = false := by
        simpa [Detection.deserts] using deserted.2
      exact ⟨worker, there.1, rfl⟩
  | heartbeats keys iteration =>
    obtain ⟨⟨found, complete⟩, seen⟩ := seen
    refine ⟨⟨fun key member => popped (found key member),
      fun worker deserted => complete worker (before worker deserted)⟩, ?_⟩
    intro watched isWatched
    obtain ⟨scan, isScan, rfl⟩ := Option.map_eq_some_iff.mp isWatched
    obtain ⟨sound, ever, always, never⟩ := seen scan isScan
    refine ⟨sound.watch, ?_, ?_, ?_⟩
    · rintro key (earlier | ⟨worker, _, rfl⟩)
      · exact ever key earlier
      · exact ⟨worker, rfl⟩
    · -- A worker without a heartbeat would have lapsed.
      intro worker member beating
      obtain ⟨other, popped, same⟩ := found _ member
      obtain rfl := processingKey_inj same
      exact ⟨always worker member (History.beating popped beating.1), worker, beating.2, rfl⟩
    · rintro worker deserted (earlier | ⟨other, beats, same⟩)
      · exact never worker (before worker deserted) earlier
      · obtain rfl := heartbeatKey_inj same
        simp [Deserted, Detection.deserts, beats] at deserted

/-- Every step that Redis allows keeps what the loops have seen. -/
theorem Monitored.step (watched : Monitored state history) (promised : scanGuarantee state label)
    (stepped : detection.step state label = some next) :
    Monitored next (history.track state label) := by
  obtain ⟨mid, acted, rfl⟩ := Option.map_eq_some_iff.mp stepped
  obtain ⟨filled, loops⟩ := Detection.act_cases acted
  have listed : ∀ worker, mid.platform.store.processing worker ≠ [] →
      (history.track state label).popped worker = true := by
    intro worker full
    rcases filled worker full with earlier | pops
    · exact History.popped_track (watched.listed worker earlier)
    · simp [History.track, pops]
  refine ⟨listed, fun lockId => ?_⟩
  -- A page is seen before the keys change, and other loops go on or have not begun.
  have seen : (mid.loops lockId).Seen state history lockId ∧
      (mid.loops lockId = .queues none ∨ state.looping lockId label = true) := by
    have quiet : mid.loops lockId = state.loops lockId → (mid.loops lockId).Seen state history lockId ∧
        (mid.loops lockId = .queues none ∨ state.looping lockId label = true) := by
      intro same
      rw [same]
      refine ⟨watched.seen lockId, (state.loops lockId).begun_cases.imp_right fun begun => ?_⟩
      cases label <;> simp [Detection.looping, begun]
    rcases loops with same | ⟨own, found, last, rfl, same⟩
    · exact quiet (by rw [same])
    · by_cases isOwn : lockId = own
      · subst isOwn
        rw [same]
        refine ⟨?_, .inr (by simp [Detection.looping])⟩
        simpa [Detection.withPage] using watched.page promised
      · exact quiet (by simp [same, Detection.withPage, isOwn])
  exact seen.1.watch seen.2 listed

/-- Nothing has been seen at the start. -/
theorem Monitored.initial : Monitored .initial .initial where
  listed := fun _ filled => absurd rfl filled
  seen := fun _ => nofun

/-! ## The dead workers -/

/-- The last SCAN is followed by the comparison of the two sets. -/
theorem Detection.act_last {found : List String} {mid : Detection}
    (looped : (state.loops lockId).queueKeys? = some keys)
    (acted : state.act (.scanPage lockId found true) = some mid) :
    mid.platform.scans lockId = .recoverAll (deadWorkerIds (keys.map extractWorkerIdFromQueue)
      (((state.iteration lockId).add found).found.map extractWorkerIdFromHeartbeat)) := by
  -- The last page is followed by the comparison of the two sets.
  simp only [act, looped] at acted
  split at acted
  · next detecting =>
    obtain ⟨platform, compared, rfl⟩ := Option.map_eq_some_iff.mp acted
    simp only [Platform.step, detecting] at compared
    obtain rfl := Option.some.inj compared
    simp
  · simp at acted

/-- A worker whose heartbeat was there, if it has popped, is not found dead. -/
theorem QueuesFound.not_dead (whole : QueuesFound state history lockId keys)
    (seen : HeartbeatsSeen state history lockId keys scan) {beating : List String}
    (complete : ∀ key ∈ scan.always, key ∈ beating)
    (kept : history.popped worker = true → Beating state history worker) :
    worker ∉ deadWorkerIds (keys.map extractWorkerIdFromQueue)
      (beating.map extractWorkerIdFromHeartbeat) := by
  -- A list that was found is that of a worker that has popped, whose heartbeat is found then.
  intro dead
  obtain ⟨listed, silent⟩ := List.mem_filter.mp dead
  obtain ⟨key, member, rfl⟩ := List.mem_map.mp (List.mem_eraseDups.mp listed)
  obtain ⟨owner, popped, rfl⟩ := whole.found key member
  rw [extractWorkerIdFromQueue_key] at kept silent
  have beats := complete _ (seen.always owner member (kept popped))
  exact of_decide_eq_true silent (List.mem_map.mpr ⟨_, beats, extractWorkerIdFromHeartbeat_key owner⟩)

/-- A worker that has been deserted is found dead once. -/
theorem QueuesFound.dead_once (whole : QueuesFound state history lockId keys)
    (seen : HeartbeatsSeen state history lockId keys scan) {beating : List String}
    (sound : ∀ key ∈ beating, key ∈ scan.ever) (deserted : Deserted state history lockId worker) :
    (deadWorkerIds (keys.map extractWorkerIdFromQueue)
      (beating.map extractWorkerIdFromHeartbeat)).count worker = 1 := by
  refine List.count_eq_one_of_mem (deadWorkerIds_nodup _ _) (List.mem_filter.mpr ⟨?_, ?_⟩)
  · exact List.mem_eraseDups.mpr (List.mem_map.mpr
      ⟨_, whole.complete worker deserted, extractWorkerIdFromQueue_key worker⟩)
  · -- No heartbeat of the worker has been there, so none was found.
    rw [decide_eq_true_iff]
    intro alive
    obtain ⟨key, member, extracted⟩ := List.mem_map.mp alive
    obtain ⟨owner, rfl⟩ := seen.ever key (sound key member)
    rw [extractWorkerIdFromHeartbeat_key] at extracted
    subst extracted
    exact seen.never owner deserted (sound _ member)

/--
A scan finds the workers that have been deserted under its loops, each of them once.

It finds no worker whose heartbeat was there before its first BRPOPLPUSH and has been there since.
-/
theorem dead_workers_detected {trace : List DetectionLabel} {found : List String}
    {after : Detection × History}
    (run : (detection.tracking History.track).Runs (fun tracked label => scanGuarantee tracked.1 label)
      (.initial, .initial) trace (state, history))
    (looped : (state.loops lockId).queueKeys? = some keys)
    (promised : scanGuarantee state (.scanPage lockId found true))
    (stepped : (detection.tracking History.track).step (state, history) (.scanPage lockId found true) =
      some after) :
    ∃ dead, after.1.platform.scans lockId = .recoverAll dead ∧
      (∀ worker, after.2.lapsed worker = false → worker ∉ dead) ∧
      ∀ worker, after.2.deserted lockId worker = true → dead.count worker = 1 := by
  -- The last SCAN compares what the loops have seen up to then.
  have watched := run.preserves (fun tracked => Monitored tracked.1 tracked.2) .initial
    fun tracked label next watched promised stepped => by
      obtain ⟨moved, same⟩ := Machine.tracking_step.mp stepped
      rw [same]
      exact watched.step promised moved
  obtain ⟨next, history'⟩ := after
  obtain ⟨moved, same⟩ := Machine.tracking_step.mp stepped
  obtain ⟨mid, acted, rfl⟩ := Option.map_eq_some_iff.mp moved
  dsimp only at watched acted same ⊢
  obtain ⟨whole, seen⟩ := watched.heartbeats looped
  refine ⟨_, (Detection.act_last looped acted :), fun worker kept => ?_, fun worker left => ?_⟩
  · rw [same] at kept
    exact whole.not_dead seen (promised.2 rfl) fun popped => History.beating popped kept
  · rw [same] at left
    have deserted := History.deserted_before (by simp [Detection.looping]) left
    exact whole.dead_once seen (seen.sound.add promised) deserted

/-- A label with an answer of Redis that the guarantee is about. -/
def DetectionLabel.asksRedis : DetectionLabel → Bool
  | .scanPage _ _ _ => true
  | .platform _ | .heartbeat _ _ | .heartbeatExpires _ => false

/-- Two workers take up a job each, and one of them dies; a scan acquires the lock. -/
def deathRun : List DetectionLabel :=
  (submission "job" ++ submission "other").map .platform ++
    [.heartbeat "w1" .resolves, .platform (.workerStart "w1"), .platform (.worker "w1" .resolves),
      .heartbeat "w2" .resolves, .platform (.workerStart "w2"), .platform (.worker "w2" .resolves),
      .platform (.workerCrash "w1"), .heartbeatExpires "w1", .platform (.scanStart "s"),
      .platform (.scan "s" .resolves)]

/-- The keys of their lists, of which one is returned twice. -/
def twoLists : List String := [processingKey "w2", processingKey "w1", processingKey "w2"]

/-- What such a run leads to: one worker has a heartbeat, and both have a list. -/
theorem deathRun_reaches : ∃ tracked : Detection × History,
    (detection.tracking History.track).Runs (fun tracked label => scanGuarantee tracked.1 label)
      (.initial, .initial) deathRun tracked ∧
    (∀ key, key ∈ tracked.1.processingKeys ↔
      key = processingKey "w1" ∨ key = processingKey "w2") ∧
    (∀ key ∈ tracked.1.heartbeatKeys, key = heartbeatKey "w2") ∧
    tracked.1.loops "s" = .queues none ∧ tracked.1.platform.scans "s" = .detect ∧
    tracked.2.lapsed "w2" = false ∧ tracked.1.heartbeats "w2" = true ∧
    tracked.2.deserted "s" "w1" = true ∧ tracked.1.deserts "w1" = true := by
  -- The tables are evaluated, and the keys are read off them.
  have executed : ((detection.tracking History.track).guardedRun
      (fun _ label => label.asksRedis = false) (.initial, .initial) deathRun).map (fun tracked =>
        (tracked.1.platform.store.processing, tracked.1.heartbeats, tracked.1.loops "s",
          tracked.1.platform.scans "s", tracked.2.lapsed "w2", tracked.2.deserted "s" "w1")) =
      some (Function.update (Function.update (fun _ => []) "w1" [.payload (submittedPayload "job")])
          "w2" [.payload (submittedPayload "other")],
        Function.update (Function.update (Function.update (fun _ => false) "w1" true) "w2" true)
          "w1" false, .queues none, .detect, false, true) := rfl
  obtain ⟨tracked, run, shown⟩ := Machine.runs_of_guardedRun _ _ _ _ _ _ executed
  obtain ⟨processing, heartbeats, loops, detecting, kept, left⟩ :
      tracked.1.platform.store.processing = _ ∧ tracked.1.heartbeats = _ ∧ tracked.1.loops "s" = _ ∧
        tracked.1.platform.scans "s" = _ ∧ tracked.2.lapsed "w2" = _ ∧
        tracked.2.deserted "s" "w1" = _ := by
    simpa only [Prod.mk.injEq] using shown
  refine ⟨tracked, run.imp fun _ label quiet => ?_, ?_, ?_,
    loops, detecting, kept, by simp [heartbeats], left, by simp [Detection.deserts, processing, heartbeats]⟩
  · cases label <;> trivial
  -- The keys of the lists are read off the table.
  · intro key
    constructor
    · rintro ⟨worker, filled, rfl⟩
      rw [processing] at filled
      by_cases isSecond : worker = "w2"
      · exact .inr (by rw [isSecond])
      · by_cases isFirst : worker = "w1"
        · exact .inl (by rw [isFirst])
        · simp [isFirst, isSecond] at filled
    · rintro (rfl | rfl)
      · exact ⟨"w1", by simp [processing], rfl⟩
      · exact ⟨"w2", by simp [processing], rfl⟩
  · rintro key ⟨worker, beats, rfl⟩
    rw [heartbeats] at beats
    by_cases isFirst : worker = "w1"
    · simp [isFirst] at beats
    · by_cases isSecond : worker = "w2"
      · rw [isSecond]
      · simp [isFirst, isSecond] at beats

/-- The dead worker is found, and the other one is not. -/
theorem dead_workers_detected_example : ∃ state : Detection × History,
    (detection.tracking History.track).Runs (fun tracked label => scanGuarantee tracked.1 label)
      (.initial, .initial)
      (deathRun ++ [.scanPage "s" twoLists true] ++ [.scanPage "s" [heartbeatKey "w2"] true]) state ∧
    ∃ dead, state.1.platform.scans "s" = .recoverAll dead ∧ "w2" ∉ dead ∧ dead.count "w1" = 1 := by
  obtain ⟨⟨state, history⟩, run, lists, beats, loops, detecting, kept, beating, left, deserts⟩ :=
    deathRun_reaches
  dsimp only at lists beats loops detecting kept beating left deserts
  -- The loop over the lists ends with its first page.
  let middle := (state.withPage "s" twoLists true).watch
  have first : (detection.tracking History.track).step (state, history)
      (.scanPage "s" twoLists true) =
        some (middle, History.track state (.scanPage "s" twoLists true) history) := by
    refine Machine.tracking_step.mpr ⟨?_, rfl⟩
    simp [detection, Detection.act, detecting, loops, ScanLoops.queueKeys?, middle]
  -- A page may repeat keys, and has all that stay.
  have promised : scanGuarantee state (.scanPage "s" twoLists true) := by
    rw [scanGuarantee, Detection.iteration, loops]
    refine ⟨fun key member => ?_, fun _ key member => ?_⟩
    · refine (lists key).mpr ?_
      simp only [twoLists, List.mem_cons, List.not_mem_nil, or_false] at member
      rcases member with rfl | rfl | rfl
      · exact .inr rfl
      · exact .inl rfl
      · exact .inr rfl
    · rcases (lists key).mp member with rfl | rfl <;> simp [twoLists]
  have looped : middle.loops "s" = .heartbeats twoLists none := by
    simp [middle, Detection.watch, Detection.withPage, loops, ScanLoops.page, ScanLoops.watch,
      ScanLoops.iteration, CursorScan.add, CursorScan.start]
  have promised' : scanGuarantee middle (.scanPage "s" [heartbeatKey "w2"] true) := by
    rw [scanGuarantee, Detection.iteration, looped]
    refine ⟨fun key member => ?_, fun _ key member => ?_⟩
    · rw [List.mem_singleton] at member
      exact ⟨"w2", beating, member⟩
    · rw [beats key member]
      exact List.mem_singleton_self _
  obtain ⟨after, second⟩ : ∃ after, (detection.tracking History.track).step
      (middle, History.track state (.scanPage "s" twoLists true) history)
      (.scanPage "s" [heartbeatKey "w2"] true) = some after := by
    have still : middle.platform.scans "s" = .detect := detecting
    simp [Machine.tracking, detection, Detection.act, still, looped, ScanLoops.queueKeys?,
      Platform.step]
  -- The second loop ends with the one heartbeat.
  have run' := run.snoc promised first
  obtain ⟨dead, found, spares, finds⟩ :=
    dead_workers_detected run' (by rw [looped]; rfl) promised' second
  refine ⟨after, run'.snoc promised' second, dead, found, spares "w2" ?_, finds "w1" ?_⟩
  · rw [(Machine.tracking_step.mp second).2]
    have still : middle.heartbeats "w2" = true := beating
    simp [History.track, kept, beating, still]
  · rw [(Machine.tracking_step.mp second).2]
    have still : middle.deserts "w1" = true := deserts
    simp [History.track, left, deserts, still]

end CodeExecution

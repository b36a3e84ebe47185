import CodeExecution.Proofs.Stakes

/-! Every call of a handler keeps the platform orderly. -/

namespace CodeExecution

variable {state : Platform} {jobId : JobId} {after : PostPoint × Store}

/-- Where a stake comes from after a handler has moved. -/
theorem Orderly.stake_withPost (processing : after.2.processing = state.store.processing)
    {holder : Holder} {at_ : JobId} {reliance : Reliance}
    (staked : Stake (state.withPost jobId after) holder at_ reliance) :
    (Stake state holder at_ reliance ∧ (at_ ≠ jobId ∨ holder ≠ .handler) ∧ holder ≠ .queue) ∨
    (∃ job, holder = .queue ∧ at_ = job.jobId ∧ reliance = .waiting job.retryCount ∧
      .payload job ∈ after.2.pending) ∨
    (holder = .handler ∧ at_ = jobId ∧ after.1.reliance = some reliance) := by
  -- Only the handler's own point and the pending list can differ.
  cases staked with
  | handler relies =>
    by_cases same : at_ = jobId
    · subst same
      exact .inr (.inr ⟨rfl, rfl, by simpa using relies⟩)
    · exact .inl ⟨.handler (by simpa [same] using relies), .inl same, by simp⟩
  | @queued job member => exact .inr (.inl ⟨job, rfl, rfl, rfl, member⟩)
  | listed member unspent =>
    exact .inl ⟨.listed (by simpa [processing] using member) unspent, .inr (by simp), by simp⟩
  | working running relies => exact .inl ⟨.working running relies, .inr (by simp), by simp⟩
  | recovering recovers relies =>
    exact .inl ⟨.recovering recovers relies, .inr (by simp), by simp⟩

/-- A job without a row is on no list. -/
theorem Orderly.unknown (orderly : Orderly state) (fresh : state.store.recordOf jobId = none) :
    (jobsIn state.store.pending).count jobId = 0 ∧
      ∀ worker, (jobsIn (state.store.processing worker)).count jobId = 0 := by
  -- Queued jobs are PENDING, and listed jobs have rows.
  constructor
  · rw [List.count_eq_zero, mem_jobsIn]
    intro queues
    obtain ⟨job, queued, rfl⟩ := queues
    have waiting : state.store.recordOf job.jobId = some (.pending, job.retryCount) :=
      orderly.sound.relied _ _ _ (.queued queued)
    simp [fresh] at waiting
  · intro worker
    rw [List.count_eq_zero, mem_jobsIn]
    intro lists
    obtain ⟨job, listed, rfl⟩ := lists
    obtain ⟨columns, found⟩ := orderly.listedStored worker job listed
    simp [fresh] at found

/-- Nobody has a stake in a job without a row. -/
theorem Orderly.unstaked (orderly : Orderly state) (fresh : state.store.recordOf jobId = none)
    {holder : Holder} {reliance : Reliance} (staked : Stake state holder jobId reliance) : False := by
  -- Every reliance asks for a row.
  obtain ⟨columns, found⟩ := (orderly.sound.relied _ _ _ staked).stored
  simp [fresh] at found

/-- The parts of orderliness that do not concern custody, after a handler has moved. -/
theorem Orderly.withPost (orderly : Orderly state)
    (sound : Custody.Sound JobRecord.IsOpen Reliance.Holds
      (Stake (state.withPost jobId after)) after.2.recordOf)
    (others : ∀ other, other ≠ jobId → after.2.recordOf other = state.store.recordOf other)
    (rows : after.2.recordOf jobId = none → state.store.recordOf jobId = none)
    (opened : (after.2.recordOf jobId).IsOpen →
      (state.store.recordOf jobId).IsOpen ∨ state.store.recordOf jobId = none)
    (queued : ∀ other, (after.2.recordOf other).IsOpen →
      (jobsIn after.2.pending).count other ≤ 1)
    (closed : (state.store.recordOf jobId).IsClosed →
      (after.2.recordOf jobId).IsClosed)
    (processing : after.2.processing = state.store.processing)
    (locked : after.2.reaperLock = state.store.reaperLock)
    (facts : after.1.Facts (after.2.recordOf jobId) jobId) :
    Orderly (state.withPost jobId after) where
  sound := sound
  queuedOnce := queued
  listedOnce := by
    -- A job that has just been inserted is not listed at all.
    intro worker other isOpen
    simp only [Platform.withPost_store, processing]
    by_cases same : other = jobId
    · subst same
      rcases opened isOpen with isOpen' | fresh
      · exact orderly.listedOnce worker other isOpen'
      · exact ((orderly.unknown fresh).2 worker).le.trans (Nat.zero_le 1)
    · have isOpen' : (state.store.recordOf other).IsOpen := by
        simpa [others other same] using isOpen
      exact orderly.listedOnce worker other isOpen'
  listedStored := by
    -- A row that was there is still there.
    intro worker job member
    have before := orderly.listedStored worker job (by simpa [processing] using member)
    by_cases same : job.jobId = jobId
    · exact JobRecord.stored_of_kept before fun gone => same ▸ rows (same ▸ gone)
    · simpa [others _ same] using before
  ownListed := by simpa [processing] using orderly.ownListed
  absentEmpty := by simpa [processing] using orderly.absentEmpty
  posts := by
    intro other
    by_cases same : other = jobId
    · subst same; simpa using facts
    · simpa [same, others other same] using orderly.posts other
  scans := fun lockId at_ dead rest recovers =>
    have facts := orderly.scans lockId at_ dead rest recovers
    { crashed := facts.crashed
      restCrashed := facts.restCrashed
      snapshot := fun entries snapshot => by simpa [processing] using facts.snapshot entries snapshot
      letterMatches := facts.letterMatches
      rolledBack := by
        intro entries left other member
        have held := facts.rolledBack entries left other member
        by_cases same : other = jobId
        · subst same; exact closed held
        · simpa [others other same] using held }
  locked := fun lockId critical => by simpa [locked] using orderly.locked lockId critical

/-- A move that leaves all jobs alone, and relies on what was relied on or on a closed job. -/
theorem Orderly.post_aside (orderly : Orderly state) (aside : after.2.SameJobs state.store)
    (relies : ∀ reliance, after.1.reliance = some reliance →
      reliance.Holds (state.store.recordOf jobId) ∧
        ((state.store.recordOf jobId).IsOpen → ∃ earlier, (state.posts jobId).reliance = some earlier))
    (facts : after.1.Facts (state.store.recordOf jobId) jobId) :
    Orderly (state.withPost jobId after) := by
  -- All stakes but the handler's own are the old ones.
  refine orderly.withPost ?_ (by simp [aside.recordOf_eq]) (by simp [aside.recordOf_eq])
    (by simpa [aside.recordOf_eq] using Or.inl)
    (by simpa [aside.recordOf_eq, aside.pending] using orderly.queuedOnce)
    (by simp [aside.recordOf_eq]) aside.processing aside.reaperLock (by simpa [aside.recordOf_eq] using facts)
  rw [aside.recordOf_eq]
  refine orderly.sound.retain (fun _ => id) (fun _ _ => id) ?_
  intro holder at_ reliance staked
  rcases Orderly.stake_withPost aside.processing staked with
    ⟨earlier, _⟩ | ⟨job, rfl, rfl, rfl, queued⟩ | ⟨rfl, rfl, relied⟩
  · exact .inl earlier
  · exact .inl (.queued (by simpa [aside.pending] using queued))
  · obtain ⟨held, before⟩ := relies reliance relied
    refine .inr ⟨held, fun isOpen => ?_⟩
    obtain ⟨earlier, relied'⟩ := before isOpen
    exact ⟨earlier, .handler relied'⟩

/-- The insertion makes the handler the only one that knows of the job. -/
theorem Orderly.post_insert (orderly : Orderly state) {payload : QueuePayload}
    (at_ : state.posts jobId = .insert payload) {next : PostPoint}
    (moved : next = .enqueue payload ∨ next = .answered 500) :
    Orderly (state.withPost jobId
      (next, state.store.insertSubmission (submissionRow payload))) := by
  -- The job had no row, so nobody had a stake in it.
  obtain ⟨rfl, fresh, free⟩ : payload.jobId = jobId ∧ payload.retryCount = 0 ∧
      state.store.recordOf jobId = none := by
    simpa [at_, PostPoint.Facts] using orderly.posts jobId
  have inserted : ∀ other, (state.store.insertSubmission (submissionRow payload)).recordOf other =
      if other = payload.jobId then some (.pending, 0) else state.store.recordOf other :=
    Store.recordOf_insertSubmission (submissionRow payload) free
  have found : (state.store.insertSubmission (submissionRow payload)).recordOf payload.jobId =
      some (.pending, 0) := by simp [inserted]
  have others : ∀ other, other ≠ payload.jobId →
      (state.store.insertSubmission (submissionRow payload)).recordOf other =
        state.store.recordOf other := by
    intro other different
    simp [inserted, different]
  refine orderly.withPost ?_ others (by simp [found]) (fun _ => .inr free) ?_
    (fun ⟨_, _, found', _⟩ => by simp [free] at found') rfl rfl ?_
  · refine orderly.sound.handover payload.jobId .handler .handler
      (fun _ _ staked => (orderly.unstaked free staked).elim) others ?_
    intro holder other reliance staked
    rcases Orderly.stake_withPost rfl staked with
      ⟨earlier, away, _⟩ | ⟨job, rfl, rfl, rfl, queued⟩ | ⟨rfl, rfl, relied⟩
    · exact .inl ⟨earlier, away⟩
    · exact .inl ⟨.queued queued, .inr (by simp)⟩
    · rcases moved with rfl | rfl
      · obtain rfl : .waiting 0 = reliance := by simpa [PostPoint.reliance] using relied
        exact .inr (.inl ⟨rfl, rfl, found⟩)
      · simp [PostPoint.reliance] at relied
  · intro other isOpen
    by_cases same : other = payload.jobId
    · subst same
      exact (orderly.unknown free).1.le.trans (Nat.zero_le 1)
    · rw [others other same] at isOpen
      exact orderly.queuedOnce other isOpen
  · rcases moved with rfl | rfl
    · exact ⟨rfl, fresh⟩
    · trivial

/-- The LPUSH of a handler hands the job to the pending list. -/
theorem Orderly.post_enqueue (orderly : Orderly state) {payload : QueuePayload}
    (at_ : state.posts jobId = .enqueue payload) :
    Orderly (state.withPost jobId
      (.depth payload, state.store.pushPending (.payload payload))) := by
  -- The handler alone holds the job, so no copy of it is queued.
  obtain ⟨rfl, fresh⟩ : payload.jobId = jobId ∧ payload.retryCount = 0 := by
    simpa [at_, PostPoint.Facts] using orderly.posts jobId
  have held : Stake state .handler payload.jobId (.waiting 0) := .handler (by simp [at_, PostPoint.reliance])
  have waiting := orderly.sound.relied _ _ _ held
  have isOpen := JobRecord.isOpen_pending waiting
  have sole := orderly.sound.sole isOpen held
  have unqueued := orderly.unqueued isOpen held (by simp)
  refine orderly.withPost ?_ (fun _ _ => rfl) id .inl (orderly.queuedOnce_push unqueued) id rfl rfl
    rfl
  · refine orderly.sound.handover payload.jobId _ .queue sole (fun _ _ => rfl) ?_
    intro holder other reliance staked
    rcases Orderly.stake_withPost rfl staked with
      ⟨earlier, away, _⟩ | ⟨job, rfl, rfl, rfl, queued⟩ | ⟨rfl, rfl, relied⟩
    · exact .inl ⟨earlier, away⟩
    · rcases List.mem_cons.mp queued with pushed | earlier
      · obtain rfl : job = payload := by simpa using pushed
        exact .inr (.inl ⟨rfl, rfl, fresh ▸ waiting⟩)
      · exact .inl ⟨.queued earlier, .inr (by simp)⟩
    · simp [PostPoint.reliance] at relied

/-- The catch block fails a job that is still the handler's own, or that has failed already. -/
theorem Orderly.post_markFailed (orderly : Orderly state) {payload : QueuePayload}
    (at_ : state.posts jobId = .markFailed payload) {next : PostPoint}
    (moved : next = .insertFailure payload ∨ next = .answered 500) :
    Orderly (state.withPost jobId (next, state.store.setStatus payload.jobId .failed)) := by
  -- A PENDING job has the handler as its only holder, and a FAILED one keeps its record.
  obtain rfl : payload.jobId = jobId := by
    simpa [at_, PostPoint.Facts] using orderly.posts jobId
  have held : Stake state .handler payload.jobId .failable :=
    .handler (by simp [at_, PostPoint.reliance])
  obtain ⟨status, retryCount, found, failable⟩ := orderly.sound.relied _ _ _ held
  have failed : (state.store.setStatus payload.jobId .failed).recordOf payload.jobId =
      some (.failed, retryCount) := by simp [found]
  have others : ∀ other, other ≠ payload.jobId →
      (state.store.setStatus payload.jobId .failed).recordOf other =
        state.store.recordOf other := by
    intro other different
    simp [different]
  have closed : ¬ ((state.store.setStatus payload.jobId .failed).recordOf payload.jobId).IsOpen :=
    JobRecord.IsClosed.not_open ⟨.failed, retryCount, failed, rfl⟩
  have carefree : next.reliance = none := by rcases moved with rfl | rfl <;> rfl
  refine orderly.withPost ?_ others (by simp [failed]) (fun isOpen => absurd isOpen closed) ?_
    (fun _ => ⟨.failed, retryCount, failed, rfl⟩) rfl rfl (by rcases moved with rfl | rfl <;> simp [PostPoint.Facts])
  · rcases failable with rfl | rfl
    -- The only holder of a PENDING job gives it up.
    · refine orderly.sound.handover payload.jobId _ .handler
        (orderly.sound.sole (JobRecord.isOpen_pending found) held) others ?_
      intro holder other reliance staked
      rcases Orderly.stake_withPost rfl staked with
        ⟨earlier, away, _⟩ | ⟨job, rfl, rfl, rfl, queued⟩ | ⟨rfl, rfl, relied⟩
      · exact .inl ⟨earlier, away⟩
      · exact .inl ⟨.queued queued, .inr (by simp)⟩
      · simp [carefree] at relied
    -- A job that has FAILED has the same record as before.
    · have same : (state.store.setStatus payload.jobId .failed).recordOf = state.store.recordOf := by
        funext other
        by_cases same : other = payload.jobId
        · rw [same, failed, found]
        · exact others other same
      simp only [same]
      refine orderly.sound.retain (fun _ => id) (fun _ _ => id) ?_
      intro holder other reliance staked
      rcases Orderly.stake_withPost rfl staked with
        ⟨earlier, _⟩ | ⟨job, rfl, rfl, rfl, queued⟩ | ⟨rfl, rfl, relied⟩
      · exact .inl earlier
      · exact .inl (.queued queued)
      · simp [carefree] at relied
  · intro other isOpen
    by_cases same : other = payload.jobId
    · subst same; exact absurd isOpen closed
    · rw [others other same] at isOpen
      exact orderly.queuedOnce other isOpen

/-- A received request gets a handler under a job id that has no row. -/
theorem Orderly.post_receive (orderly : Orderly state) (idle : state.posts jobId = .idle)
    (code : ClientText) (language : Language) (userId : Option ClientText) (now : Timestamp) :
    Orderly (state.withPost jobId (receivePost jobId code language userId now, state.store)) := by
  -- The handler relies on nothing before it has inserted the row.
  have free : state.store.recordOf jobId = none := by
    simpa [idle, PostPoint.Facts] using orderly.posts jobId
  exact orderly.post_aside (.refl _) (by simp [receivePost, PostPoint.reliance]) ⟨rfl, rfl, free⟩

/-- A handler that stops halfway gives up its stake. -/
theorem Orderly.post_stops (orderly : Orderly state) {point : PostPoint}
    (stopped : point = .crashed ∨ ∃ code, point = .answered code) :
    Orderly (state.withPost jobId (point, state.store)) := by
  -- Neither end of a handler relies on anything.
  rcases stopped with rfl | ⟨code, rfl⟩
  · exact orderly.post_aside (.refl _) (by simp [PostPoint.reliance]) trivial
  · exact orderly.post_aside (.refl _) (by simp [PostPoint.reliance]) trivial

/-- A call of a handler that resolves keeps the platform orderly. -/
theorem Orderly.post_resolves (orderly : Orderly state)
    (resolved : (state.posts jobId).resolve state.store = some after) :
    Orderly (state.withPost jobId after) := by
  -- The cases follow the handler's program, one call each.
  generalize at_ : state.posts jobId = point at resolved
  obtain ⟨next, later⟩ := after
  cases PostPoint.resolve_cases resolved with
  | insert => exact orderly.post_insert at_ (.inl rfl)
  | enqueue => exact orderly.post_enqueue at_
  | depth => exact orderly.post_stops (.inr ⟨201, rfl⟩)
  | markFailed => exact orderly.post_markFailed at_ (.inl rfl)
  | insertFailure =>
    exact orderly.post_aside (state.store.upsertResult_sameJobs _ _)
      (by simp [PostPoint.reliance]) trivial

/-- A call of a handler that rejects keeps the platform orderly, where this is clean. -/
theorem Orderly.post_rejects (orderly : Orderly state)
    (clean : cleanFailure state (.gateway jobId (.rejects false)) = true) {next : PostPoint}
    (handled : (state.posts jobId).handler = some next) :
    Orderly (state.withPost jobId (next, state.store)) := by
  -- The catch block is entered with a job that is still the handler's, or has failed already.
  simp only [cleanFailure] at clean
  generalize at_ : state.posts jobId = point at handled clean
  cases point with
  | idle | answered code | crashed => simp [PostPoint.handler] at handled
  | insert payload | markFailed payload | insertFailure payload =>
    obtain rfl := Option.some.inj handled
    exact orderly.post_stops (.inr ⟨500, rfl⟩)
  | enqueue payload =>
    obtain rfl := Option.some.inj handled
    obtain ⟨same, fresh⟩ : payload.jobId = jobId ∧ payload.retryCount = 0 := by
      simpa [at_, PostPoint.Facts] using orderly.posts jobId
    have relied : (state.posts jobId).reliance = some (.waiting 0) := by
      simp [at_, PostPoint.reliance]
    have waiting := orderly.sound.relied _ _ _ (.handler relied)
    refine orderly.post_aside (.refl _) ?_ same
    intro reliance relies
    obtain rfl : .failable = reliance := by simpa [PostPoint.reliance] using relies
    exact ⟨⟨_, _, waiting, .inl rfl⟩, fun _ => ⟨_, relied⟩⟩
  | depth payload =>
    obtain rfl := Option.some.inj handled
    have same : payload.jobId = jobId := by
      simpa [at_, PostPoint.Facts] using orderly.posts jobId
    have failed : state.store.statusOf jobId = some .failed := by simpa using clean
    rw [Store.statusOf_eq] at failed
    obtain ⟨⟨status, retryCount⟩, found, rfl⟩ := Option.map_eq_some_iff.mp failed
    refine orderly.post_aside (.refl _) ?_ same
    intro reliance relies
    obtain rfl : .failable = reliance := by simpa [PostPoint.reliance] using relies
    have closed : (state.store.recordOf jobId).IsClosed := ⟨_, _, found, rfl⟩
    exact ⟨⟨_, _, found, .inr rfl⟩, fun isOpen => absurd isOpen closed.not_open⟩

/-- A call of a handler whose reply is lost keeps the platform orderly, where this is clean. -/
theorem Orderly.post_loses (orderly : Orderly state)
    (clean : cleanFailure state (.gateway jobId (.rejects true)) = true)
    (resolved : (state.posts jobId).resolve state.store = some after) {next : PostPoint}
    (handled : (state.posts jobId).handler = some next) :
    Orderly (state.withPost jobId (next, after.2)) := by
  -- Only the insertion and the two writes of the catch block can be lost cleanly.
  simp only [cleanFailure] at clean
  generalize at_ : state.posts jobId = point at resolved clean
  obtain ⟨_, later⟩ := after
  cases PostPoint.resolve_cases resolved with
  | insert =>
    obtain rfl : .answered 500 = next := by simpa [at_, PostPoint.handler] using handled
    exact orderly.post_insert at_ (.inr rfl)
  | enqueue => simp at clean
  | depth =>
    refine orderly.post_rejects ?_ handled
    simpa [cleanFailure, at_] using clean
  | markFailed =>
    obtain rfl : .answered 500 = next := by simpa [at_, PostPoint.handler] using handled
    exact orderly.post_markFailed at_ (.inr rfl)
  | insertFailure =>
    obtain rfl : .answered 500 = next := by simpa [at_, PostPoint.handler] using handled
    exact orderly.post_aside (state.store.upsertResult_sameJobs _ _)
      (by simp [PostPoint.reliance]) trivial

/-- Any call of a handler keeps the platform orderly, unless it fails in an unclean way. -/
theorem Orderly.post_call (orderly : Orderly state) {outcome : CallOutcome}
    (clean : cleanFailure state (.gateway jobId outcome) = true)
    (went : awaitCall outcome ((state.posts jobId).resolve state.store)
      (state.posts jobId).handler state.store = some after) :
    Orderly (state.withPost jobId after) := by
  -- The call resolves, rejects without effect, or rejects after its effect.
  rcases awaitCall_cases went with ⟨rfl, resolved⟩ | ⟨rfl, next, handled, rfl⟩ |
    ⟨rfl, reply, next, resolved, handled, rfl⟩
  · exact orderly.post_resolves resolved
  · exact orderly.post_rejects clean handled
  · exact orderly.post_loses clean resolved handled

end CodeExecution

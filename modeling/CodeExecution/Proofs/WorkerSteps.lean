import CodeExecution.Proofs.Stakes

/-! Every call of a worker keeps the platform orderly. -/

namespace CodeExecution

variable {state : Platform} {worker : WorkerId} {point : WorkerPoint}
  {after : WorkerPoint × Store}

/-- A running worker's elements are spent only by its own program point. -/
theorem Orderly.spent_of_running (orderly : Orderly state)
    (running : state.workers worker = .running point) {jobId : JobId} :
    Spent state worker jobId ↔ point.spentJob? = some jobId := by
  -- Recoveries act for crashed workers only.
  constructor
  · intro spent
    rcases spent with ⟨other, running', spent⟩ | ⟨lockId, _, rest, recovers, _⟩
    · obtain rfl : other = point := by simpa [running'] using running
      exact spent
    · have crashed := (orderly.scans lockId _ _ _ recovers).crashed
      simp [running] at crashed
  · exact fun spent => .inl ⟨point, running, spent⟩

/-- Where a stake comes from after a worker has moved. -/
theorem Orderly.stake_withWorker (orderly : Orderly state)
    (running : state.workers worker = .running point)
    (elsewhere : ∀ other, other ≠ worker →
      after.2.processing other = state.store.processing other)
    {holder : Holder} {jobId : JobId} {reliance : Reliance}
    (staked : Stake (state.withWorker worker after) holder jobId reliance) :
    (Stake state holder jobId reliance ∧ holder ≠ .worker worker ∧ holder ≠ .queue) ∨
    (∃ job, holder = .queue ∧ jobId = job.jobId ∧ reliance = .waiting job.retryCount ∧
      .payload job ∈ after.2.pending) ∨
    (∃ job, holder = .worker worker ∧ jobId = job.jobId ∧ reliance = .stored ∧
      .payload job ∈ after.2.processing worker ∧ after.1.spentJob? ≠ some job.jobId) ∨
    (holder = .worker worker ∧ after.1.reliance = some (jobId, reliance)) := by
  -- Only the worker's own point, its own list and the pending list can differ.
  cases staked with
  | handler relies => exact .inl ⟨.handler relies, by simp, by simp⟩
  | @queued job member => exact .inr (.inl ⟨job, rfl, rfl, rfl, member⟩)
  | @listed owner job member unspent =>
    by_cases same : owner = worker
    · subst same
      refine .inr (.inr (.inl ⟨job, rfl, rfl, rfl, member, fun spent => unspent ?_⟩))
      exact .inl ⟨after.1, by simp, spent⟩
    · refine .inl ⟨.listed ?_ fun spent => unspent ?_, by simpa using same, by simp⟩
      · simpa [elsewhere owner same] using member
      · simpa [Spent, same] using spent
  | @working owner at_ _ _ running' relies =>
    by_cases same : owner = worker
    · subst same
      obtain rfl : after.1 = at_ := by simpa using running'
      exact .inr (.inr (.inr ⟨rfl, relies⟩))
    · exact .inl ⟨.working (by simpa [same] using running') relies, by simpa using same, by simp⟩
  | @recovering lockId at_ owner rest _ _ recovers relies =>
    -- The worker that moved is running, so no recovery acts for it.
    have crashed := (orderly.scans lockId _ _ _ recovers).crashed
    have other : owner ≠ worker := fun same => by simp [same, running] at crashed
    exact .inl ⟨.recovering recovers relies, by simpa using other, by simp⟩

/-- The parts of orderliness that do not concern custody, after a worker has moved. -/
theorem Orderly.withWorker (orderly : Orderly state)
    (running : state.workers worker = .running point)
    (sound : Custody.Sound JobRecord.IsOpen Reliance.Holds
      (Stake (state.withWorker worker after)) after.2.recordOf)
    (rows : ∀ jobId, after.2.recordOf jobId = none ↔ state.store.recordOf jobId = none)
    (queued : ∀ jobId, (after.2.recordOf jobId).IsOpen →
      (jobsIn after.2.pending).count jobId ≤ 1)
    (opened : ∀ jobId, (after.2.recordOf jobId).IsOpen → (state.store.recordOf jobId).IsOpen)
    (closed : ∀ jobId, (state.store.recordOf jobId).IsClosed →
      (after.2.recordOf jobId).IsClosed)
    (listed : ∀ jobId, (after.2.recordOf jobId).IsOpen →
      (jobsIn (after.2.processing worker)).count jobId ≤ 1)
    (stored : ∀ job, .payload job ∈ after.2.processing worker →
      ∃ columns, state.store.recordOf job.jobId = some columns)
    (elsewhere : ∀ other, other ≠ worker →
      after.2.processing other = state.store.processing other)
    (locked : after.2.reaperLock = state.store.reaperLock)
    (own : ∀ job, after.1.listed? = some job → .payload job ∈ after.2.processing worker) :
    Orderly (state.withWorker worker after) where
  sound := sound
  queuedOnce := queued
  listedOnce := by
    -- Only the worker's own list can have changed.
    intro other jobId isOpen
    by_cases same : other = worker
    · subst same; exact listed jobId isOpen
    · simpa [elsewhere other same] using orderly.listedOnce other jobId (opened jobId isOpen)
  listedStored := by
    -- A row that was there is still there.
    intro other job member
    have before : ∃ columns, state.store.recordOf job.jobId = some columns := by
      by_cases same : other = worker
      · subst same; exact stored job member
      · exact orderly.listedStored other job (by simpa [elsewhere other same] using member)
    exact JobRecord.stored_of_kept before (rows job.jobId).mp
  ownListed := by
    intro other at_ job running' isListed
    by_cases same : other = worker
    · subst same
      obtain rfl : after.1 = at_ := by simpa using running'
      exact own job isListed
    · simpa [elsewhere other same] using
        orderly.ownListed other at_ job (by simpa [same] using running') isListed
  absentEmpty := by
    intro other absent
    by_cases same : other = worker
    · subst same; simp at absent
    · simpa [elsewhere other same] using
        orderly.absentEmpty other (by simpa [same] using absent)
  posts := by
    -- Workers never insert rows.
    intro jobId
    exact (orderly.posts jobId).of_rows (rows jobId)
  scans := by
    -- The worker that moved is running, so it is not a dead worker of any scan.
    intro lockId at_ dead rest recovers
    have facts := orderly.scans lockId at_ dead rest recovers
    have notDead : ∀ other, state.workers other = .crashed → other ≠ worker := by
      intro other crashed same
      simp [same, running] at crashed
    exact {
      crashed := by simpa [notDead dead facts.crashed] using facts.crashed
      restCrashed := fun other member => by
        simpa [notDead other (facts.restCrashed other member)] using facts.restCrashed other member
      snapshot := fun entries snapshot => by
        simpa [elsewhere dead (notDead dead facts.crashed)] using facts.snapshot entries snapshot
      letterMatches := facts.letterMatches
      rolledBack := fun entries left jobId member =>
        closed jobId (facts.rolledBack entries left jobId member) }
  locked := fun lockId critical => by
    simpa [locked] using orderly.locked lockId critical

/-! ## The kinds of moves a worker makes -/

/-- A move that changes no row and adds no payload to a list. -/
theorem Orderly.worker_quiet (orderly : Orderly state)
    (running : state.workers worker = .running point) (spends : point.spentJob? = none)
    (records : after.2.recordOf = state.store.recordOf)
    (pending : Thinner after.2.pending state.store.pending)
    (processing : Thinner (after.2.processing worker) (state.store.processing worker))
    (elsewhere : ∀ other, other ≠ worker →
      after.2.processing other = state.store.processing other)
    (locked : after.2.reaperLock = state.store.reaperLock)
    (relies : ∀ jobId reliance, after.1.reliance = some (jobId, reliance) →
      reliance.Holds (state.store.recordOf jobId) ∧
        ∃ earlier, point.reliance = some (jobId, earlier))
    (own : ∀ job, after.1.listed? = some job → .payload job ∈ after.2.processing worker) :
    Orderly (state.withWorker worker after) := by
  -- Every stake was there before, or restates the stake of the old point.
  refine orderly.withWorker running ?_ (by simp [records]) ?_ (by simp [records])
    (by simp [records]) ?_
    (fun job member => orderly.listedStored worker job (processing.payloads job member))
    elsewhere locked own
  · rw [records]
    refine orderly.sound.retain (fun _ => id) (fun _ _ => id) ?_
    intro holder jobId reliance staked
    rcases orderly.stake_withWorker running elsewhere staked with
      ⟨earlier, _⟩ | ⟨job, rfl, rfl, rfl, member⟩ | ⟨job, rfl, rfl, rfl, member, _⟩ | ⟨rfl, relied⟩
    · exact .inl earlier
    · exact .inl (.queued (pending.payloads job member))
    · refine .inl (.listed (processing.payloads job member) ?_)
      simp [orderly.spent_of_running running, spends]
    · obtain ⟨held, earlier, relied⟩ := relies jobId reliance relied
      exact .inr ⟨held, fun _ => ⟨earlier, .working running relied⟩⟩
  · intro jobId isOpen
    rw [records] at isOpen
    exact Nat.le_trans (pending.counts jobId) (orderly.queuedOnce jobId isOpen)
  · intro jobId isOpen
    rw [records] at isOpen
    exact Nat.le_trans (processing.counts jobId) (orderly.listedOnce worker jobId isOpen)

/-- A move that rewrites the row of the worker's own open job. -/
theorem Orderly.worker_write (orderly : Orderly state)
    (running : state.workers worker = .running point) (spends : point.spentJob? = none)
    {jobId : JobId} {reliance : Reliance} (relied : point.reliance = some (jobId, reliance))
    (isOpen : (state.store.recordOf jobId).IsOpen)
    (records : ∀ other, other ≠ jobId → after.2.recordOf other = state.store.recordOf other)
    (stored : ∃ columns, after.2.recordOf jobId = some columns)
    (pending : after.2.pending = state.store.pending)
    (processing : after.2.processing = state.store.processing)
    (locked : after.2.reaperLock = state.store.reaperLock)
    (relies : ∀ other reliance, after.1.reliance = some (other, reliance) →
      other = jobId ∧ reliance.Holds (after.2.recordOf jobId))
    (own : ∀ job, after.1.listed? = some job → point.listed? = some job) :
    Orderly (state.withWorker worker after) := by
  -- The worker holds the job before and after, and nobody else does.
  have sole := orderly.sound.sole isOpen (.working running relied)
  have opened := opened_of_written isOpen records
  have elsewhere : ∀ other, other ≠ worker →
      after.2.processing other = state.store.processing other := by simp [processing]
  refine orderly.withWorker running ?_ (rows_of_written isOpen stored records) ?_ opened ?_ ?_ ?_
    elsewhere locked ?_
  · refine orderly.sound.handover jobId _ (.worker worker) sole records ?_
    intro holder at_ relied' staked
    rcases orderly.stake_withWorker running elsewhere staked with
      ⟨earlier, other, _⟩ | ⟨job, rfl, rfl, rfl, member⟩ | ⟨job, rfl, rfl, rfl, member, _⟩ |
      ⟨rfl, restated⟩
    · exact .inl ⟨earlier, .inr other⟩
    · exact .inl ⟨.queued (by simpa [pending] using member), .inr (by simp)⟩
    · by_cases same : job.jobId = jobId
      · exact .inr (.inl ⟨same, rfl, same ▸ stored⟩)
      · refine .inl ⟨.listed (by simpa [processing] using member) ?_, .inl same⟩
        simp [orderly.spent_of_running running, spends]
    · obtain ⟨rfl, held⟩ := relies at_ relied' restated
      exact .inr (.inl ⟨rfl, rfl, held⟩)
  · intro other isOpen'
    simpa [pending] using orderly.queuedOnce other (opened other isOpen')
  · intro other closed
    rwa [records other fun same => closed.not_open (same ▸ isOpen)]
  · intro other isOpen'
    simpa [processing] using orderly.listedOnce worker other (opened other isOpen')
  · intro job member
    exact orderly.listedStored worker job (by simpa [processing] using member)
  · intro job isListed
    simpa [processing] using orderly.ownListed worker point job running (own job isListed)

/-- BRPOPLPUSH hands the rightmost pending job to the worker. -/
theorem Orderly.worker_pop (orderly : Orderly state)
    (running : state.workers worker = .running .pop) {job : QueuePayload}
    (last : state.store.pending.getLast? = some (.payload job)) {next : WorkerPoint}
    (moved : next = .claim job ∨ next = .pop) :
    Orderly (state.withWorker worker
      (next, state.store.moveToProcessing worker (.payload job))) := by
  -- The pending list is the moved job behind everything that stays.
  have split : state.store.pending = state.store.pending.dropLast ++ [.payload job] := by
    obtain ⟨front, whole⟩ := List.getLast?_eq_some_iff.mp last
    simp [whole]
  have member : .payload job ∈ state.store.pending := List.mem_of_getLast? last
  have waiting := orderly.sound.relied _ _ _ (.queued member)
  have isOpen := JobRecord.isOpen_pending waiting
  have sole := orderly.sound.sole isOpen (.queued member)
  -- The job is queued once and listed nowhere, so the move leaves one copy.
  have unqueued : (jobsIn state.store.pending.dropLast).count job.jobId = 0 := by
    have once := orderly.queuedOnce job.jobId isOpen
    rw [split, jobsIn_append, List.count_append] at once
    simp only [jobsIn_payload, jobsIn_nil, List.count_singleton_self] at once
    omega
  have unlisted : (jobsIn (state.store.processing worker)).count job.jobId = 0 := by
    rw [List.count_eq_zero, mem_jobsIn]
    intro lists
    obtain ⟨other, isListed, same⟩ := lists
    have staked : Stake state (.worker worker) other.jobId .stored :=
      .listed isListed (by simp [orderly.spent_of_running running, WorkerPoint.spentJob?])
    exact absurd (sole _ _ (same ▸ staked)) (by simp)
  have elsewhere : ∀ other, other ≠ worker →
      (state.store.moveToProcessing worker (.payload job)).processing other =
        state.store.processing other := by
    intro other different
    simp [Store.moveToProcessing, different]
  have own : ∀ queued, next.listed? = some queued → queued = job := by
    rcases moved with rfl | rfl <;> simp [WorkerPoint.listed?, eq_comm]
  refine orderly.withWorker running ?_ (fun _ => Iff.rfl) ?_ (fun _ => id) (fun _ => id) ?_ ?_
    elsewhere rfl ?_
  · refine orderly.sound.handover job.jobId _ (.worker worker) sole
      (fun _ _ => rfl) ?_
    intro holder jobId reliance staked
    -- The stake of the queue goes over to the worker.
    rcases orderly.stake_withWorker running elsewhere staked with
      ⟨earlier, _, notQueue⟩ | ⟨other, rfl, rfl, rfl, queued⟩ | ⟨other, rfl, rfl, rfl, listed, _⟩ |
      ⟨rfl, relied⟩
    · exact .inl ⟨earlier, .inr notQueue⟩
    · have different : other.jobId ≠ job.jobId := fun same =>
        List.count_eq_zero.mp unqueued (mem_jobsIn.mpr ⟨other, queued, same⟩)
      exact .inl ⟨.queued (List.dropLast_subset _ queued), .inl different⟩
    · by_cases same : other.jobId = job.jobId
      · exact .inr (.inl ⟨same, rfl, ⟨_, waiting⟩⟩)
      · have earlier : .payload other ∈ state.store.processing worker := by
          have different : other ≠ job := fun equal => same (by rw [equal])
          simpa [Store.moveToProcessing, different] using listed
        refine .inl ⟨.listed earlier ?_, .inl same⟩
        simp [orderly.spent_of_running running, WorkerPoint.spentJob?]
    · rcases moved with rfl | rfl
      · obtain ⟨rfl, rfl⟩ : job.jobId = jobId ∧ .waiting job.retryCount = reliance := by
          simpa [WorkerPoint.reliance] using relied
        exact .inr (.inl ⟨rfl, rfl, waiting⟩)
      · simp [WorkerPoint.reliance] at relied
  · intro jobId isOpen'
    exact Nat.le_trans ((List.dropLast_sublist _).filterMap Entry.jobId? |>.count_le jobId)
      (orderly.queuedOnce jobId isOpen')
  · intro jobId isOpen'
    have once := orderly.listedOnce worker jobId isOpen'
    by_cases same : job.jobId = jobId
    · subst same
      simp [Store.moveToProcessing, unlisted]
    · simpa [Store.moveToProcessing, List.count_cons, same] using once
  · intro other isListed
    by_cases same : other = job
    · subst same; exact ⟨_, waiting⟩
    · refine orderly.listedStored worker other ?_
      simpa [Store.moveToProcessing, same] using isListed
  · intro queued isListed
    simp [own queued isListed, Store.moveToProcessing]

/-- The LPUSH of a requeue hands the job to the pending list, and spends the old element. -/
theorem Orderly.worker_push (orderly : Orderly state) {job : QueuePayload}
    (running : state.workers worker = .running (.requeue .push job)) :
    Orderly (state.withWorker worker (.requeue .remove job,
      state.store.pushPending (.payload (job.withRetry (job.retryCount + 1))))) := by
  -- The worker alone holds the job, so no copy of it is queued.
  have held : Stake state (.worker worker) job.jobId (.waiting (job.retryCount + 1)) :=
    .working running rfl
  have waiting := orderly.sound.relied _ _ _ held
  have isOpen := JobRecord.isOpen_pending waiting
  have sole := orderly.sound.sole isOpen held
  have unqueued := orderly.unqueued isOpen held (by simp)
  refine orderly.withWorker running ?_ (fun _ => Iff.rfl) (orderly.queuedOnce_push unqueued)
    (fun _ => id) (fun _ => id) (fun jobId => orderly.listedOnce worker jobId)
    (fun other => orderly.listedStored worker other) (fun _ _ => rfl) rfl ?_
  · refine orderly.sound.handover job.jobId _ .queue sole (fun _ _ => rfl) ?_
    intro holder jobId reliance staked
    rcases orderly.stake_withWorker running (fun _ _ => rfl) staked with
      ⟨earlier, other, _⟩ | ⟨other, rfl, rfl, rfl, queued⟩ |
      ⟨other, rfl, rfl, rfl, listed, unspent⟩ | ⟨rfl, relied⟩
    · exact .inl ⟨earlier, .inr other⟩
    · rcases List.mem_cons.mp queued with pushed | earlier
      · obtain rfl : other = job.withRetry (job.retryCount + 1) := by simpa using pushed
        exact .inr (.inl ⟨rfl, rfl, waiting⟩)
      · exact .inl ⟨.queued earlier, .inr (by simp)⟩
    · have different : other.jobId ≠ job.jobId := fun same =>
        unspent (by simp [WorkerPoint.spentJob?, same])
      refine .inl ⟨.listed listed ?_, .inl different⟩
      simp [orderly.spent_of_running running, WorkerPoint.spentJob?]
    · simp [WorkerPoint.reliance] at relied
  · intro other isListed
    obtain rfl : job = other := by simpa [WorkerPoint.listed?] using isListed
    exact orderly.ownListed worker _ job running rfl

/-- A requeued job's old element goes away, or stays behind once the job is over. -/
theorem Orderly.worker_remove (orderly : Orderly state) {job : QueuePayload} {store : Store}
    (running : state.workers worker = .running (.requeue .remove job))
    (removed : store = state.store.removeProcessing worker (.payload job) ∨
      (store = state.store ∧ ¬ (state.store.recordOf job.jobId).IsOpen)) :
    Orderly (state.withWorker worker (.pop, store)) := by
  -- Either way no element of the job is left while the job is open.
  have member := orderly.ownListed worker _ job running rfl
  have thinner : Thinner (store.processing worker) (state.store.processing worker) := by
    rcases removed with rfl | ⟨rfl, _⟩
    · exact .of_sublist (by simpa [Store.removeProcessing] using List.erase_sublist)
    · exact .refl _
  have gone : (state.store.recordOf job.jobId).IsOpen →
      (jobsIn (store.processing worker)).count job.jobId = 0 := by
    intro isOpen
    rcases removed with rfl | ⟨rfl, closed⟩
    · have once := orderly.listedOnce worker job.jobId isOpen
      have counted := count_jobsIn_erase member job.jobId
      simp only [if_true] at counted
      simp only [Store.removeProcessing, Function.update_self]
      omega
    · exact absurd isOpen closed
  have pending : store.pending = state.store.pending := by
    rcases removed with rfl | ⟨rfl, _⟩ <;> rfl
  have records : store.recordOf = state.store.recordOf := by
    rcases removed with rfl | ⟨rfl, _⟩ <;> rfl
  have elsewhere : ∀ other, other ≠ worker →
      store.processing other = state.store.processing other := by
    intro other different
    rcases removed with rfl | ⟨rfl, _⟩
    · simp [Store.removeProcessing, different]
    · rfl
  have locked : store.reaperLock = state.store.reaperLock := by
    rcases removed with rfl | ⟨rfl, _⟩ <;> rfl
  refine orderly.withWorker running ?_ (by simp [records]) ?_ (by simp [records])
    (by simp [records]) ?_ (fun other listed => orderly.listedStored worker other (thinner.payloads other listed))
    elsewhere locked (by simp [WorkerPoint.listed?])
  -- Nobody gets a stake by it.
  · show Custody.Sound _ _ _ store.recordOf
    rw [records]
    refine orderly.sound.retain (fun _ => id) (fun _ _ => id) ?_
    intro holder jobId reliance staked
    rcases orderly.stake_withWorker running elsewhere staked with
      ⟨earlier, _⟩ | ⟨other, rfl, rfl, rfl, queued⟩ | ⟨other, rfl, rfl, rfl, listed, _⟩ |
      ⟨rfl, relied⟩
    · exact .inl earlier
    · exact .inl (.queued (by simpa [pending] using queued))
    · by_cases same : other.jobId = job.jobId
      · refine .inr ⟨orderly.listedStored worker other (thinner.payloads other listed), ?_⟩
        intro isOpen
        exact absurd (mem_jobsIn.mpr ⟨other, listed, same⟩)
          (List.count_eq_zero.mp (gone (same ▸ isOpen)))
      · refine .inl (.listed (thinner.payloads other listed) ?_)
        simpa [orderly.spent_of_running running, WorkerPoint.spentJob?] using Ne.symm same
    · simp [WorkerPoint.reliance] at relied
  · intro jobId isOpen
    simp only [records] at isOpen
    simpa [pending] using orderly.queuedOnce jobId isOpen
  · intro jobId isOpen
    simp only [records] at isOpen
    exact Nat.le_trans (thinner.counts jobId) (orderly.listedOnce worker jobId isOpen)

/-- A move that leaves the store alone and relies on no more than before. -/
theorem Orderly.worker_stay (orderly : Orderly state)
    (running : state.workers worker = .running point) (spends : point.spentJob? = none)
    {next : WorkerPoint}
    (relies : ∀ jobId reliance, next.reliance = some (jobId, reliance) →
      ∃ earlier, point.reliance = some (jobId, earlier) ∧
        ∀ record, earlier.Holds record → reliance.Holds record)
    (own : ∀ job, next.listed? = some job → point.listed? = some job) :
    Orderly (state.withWorker worker (next, state.store)) := by
  -- The new reliance follows from the old one, which holds.
  refine orderly.worker_quiet running spends rfl (.refl _) (.refl _) (fun _ _ => rfl) rfl ?_
    fun job listed => orderly.ownListed worker point job running (own job listed)
  intro jobId reliance relied
  obtain ⟨earlier, reliedBefore, weaker⟩ := relies jobId reliance relied
  exact ⟨weaker _ (orderly.sound.relied _ _ _ (.working running reliedBefore)),
    earlier, reliedBefore⟩

/-! ## The retry path's entry -/

@[simp] theorem requeueWithBackoff_reliance (job : QueuePayload) :
    (requeueWithBackoff job).reliance = some (job.jobId, .active) := by
  -- Both branches start on an open job.
  unfold requeueWithBackoff
  split <;> rfl

@[simp] theorem requeueWithBackoff_listed (job : QueuePayload) :
    (requeueWithBackoff job).listed? = some job := by
  -- Neither branch has removed the element yet.
  unfold requeueWithBackoff
  split <;> rfl

/-- A failed claim, statement or sandbox leads into the retry path. -/
theorem Orderly.worker_retry (orderly : Orderly state)
    (running : state.workers worker = .running point) (spends : point.spentJob? = none)
    {job : QueuePayload} {reliance : Reliance}
    (relied : point.reliance = some (job.jobId, reliance))
    (open_ : ∀ record, reliance.Holds record → record.IsOpen)
    (listed : point.listed? = some job) :
    Orderly (state.withWorker worker (requeueWithBackoff job, state.store)) := by
  -- The retry path relies on an open job in the worker's own list.
  refine orderly.worker_stay running spends ?_ ?_
  · intro jobId reliance' relied'
    obtain ⟨rfl, rfl⟩ : job.jobId = jobId ∧ .active = reliance' := by simpa using relied'
    exact ⟨reliance, relied, open_⟩
  · intro other isListed
    obtain rfl : job = other := by simpa using isListed
    exact listed

/-- A move to a point that needs nothing. -/
theorem Orderly.worker_idle (orderly : Orderly state)
    (running : state.workers worker = .running point) (spends : point.spentJob? = none)
    {next : WorkerPoint} (carefree : next.reliance = none) (unlisted : next.listed? = none) :
    Orderly (state.withWorker worker (next, state.store)) :=
  -- There is no new reliance and no own element to account for.
  orderly.worker_stay running spends (by simp [carefree]) (by simp [unlisted])

/-! ## Every call of a worker -/

/-- The points behind a rejected claim are never reached. -/
theorem Orderly.worker_possible (orderly : Orderly state)
    (running : state.workers worker = .running point) {jobId : JobId}
    (relied : point.reliance = some (jobId, .impossible)) : False :=
  -- No row satisfies the reliance.
  orderly.sound.relied _ _ _ (.working running relied)

/-- A worker that stores its claim finds the row PENDING. -/
theorem Orderly.worker_claims (orderly : Orderly state) {job : QueuePayload}
    (running : state.workers worker = .running (.claim job)) :
    (state.store.claimable job.jobId).length = 1 := by
  -- The worker relies on a PENDING row.
  have waiting := orderly.sound.relied _ _ _ (.working running rfl)
  rw [Store.claimable_length, Store.statusOf_eq, show state.store.recordOf job.jobId = _ from waiting]
  rfl

/-- The claim turns the worker's job into a RUNNING one, whether or not the reply arrives. -/
theorem Orderly.worker_claim (orderly : Orderly state) {job : QueuePayload}
    (running : state.workers worker = .running (.claim job)) {next : WorkerPoint}
    (moved : next = .launch job ∨ next = requeueWithBackoff job) :
    Orderly (state.withWorker worker (next, state.store.claim job.jobId)) := by
  -- Both continuations rely on an open job that is still in the worker's list.
  have waiting : state.store.recordOf job.jobId = some (.pending, job.retryCount) :=
    orderly.sound.relied _ _ _ (.working running rfl)
  have claimed : (state.store.claim job.jobId).recordOf job.jobId =
      some (.running, job.retryCount) := by simp [waiting]
  have relies : next.reliance = some (job.jobId, .active) := by
    rcases moved with rfl | rfl
    · rfl
    · simp
  have own : next.listed? = some job := by
    rcases moved with rfl | rfl
    · rfl
    · simp
  refine orderly.worker_write running rfl rfl (JobRecord.isOpen_pending waiting) ?_ ⟨_, claimed⟩
    rfl rfl rfl ?_ (fun _ isListed => own.symm.trans isListed)
  · intro other different
    simp [different]
  · intro other reliance relied
    obtain ⟨rfl, rfl⟩ : job.jobId = other ∧ .active = reliance := by simpa [relies] using relied
    exact ⟨rfl, JobRecord.isOpen_running claimed⟩

/-- A write of the status alone, under a point that relies on an open job. -/
theorem Orderly.worker_status (orderly : Orderly state)
    (running : state.workers worker = .running point) (spends : point.spentJob? = none)
    {jobId : JobId} (relied : point.reliance = some (jobId, .active))
    {store : Store} {status : SubmissionStatus} (terminal : status.isTerminal = true)
    (written : ∃ results, store = ({ state.store with results } : Store).setStatus jobId status)
    {next : WorkerPoint}
    (relies : ∀ other reliance, next.reliance = some (other, reliance) →
      other = jobId ∧ reliance = .closed)
    (own : ∀ job, next.listed? = some job → point.listed? = some job) :
    Orderly (state.withWorker worker (next, store)) := by
  -- Afterwards the job is closed, and that is all the next point may rely on.
  obtain ⟨results, rfl⟩ := written
  have isOpen : (state.store.recordOf jobId).IsOpen :=
    orderly.sound.relied _ _ _ (.working running relied)
  have ⟨status', retryCount, found, _⟩ := isOpen
  have records : ∀ other, (({ state.store with results } : Store).setStatus jobId status).recordOf
      other = if other = jobId then some (status, retryCount) else state.store.recordOf other := by
    intro other
    rw [Store.recordOf_setStatus]
    show (state.store.recordOf other).map _ = _
    by_cases same : other = jobId
    · subst same; simp [found]
    · simp [same]
  refine orderly.worker_write running spends relied isOpen ?_
    ⟨(status, retryCount), by simp only [records, if_true]⟩
    rfl rfl rfl ?_ own
  · intro other different
    simp only [records, if_neg different]
  · intro other reliance reliedNext
    obtain ⟨rfl, rfl⟩ := relies other reliance reliedNext
    exact ⟨rfl, status, retryCount, by simp only [records, if_true], terminal⟩

/-- The UPDATE of a requeue sets the job back to PENDING with the next retry count. -/
theorem Orderly.worker_requeue (orderly : Orderly state) {job : QueuePayload}
    (running : state.workers worker = .running (.requeue .update job)) {next : WorkerPoint}
    (moved : next = .requeue .push job ∨ next = .pop) :
    Orderly (state.withWorker worker
      (next, state.store.requeueRow job.jobId (job.retryCount + 1))) := by
  -- The worker alone holds the job, so nobody relies on the old columns.
  have isOpen : (state.store.recordOf job.jobId).IsOpen :=
    orderly.sound.relied _ _ _ (.working running rfl)
  have ⟨status, retryCount, found, _⟩ := isOpen
  have requeued : (state.store.requeueRow job.jobId (job.retryCount + 1)).recordOf job.jobId =
      some (.pending, job.retryCount + 1) := by simp [found]
  refine orderly.worker_write running rfl rfl isOpen ?_ ⟨_, requeued⟩ rfl rfl rfl ?_ ?_
  · intro other different
    simp [different]
  · intro other reliance relied
    rcases moved with rfl | rfl
    · obtain ⟨rfl, rfl⟩ : job.jobId = other ∧ .waiting (job.retryCount + 1) = reliance := by
        simpa [WorkerPoint.reliance] using relied
      exact ⟨rfl, requeued⟩
    · simp [WorkerPoint.reliance] at relied
  · rcases moved with rfl | rfl <;> simp [WorkerPoint.listed?]

/-- An LREM of a job the worker still relies on, which leaves the point it moves to in charge. -/
theorem Orderly.worker_release (orderly : Orderly state)
    (running : state.workers worker = .running point) (spends : point.spentJob? = none)
    {entry : Entry} {next : WorkerPoint}
    (relies : ∀ jobId reliance, next.reliance = some (jobId, reliance) →
      point.reliance = some (jobId, reliance))
    (unlisted : next.listed? = none) :
    Orderly (state.withWorker worker (next, state.store.removeProcessing worker entry)) := by
  -- The list only loses an element, and the stake of the worker's own point remains.
  refine orderly.worker_quiet running spends rfl (.refl _)
    (.of_sublist (by simpa [Store.removeProcessing] using List.erase_sublist)) ?_ rfl ?_
    (by simp [unlisted])
  · intro other different
    simp [Store.removeProcessing, different]
  · intro jobId reliance relied
    have reliedBefore := relies jobId reliance relied
    exact ⟨orderly.sound.relied _ _ _ (.working running reliedBefore), reliance, reliedBefore⟩

/-- A call that touches neither the job lists nor the submissions. -/
theorem Orderly.worker_aside (orderly : Orderly state)
    (running : state.workers worker = .running point) (spends : point.spentJob? = none)
    {store : Store} (aside : store.SameJobs state.store) {next : WorkerPoint}
    (relies : ∀ jobId reliance, next.reliance = some (jobId, reliance) →
      point.reliance = some (jobId, reliance))
    (unlisted : next.listed? = none) :
    Orderly (state.withWorker worker (next, store)) := by
  -- The same rows are read, and every stake was there before.
  refine orderly.worker_quiet running spends aside.recordOf_eq (by simpa [aside.pending] using .refl _)
    (by simpa [aside.processing] using .refl _) (by simp [aside.processing]) aside.reaperLock ?_
    (by simp [unlisted])
  intro jobId reliance relied
  have reliedBefore := relies jobId reliance relied
  exact ⟨orderly.sound.relied _ _ _ (.working running reliedBefore), reliance, reliedBefore⟩

/-- Text that cannot be parsed moves to the worker's list, where it names no job. -/
theorem Orderly.worker_pop_malformed (orderly : Orderly state)
    (running : state.workers worker = .running .pop) (text : String) :
    Orderly (state.withWorker worker
      (.pop, state.store.moveToProcessing worker (.malformed text))) := by
  -- Both lists stay as thin as they were.
  refine orderly.worker_quiet running rfl rfl (.of_sublist (List.dropLast_sublist _)) ?_ ?_ rfl
    (by simp [WorkerPoint.reliance]) (by simp [WorkerPoint.listed?])
  · simpa [Store.moveToProcessing] using Thinner.malformed text _
  · intro other different
    simp [Store.moveToProcessing, different]

/-- A call that resolves keeps the platform orderly, whichever call it is. -/
theorem Orderly.worker_resolves (orderly : Orderly state)
    (running : state.workers worker = .running point)
    (resolved : point.resolve worker state.store = some after) :
    Orderly (state.withWorker worker after) := by
  -- The cases follow the worker's program, one call each.
  obtain ⟨next, later⟩ := after
  cases WorkerPoint.resolve_cases resolved with
  | timeout => exact orderly.worker_idle running rfl rfl rfl
  | pop last => exact orderly.worker_pop running last (.inl rfl)
  | unparsed => exact orderly.worker_pop_malformed running _
  | claim => exact orderly.worker_claim running (.inl rfl)
  | unclaimed unclaimable =>
    -- A claimable job is claimed.
    have one := orderly.worker_claims running
    omega
  | duplicate | postponed | repush | discard => exact (orderly.worker_possible running rfl).elim
  | connect | begin | insertResult | updateStatus | letterConnect | letterBegin | letterUpdate
  | letterInsert =>
    exact orderly.worker_stay running rfl (fun _ _ relied => ⟨_, relied, fun _ => id⟩) fun _ => id
  | @commit job result =>
    exact orderly.worker_status running rfl rfl (finalOutcome_terminal result)
      (state.store.commitResult_eq job.jobId result) (by simp [WorkerPoint.reliance, eq_comm])
      fun _ => id
  | rollback => exact orderly.worker_retry running rfl rfl (fun _ => id) rfl
  | acknowledge | exhausted => exact orderly.worker_release running rfl (fun _ _ => id) rfl
  | @complete call following chunk job follows =>
    exact orderly.worker_aside running rfl (call.effect_sameJobs job.jobId chunk state.store)
      (fun _ _ => id) rfl
  | @completed chunk job =>
    exact orderly.worker_aside running rfl
      (StreamCall.expire.effect_sameJobs job.jobId chunk state.store) (by simp [WorkerPoint.reliance])
      rfl
  | requeueUpdate => exact orderly.worker_requeue running (.inl rfl)
  | requeuePush => exact orderly.worker_push running
  | requeueRemove => exact orderly.worker_remove running (.inl rfl)
  | @letterCommit letter =>
    exact orderly.worker_status running rfl rfl rfl (state.store.commitDeadLetter_eq letter)
      (by simp [WorkerPoint.reliance, eq_comm]) fun _ => id
  | letterRollback => exact orderly.worker_idle running rfl rfl rfl
  | @sendLetter letter =>
    exact orderly.worker_aside running rfl (state.store.pushDeadLetter_sameJobs letter)
      (fun _ _ => id) rfl
  | @letterComplete call following chunk letter follows =>
    exact orderly.worker_aside running rfl (call.effect_sameJobs letter.jobId chunk state.store)
      (fun _ _ => id) rfl
  | @letterCompleted chunk letter =>
    exact orderly.worker_aside running rfl
      (StreamCall.expire.effect_sameJobs letter.jobId chunk state.store)
      (by simp [WorkerPoint.reliance]) rfl

/-- A call that rejects without effect keeps the platform orderly, where such a failure is clean. -/
theorem Orderly.worker_rejects (orderly : Orderly state)
    (running : state.workers worker = .running point)
    (clean : cleanFailure state (.worker worker (.rejects false)) = true) {next : WorkerPoint}
    (handled : point.handler = some next) :
    Orderly (state.withWorker worker (next, state.store)) := by
  -- The catch block leads to the retry path, to a rollback, or back to the loop.
  simp only [cleanFailure, running] at clean
  cases point with
  | pop =>
    obtain rfl := Option.some.inj handled
    exact orderly.worker_idle running rfl rfl rfl
  | claim job =>
    obtain rfl := Option.some.inj handled
    exact orderly.worker_retry running rfl rfl (fun _ => JobRecord.isOpen_pending) rfl
  | statusCheck job | repush job | discard job => exact (orderly.worker_possible running rfl).elim
  | launch job | executing job => simp [WorkerPoint.handler] at handled
  | persist call job result =>
    cases call with
    | connect | rollback =>
      obtain rfl := Option.some.inj handled
      exact orderly.worker_retry running rfl rfl (fun _ => id) rfl
    | begin | insertResult | updateStatus | commit =>
      obtain rfl := Option.some.inj handled
      exact orderly.worker_stay running rfl (fun _ _ relied => ⟨_, relied, fun _ => id⟩)
        fun _ => id
  | acknowledge job | complete call chunk job => simp at clean
  | requeue call job =>
    obtain rfl := Option.some.inj handled
    cases call with
    | update | push => exact orderly.worker_idle running rfl rfl rfl
    | remove =>
      exact orderly.worker_remove running (.inr ⟨rfl, (closed_of_jobClosed (by simpa using clean)).not_open⟩)
  | exhausted job =>
    obtain rfl := Option.some.inj handled
    exact orderly.worker_idle running rfl rfl rfl
  | deadLetter call letter =>
    cases call <;> obtain rfl := Option.some.inj handled <;>
      exact orderly.worker_idle running rfl rfl rfl
  | deadLetterPush letter | deadLetterComplete call chunk letter =>
    obtain rfl := Option.some.inj handled
    exact orderly.worker_idle running rfl rfl rfl

/-- A call whose effect happens but whose reply is lost keeps the platform orderly, where this is clean. -/
theorem Orderly.worker_loses (orderly : Orderly state)
    (running : state.workers worker = .running point)
    (clean : cleanFailure state (.worker worker (.rejects true)) = true)
    (resolved : point.resolve worker state.store = some after) {next : WorkerPoint}
    (handled : point.handler = some next) :
    Orderly (state.withWorker worker (next, after.2)) := by
  -- Where the call has no effect, it might as well have been rejected before it arrived.
  have unaffected : after.2 = state.store →
      cleanFailure state (.worker worker (.rejects false)) = true →
      Orderly (state.withWorker worker (next, after.2)) := by
    intro same clean'
    rw [same]
    exact orderly.worker_rejects running clean' handled
  simp only [cleanFailure, running] at clean unaffected
  obtain ⟨later, store⟩ := after
  cases WorkerPoint.resolve_cases resolved with
  | timeout => exact unaffected rfl rfl
  | pop last =>
    obtain rfl := Option.some.inj handled
    exact orderly.worker_pop running last (.inr rfl)
  | unparsed =>
    obtain rfl := Option.some.inj handled
    exact orderly.worker_pop_malformed running _
  | claim | unclaimed =>
    obtain rfl := Option.some.inj handled
    exact orderly.worker_claim running (.inr rfl)
  -- An orderly worker never comes to these points.
  | duplicate | postponed | repush | discard => exact (orderly.worker_possible running rfl).elim
  | connect | begin | insertResult | updateStatus | rollback | letterConnect | letterBegin
  | letterUpdate | letterInsert | letterRollback => exact unaffected rfl rfl
  -- A clean run loses none of these replies.
  | commit | acknowledge | complete | completed | requeuePush => simp at clean
  | requeueUpdate =>
    obtain rfl := Option.some.inj handled
    exact orderly.worker_requeue running (.inr rfl)
  | requeueRemove =>
    obtain rfl := Option.some.inj handled
    exact orderly.worker_remove running (.inl rfl)
  | exhausted =>
    obtain rfl := Option.some.inj handled
    exact orderly.worker_release running rfl (by simp [WorkerPoint.reliance]) rfl
  | @letterCommit letter =>
    obtain rfl := Option.some.inj handled
    exact orderly.worker_status running rfl rfl rfl (state.store.commitDeadLetter_eq letter)
      (by simp [WorkerPoint.reliance]) (by simp [WorkerPoint.listed?])
  | @sendLetter letter =>
    obtain rfl := Option.some.inj handled
    exact orderly.worker_aside running rfl (state.store.pushDeadLetter_sameJobs letter)
      (by simp [WorkerPoint.reliance]) rfl
  | @letterComplete call following chunk letter =>
    obtain rfl := Option.some.inj handled
    exact orderly.worker_aside running rfl (call.effect_sameJobs letter.jobId chunk state.store)
      (by simp [WorkerPoint.reliance]) rfl
  | @letterCompleted chunk letter =>
    obtain rfl := Option.some.inj handled
    exact orderly.worker_aside running rfl
      (StreamCall.expire.effect_sameJobs letter.jobId chunk state.store)
      (by simp [WorkerPoint.reliance]) rfl

/-- Any call of a worker keeps the platform orderly, unless it fails in an unclean way. -/
theorem Orderly.worker_call (orderly : Orderly state)
    (running : state.workers worker = .running point) {outcome : CallOutcome}
    (clean : cleanFailure state (.worker worker outcome) = true)
    (went : awaitCall outcome (point.resolve worker state.store) point.handler state.store =
      some after) : Orderly (state.withWorker worker after) := by
  -- The call resolves, rejects without effect, or rejects after its effect.
  rcases awaitCall_cases went with ⟨rfl, resolved⟩ | ⟨rfl, next, handled, rfl⟩ |
    ⟨rfl, reply, next, resolved, handled, rfl⟩
  · exact orderly.worker_resolves running resolved
  · exact orderly.worker_rejects running clean handled
  · exact orderly.worker_loses running clean resolved handled

/-- The start of the sandbox keeps the platform orderly. -/
theorem Orderly.worker_launch (orderly : Orderly state) {job : QueuePayload}
    (running : state.workers worker = .running (.launch job)) :
    Orderly (state.withWorker worker (.executing job, state.store)) :=
  -- The reliance and the own element are those of the claimed job.
  orderly.worker_stay running rfl (fun _ _ relied => ⟨_, relied, fun _ => id⟩) fun _ => id

/-- The end of the sandbox keeps the platform orderly, with or without a result. -/
theorem Orderly.worker_settles (orderly : Orderly state)
    (running : state.workers worker = .running point) {result : Option SandboxResult}
    {next : WorkerPoint} (settled : point.sandboxSettled result = some next) :
    Orderly (state.withWorker worker (next, state.store)) := by
  -- Only an executing worker waits for a sandbox.
  cases point with
  | executing job =>
    cases result with
    | some result =>
      obtain rfl := Option.some.inj settled
      exact orderly.worker_stay running rfl (fun _ _ relied => ⟨_, relied, fun _ => id⟩) fun _ => id
    | none =>
      obtain rfl := Option.some.inj settled
      exact orderly.worker_retry running rfl rfl (fun _ => id) rfl
  | _ => simp [WorkerPoint.sandboxSettled] at settled

end CodeExecution

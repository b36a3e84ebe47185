import CodeExecution.Proofs.AttemptRuns

/-! Retry counts: how the count of a row compares with the elements that the next count is taken from. -/

namespace CodeExecution

variable {state next : Platform} {label : Label} {jobId : JobId}

/-- A step that crashes cleanly resolves all its calls, and is no bulk update. -/
theorem crashesCleanly_resolves (permitted : crashesCleanly state label = true) :
    (∀ worker outcome, label = .worker worker outcome → outcome = .resolves) ∧
    (∀ lockId outcome, label = .scan lockId outcome → outcome = .resolves) ∧
    (∀ lockId, label ≠ .scanDies lockId) ∧ ∀ outcome, label ≠ .startup outcome := by
  -- Each kind of call is tested by the setting.
  refine ⟨?_, ?_, ?_, ?_⟩
  · intro worker outcome same
    subst same
    simpa [crashesCleanly, launchFaults] using permitted
  · intro lockId outcome same
    subst same
    simpa [crashesCleanly, launchFaults] using permitted
  · intro lockId same
    subst same
    simp [crashesCleanly, launchFaults, supervised] at permitted
  · intro outcome same
    subst same
    simp [crashesCleanly, launchFaults, supervised] at permitted

/-! ## Spent elements -/

/-- A recovery keeps what it has visited, until it deletes the list or gives up. -/
theorem RecoverPoint.visited_stays {point after : RecoverPoint} {worker : WorkerId}
    {store later : Store} (resolved : point.resolve worker store = some (some after, later))
    (visited : jobId ∈ jobsIn point.visited) : jobId ∈ jobsIn after.visited := by
  -- An iteration that ends adds its element; all other calls stay at the same cursor.
  cases RecoverPoint.resolve_cases resolved with
  | list => simp [RecoverPoint.visited] at visited
  | skip | push | sendLetter =>
    rw [Cursor.jobsIn_advance]
    exact List.mem_append_left _ visited
  | exhausts | retries | reset | connect | begin | updateStatus | insertResult | commit =>
    exact visited

/-- A spent element of an open job stays spent for as long as it is there. -/
theorem Orderly.spent_stays (orderly : Orderly state) (permitted : crashesCleanly state label = true)
    (stepped : platform.step state label = some next) {worker : WorkerId} {job : QueuePayload}
    (member : .payload job ∈ next.store.processing worker)
    (isOpen : (state.store.recordOf job.jobId).IsOpen) (spent : Spent state worker job.jobId) :
    Spent next worker job.jobId := by
  obtain ⟨workers, scans, alive, _⟩ := crashesCleanly_resolves permitted
  -- An element is spent by its owner behind the push, or by a recovery that has visited it.
  rcases spent with ⟨point, running, spends⟩ | ⟨lockId, point, rest, recovers, visited⟩
  · obtain ⟨own, rfl, isJob⟩ : ∃ own, point = .requeue .remove own ∧ own.jobId = job.jobId := by
      unfold WorkerPoint.spentJob? at spends
      split at spends
      · exact ⟨_, rfl, by simpa using spends⟩
      · simp at spends
    rcases Platform.step_running stepped running with ⟨later, running'⟩ | ⟨rfl, _⟩
    · rcases Platform.step_worker stepped running' with ⟨was, _⟩ |
        ⟨outcome, before, after, rfl, was, went, rfl⟩ | ⟨_, _, was, _⟩ |
        ⟨_, before, _, was, settled, _⟩ | ⟨_, was, _⟩
      · obtain rfl : _ = later := WorkerState.running.inj (running.symm.trans was)
        exact .inl ⟨_, running', spends⟩
      · -- The old element has just been removed, and an open job has no other.
        obtain rfl := workers _ _ rfl
        obtain rfl : _ = before := WorkerState.running.inj (running.symm.trans was)
        obtain ⟨_, rfl⟩ := Prod.mk.inj (Option.some.inj went)
        have own_ := orderly.ownListed worker _ own running rfl
        have once := orderly.listedOnce worker job.jobId isOpen
        have counted := count_jobsIn_erase own_ job.jobId
        have left : job.jobId ∈ jobsIn ((state.store.processing worker).erase (.payload own)) :=
          mem_jobsIn.mpr ⟨job, by simpa [Store.removeProcessing] using member, rfl⟩
        have positive := List.count_pos_iff.mpr left
        simp only [isJob, if_true] at counted
        omega
      · simp [running] at was
      · obtain rfl : _ = before := WorkerState.running.inj (running.symm.trans was)
        simp [WorkerPoint.sandboxSettled] at settled
      · simp [running] at was
    · -- A clean crash at this point leaves an element of a job that is over.
      have closed : jobClosed state own.jobId = true := by
        simpa [crashesCleanly, cleanCrash, running] using permitted
      exact absurd isOpen (isJob ▸ closed_of_jobClosed closed).not_open
  · rcases Platform.step_scan stepped lockId with ⟨same, _⟩ | ⟨_, idle, _⟩ |
      ⟨outcome, after, rfl, went, rfl⟩ | ⟨_, _, _, detecting, _⟩ | ⟨rfl, _⟩
    · exact .inr ⟨lockId, point, rest, same.trans recovers, visited⟩
    · simp [recovers] at idle
    · obtain rfl := scans _ _ rfl
      obtain ⟨later, store⟩ := after
      rw [recovers] at went
      cases ScanPoint.resolve_cases went with
      | rollback =>
        have closed := (orderly.scans lockId _ _ _ recovers).rolledBack _ rfl job.jobId
        exact absurd isOpen (closed visited).not_open
      | @recover _ _ _ following _ resolved =>
        cases following with
        | some following =>
          exact .inr ⟨lockId, following, rest, by simp [ScanPoint.recoverNext],
            RecoverPoint.visited_stays resolved visited⟩
        | none =>
          -- The DEL is the last call, and leaves no element.
          cases RecoverPoint.resolve_cases resolved with
          | delete => simp [Store.deleteProcessing] at member
    · simp [recovers] at detecting
    · exact absurd rfl (alive lockId)

/-- The element that a recovery is about to requeue is not spent. -/
theorem Orderly.current_unspent (orderly : Orderly state) {lockId : LockId} {cursor : Cursor}
    {worker : WorkerId} {rest : List WorkerId}
    (recovers : state.scans lockId = .recover (.reset cursor) worker rest)
    (isOpen : (state.store.recordOf cursor.job.jobId).IsOpen) :
    ¬ Spent state worker cursor.job.jobId := by
  have facts := orderly.scans lockId _ _ _ recovers
  intro spent
  rcases spent with ⟨point, running, _⟩ | ⟨other, point, others, recovers', visited⟩
  · simp [facts.crashed] at running
  · -- The same scan has visited the job before, but an open job is listed once at most.
    obtain rfl : other = lockId := orderly.locked.alone
      (by simp [recovers', ScanPoint.critical]) (by simp [recovers, ScanPoint.critical])
    obtain ⟨rfl, _⟩ : RecoverPoint.reset cursor = point ∧ _ := by
      simpa [recovers] using recovers'
    have whole := facts.snapshot _ rfl
    have once := orderly.listedOnce worker cursor.job.jobId isOpen
    have positive := List.count_pos_iff.mpr visited
    simp only [whole, jobsIn_append, jobsIn_payload, List.count_append, List.count_cons_self] at once
    simp only [RecoverPoint.visited] at positive
    omega

/-! ## Limits -/

/-- The retry limit as the retry path of a worker has tested it. -/
def WorkerPoint.withinLimit : WorkerPoint → Prop
  | .requeue _ job => job.retryCount + 1 ≤ maxRetryCount
  | _ => True

/-- The retry path tests the limit before it requeues. -/
theorem requeueWithBackoff_withinLimit (job : QueuePayload) :
    (requeueWithBackoff job).withinLimit := by
  -- A job beyond the limit goes to the other branch.
  unfold requeueWithBackoff
  split
  · trivial
  · next retriesLeft => exact Nat.le_of_not_lt retriesLeft

/-- Every call that resolves stays within the limit. -/
theorem WorkerPoint.resolve_withinLimit {worker : WorkerId} {before point : WorkerPoint}
    {store after : Store} (resolved : before.resolve worker store = some (point, after))
    (limited : before.withinLimit) : point.withinLimit := by
  -- A requeue is entered by the test, and its calls follow one another.
  cases WorkerPoint.resolve_cases resolved with
  | requeueUpdate | requeuePush => exact limited
  | rollback => exact requeueWithBackoff_withinLimit _
  | _ => trivial

/-! ## The invariant -/

/-- What the counts of rows, elements and program points have to do with each other. -/
structure Counted (state : Platform) : Prop where
  /-- The row of an open job is one retry ahead of an unspent element at most. -/
  listed : ∀ worker job status retryCount, .payload job ∈ state.store.processing worker →
    ¬ Spent state worker job.jobId →
    state.store.recordOf job.jobId = some (status, retryCount) → status.isTerminal = false →
    retryCount ≤ job.retryCount + 1
  /-- No row counts more retries than there are. -/
  rows : ∀ jobId status retryCount, state.store.recordOf jobId = some (status, retryCount) →
    retryCount ≤ maxRetryCount
  /-- Workers requeue within the limit. -/
  workers : ∀ worker point, state.workers worker = .running point → point.withinLimit
  /-- Recoveries do so too. -/
  recoveries : WithinLimit state

/-- Before the first request nothing is counted. -/
theorem Counted.initial : Counted Platform.initial :=
  ⟨by simp [Platform.initial, Store.empty], by simp [Platform.initial, Store.empty, Store.recordOf],
    by simp [Platform.initial], by simp [WithinLimit, Platform.initial]⟩

/-- A requeue counts from the only element of its open job, and never backwards. -/
theorem Counted.requeued (counted : Counted state) (orderly : Orderly state) {following : Nat}
    (writes : state.Writes label jobId (.retry following)) :
    ∃ status retryCount worker reliance,
      state.store.recordOf jobId = some (status, retryCount) ∧ retryCount ≤ following ∧
      following ≤ maxRetryCount ∧ (state.store.recordOf jobId).IsOpen ∧
      Stake state (.worker worker) jobId reliance ∧
      ∀ job, .payload job ∈ state.store.processing worker → job.jobId = jobId →
        following = job.retryCount + 1 := by
  -- Only the worker's requeue and the reaper's write this phase.
  generalize isPhase : Phase.retry following = phase at writes
  cases writes with
  | @requeue worker _ job running =>
    obtain rfl := Phase.retry.inj isPhase
    have isOpen : (state.store.recordOf job.jobId).IsOpen :=
      orderly.sound.relied _ _ _ (.working running rfl)
    have own := orderly.ownListed worker _ job running rfl
    have unspent : ¬ Spent state worker job.jobId := by
      rw [orderly.spent_of_running running]
      simp [WorkerPoint.spentJob?]
    obtain ⟨status, retryCount, found, notTerminal⟩ := isOpen
    refine ⟨status, retryCount, worker, _, found,
      counted.listed worker job status retryCount own unspent found notTerminal,
      counted.workers worker _ running, ⟨status, retryCount, found, notTerminal⟩,
      .working running rfl, fun other member same => ?_⟩
    have once := orderly.listedOnce worker job.jobId ⟨status, retryCount, found, notTerminal⟩
    rw [payload_unique once own member same]
  -- The reaper holds the element in the list of the dead worker.
  | @recoverRequeue lockId _ cursor worker rest recovers =>
    obtain rfl := Phase.retry.inj isPhase
    have isOpen : (state.store.recordOf cursor.job.jobId).IsOpen :=
      orderly.sound.relied _ _ _ (.recovering recovers rfl)
    have whole := (orderly.scans lockId _ _ _ recovers).snapshot _ rfl
    have own : .payload cursor.job ∈ state.store.processing worker := by simp [whole]
    have unspent := orderly.current_unspent recovers isOpen
    obtain ⟨status, retryCount, found, notTerminal⟩ := isOpen
    refine ⟨status, retryCount, worker, _, found,
      counted.listed worker cursor.job status retryCount own unspent found notTerminal,
      counted.recoveries lockId _ worker rest recovers, ⟨status, retryCount, found, notTerminal⟩,
      .recovering recovers rfl, fun other member same => ?_⟩
    have once := orderly.listedOnce worker cursor.job.jobId ⟨status, retryCount, found, notTerminal⟩
    rw [payload_unique once own member same]
  | submit _ | markFailed _ | claim _ | commit _ | deadLetter _ | recoverDeadLetter _ =>
    simp at isPhase

/-! ## Steps -/

/-- A count is kept, or written by a requeue, or written by the insertion of the row. -/
theorem Platform.step_count (stepped : state.step label = some next)
    (notReset : ∀ outcome, label ≠ .startup outcome) {status : SubmissionStatus} {retryCount : Nat}
    (found : next.store.recordOf jobId = some (status, retryCount)) :
    (∃ earlier, state.store.recordOf jobId = some (earlier, retryCount)) ∨
      state.Writes label jobId (.retry retryCount) ∨
      (state.Writes label jobId .submit ∧ retryCount = 0) := by
  -- A claim and a final status keep the count, a requeue writes its own, and a new row counts 0.
  rcases Platform.step_recordOf stepped (fun _ outcome => notReset outcome) jobId with
    kept | ⟨phase, writes, written⟩
  · exact .inl ⟨status, kept ▸ found⟩
  · rw [written] at found
    cases phase with
    | submit => exact .inr (.inr ⟨writes, (Prod.mk.inj (Option.some.inj found)).2.symm⟩)
    | claim =>
      obtain ⟨⟨earlier, counted⟩, was, same⟩ := Option.map_eq_some_iff.mp found
      refine .inl ⟨earlier, ?_⟩
      split at same <;> obtain ⟨_, rfl⟩ := Prod.mk.inj same <;> exact was
    | retry following =>
      obtain ⟨_, _, same⟩ := Option.map_eq_some_iff.mp found
      obtain ⟨_, rfl⟩ := Prod.mk.inj same
      exact .inr (.inl writes)
    | close final =>
      obtain ⟨⟨earlier, counted⟩, was, same⟩ := Option.map_eq_some_iff.mp found
      obtain ⟨_, rfl⟩ := Prod.mk.inj same
      exact .inl ⟨earlier, was⟩

/-- Only jobs without a row are inserted. -/
theorem Orderly.submit_fresh (orderly : Orderly state) (writes : state.Writes label jobId .submit) :
    state.store.recordOf jobId = none := by
  -- The insertion is ahead, so its job has no row.
  generalize isPhase : Phase.submit = phase at writes
  cases writes with
  | submit inserts => exact orderly.insert_fresh inserts
  | _ => simp at isPhase

/-- A job with a row that is open after a step was open before it. -/
theorem Orderly.was_open (orderly : Orderly state) (watched : supervised state label = true)
    (stepped : platform.step state label = some next)
    (stored : ∃ columns, state.store.recordOf jobId = some columns)
    (isOpen : (next.store.recordOf jobId).IsOpen) : (state.store.recordOf jobId).IsOpen := by
  obtain ⟨⟨status, retryCount⟩, found⟩ := stored
  cases terminal : status.isTerminal with
  | false => exact ⟨status, retryCount, found, terminal⟩
  | true =>
    -- No phase follows a terminal status.
    have closed : (state.store.recordOf jobId).IsClosed := ⟨status, retryCount, found, terminal⟩
    rcases orderly.lifecycle_step watched stepped jobId with kept | ⟨phase, moved⟩
    · exact kept ▸ isOpen
    · simp [lifecycle_closed closed phase] at moved

/-- A row keeps its count or counts on, and stays within the limit. -/
theorem Counted.grows (counted : Counted state) (orderly : Orderly state)
    (permitted : crashesCleanly state label = true) (stepped : platform.step state label = some next)
    {status : SubmissionStatus} {retryCount : Nat}
    (found : state.store.recordOf jobId = some (status, retryCount)) :
    ∃ status' retryCount', next.store.recordOf jobId = some (status', retryCount') ∧
      retryCount ≤ retryCount' := by
  obtain ⟨_, _, _, notReset⟩ := crashesCleanly_resolves permitted
  -- No phase removes the row.
  have stored : next.store.recordOf jobId ≠ none := by
    rcases Platform.step_recordOf stepped (fun _ outcome => notReset outcome) jobId with
      kept | ⟨phase, _, written⟩
    · simp [kept, found]
    · cases phase <;> simp [written, found, Phase.apply]
  obtain ⟨⟨status', retryCount'⟩, found'⟩ := Option.ne_none_iff_exists'.mp stored
  refine ⟨status', retryCount', found', ?_⟩
  -- The new count is the old one, or a requeue has written it.
  rcases Platform.step_count stepped notReset found' with ⟨earlier, was⟩ | writes | ⟨writes, _⟩
  · rw [found] at was
    exact (Prod.mk.inj (Option.some.inj was)).2.le
  · obtain ⟨_, was, _, _, known, onward, _⟩ := counted.requeued orderly writes
    rw [found] at known
    obtain ⟨_, rfl⟩ := Prod.mk.inj (Option.some.inj known)
    exact onward
  · simp [orderly.submit_fresh writes] at found

/-- Every step that crashes cleanly keeps the counts. -/
theorem Counted.step (counted : Counted state) (orderly : Orderly state)
    (permitted : crashesCleanly state label = true)
    (stepped : platform.step state label = some next) : Counted next := by
  obtain ⟨workers, _, _, notReset⟩ := crashesCleanly_resolves permitted
  have clean := cleanlySupervised_of_crashesCleanly permitted
  refine ⟨?_, ?_, ?_, counted.recoveries.step stepped⟩
  · intro worker job status retryCount member unspent found notTerminal
    have isOpen' : (next.store.recordOf job.jobId).IsOpen := ⟨status, retryCount, found, notTerminal⟩
    rcases Platform.step_arrivals stepped member with earlier | ⟨_, queued⟩
    · -- The element was there, and it was not spent either.
      have stored := orderly.listedStored worker job earlier
      have isOpen := orderly.was_open clean.1 stepped stored isOpen'
      have unspent' : ¬ Spent state worker job.jobId := fun spent =>
        unspent (orderly.spent_stays permitted stepped member isOpen spent)
      rcases Platform.step_count stepped notReset found with ⟨was, known⟩ | writes | ⟨writes, _⟩
      · obtain ⟨status', retryCount', found', notTerminal'⟩ := isOpen
        obtain ⟨_, rfl⟩ := Prod.mk.inj (Option.some.inj (known.symm.trans found'))
        exact counted.listed worker job status' _ earlier unspent' found' notTerminal'
      · obtain ⟨_, _, owner, _, _, _, _, _, staked, from_⟩ := counted.requeued orderly writes
        obtain rfl : worker = owner := Holder.worker.inj
          (orderly.sound.sole isOpen staked _ _ (.listed earlier unspent'))
        exact (from_ job earlier rfl).le
      · simp [orderly.submit_fresh writes] at stored
    · -- A pending payload counts what its row counts, and nobody else holds the job.
      have waiting : state.store.recordOf job.jobId = some (.pending, job.retryCount) :=
        orderly.sound.relied _ _ _ (.queued queued)
      rcases Platform.step_count stepped notReset found with ⟨was, known⟩ | writes | ⟨writes, _⟩
      · obtain ⟨_, rfl⟩ := Prod.mk.inj (Option.some.inj (known.symm.trans waiting))
        exact Nat.le_succ _
      · obtain ⟨_, _, owner, _, _, _, _, isOpen, staked, _⟩ := counted.requeued orderly writes
        simpa using orderly.sound.sole isOpen staked _ _ (.queued queued)
      · simp [orderly.submit_fresh writes] at waiting
  · -- Rows count what they counted, or what a requeue has tested.
    intro key status retryCount found
    rcases Platform.step_count stepped notReset found with ⟨was, known⟩ | writes | ⟨_, rfl⟩
    · exact counted.rows key was retryCount known
    · obtain ⟨_, _, _, _, _, _, within, _⟩ := counted.requeued orderly writes
      exact within
    · exact Nat.zero_le _
  · -- Workers come to a requeue by the test only.
    intro worker point running
    rcases Platform.step_worker stepped running with ⟨was, _⟩ |
      ⟨outcome, before, after, rfl, was, went, rfl⟩ | ⟨_, _, _, rfl, _⟩ |
      ⟨result, before, _, _, settled, _⟩ | ⟨_, _, rfl, _⟩
    · exact counted.workers worker point was
    · obtain rfl := workers _ _ rfl
      exact WorkerPoint.resolve_withinLimit went (counted.workers worker before was)
    · trivial
    · unfold WorkerPoint.sandboxSettled at settled
      repeat' split at settled
      · obtain rfl := Option.some.inj settled; trivial
      · obtain rfl := Option.some.inj settled; exact requeueWithBackoff_withinLimit _
      · simp at settled
    · trivial

/-- The runs in which workers crash cleanly. -/
abbrev CleanCrashRuns (start : Platform) (trace : List Label) (state : Platform) : Prop :=
  platform.Runs (fun state label => crashesCleanly state label = true) start trace state

/-- Such runs are orderly. -/
theorem CleanCrashRuns.orderly {trace : List Label}
    (run : CleanCrashRuns Platform.initial trace state) : Orderly state :=
  Orderly.reached (run.imp fun _ _ => cleanlySupervised_of_crashesCleanly)

/-- Such runs keep the counts. -/
theorem Counted.reached {trace : List Label} (run : CleanCrashRuns Platform.initial trace state) :
    Counted state := by
  -- Orderliness of the earlier state feeds the step lemma.
  refine run.preserves_trace (fun _ reached => Counted reached) .initial ?_
  exact fun _ _ _ _ earlier counted permitted stepped =>
    counted.step (CleanCrashRuns.orderly earlier) permitted stepped

end CodeExecution

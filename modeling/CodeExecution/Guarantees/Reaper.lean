import CodeExecution.Proofs.Executors
import CodeExecution.Proofs.LiveRecovery
import CodeExecution.Proofs.Resumption

/-! The reaper's recovery of one list: repeated after a failure, and beside a live owner. -/

namespace CodeExecution

/-! ## Repeated scans -/

/--
However often the list of a dead worker is recovered, each element is requeued once at most.

This holds as long as a scan that comes to an element requeued before finds its job terminal.
Under the same condition no scan resets the row of a job that an earlier scan has requeued.
-/
theorem recovery_idempotent {dead : WorkerId} {start state : Platform} {trace : List Label}
    {history : List RecoveryNotice} (crashed : start.workers dead = .crashed)
    (uncritical : ∀ lockId, (start.scans lockId).critical = false)
    (run : recordedPlatform.Runs (fun recorded label => sequential recorded.1 label = true ∧
      resumesFinished dead recorded label = true) (start, []) trace (state, history)) :
    (∀ position, requeuesAt dead position history ≤ 1) ∧
    (history.Pairwise fun earlier later => earlier.worker = dead → earlier.act = .requeued →
      later.worker = dead → later.act = .reset → earlier.job.jobId = later.job.jobId →
      earlier.lockId = later.lockId) ∧
    ∀ notice ∈ history, notice.worker = dead →
      (start.store.processing dead)[notice.position]? = some (.payload notice.job) := by
  -- Nothing is recovered at the start, and every step keeps the record resumed.
  have idle : ∀ lockId point rest, start.scans lockId ≠ .recover point dead rest := by
    intro lockId point rest recovers
    have critical := uncritical lockId
    simp [recovers, ScanPoint.critical] at critical
  have initial : Resumed dead (start.store.processing dead) (start, []) :=
    { crashed
      listed := .inl rfl
      locked := .of_uncritical uncritical
      snapshot := fun lockId point rest recovers => absurd recovers (idle lockId point rest)
      fresh := fun lockId point rest _ recovers => absurd recovers (idle lockId point rest)
      once := fun _ => Nat.zero_le 1
      settled := .nil
      placed := by simp }
  have resumed := run.preserves (Resumed dead (start.store.processing dead)) initial
    fun _ _ _ resumed permitted stepped => resumed.step permitted.1 permitted.2 stepped
  exact ⟨resumed.once, resumed.settled, resumed.placed⟩

/-- A worker that dies with a claimed job. -/
def dyingWorker : List Label :=
  submission "job" ++ takingUp "w1" ++ [.workerCrash "w1"]

/-- A scan that requeues the one element of a worker's list, and fails at its DEL. -/
def failingScan (lockId : LockId) (worker : WorkerId) : List Label :=
  detecting lockId worker ++ scanCalls lockId 4 ++
    [.scan lockId (.rejects false), .scan lockId .resolves]

/-- After scans that come one after another, a free lock key means that none is in its critical section. -/
theorem uncritical_of_free {state : Platform} {trace : List Label}
    (run : platform.Runs (fun state label => sequential state label = true) .initial trace state)
    (free : state.store.reaperLock = none) (lockId : LockId) :
    (state.scans lockId).critical = false := by
  -- Whoever is in its critical section owns the lock.
  have locked : Locked state := run.preserves Locked (.of_uncritical fun _ => rfl)
    fun _ _ _ locked ordered stepped => locked.step ordered stepped
  exact locked.uncritical (by simp [abandonedLock, free]) lockId

/-- The guarantee where the requeued job is finished before the next scan comes to the old element. -/
theorem recovery_idempotent_example : ∃ start state history,
    recordedPlatform.Runs (fun recorded label => sequential recorded.1 label = true ∧
      resumesFinished "w1" recorded label = true) (start, [])
      (failingScan "s1" "w1" ++ takingUp "w2" ++ .sandbox "w2" (some cleanExit) ::
        workerCalls "w2" 5 ++ detecting "s2" "w1" ++ scanCalls "s2" 3) (state, history) ∧
    history.map RecoveryNotice.act = [.reset, .requeued, .skipped] ∧
    state.store.statusOf "job" = some .completed ∧
    ∀ position, requeuesAt "w1" position history ≤ 1 := by
  -- The runs are executed, and the bound is the guarantee's.
  have executed : ((platform.guardedRun (fun state label => sequential state label = true) .initial
      dyingWorker).bind fun start =>
        (recordedPlatform.guardedRun (fun recorded label => sequential recorded.1 label = true ∧
          resumesFinished "w1" recorded label = true) (start, [])
          (failingScan "s1" "w1" ++ takingUp "w2" ++ .sandbox "w2" (some cleanExit) ::
            workerCalls "w2" 5 ++ detecting "s2" "w1" ++ scanCalls "s2" 3)).map fun reached =>
              (start.workers "w1", start.store.reaperLock, reached.2.map RecoveryNotice.act,
                reached.1.store.statusOf "job")) =
      some (.crashed, none, [.reset, .requeued, .skipped], some .completed) := by decide
  obtain ⟨start, earlier, executed⟩ := Option.bind_eq_some_iff.mp executed
  obtain ⟨⟨state, history⟩, later, shown⟩ := Option.map_eq_some_iff.mp executed
  obtain ⟨crashed, free, acts, finished⟩ : start.workers "w1" = .crashed ∧
      start.store.reaperLock = none ∧
      history.map RecoveryNotice.act = [.reset, .requeued, .skipped] ∧
      state.store.statusOf "job" = some .completed := by simpa using shown
  have uncritical := uncritical_of_free (Machine.runs_iff_guardedRun.mpr earlier) free
  have run := Machine.runs_iff_guardedRun.mpr later
  exact ⟨start, state, history, run, acts, finished,
    (recovery_idempotent crashed uncritical run).1⟩

/-- A second scan requeues the element again, and resets the row that a worker has claimed. -/
theorem recovery_requeues_twice : ∃ start state history,
    start.workers "w1" = .crashed ∧ (∀ lockId, (start.scans lockId).critical = false) ∧
    recordedPlatform.Runs (fun recorded label => sequential recorded.1 label = true) (start, [])
      (failingScan "s1" "w1" ++ takingUp "w2" ++ detecting "s2" "w1" ++ scanCalls "s2" 4)
      (state, history) ∧
    requeuesAt "w1" 0 history = 2 ∧ state.executing? "w2" = some "job" ∧
    state.store.statusOf "job" = some .pending := by
  -- The first scan fails at its DEL, so the second one finds the old element under a RUNNING row.
  have executed : ((platform.guardedRun (fun state label => sequential state label = true) .initial
      dyingWorker).bind fun start =>
        (recordedPlatform.guardedRun (fun recorded label => sequential recorded.1 label = true)
          (start, []) (failingScan "s1" "w1" ++ takingUp "w2" ++ detecting "s2" "w1" ++
            scanCalls "s2" 4)).map fun reached =>
              ((start.workers "w1", start.store.reaperLock), requeuesAt "w1" 0 reached.2,
                reached.1.executing? "w2", reached.1.store.statusOf "job")) =
      some ((.crashed, none), 2, some "job", some .pending) := by decide
  obtain ⟨start, earlier, executed⟩ := Option.bind_eq_some_iff.mp executed
  obtain ⟨⟨state, history⟩, later, shown⟩ := Option.map_eq_some_iff.mp executed
  obtain ⟨crashed, free, twice, executes, reset⟩ : start.workers "w1" = .crashed ∧
      start.store.reaperLock = none ∧ requeuesAt "w1" 0 history = 2 ∧
      state.executing? "w2" = some "job" ∧ state.store.statusOf "job" = some .pending := by
    simpa [and_assoc] using shown
  exact ⟨start, state, history, crashed,
    uncritical_of_free (Machine.runs_iff_guardedRun.mpr earlier) free,
    Machine.runs_iff_guardedRun.mpr later, twice, executes, reset⟩

/-! ## A live owner -/

/-- A recovery that is about to issue its DEL has handled each payload at its position, and nothing else. -/
theorem recoveredAt_iff_read {lockId : LockId} {worker : WorkerId} {rest : List WorkerId}
    {start listed state : Platform} {trace : List Label}
    (enters : start.scans lockId = .recover .list worker rest)
    (lists : platform.step start (.scan lockId .resolves) = some listed)
    (run : platform.Runs (fun _ label => besideWorkers lockId label = true) listed trace state)
    (deletes : ∃ visited, state.scans lockId = .recover (.delete visited) worker rest) (position : Nat) :
    recoveredAt (platform.observe recoveries listed trace) worker position ↔
      ∃ job, (start.store.processing worker)[position]? = some (.payload job) := by
  obtain ⟨visited, deleting⟩ := deletes
  have read : listed.scans lockId =
      .recover (.visit [] (start.store.processing worker)) worker rest := by
    obtain ⟨after, went, rfl⟩ := Option.map_eq_some_iff.mp lists
    rw [enters] at went
    obtain rfl := Option.some.inj went
    simp [ScanPoint.recoverNext]
  have initial : RecoveryOf lockId worker rest (start.store.processing worker) (listed, []) :=
    .inl ⟨_, read, by simp, fun position => by simp [recoveredAt, RecoverPoint.done]⟩
  -- The recovery has visited what it had read, one position after the other, when it comes to the DEL.
  have recovery := run.recorded.preserves _ initial fun _ _ _ recovery beside stepped =>
    recovery.step beside stepped
  rcases recovery with ⟨point, recovers, reads, visits⟩ | beyond
  · obtain ⟨rfl, _, _⟩ := ScanPoint.recover.inj (deleting.symm.trans recovers)
    obtain rfl := Option.some.inj reads
    exact visits position
  · simp [deleting, ScanPoint.beyond] at beyond

/--
The final DEL of a recovery deletes no unhandled element exactly when its worker has no unfinished job.

The elements are followed from the LRANGE on, so that equal payloads are told apart. What the LRANGE has
read is always recovered. Unfinished are the jobs that the worker has popped since, and has neither
removed nor pushed back; it is enough that these are over. If it pops nothing, there are none.
-/
theorem recovery_handles_deleted {lockId : LockId} {worker : WorkerId} {rest : List WorkerId}
    {start listed state : Platform} {trace : List Label} {elements : List Element}
    (enters : start.scans lockId = .recover .list worker rest)
    (lists : platform.step start (.scan lockId .resolves) = some listed)
    (run : (platform.tracking (trackElements worker)).Runs
      (fun _ label => besideWorkers lockId label = true)
      (listed, elementsRead (start.store.processing worker)) trace (state, elements))
    (deletes : ∃ visited, state.scans lockId = .recover (.delete visited) worker rest) :
    elements.map Element.entry = state.store.processing worker ∧
    (∀ element ∈ elements, ∀ position ∈ element.position?, ∀ job, element.entry = .payload job →
      recoveredAt (platform.observe recoveries listed trace) worker position) ∧
    ((∀ element ∈ elements,
        element.Handled state (platform.observe recoveries listed trace) worker) ↔
      ∀ job ∈ unfinished elements, jobClosed state job.jobId = true) ∧
    ((platform.tracking (trackElements worker)).Runs
        (fun tracked label => popsNothing worker tracked.1 label)
        (listed, elementsRead (start.store.processing worker)) trace (state, elements) →
      ∀ element ∈ elements,
        element.Handled state (platform.observe recoveries listed trace) worker) := by
  have same : start.store.processing worker = listed.store.processing worker := by
    obtain ⟨after, went, rfl⟩ := Option.map_eq_some_iff.mp lists
    rw [enters] at went
    obtain rfl := Option.some.inj went
    rfl
  have tracked := run.preserves (fun tracked =>
    Tracked worker (start.store.processing worker) tracked.1.store tracked.2) (same ▸ .initial)
    fun before label after tracked _ stepped => by
      obtain ⟨moved, follows⟩ := Machine.tracking_step.mp stepped
      rw [follows]
      exact tracked.step moved
  have alone : platform.Runs (fun _ label => besideWorkers lockId label = true) listed trace state :=
    .untracked (fun _ label => besideWorkers lockId label = true) run
  -- What was read is recovered at its position, and nothing else is recovered.
  have recovered : ∀ element ∈ elements, ∀ position ∈ element.position?, ∀ job,
      element.entry = .payload job →
        recoveredAt (platform.observe recoveries listed trace) worker position := by
    intro element member position isRead job entry
    refine (recoveredAt_iff_read enters lists alone deletes position).mpr ⟨job, ?_⟩
    rw [tracked.read element member position isRead, entry]
  refine ⟨tracked.listed, recovered, ⟨?_, ?_⟩, ?_⟩
  · intro handled job isUnfinished
    obtain ⟨element, member, unread, kept, entry⟩ := mem_unfinished.mp isUnfinished
    rcases handled element member job entry with ⟨_, read, _⟩ | pushed | closed
    · simp [unread] at read
    · simp [kept] at pushed
    · exact closed
  · intro closed element member job entry
    cases isRead : element.position? with
    | some position => exact .inl ⟨position, rfl, recovered element member position isRead job entry⟩
    | none =>
      cases kept : element.pushedBack with
      | true => exact .inr (.inl rfl)
      | false =>
        exact .inr (.inr (closed job (mem_unfinished.mpr ⟨element, member, isRead, kept, entry⟩)))
  · -- Where nothing is popped, every element has been read.
    intro without element member job entry
    have read := without.preserves (fun tracked => ∀ element ∈ tracked.2, element.position?.isSome = true)
      read_elementsRead fun before label after read nothing stepped => by
        rw [(Machine.tracking_step.mp stepped).2]
        exact trackElements_read nothing read
    obtain ⟨position, isRead⟩ := Option.isSome_iff_exists.mp (read element member)
    exact .inl ⟨position, isRead, recovered element member position isRead job entry⟩

/-- A worker executes a job while a scan finds it without a heartbeat. -/
def lapsedHeartbeat : List Label :=
  submission "job" ++ takingUp "w1" ++ detecting "s1" "w1"

/-- The guarantee where the owner is still executing the job when its list is deleted. -/
theorem recovery_handles_deleted_example : ∃ start listed state elements,
    platform.Runs (fun _ _ => True) .initial lapsedHeartbeat start ∧
    platform.step start (.scan "s1" .resolves) = some listed ∧
    (platform.tracking (trackElements "w1")).Runs (fun _ label => besideWorkers "s1" label = true)
      (listed, elementsRead (start.store.processing "w1")) (scanCalls "s1" 3) (state, elements) ∧
    state.executing? "w1" = some "job" ∧
    elements.map Element.entry = [.payload (submittedPayload "job")] ∧
    ∀ element ∈ elements,
      element.Handled state (platform.observe recoveries listed (scanCalls "s1" 3)) "w1" := by
  -- The runs are executed, and the worker has popped nothing since the list was read.
  have executed : ((platform.guardedRun (fun _ _ => True) .initial lapsedHeartbeat).bind fun start =>
      (platform.step start (.scan "s1" .resolves)).bind fun listed =>
        ((platform.tracking (trackElements "w1")).guardedRun
          (fun _ label => besideWorkers "s1" label = true)
          (listed, elementsRead (start.store.processing "w1")) (scanCalls "s1" 3)).map fun tracked =>
            decide (start.scans "s1" = .recover .list "w1" [] ∧
              tracked.1.scans "s1" = .recover (.delete [.payload (submittedPayload "job")]) "w1" [] ∧
              tracked.1.executing? "w1" = some "job" ∧
              tracked.1.store.processing "w1" = [.payload (submittedPayload "job")] ∧
              unfinished tracked.2 = [])) = some true := by decide
  obtain ⟨start, before, executed⟩ := Option.bind_eq_some_iff.mp executed
  obtain ⟨listed, lists, executed⟩ := Option.bind_eq_some_iff.mp executed
  obtain ⟨⟨state, elements⟩, later, shown⟩ := Option.map_eq_some_iff.mp executed
  obtain ⟨enters, deletes, executes, held, none⟩ := of_decide_eq_true shown
  have none : unfinished elements = [] := none
  have run := Machine.runs_iff_guardedRun.mpr later
  obtain ⟨same, _, handled, _⟩ := recovery_handles_deleted enters lists run ⟨_, deletes⟩
  exact ⟨start, listed, state, elements, Machine.runs_iff_guardedRun.mpr before, lists, run, executes,
    same.trans held, handled.mpr (by simp [none])⟩

/-- The owner finishes its job and takes the next one, while the recovery checks the first one. -/
def overtakenRecovery : List Label :=
  .sandbox "w1" (some cleanExit) :: workerCalls "w1" 10 ++ [.scan "s1" .resolves]

/-- A payload that its live owner pops after the LRANGE is deleted unhandled. -/
theorem recovery_deletes_unhandled : ∃ start listed state elements,
    platform.Runs (fun _ _ => True) .initial (lapsedHeartbeat ++ submission "next") start ∧
    start.scans "s1" = .recover .list "w1" [] ∧
    platform.step start (.scan "s1" .resolves) = some listed ∧
    (platform.tracking (trackElements "w1")).Runs (fun _ label => besideWorkers "s1" label = true)
      (listed, elementsRead (start.store.processing "w1")) overtakenRecovery (state, elements) ∧
    (∃ visited, state.scans "s1" = .recover (.delete visited) "w1" []) ∧
    ((platform.step state (.scan "s1" .resolves)).map fun deleted =>
      (deleted.store.pending, deleted.store.processing "w1")) = some ([], []) ∧
    ∃ element ∈ elements, element.entry = .payload (submittedPayload "next") ∧
      ¬ element.Handled state (platform.observe recoveries listed overtakenRecovery) "w1" := by
  -- The second job is popped between the LRANGE and the DEL, and only the first one is visited.
  have executed : ((platform.guardedRun (fun _ _ => True) .initial
      (lapsedHeartbeat ++ submission "next")).bind fun start =>
      (platform.step start (.scan "s1" .resolves)).bind fun listed =>
        ((platform.tracking (trackElements "w1")).guardedRun
          (fun _ label => besideWorkers "s1" label = true)
          (listed, elementsRead (start.store.processing "w1")) overtakenRecovery).map fun tracked =>
            decide (start.scans "s1" = .recover .list "w1" [] ∧
              tracked.1.scans "s1" = .recover (.delete [.payload (submittedPayload "job")]) "w1" [] ∧
              tracked.2 = [⟨.payload (submittedPayload "next"), none, false⟩] ∧
              ((platform.step tracked.1 (.scan "s1" .resolves)).map fun deleted =>
                (deleted.store.pending, deleted.store.processing "w1")) = some ([], []) ∧
              jobClosed tracked.1 "next" = false)) = some true := by decide
  obtain ⟨start, before, executed⟩ := Option.bind_eq_some_iff.mp executed
  obtain ⟨listed, lists, executed⟩ := Option.bind_eq_some_iff.mp executed
  obtain ⟨⟨state, elements⟩, later, shown⟩ := Option.map_eq_some_iff.mp executed
  obtain ⟨enters, deletes, left, gone, isOpen⟩ := of_decide_eq_true shown
  have left : elements = [⟨.payload (submittedPayload "next"), none, false⟩] := left
  refine ⟨start, listed, state, elements, Machine.runs_iff_guardedRun.mpr before, enters, lists,
    Machine.runs_iff_guardedRun.mpr later, ⟨_, deletes⟩, gone,
    ⟨.payload (submittedPayload "next"), none, false⟩, by simp [left], rfl, fun handled => ?_⟩
  -- It was not read, not pushed back, and its job is not over.
  rcases handled _ rfl with ⟨_, read, _⟩ | pushed | closed
  · simp at read
  · simp at pushed
  · exact Bool.false_ne_true (isOpen.symm.trans closed)

end CodeExecution

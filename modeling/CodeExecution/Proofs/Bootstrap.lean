import CodeExecution.Proofs.StartupAlone

/-! The bootstrap of a monitor on its own: how many payloads it leaves each job with. -/

namespace CodeExecution

variable {store : Store} {ahead others : List Entry} {job : QueuePayload} {jobId : JobId}

/-! ## What becomes of a job -/

/-- The job has a row whose status is not terminal. -/
def Store.hasOpen (store : Store) (jobId : JobId) : Bool :=
  (store.statusOf jobId).any fun status => !status.isTerminal

/-- Some payload of the job along the list has no retries left. -/
def exhaustedIn (entries : List Entry) (jobId : JobId) : Bool :=
  entries.any fun
    | .payload job => job.jobId = jobId ∧ job.retryCount + 1 > maxRetryCount
    | .malformed _ => false

/--
How many payloads a job will have once these elements have been recovered.

There is no such number for a job that is over, or that the recovery will end.
-/
def Store.fate (store : Store) (ahead : List Entry) (jobId : JobId) : Option Nat :=
  if store.hasOpen jobId && !exhaustedIn ahead jobId then
    some ((jobsIn store.pending).count jobId + (jobsIn ahead).count jobId)
  else none

/-- Only the statuses and the pending list are read. -/
theorem Store.fate_congr {after : Store} (status : after.hasOpen jobId = store.hasOpen jobId)
    (pending : after.pending = store.pending) : after.fate ahead jobId = store.fate ahead jobId := by
  simp only [fate, status, pending]

/-- An element that is passed over had no job. -/
theorem Store.fate_malformed (text : String) :
    store.fate (.malformed text :: ahead) jobId = store.fate ahead jobId := by
  simp [fate, exhaustedIn]

/-- An element of a job that is over is skipped. -/
theorem Store.fate_skip (isOver : store.hasOpen job.jobId = false) :
    store.fate (.payload job :: ahead) jobId = store.fate ahead jobId := by
  -- The job of the element has no fate, and the element does not count for the others.
  by_cases same : job.jobId = jobId
  · subst same
    simp [fate, isOver]
  · simp [fate, exhaustedIn, same]

/-- An element with retries left becomes a pending one. -/
theorem Store.fate_push {retryCount : Nat} (within : job.retryCount + 1 ≤ maxRetryCount) :
    (store.pushPending (.payload (job.withRetry retryCount))).fate ahead jobId =
      store.fate (.payload job :: ahead) jobId := by
  -- One payload moves from the first list to the second, so the sum stays.
  have open_ : (store.pushPending (.payload (job.withRetry retryCount))).hasOpen jobId =
      store.hasOpen jobId := rfl
  have unspent : exhaustedIn (.payload job :: ahead) jobId = exhaustedIn ahead jobId := by
    have limit : ¬ job.retryCount + 1 > maxRetryCount := Nat.not_lt.mpr within
    simp only [exhaustedIn, List.any_cons, limit, and_false, decide_false, Bool.false_or]
  simp only [fate, open_, unspent]
  by_cases same : job.jobId = jobId
  · simp [pushPending, same, Nat.add_right_comm, Nat.add_assoc]
  · simp [pushPending, same]

/-- A requeue keeps a job open. -/
theorem Store.fate_requeueRow {written : JobId} {retryCount : Nat}
    (notTerminal : isTerminalStatus (store.statusOf written) = false) :
    (store.requeueRow written retryCount).fate ahead jobId = store.fate ahead jobId := by
  -- The row was open before, and PENDING is open too.
  refine fate_congr ?_ rfl
  simp only [hasOpen, statusOf_eq, recordOf_requeueRow]
  rw [statusOf_eq] at notTerminal
  by_cases same : jobId = written
  · subst same
    cases found : store.recordOf jobId with
    | none => rfl
    | some record =>
      have isOpen : record.1.isTerminal = false := by
        simpa [isTerminalStatus, found] using notTerminal
      have waiting : SubmissionStatus.pending.isTerminal = false := rfl
      simp [isOpen, waiting]
  · simp [same]

/-- A dead-letter transaction ends a job that was to be ended. -/
theorem Store.fate_commitDeadLetter {letter : DLQPayload}
    (exhausts : exhaustedIn ahead letter.jobId = true) :
    (store.commitDeadLetter letter).fate ahead jobId = store.fate ahead jobId := by
  -- Of this job no number was expected, and of the others no status changes.
  by_cases same : jobId = letter.jobId
  · subst same
    simp [fate, exhausts]
  · refine fate_congr ?_ (store.commitDeadLetter_lists letter).1
    simp only [hasOpen, statusOf_eq, recordOf_commitDeadLetter]
    simp [same]

/-- After it, the job is over. -/
theorem Store.hasOpen_commitDeadLetter (store : Store) (letter : DLQPayload) :
    (store.commitDeadLetter letter).hasOpen letter.jobId = false := by
  have ended : SubmissionStatus.failed.isTerminal = true := rfl
  simp only [hasOpen, statusOf_eq, recordOf_commitDeadLetter]
  cases found : store.recordOf letter.jobId <;> simp [found, ended]

/-- A job that tests as terminal is over. -/
theorem Store.hasOpen_terminal (terminal : isTerminalStatus (store.statusOf jobId) = true) :
    store.hasOpen jobId = false := by
  -- A terminal status, or none at all.
  simp only [hasOpen, isTerminalStatus] at terminal ⊢
  cases found : store.statusOf jobId with
  | none => rfl
  | some status => simpa [found] using terminal

/-! ## A scan on its own -/

/-- The elements that a recovery has not finished with. -/
def RecoverPoint.left (listed : List Entry) : RecoverPoint → List Entry
  | .list => listed
  | .check cursor | .reset cursor | .push cursor | .deadLetter _ _ cursor
  | .deadLetterPush _ cursor => .payload cursor.job :: cursor.todo
  | .delete _ => []

/-- The workers whose lists a scan has not deleted yet, where it is told of these dead workers. -/
def ScanPoint.owners (dead : List WorkerId) : ScanPoint → List WorkerId
  | .idle | .acquire | .detect => dead
  | .recover _ worker rest => worker :: rest
  | .release | .finished => []

/-- The elements that a scan has not finished with. -/
def ScanPoint.left (dead : List WorkerId) (store : Store) : ScanPoint → List Entry
  | .recover point worker rest =>
    point.left (store.processing worker) ++ rest.flatMap store.processing
  | point => (point.owners dead).flatMap store.processing

/-- What a recovery knows of its current element. -/
def RecoverPoint.Chosen (store : Store) : RecoverPoint → Prop
  | .reset cursor => cursor.job.retryCount + 1 ≤ maxRetryCount ∧
      isTerminalStatus (store.statusOf cursor.job.jobId) = false
  | .push cursor => cursor.job.retryCount + 1 ≤ maxRetryCount
  | .deadLetter .rollback _ _ => False
  | .deadLetter _ letter cursor => letter.jobId = cursor.job.jobId ∧
      cursor.job.retryCount + 1 > maxRetryCount
  | .deadLetterPush _ cursor => store.hasOpen cursor.job.jobId = false
  | .list | .check _ | .delete _ => True

/-- The next iteration passes over elements without a job. -/
theorem RecoverPoint.visit_fate (visited todo listed : List Entry) :
    store.fate ((RecoverPoint.visit visited todo).left listed ++ others) jobId =
      store.fate (todo ++ others) jobId := by
  -- The induction is on the elements that are passed over.
  induction todo generalizing visited with
  | nil => rfl
  | cons first rest ih =>
    cases first with
    | payload job => rfl
    | malformed text => exact (ih (visited ++ [.malformed text])).trans (Store.fate_malformed text).symm

/-- It has nothing chosen yet. -/
theorem RecoverPoint.visit_chosen (visited todo : List Entry) :
    (RecoverPoint.visit visited todo).Chosen store := by
  rcases visit_cases visited todo with ⟨cursor, at_⟩ | ⟨all, at_⟩ <;> rw [at_] <;> trivial

/-- One call of a recovery leaves the fates of all jobs as they are, and the lists until the DEL. -/
theorem RecoverPoint.resolve_fate {point : RecoverPoint} {worker : WorkerId}
    {after : Option RecoverPoint × Store} (resolved : point.resolve worker store = some after)
    (chosen : point.Chosen store) :
    (∃ following, after.1 = some following ∧ following.Chosen after.2 ∧
      after.2.processing = store.processing ∧ ∀ jobId,
        after.2.fate (following.left (store.processing worker) ++ others) jobId =
          store.fate (point.left (store.processing worker) ++ others) jobId) ∨
    (after = (none, store.deleteProcessing worker) ∧ ∃ visited, point = .delete visited) := by
  -- Each element is skipped, ended, or becomes a pending one; a reset or commit lies in between.
  obtain ⟨next, later⟩ := after
  cases RecoverPoint.resolve_cases resolved with
  | list => exact .inl ⟨_, rfl, visit_chosen _ _, rfl, fun jobId => visit_fate _ _ _⟩
  | skip terminal =>
    refine .inl ⟨_, rfl, visit_chosen _ _, rfl, fun jobId => ?_⟩
    exact (visit_fate _ _ _).trans (Store.fate_skip (Store.hasOpen_terminal terminal)).symm
  | exhausts _ spent => exact .inl ⟨_, rfl, ⟨rfl, spent⟩, rfl, fun _ => rfl⟩
  | retries isOpen within => exact .inl ⟨_, rfl, ⟨within, isOpen⟩, rfl, fun _ => rfl⟩
  | reset => exact .inl ⟨_, rfl, chosen.1, rfl, fun _ => Store.fate_requeueRow chosen.2⟩
  | push =>
    refine .inl ⟨_, rfl, visit_chosen _ _, rfl, fun jobId => ?_⟩
    exact (visit_fate _ _ _).trans (Store.fate_push chosen)
  | connect | begin | updateStatus | insertResult =>
    exact .inl ⟨_, rfl, chosen, rfl, fun _ => rfl⟩
  | @commit letter =>
    have ended := store.hasOpen_commitDeadLetter letter
    rw [chosen.1] at ended
    refine .inl ⟨_, rfl, ended, (store.commitDeadLetter_lists letter).2, fun jobId => ?_⟩
    refine Store.fate_commitDeadLetter ?_
    simp only [exhaustedIn, RecoverPoint.left, List.cons_append, List.any_cons, chosen.1, chosen.2,
      and_self, decide_true, Bool.true_or]
  | sendLetter =>
    refine .inl ⟨_, rfl, visit_chosen _ _, rfl, fun jobId => ?_⟩
    exact (visit_fate _ _ _).trans (Store.fate_skip chosen).symm
  | @delete visited => exact .inr ⟨rfl, visited, rfl⟩

/-- Nobody but one scan acts, whose calls resolve, and which is told of these dead workers. -/
def scanAlone (lockId : LockId) (dead : List WorkerId) : Label → Bool
  | .clock _ => true
  | .scanStart own => own = lockId
  | .scan own outcome => own = lockId ∧ outcome = .resolves
  | .detect own processingWorkerIds aliveWorkerIds =>
    own = lockId ∧ deadWorkerIds processingWorkerIds aliveWorkerIds = dead
  | _ => false

/-- How far a scan on its own has come from one store. -/
structure ScannedAlone (start : Store) (dead : List WorkerId) (store : Store) (point : ScanPoint) :
    Prop where
  /-- What becomes of each job was decided at the start. -/
  fate : ∀ jobId,
    store.fate (point.left dead store) jobId = start.fate (dead.flatMap start.processing) jobId
  /-- The lists that are not deleted yet are those of the start, and others are never deleted. -/
  lists : ∀ worker, store.processing worker =
    if worker ∈ dead → worker ∈ point.owners dead then start.processing worker else []
  /-- The lists that are still to come are among those that it was told of. -/
  told : ∀ worker ∈ point.owners dead, worker ∈ dead
  /-- No list is recovered twice. -/
  once : ∀ recovery worker rest, point = .recover recovery worker rest → (worker :: rest).Nodup
  /-- A recovery knows what it has chosen. -/
  chosen : ∀ recovery worker rest, point = .recover recovery worker rest → recovery.Chosen store
  /-- The lock is free until the scan takes it. -/
  free : point = .idle ∨ point = .acquire → store.reaperLock = none

/-- A list without its duplicates has none. -/
theorem eraseDups_nodup (workers : List WorkerId) : workers.eraseDups.Nodup := by
  -- Every element takes its later copies away, so the induction is on the length.
  generalize bound : workers.length = length
  induction length using Nat.strong_induction_on generalizing workers with
  | _ length ih =>
    cases workers with
    | nil => simp
    | cons first rest =>
      rw [List.eraseDups_cons]
      refine List.nodup_cons.mpr ⟨by simp [List.mem_eraseDups], ih _ ?_ _ rfl⟩
      rw [← bound, List.length_cons]
      exact Nat.lt_succ_of_le (List.length_filter_le _ _)

/-- The dead workers of a scan are listed once. -/
theorem deadWorkerIds_nodup (processingWorkerIds aliveWorkerIds : List WorkerId) :
    (deadWorkerIds processingWorkerIds aliveWorkerIds).Nodup :=
  (eraseDups_nodup processingWorkerIds).filter _

/-- Between two lists, the rest of the dead workers is still to be recovered. -/
theorem ScannedAlone.continue_ {start : Store} {dead rest : List WorkerId} {store : Store}
    (fate : ∀ jobId,
      store.fate (rest.flatMap store.processing) jobId = start.fate (dead.flatMap start.processing) jobId)
    (lists : ∀ worker, store.processing worker =
      if worker ∈ dead → worker ∈ rest then start.processing worker else [])
    (told : ∀ worker ∈ rest, worker ∈ dead) (nodup : rest.Nodup) :
    ScannedAlone start dead store (.recoverAll rest) := by
  -- Each recovery begins with the read of its list, where nothing is chosen.
  cases rest with
  | nil => exact ⟨fate, lists, told, by simp [ScanPoint.recoverAll], by simp [ScanPoint.recoverAll],
      by simp [ScanPoint.recoverAll]⟩
  | cons worker rest =>
    refine ⟨fate, lists, told, ?_, ?_, by simp [ScanPoint.recoverAll]⟩
    · intro recovery owner others same
      obtain ⟨_, rfl, rfl⟩ : RecoverPoint.list = recovery ∧ worker = owner ∧ rest = others := by
        simpa [ScanPoint.recoverAll] using same
      exact nodup
    · intro recovery owner others same
      obtain ⟨rfl, _⟩ : RecoverPoint.list = recovery ∧ _ := by
        simpa [ScanPoint.recoverAll] using same
      trivial

/-- A call of the scan decides nothing new. -/
theorem ScannedAlone.resolves {start : Store} {dead : List WorkerId} {point : ScanPoint}
    {lockId : LockId} {after : ScanPoint × Store} (alone : ScannedAlone start dead store point)
    (resolved : point.resolve lockId store = some after) :
    ScannedAlone start dead after.2 after.1 := by
  -- The calls on the lock read nothing else, and those of a recovery decide by its element.
  obtain ⟨next, later⟩ := after
  cases ScanPoint.resolve_cases resolved with
  | acquires => exact ⟨alone.fate, alone.lists, alone.told, by simp, by simp, by simp⟩
  | yields taken => exact absurd (alone.free (.inr rfl)) taken
  | release =>
    have kept : (store.releaseLock lockId).processing = store.processing := by
      unfold Store.releaseLock
      split <;> rfl
    refine ⟨fun jobId => ?_, fun worker => ?_, alone.told, by simp, by simp, by simp⟩
    · refine Eq.trans ?_ (alone.fate jobId)
      unfold Store.releaseLock
      split <;> rfl
    · rw [kept]
      exact alone.lists worker
  | rollback => exact absurd (alone.chosen _ _ _ rfl) not_false
  | @recover recovery worker rest _ _ replied =>
    have chosen := alone.chosen _ _ _ rfl
    have nodup := alone.once _ _ _ rfl
    rcases RecoverPoint.resolve_fate replied chosen with
      ⟨following, isNext, chosen', processing, fates⟩ | ⟨deleted, visited, rfl⟩
    · obtain rfl : _ = some following := isNext
      replace processing : later.processing = store.processing := processing
      refine ⟨fun jobId => ?_, fun owner => ?_, alone.told, ?_, ?_, by simp [ScanPoint.recoverNext]⟩
      · refine Eq.trans ?_ (alone.fate jobId)
        simp only [ScanPoint.recoverNext, ScanPoint.left, processing]
        exact fates jobId
      · rw [processing]
        exact alone.lists owner
      · intro _ _ _ same
        obtain ⟨_, rfl, rfl⟩ : _ ∧ worker = _ ∧ rest = _ := by simpa [ScanPoint.recoverNext] using same
        exact nodup
      · intro _ _ _ same
        obtain ⟨rfl, _⟩ : following = _ ∧ _ := by simpa [ScanPoint.recoverNext] using same
        exact chosen'
    · -- The lists of the other workers are still there after the DEL.
      obtain ⟨rfl, rfl⟩ := Prod.mk.inj deleted
      obtain ⟨unlisted, nodup'⟩ := List.nodup_cons.mp nodup
      have others : rest.flatMap (store.deleteProcessing worker).processing =
          rest.flatMap store.processing := by
        refine List.flatMap_congr fun owner member => ?_
        have different : owner ≠ worker := fun same => unlisted (same ▸ member)
        simp [Store.deleteProcessing, different]
      refine .continue_ (fun jobId => ?_) (fun owner => ?_)
        (fun owner member => alone.told owner (List.mem_cons_of_mem _ member)) nodup'
      · rw [others]
        exact alone.fate jobId
      · by_cases same : owner = worker
        · subst same
          have among : owner ∈ dead := alone.told owner List.mem_cons_self
          simp [Store.deleteProcessing, unlisted, among]
        · have listed := alone.lists owner
          simp only [ScanPoint.owners, List.mem_cons, same, false_or] at listed
          simpa [Store.deleteProcessing, same] using listed

/-- A step of the scan on its own decides nothing new. -/
theorem ScannedAlone.step {start : Store} {dead : List WorkerId} {state next : Platform}
    {label : Label} {lockId : LockId}
    (alone : ScannedAlone start dead state.store (state.scans lockId))
    (permitted : scanAlone lockId dead label = true) (stepped : platform.step state label = some next) :
    ScannedAlone start dead next.store (next.scans lockId) := by
  -- The permitted labels are those of the one scan, and the clock.
  cases Platform.step_cases stepped with
  | clock now => exact ⟨alone.fate, alone.lists, alone.told, alone.once, alone.chosen, alone.free⟩
  | @scanStart own idle =>
    obtain rfl : own = lockId := by simpa [scanAlone] using permitted
    rw [idle] at alone
    simp only [Platform.withScan_store, Platform.withScan_scans, Function.update_self]
    exact ⟨alone.fate, alone.lists, alone.told, by simp, by simp, fun _ => alone.free (.inl rfl)⟩
  | @scan own outcome after went =>
    obtain ⟨rfl, rfl⟩ : own = lockId ∧ outcome = .resolves := by simpa [scanAlone] using permitted
    simp only [Platform.withScan_store, Platform.withScan_scans, Function.update_self]
    exact alone.resolves went
  | @detect own processingWorkerIds aliveWorkerIds detecting =>
    obtain ⟨rfl, same⟩ : own = lockId ∧ deadWorkerIds processingWorkerIds aliveWorkerIds = dead := by
      simpa [scanAlone] using permitted
    rw [detecting] at alone
    simp only [Platform.withScan_store, Platform.withScan_scans, Function.update_self, same]
    exact .continue_ alone.fate alone.lists alone.told (same ▸ deadWorkerIds_nodup _ _)
  | _ => simp [scanAlone] at permitted

/-! ## The recovery before the scan -/

/-- The rows whose payloads the recovery has still to push. -/
def StartupPoint.unpushed : StartupPoint → List SubmissionRow
  | .rehydrate row rest => row :: rest
  | _ => []

/-- The bulk read lies ahead, or has been skipped. -/
def StartupPoint.unread : StartupPoint → Bool
  | .idle | .resetRunning | .checkDepth | .selectPending | .failed => true
  | .rehydrate _ _ | .finished => false

/-- The rows that the loop begins with are those it has still to push. -/
theorem StartupPoint.rehydrateAll_unpushed (rows : List SubmissionRow) :
    (StartupPoint.rehydrateAll rows).unpushed = rows := by
  cases rows <;> rfl

/-- How often the recovery has pushed each job. -/
structure PushedOnce (start store : Store) (point : StartupPoint) : Prop where
  processing : store.processing = start.processing
  /-- Without a bulk read nothing is pushed. -/
  untouched : start.pending ≠ [] ∨ point.unread = true →
    store.pending = start.pending ∧ point.unpushed = []
  /-- After it, each PENDING job is pushed once. -/
  once : start.pending = [] → point.unread = false → ∀ jobId,
    (jobsIn store.pending).count jobId + (point.unpushed.map SubmissionRow.id).count jobId =
      if store.statusOf jobId = some .pending then 1 else 0

/-- The bulk read finds each PENDING job once. -/
theorem Store.pendingRows.count {rows : List SubmissionRow} (read : store.pendingRows rows)
    (jobId : JobId) : (rows.map SubmissionRow.id).count jobId =
      if store.statusOf jobId = some .pending then 1 else 0 := by
  -- Rows have different ids, so a job has one PENDING row or none.
  have keyed : ((store.submissions.select fun row => row.status = .pending).map
      SubmissionRow.id).count jobId = (store.claimable jobId).length := by
    rw [Store.claimable, KeyedTable.select, KeyedTable.select, List.count, List.countP_map,
      List.countP_eq_length_filter, List.filter_filter]
    congr 2
    funext row
    rw [Bool.eq_iff_iff]
    simp
  rw [(read.1.map SubmissionRow.id).count_eq, keyed, Store.claimable_length]

/-- A call of the recovery that resolves pushes one payload at most. -/
theorem PushedOnce.resolves {start : Store} {point : StartupPoint} {after : StartupPoint × Store}
    (pushed : PushedOnce start store point) (resolved : point.resolve store = some after) :
    PushedOnce start after.2 after.1 := by
  -- Only the loop pushes, one row after the other.
  cases point with
  | idle | selectPending | finished | failed => simp [StartupPoint.resolve] at resolved
  | resetRunning =>
    obtain rfl := Option.some.inj resolved
    exact ⟨pushed.processing, fun _ => pushed.untouched (.inr rfl), by simp [StartupPoint.unread]⟩
  | checkDepth =>
    obtain rfl := Option.some.inj resolved
    obtain ⟨same, _⟩ := pushed.untouched (.inr rfl)
    refine ⟨pushed.processing, fun _ => ⟨same, by dsimp only; split <;> rfl⟩, fun empty read => ?_⟩
    simp [same, empty, StartupPoint.unread] at read
  | rehydrate row rest =>
    obtain rfl := Option.some.inj resolved
    have unread : (StartupPoint.rehydrateAll rest).unread = false := by cases rest <;> rfl
    refine ⟨pushed.processing, ?_, fun empty _ jobId => ?_⟩
    · -- A loop over rows follows a bulk read.
      intro begun
      rcases begun with filled | read
      · simpa [StartupPoint.unpushed] using (pushed.untouched (.inl filled)).2
      · simp [unread] at read
    · -- The pushed payload takes the place of its row.
      have counted := pushed.once empty rfl jobId
      rw [StartupPoint.rehydrateAll_unpushed]
      refine Eq.trans ?_ counted
      simp only [Store.pushPending, jobsIn_payload, StartupPoint.unpushed, List.map_cons, payloadOfRow,
        List.count_cons]
      omega

/-- The bulk read counts the rows of the jobs that are PENDING. -/
theorem PushedOnce.reads {start : Store} (pushed : PushedOnce start store .selectPending)
    (empty : start.pending = []) {rows : List SubmissionRow} (read : store.pendingRows rows) :
    PushedOnce start store (.rehydrateAll rows) := by
  obtain ⟨same, _⟩ := pushed.untouched (.inr rfl)
  refine ⟨pushed.processing, ?_, fun _ _ jobId => ?_⟩
  · intro begun
    rcases begun with filled | unread
    · exact absurd empty filled
    · cases rows <;> simp [StartupPoint.rehydrateAll, StartupPoint.unread] at unread
  · -- None of them is pushed yet.
    simp only [StartupPoint.rehydrateAll_unpushed, same, empty, read.count jobId, jobsIn_nil,
      List.count_nil, Nat.zero_add]

/-- The recovery on its own, which keeps the count unless a call has rejected. -/
structure CountedAlone (start store : Store) (point : StartupPoint) : Prop where
  phase : StartupAlone start store point
  pushed : point = .failed ∨ PushedOnce start store point

/-- A step of the recovery on its own keeps both. -/
theorem CountedAlone.step {start : Store} {state next : Platform} {label : Label}
    (counted : CountedAlone start state.store state.startup) (permitted : startupAlone label = true)
    (stepped : platform.step state label = some next) :
    CountedAlone start next.store next.startup := by
  refine startupAlone_step ?_ ?_ ?_ (fun _ => ⟨.failed, .inl rfl⟩) counted permitted stepped
  · intro store now point counted
    exact ⟨counted.phase.clock now,
      counted.pushed.imp_right fun pushed => ⟨pushed.processing, pushed.untouched, pushed.once⟩⟩
  · intro store point after counted resolved
    refine ⟨counted.phase.resolves resolved, ?_⟩
    rcases counted.pushed with rfl | pushed
    · -- Nothing follows the exception.
      simp [StartupPoint.resolve] at resolved
    · exact .inr (pushed.resolves resolved)
  · intro store rows counted read
    have pushed := counted.pushed.resolve_left (by simp)
    exact ⟨counted.phase.reads read, .inr (pushed.reads counted.phase.at_read.2 read)⟩

/-- A recovery that has returned has reset the rows. -/
theorem StartupAlone.reset {start : Store} (phase : StartupAlone start store .finished)
    (jobId : JobId) : store.recordOf jobId = (start.recordOf jobId).reset := by
  -- It returns behind the check, or at the end of the loop.
  generalize at_ : StartupPoint.finished = point at phase
  cases phase with
  | checking rows pending processing decided => exact rows jobId
  | rehydrating ahead rows empty covered => exact rows jobId
  | resetting | failed => simp at at_

/-- The reset keeps jobs open, and leaves the open ones PENDING. -/
theorem hasOpen_reset {start : Store} (reset : store.recordOf jobId = (start.recordOf jobId).reset) :
    store.hasOpen jobId = start.hasOpen jobId ∧
      (store.hasOpen jobId = true → store.statusOf jobId = some .pending) := by
  -- The reset moves RUNNING rows alone.
  simp only [Store.hasOpen, Store.statusOf_eq, reset]
  cases start.recordOf jobId with
  | none => simp [JobRecord.reset]
  | some record =>
    obtain ⟨status, retryCount⟩ := record
    cases status <;> simp [JobRecord.reset, SubmissionStatus.isTerminal]

end CodeExecution

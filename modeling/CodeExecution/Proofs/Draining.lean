import Mathlib.Algebra.Order.BigOperators.Group.Finset
import Mathlib.Algebra.Order.Ring.Nat
import CodeExecution.Guarantees.JobInHand
import CodeExecution.Guarantees.Payloads
import CodeExecution.Library.Progress
import CodeExecution.Proofs.Coverage
import CodeExecution.Services.Shutdown

/-! Undisturbed workers and scans: each has a call to make, and fewer of them after it. -/

namespace CodeExecution

variable {state next : Platform} {label : Label} {trace : List Label}

/-- Nothing comes in and nobody crashes: the workers and the monitor work off what there is. -/
def undisturbed (state : Platform) : Label → Bool
  | .clock _ | .post _ _ _ _ | .gateway _ _ | .workerCrash _ => false
  | label => crashStop state label

/-- Such a step is one of the crash-stop setting. -/
theorem crashStop_of_undisturbed (alone : undisturbed state label = true) :
    crashStop state label = true := by
  cases label with
  | clock _ | post _ _ _ _ | gateway _ _ | workerCrash _ => simp [undisturbed] at alone
  | _ => exact alone

/-- So are its runs. -/
theorem CrashStopRuns.of_undisturbed {start : Platform}
    (run : platform.Runs (fun state label => undisturbed state label = true) start trace state) :
    CrashStopRuns start trace state :=
  run.imp fun _ _ => crashStop_of_undisturbed

/-! ## Workers -/

/-- How many steps a worker is away from the head of its loop, while nothing fails. -/
def WorkerPoint.remaining : WorkerPoint → Nat
  | .claim _ => 12
  | .launch _ => 11
  | .executing _ => 10
  | .persist .connect _ _ => 9
  | .persist .begin _ _ => 8
  | .persist .insertResult _ _ => 7
  | .persist .updateStatus _ _ => 6
  | .persist .commit _ _ => 5
  | .acknowledge _ => 4
  | .complete .xadd _ _ => 3
  | .complete .publish _ _ => 2
  | .complete .expire _ _ => 1
  -- The other points are the head itself, and those of the failures.
  | _ => 0

/-- A worker's call that resolves is a step. -/
theorem Platform.worker_resolves {worker : WorkerId} {point : WorkerPoint}
    {reply : WorkerPoint × Store} (running : state.workers worker = .running point)
    (resolved : point.resolve worker state.store = some reply) :
    platform.step state (.worker worker .resolves) = some (state.withWorker worker reply) := by
  simp [platform, Platform.step, running, awaitCall, resolved]

/-- A step of a worker that brings it nearer to its next pop. -/
structure Advance (state : Platform) (worker : WorkerId) (point : WorkerPoint) (label : Label)
    (after : WorkerPoint × Store) : Prop where
  alone : undisturbed state label = true
  stepped : platform.step state label = some (state.withWorker worker after)
  own : label.mover? = some worker
  fewer : after.1.remaining < point.remaining
  pending : after.2.pending = state.store.pending
  /-- The job stays in hand until it is acknowledged. -/
  keeps : ∀ job, point.listed? = some job → after.1.listed? = some job ∨ point = .acknowledge job

/-- A worker with a job in hand has such a step. -/
theorem CrashStopRuns.worker_advances (run : CrashStopRuns .initial trace state) {worker : WorkerId}
    {point : WorkerPoint} (running : state.workers worker = .running point) (busy : point ≠ .pop) :
    ∃ label after, Advance state worker point label after := by
  have orderly := Orderly.reached run.clean
  have routine := (Routine.reached run).workers worker point running
  -- Most steps are calls that resolve; only the sandbox has labels of its own.
  have call : ∀ reply, point.resolve worker state.store = some reply →
      reply.1.remaining < point.remaining → reply.2.pending = state.store.pending →
      (∀ job, point.listed? = some job → reply.1.listed? = some job ∨ point = .acknowledge job) →
      ∃ label after, Advance state worker point label after := by
    intro reply resolved fewer same keeps
    exact ⟨.worker worker .resolves, reply, rfl, Platform.worker_resolves running resolved, rfl, fewer,
      same, keeps⟩
  cases point with
  | pop => exact absurd rfl busy
  | claim job =>
    -- The claim of a popped payload always finds its row.
    have matched := orderly.worker_claims running
    refine call (.launch job, state.store.claim job.jobId) ?_ (by simp [WorkerPoint.remaining]) rfl
      fun _ own => .inl own
    simp [WorkerPoint.resolve, matched]
  | statusCheck job | repush job | discard job => exact (orderly.worker_possible running rfl).elim
  | launch job =>
    exact ⟨.launch worker, (.executing job, state.store), rfl,
      by simp [platform, Platform.step, running], rfl, by simp [WorkerPoint.remaining], rfl,
      fun _ own => .inl own⟩
  | executing job =>
    exact ⟨.sandbox worker (some cleanExit), (.persist .connect job cleanExit, state.store), rfl,
      by simp [platform, Platform.step, running, WorkerPoint.sandboxSettled], rfl,
      by simp [WorkerPoint.remaining], rfl, fun _ own => .inl own⟩
  | persist step job result =>
    cases step with
    | rollback => simp [WorkerPoint.routine] at routine
    | insertResult =>
      -- The foreign key finds the row of every payload that a worker carries.
      have held : state.Holds (.payload job) := .worker running rfl
      obtain ⟨payload, same, genuine⟩ := (AllGenuine.reached run.unguarded).1 _ held
      obtain rfl := Entry.payload.inj same
      refine call (.persist .updateStatus job result, state.store) ?_
        (by simp [WorkerPoint.remaining]) rfl fun _ own => .inl own
      simp [WorkerPoint.resolve, genuine.stored]
    | commit =>
      obtain ⟨results, written⟩ := state.store.commitResult_eq job.jobId result
      exact call _ rfl (by simp [WorkerPoint.remaining]) (by rw [written]; rfl) fun _ own => .inl own
    | connect | begin | updateStatus =>
      exact call _ rfl (by simp [WorkerPoint.remaining]) rfl fun _ own => .inl own
  | acknowledge job =>
    refine call _ rfl (by simp [WorkerPoint.remaining]) rfl fun _ own => .inr ?_
    rw [Option.some.inj own]
  | complete step chunk job =>
    -- The element has been removed, and nothing is in hand.
    have none : (WorkerPoint.complete step chunk job).listed? = none := rfl
    cases step <;> exact call _ rfl (by simp [WorkerPoint.remaining, StreamCall.next]) rfl
      fun _ own => by simp [none] at own
  | requeue _ _ | exhausted _ | deadLetter _ _ | deadLetterPush _ | deadLetterComplete _ _ _ =>
    simp [WorkerPoint.routine] at routine

/-! ## Recoveries -/

/-- How many calls a recovery has to make at most, where its list has these elements. -/
def RecoverPoint.remaining (listed : List Entry) : RecoverPoint → Nat
  -- Ten calls are enough for each element: the check, the seven of the letter, and two to spare.
  | .list => 10 * listed.length + 1
  | .check cursor => 10 * cursor.todo.length + 10
  | .deadLetter .connect _ cursor => 10 * cursor.todo.length + 9
  | .deadLetter .begin _ cursor => 10 * cursor.todo.length + 8
  | .deadLetter .updateStatus _ cursor => 10 * cursor.todo.length + 7
  | .deadLetter .insertResult _ cursor => 10 * cursor.todo.length + 6
  | .deadLetter .commit _ cursor => 10 * cursor.todo.length + 5
  | .deadLetterPush _ cursor => 10 * cursor.todo.length + 4
  | .reset cursor => 10 * cursor.todo.length + 2
  | .push cursor => 10 * cursor.todo.length + 1
  -- After the DEL, and after a ROLLBACK, nothing is left of the recovery.
  | .deadLetter .rollback _ _ | .delete _ => 0

/-- The rest of the loop has ten calls at most for each element. -/
theorem RecoverPoint.visit_remaining (visited todo listed : List Entry) :
    (RecoverPoint.visit visited todo).remaining listed ≤ 10 * todo.length := by
  -- The induction follows the loop, which passes over what cannot be parsed.
  induction todo generalizing visited with
  | nil => simp [RecoverPoint.visit, RecoverPoint.remaining]
  | cons first rest ih =>
    cases first with
    | payload job => simp [RecoverPoint.visit, RecoverPoint.remaining]; omega
    | malformed text =>
      have shorter := ih (visited ++ [.malformed text])
      simp only [RecoverPoint.visit, List.length_cons]
      omega

/-- A call of a recovery leaves all lists alone and brings it nearer to its DEL, or it is the DEL. -/
theorem RecoverPoint.Resolved.advances {worker : WorkerId} {store after : Store}
    {point : RecoverPoint} {next : Option RecoverPoint}
    (resolved : RecoverPoint.Resolved worker store point next after) :
    (∃ later, next = some later ∧ after.processing = store.processing ∧
      later.remaining (store.processing worker) < point.remaining (store.processing worker)) ∨
    (next = none ∧ after = store.deleteProcessing worker) := by
  -- The three ends of an iteration go on to the next element, the others within the iteration.
  have goesOn (cursor : Cursor) : cursor.advance.remaining (store.processing worker) ≤
      10 * cursor.todo.length := RecoverPoint.visit_remaining ..
  cases resolved with
  | delete => exact .inr ⟨rfl, rfl⟩
  | list =>
    have reads := RecoverPoint.visit_remaining [] (store.processing worker) (store.processing worker)
    exact .inl ⟨_, rfl, rfl, Nat.lt_succ_of_le reads⟩
  | @skip cursor | @push cursor | @sendLetter _ cursor =>
    have fewer := goesOn cursor
    exact .inl ⟨_, rfl, rfl, Nat.lt_of_le_of_lt fewer (by simp [RecoverPoint.remaining])⟩
  | @commit letter cursor =>
    exact .inl ⟨_, rfl, (store.commitDeadLetter_lists letter).2, by simp [RecoverPoint.remaining]⟩
  | exhausts | retries | reset | connect | begin | updateStatus | insertResult =>
    exact .inl ⟨_, rfl, rfl, by simp [RecoverPoint.remaining]⟩

/-- No failure has made a scan roll a transaction back. -/
def ScanPoint.routine : ScanPoint → Bool
  | .recover (.deadLetter .rollback _ _) _ _ => false
  | _ => true

/-- The loop over the dead workers starts without a transaction. -/
@[simp] theorem ScanPoint.recoverAll_routine (dead : List WorkerId) :
    (ScanPoint.recoverAll dead).routine = true := by
  cases dead <;> rfl

/-- Calls that resolve never lead to a ROLLBACK. -/
theorem ScanPoint.routine_resolve {lockId : LockId} {store after : Store} {point next : ScanPoint}
    (resolved : point.resolve lockId store = some (next, after)) : next.routine = true := by
  cases ScanPoint.resolve_cases resolved with
  | acquires | yields | rollback | release => rfl
  | @recover _ worker rest next _ replied =>
    -- The loop over a list visits elements, and no visit is a rollback.
    have visits (cursor : Cursor) :
        (ScanPoint.recover cursor.advance worker rest).routine = true := by
      rcases RecoverPoint.visit_cases cursor.visitedNext cursor.todo with
        ⟨_, at_⟩ | ⟨_, at_⟩ <;> simp [Cursor.advance, at_, ScanPoint.routine]
    cases RecoverPoint.resolve_cases replied with
    | delete => exact ScanPoint.recoverAll_routine rest
    | list =>
      rcases RecoverPoint.visit_cases [] (store.processing worker) with
        ⟨_, at_⟩ | ⟨_, at_⟩ <;> simp [ScanPoint.recoverNext, at_, ScanPoint.routine]
    | skip | push | sendLetter => exact visits _
    | _ => rfl

/-- Crash-stop scans never roll a transaction back. -/
theorem ScanPoint.routine_reached (run : CrashStopRuns .initial trace state) (lockId : LockId) :
    (state.scans lockId).routine = true := by
  refine run.preserves (fun reached => (reached.scans lockId).routine = true) rfl ?_
  intro state label next routine setting stepped
  rcases Platform.step_scan stepped lockId with ⟨same, _⟩ | ⟨_, _, rfl⟩ |
    ⟨outcome, after, rfl, went, rfl⟩ | ⟨_, _, _, _, rfl⟩ | ⟨rfl, _⟩
  · rw [same]
    exact routine
  · simp [ScanPoint.routine]
  · -- A crash-stop call resolves.
    obtain rfl : outcome = .resolves := by simpa [crashStop, launchFaults] using setting
    obtain ⟨reached, later⟩ := after
    simpa using ScanPoint.routine_resolve went
  · simp
  · simp [crashStop, launchFaults, supervised] at setting

/-- A scan's call that resolves is a step. -/
theorem Platform.scan_resolves {lockId : LockId} {reply : ScanPoint × Store}
    (resolved : (state.scans lockId).resolve lockId state.store = some reply) :
    platform.step state (.scan lockId .resolves) = some (state.withScan lockId reply) := by
  simp [platform, Platform.step, awaitCall, resolved]

/-- A recovery of a crash-stop run has a call that resolves. -/
theorem CrashStopRuns.recovery_resolves (run : CrashStopRuns .initial trace state) {lockId : LockId}
    {point : RecoverPoint} {worker : WorkerId} {rest : List WorkerId}
    (recovers : state.scans lockId = .recover point worker rest) :
    ∃ reply, point.resolve worker state.store = some reply ∧
      platform.step state (.scan lockId .resolves) =
        some (state.withScan lockId (.recoverNext worker rest reply.1, reply.2)) := by
  have routine := ScanPoint.routine_reached run lockId
  rw [recovers] at routine
  -- Only a missing row or a ROLLBACK would leave it without a reply.
  have replies : ∃ reply, point.resolve worker state.store = some reply := by
    cases point with
    | deadLetter call letter cursor =>
      cases call with
      | rollback => simp [ScanPoint.routine] at routine
      | insertResult =>
        have held : state.Holds (.payload letter.payload) :=
          .recovery recovers (by simp [RecoverPoint.carried])
        obtain ⟨payload, same, genuine⟩ := (AllGenuine.reached run.unguarded).1 _ held
        obtain rfl := Entry.payload.inj same
        exact ⟨_, if_pos genuine.stored⟩
      | connect | begin | updateStatus | commit => exact ⟨_, rfl⟩
    | check cursor =>
      simp only [RecoverPoint.resolve]
      split
      · exact ⟨_, rfl⟩
      · split <;> exact ⟨_, rfl⟩
    | list | reset _ | push _ | deadLetterPush _ _ | delete _ => exact ⟨_, rfl⟩
  obtain ⟨reply, resolved⟩ := replies
  refine ⟨reply, resolved, Platform.scan_resolves ?_⟩
  rw [recovers]
  unfold ScanPoint.resolve
  split
  · next same => cases same
  · next same =>
    obtain ⟨rfl, rfl, rfl⟩ := ScanPoint.recover.inj same
    simp [ScanPoint.routine] at routine
  · next same =>
    obtain ⟨rfl, rfl, rfl⟩ := ScanPoint.recover.inj same
    simp [resolved]
  · next same => cases same
  all_goals next same => cases same

/-! ## Scans -/

/-- How many steps a scan has to make at most until it has given up the lock. -/
def ScanPoint.remaining (store : Store) : ScanPoint → Nat
  | .detect => 2
  | .recover point worker rest =>
    2 + point.remaining (store.processing worker) +
      (rest.map fun other => 10 * (store.processing other).length + 2).sum
  | .release => 1
  | .idle | .acquire | .finished => 0

/-- The next dead workers cost no more once a list is deleted. -/
theorem ScanPoint.recoverAll_remaining (store : Store) (worker : WorkerId) (rest : List WorkerId) :
    (ScanPoint.recoverAll rest).remaining (store.deleteProcessing worker) ≤
      1 + (rest.map fun other => 10 * (store.processing other).length + 2).sum := by
  -- Every list is as long as before, or empty.
  have shorter (other : WorkerId) : ((store.deleteProcessing worker).processing other).length ≤
      (store.processing other).length := by
    by_cases same : other = worker <;> simp [Store.deleteProcessing, same]
  cases rest with
  | nil => simp [ScanPoint.recoverAll, ScanPoint.remaining]
  | cons first more =>
    have others : (more.map fun other =>
        10 * ((store.deleteProcessing worker).processing other).length + 2).sum ≤
        (more.map fun other => 10 * (store.processing other).length + 2).sum := by
      refine List.sum_le_sum fun other _ => ?_
      have fewer := shorter other
      omega
    have fewer := shorter first
    simp only [ScanPoint.recoverAll, ScanPoint.remaining, RecoverPoint.remaining, List.map_cons,
      List.sum_cons]
    omega

/-- A scan in its critical section has a step that brings it nearer to its end. -/
theorem CrashStopRuns.scan_advances (run : CrashStopRuns .initial trace state) {lockId : LockId}
    (critical : (state.scans lockId).critical = true) :
    ∃ label after, undisturbed state label = true ∧
      platform.step state label = some (state.withScan lockId after) ∧
      after.1.remaining after.2 < (state.scans lockId).remaining state.store := by
  cases at_ : state.scans lockId with
  | idle | acquire | finished => simp [at_, ScanPoint.critical] at critical
  | detect =>
    -- A detection that finds no dead worker goes on to the release.
    refine ⟨.detect lockId [] [], (.release, state.store), rfl, ?_, by simp [ScanPoint.remaining]⟩
    simp [platform, Platform.step, at_, deadWorkerIds, ScanPoint.recoverAll]
  | release =>
    refine ⟨.scan lockId .resolves, (.finished, state.store.releaseLock lockId), rfl, ?_,
      by simp [ScanPoint.remaining]⟩
    exact Platform.scan_resolves (by rw [at_]; rfl)
  | recover point worker rest =>
    obtain ⟨reply, resolved, stepped⟩ := run.recovery_resolves at_
    refine ⟨.scan lockId .resolves, _, rfl, stepped, ?_⟩
    rcases (RecoverPoint.resolve_cases resolved).advances with
      ⟨later, isNext, same, fewer⟩ | ⟨isLast, emptied⟩
    · simp only [isNext, ScanPoint.recoverNext, ScanPoint.remaining, same]
      omega
    · have rested := ScanPoint.recoverAll_remaining state.store worker rest
      rw [isLast, emptied]
      show (ScanPoint.recoverAll rest).remaining _ < 2 + _ + _
      omega

/-- A state of the crash-stop setting. -/
def CrashStopReached (state : Platform) : Prop :=
  ∃ trace, CrashStopRuns .initial trace state

/-- What can be made to hold while the workers and the monitor are undisturbed. -/
abbrev Attainable (state : Platform) (goal : Platform → Prop) : Prop :=
  platform.Reaches (fun state label => undisturbed state label = true) state goal

/-- Undisturbed steps stay in the setting. -/
theorem CrashStopReached.step (reached : CrashStopReached state)
    (alone : undisturbed state label = true) (stepped : platform.step state label = some next) :
    CrashStopReached next := by
  obtain ⟨trace, run⟩ := reached
  exact ⟨trace ++ [label], .snoc run (crashStop_of_undisturbed alone) stepped⟩

/-- So do undisturbed runs. -/
theorem CrashStopReached.later {later : List Label} (reached : CrashStopReached state)
    (run : platform.Runs (fun state label => undisturbed state label = true) state later next) :
    CrashStopReached next := by
  obtain ⟨trace, earlier⟩ := reached
  exact ⟨trace ++ later, earlier.append (CrashStopRuns.of_undisturbed run)⟩

/-- The scan that is in its critical section can be brought to its end. -/
theorem CrashStopReached.scans_end (reached : CrashStopReached state) :
    Attainable state fun after => ∀ lockId, (after.scans lockId).critical = false := by
  by_cases working : ∃ lockId, (state.scans lockId).critical = true
  · obtain ⟨lockId, critical⟩ := working
    -- Its owner is the only scan that moves, and nobody else can be critical beside it.
    have alone : ∀ other, other ≠ lockId → (state.scans other).critical = false := by
      obtain ⟨trace, run⟩ := reached
      intro other different
      by_contra both
      exact different ((Orderly.reached run.clean).locked.alone (by simpa using both) critical)
    refine (Machine.Reaches.of_variant
      (fun after => CrashStopReached after ∧
        ∀ other, other ≠ lockId → (after.scans other).critical = false)
      (fun after => (after.scans lockId).critical = false)
      (fun after => (after.scans lockId).remaining after.store) ?_ ⟨reached, alone⟩).imp ?_
    · rintro after ⟨⟨trace, run⟩, others⟩ busy
      obtain ⟨label, later, permitted, stepped, fewer⟩ := run.scan_advances (by simpa using busy)
      refine .step permitted stepped (.here ⟨⟨CrashStopReached.step ⟨trace, run⟩ permitted stepped,
        fun other different => ?_⟩, by simpa using fewer⟩)
      simpa [different] using others other different
    · rintro after ⟨⟨_, others⟩, done⟩ other
      by_cases same : other = lockId
      · exact same ▸ done
      · exact others other same
  · exact .here fun lockId => by simpa using fun critical => working ⟨lockId, critical⟩

end CodeExecution

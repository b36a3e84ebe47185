import Mathlib.Data.Set.Finite.Basic
import CodeExecution.Proofs.Draining
import CodeExecution.Proofs.Resumption

/-! Whatever has crashed, everything accepted can still be brought to its end without another crash. -/

namespace CodeExecution

variable {state next : Platform} {label : Label} {trace : List Label} {worker : WorkerId}

/-! ## Who has started -/

/-- Only finitely many workers and scans have ever been started. -/
structure Finitary (state : Platform) : Prop where
  workers : {worker | state.workers worker ≠ .absent}.Finite
  scans : {lockId | state.scans lockId ≠ .idle}.Finite

/-- A step starts one of them at most. -/
theorem Finitary.step (finitary : Finitary state) (stepped : platform.step state label = some next) :
    Finitary next where
  workers := by
    have started : {worker | label = .workerStart worker}.Finite := by
      refine Set.Subsingleton.finite fun first isFirst second isSecond => ?_
      exact Label.workerStart.inj (isFirst.symm.trans isSecond)
    refine (finitary.workers.union started).subset fun worker present => ?_
    by_contra none
    simp only [Set.mem_union, Set.mem_ofPred_eq, not_or, not_not] at none
    exact present (Platform.step_absent stepped none.1 none.2)
  scans := by
    have started : {lockId | label = .scanStart lockId ∨ label = .scanDies lockId}.Finite := by
      refine Set.Subsingleton.finite ?_
      rintro first (rfl | rfl) second (same | same) <;> cases same <;> rfl
    refine (finitary.scans.union started).subset fun lockId present => ?_
    by_contra none
    simp only [Set.mem_union, Set.mem_ofPred_eq, not_or, not_not] at none
    obtain ⟨idle, unstarted, alive⟩ := none
    -- A scan that has not started has no call to make.
    rcases Platform.step_scan stepped lockId with ⟨same, _⟩ | ⟨starts, _⟩ |
      ⟨outcome, after, _, went, _⟩ | ⟨_, _, _, detecting, _⟩ | ⟨dies, _⟩
    · exact present (same.trans idle)
    · exact unstarted starts
    · rw [idle] at went
      rcases outcome with _ | _ | _ <;> simp [awaitCall, ScanPoint.resolve, ScanPoint.handler] at went
    · simp [idle] at detecting
    · exact alive dies

/-- So it is in every run. -/
theorem Finitary.reached {allowed : Platform → Label → Prop}
    (run : platform.Runs allowed .initial trace state) : Finitary state :=
  run.preserves Finitary ⟨by simp [Platform.initial], by simp [Platform.initial]⟩
    fun _ _ _ finitary _ stepped => finitary.step stepped

/-! ## Crashed workers -/

/-- Undisturbed steps crash nobody, and revive nobody. -/
theorem undisturbed_crashed (alone : undisturbed state label = true)
    (stepped : platform.step state label = some next) :
    next.workers worker = .crashed ↔ state.workers worker = .crashed := by
  constructor
  · intro crashed
    -- Nobody dies while nothing disturbs them.
    cases was : state.workers worker with
    | crashed => rfl
    | running point =>
      rcases Platform.step_running stepped was with ⟨later, running⟩ | ⟨rfl, _⟩
      · simp [running] at crashed
      · simp [undisturbed] at alone
    | absent =>
      by_cases starts : label = .workerStart worker
      · subst starts
        obtain rfl : _ = next := by simpa [platform, Platform.step, was] using stepped
        simp at crashed
      · simp [Platform.step_absent stepped was starts] at crashed
  · exact Platform.step_crashed stepped

/-- The list of a crashed worker, once empty, stays empty. -/
theorem undisturbed_cleared (alone : undisturbed state label = true)
    (stepped : platform.step state label = some next)
    (cleared : state.workers worker = .crashed → state.store.processing worker = [])
    (crashed : next.workers worker = .crashed) : next.store.processing worker = [] := by
  have was := (undisturbed_crashed alone stepped).mp crashed
  -- A dead worker pops nothing, so its list stays or is deleted.
  rcases Platform.step_deadList stepped was with same | gone
  · rw [same]
    exact cleared was
  · exact gone

/-- A new scan can take the lock from whoever left it behind, and find the crashed worker. -/
theorem CrashStopReached.recovery_starts (reached : CrashStopReached state)
    (quiet : ∀ lockId, (state.scans lockId).critical = false)
    (crashed : state.workers worker = .crashed) :
    ∃ lockId, Attainable state fun after => CrashStopReached after ∧
      after.workers worker = .crashed ∧ after.scans lockId = .recover .list worker [] := by
  obtain ⟨trace, run⟩ := reached
  obtain ⟨lockId, isFresh⟩ := (Finitary.reached run).scans.exists_notMem
  have idle : state.scans lockId = .idle := by simpa using isFresh
  have dead : deadWorkerIds [worker] [] = [worker] := by simp [deadWorkerIds, List.eraseDups_cons]
  -- The lock expires, and the scan is called, acquires it, and detects the worker.
  let freed : Platform := { state with store := { state.store with reaperLock := none } }
  let called := freed.withScan lockId (.acquire, freed.store)
  let locked := called.withScan lockId (.detect, called.store.acquireLock lockId)
  let found := locked.withScan lockId (.recoverAll (deadWorkerIds [worker] []), locked.store)
  have abandoned : undisturbed state .lockExpires = true := by
    show abandonedLock state = true
    unfold abandonedLock
    cases state.store.reaperLock <;> simp [quiet]
  have truthful : undisturbed locked (.detect lockId [worker] []) = true := by
    show truthfulDetection locked [worker] [] = true
    simp [truthfulDetection, dead, locked, called, freed, crashed]
  have expires : platform.step state .lockExpires = some freed := rfl
  have calls : platform.step freed (.scanStart lockId) = some called := by
    simp [platform, Platform.step, freed, called, idle]
  have locks : platform.step called (.scan lockId .resolves) = some locked :=
    Platform.scan_resolves (by simp [called, freed, ScanPoint.resolve])
  have detects : platform.step locked (.detect lockId [worker] []) = some found := by
    simp [platform, Platform.step, locked, found]
  have whole : platform.Runs (fun state label => undisturbed state label = true) state
      [.lockExpires, .scanStart lockId, .scan lockId .resolves, .detect lockId [worker] []] found :=
    .cons abandoned expires (.cons rfl calls (.cons rfl locks (.cons truthful detects .nil)))
  refine ⟨lockId, _, found, whole, CrashStopReached.later ⟨trace, run⟩ whole, crashed, ?_⟩
  simp [found, dead, ScanPoint.recoverAll]

/-- The list of a crashed worker can be worked off. -/
theorem CrashStopReached.list_clears (reached : CrashStopReached state) (worker : WorkerId) :
    Attainable state fun after =>
      after.workers worker = .crashed → after.store.processing worker = [] := by
  by_cases crashed : state.workers worker = .crashed
  swap
  · exact .here fun gone => absurd gone crashed
  refine reached.scans_end.trans fun _ middle toMiddle quiet => ?_
  have still : middle.workers worker = .crashed :=
    toMiddle.preserves (fun after => after.workers worker = .crashed) crashed
      fun _ _ _ gone _ stepped => Platform.step_crashed stepped gone
  obtain ⟨lockId, begins⟩ := (reached.later toMiddle).recovery_starts quiet still
  refine begins.trans fun _ begun _ => ?_
  rintro ⟨reached', gone, recovers⟩
  -- The scan recovers this worker until the DEL, which is the goal.
  refine (Machine.Reaches.of_variant
    (fun after => CrashStopReached after ∧ (after.store.processing worker = [] ∨
      ∃ point, after.scans lockId = .recover point worker []))
    (fun after => after.store.processing worker = [])
    (fun after => (after.scans lockId).remaining after.store) ?_
    ⟨reached', .inr ⟨.list, recovers⟩⟩).imp fun after done _ => done.2
  rintro after ⟨⟨trace, run⟩, cleared | ⟨point, at_⟩⟩ listed
  · exact absurd cleared listed
  obtain ⟨reply, resolved, stepped⟩ := run.recovery_resolves at_
  have alone : undisturbed after (.scan lockId .resolves) = true := rfl
  refine .step alone stepped (.here ⟨⟨?_, ?_⟩, ?_⟩)
  · exact CrashStopReached.step ⟨trace, run⟩ alone stepped
  all_goals
    rcases (RecoverPoint.resolve_cases resolved).advances with
      ⟨later, isNext, same, fewer⟩ | ⟨isLast, emptied⟩
  · exact .inr ⟨later, by simp [isNext, ScanPoint.recoverNext]⟩
  · exact .inl (by simp [emptied, Store.deleteProcessing])
  · simp only [Platform.withScan_scans, Function.update_self, Platform.withScan_store, isNext,
      ScanPoint.recoverNext, at_, ScanPoint.remaining, same]
    omega
  · simp only [Platform.withScan_scans, Function.update_self, isLast, ScanPoint.recoverNext,
      ScanPoint.recoverAll, at_, ScanPoint.remaining]
    omega

/-! ## Live workers -/

/-- Where no call fails, a live worker's list holds the job in hand at most. -/
theorem CrashStopRuns.inHand (run : CrashStopRuns .initial trace state) (worker : WorkerId) :
    InHand state worker := by
  refine run.preserves_trace (fun _ reached => InHand reached worker)
    ⟨fun _ => rfl, by simp [Platform.initial]⟩ ?_
  intro trace state label next earlier held setting stepped
  -- Only an element that cannot be parsed would be left behind, and there is none.
  have free : parks state worker label = false := by
    unfold parks
    split
    · next mover outcome =>
      obtain rfl : outcome = .resolves := by simpa [crashStop, launchFaults] using setting
      split
      · next point running =>
        by_cases pops : point = .pop
        · subst pops
          cases last : state.store.pending.getLast? with
          | none => simp [WorkerPoint.parks, last]
          | some entry =>
            obtain ⟨payload, rfl, _⟩ := (AllGenuine.reached earlier.unguarded).1 entry
              (.pending (List.mem_of_getLast? last))
            simp [WorkerPoint.parks, last]
        · simp [WorkerPoint.parks_resolves pops]
      · rfl
      · rfl
    · rfl
  simpa [free] using held.step stepped

/-- How many steps a process is away from the head of its loop. -/
def WorkerState.remaining : WorkerState → Nat
  | .running point => point.remaining
  | .absent | .crashed => 0

/-- How much work these workers have before them. -/
def Platform.workLeft (state : Platform) (crew : Finset WorkerId) : Nat :=
  -- A pending job takes a pop and the twelve steps after it.
  13 * state.store.pending.length + ∑ worker ∈ crew, (state.workers worker).remaining

/-- A step of one worker leaves less work where it leaves less for this worker. -/
theorem Platform.workLeft_lt {crew : Finset WorkerId} {point : WorkerPoint}
    {after : WorkerPoint × Store} (running : state.workers worker = .running point)
    (member : worker ∈ crew)
    (less : 13 * after.2.pending.length + after.1.remaining <
      13 * state.store.pending.length + point.remaining) :
    (state.withWorker worker after).workLeft crew < state.workLeft crew := by
  -- The other workers stand where they stood.
  have others : ∑ other ∈ crew.erase worker,
      ((state.withWorker worker after).workers other).remaining =
      ∑ other ∈ crew.erase worker, (state.workers other).remaining := by
    refine Finset.sum_congr rfl fun other elsewhere => ?_
    simp [Finset.ne_of_mem_erase elsewhere]
  have before := Finset.add_sum_erase crew (fun other => (state.workers other).remaining) member
  have later := Finset.add_sum_erase crew
    (fun other => ((state.withWorker worker after).workers other).remaining) member
  have own : ((state.withWorker worker after).workers worker).remaining = after.1.remaining := by
    simp [WorkerState.remaining]
  have was : (state.workers worker).remaining = point.remaining := by
    simp [running, WorkerState.remaining]
  unfold Platform.workLeft
  simp only [others, own, was] at before later
  rw [Platform.withWorker_store]
  omega

/-- All that is left is in the hands of a crew that has a live worker. -/
structure Crewed (reserve : WorkerId) (crew : Finset WorkerId) (state : Platform) : Prop where
  reached : CrashStopReached state
  cleared : ∀ worker, state.workers worker = .crashed → state.store.processing worker = []
  standing : ∃ point, state.workers reserve = .running point
  known : ∀ worker, worker ∉ crew → state.workers worker = .absent

/-- The queue is empty, and every live worker waits for the next job. -/
structure Drained (state : Platform) : Prop where
  pending : state.store.pending = []
  waiting : ∀ worker point, state.workers worker = .running point → point = .pop

/-- A worker of the crew goes on. -/
theorem Crewed.step {reserve : WorkerId} {crew : Finset WorkerId} (crewed : Crewed reserve crew state)
    {point : WorkerPoint} {after : WorkerPoint × Store}
    (running : state.workers worker = .running point) (alone : undisturbed state label = true)
    (stepped : platform.step state label = some (state.withWorker worker after)) :
    Crewed reserve crew (state.withWorker worker after) ∧ worker ∈ crew where
  left := {
    reached := crewed.reached.step alone stepped
    cleared := fun other => undisturbed_cleared alone stepped (crewed.cleared other)
    standing := by
      obtain ⟨at_, standing⟩ := crewed.standing
      -- Only a crash takes a standing worker away.
      rcases Platform.step_running stepped standing with later | ⟨rfl, _⟩
      · exact later
      · simp [undisturbed] at alone
    known := by
      intro other outside
      have absent := crewed.known other outside
      have different : other ≠ worker := fun same => by simp [same, running] at absent
      simpa [different] using absent }
  right := by
    -- Outside the crew nobody runs.
    by_contra outside
    simp [crewed.known worker outside] at running

/-- As long as there is work, a worker of the crew can make it less. -/
theorem Crewed.advances {reserve : WorkerId} {crew : Finset WorkerId}
    (crewed : Crewed reserve crew state) (working : ¬ Drained state) :
    Attainable state fun after => Crewed reserve crew after ∧
      after.workLeft crew < state.workLeft crew := by
  obtain ⟨trace, run⟩ := crewed.reached
  by_cases busy : ∃ worker point, state.workers worker = .running point ∧ point ≠ .pop
  · -- A worker with a job in hand goes on with it.
    obtain ⟨worker, point, running, has⟩ := busy
    obtain ⟨label, after, advance⟩ := run.worker_advances running has
    obtain ⟨still, member⟩ := crewed.step running advance.alone advance.stepped
    refine .step advance.alone advance.stepped (.here ⟨still, Platform.workLeft_lt running member ?_⟩)
    have fewer := advance.fewer
    rw [advance.pending]
    omega
  · -- Otherwise the reserve waits for a job, and the queue has one.
    have waiting : ∀ worker point, state.workers worker = .running point → point = .pop := by
      intro worker point running
      by_contra has
      exact busy ⟨worker, point, running, has⟩
    obtain ⟨point, standing⟩ := crewed.standing
    obtain rfl := waiting reserve point standing
    have queued : state.store.pending ≠ [] := fun empty => working ⟨empty, waiting⟩
    have pops : ∃ later entry, WorkerPoint.pop.resolve reserve state.store =
        some (later, state.store.moveToProcessing reserve entry) ∧ later.remaining ≤ 12 := by
      have last := List.getLast?_eq_some_getLast queued
      cases entry : state.store.pending.getLast queued with
      | payload job =>
        exact ⟨.claim job, .payload job, by simp [WorkerPoint.resolve, last, entry],
          by simp [WorkerPoint.remaining]⟩
      | malformed text =>
        exact ⟨.pop, .malformed text, by simp [WorkerPoint.resolve, last, entry],
          by simp [WorkerPoint.remaining]⟩
    obtain ⟨later, entry, resolved, near⟩ := pops
    have stepped := Platform.worker_resolves standing resolved
    have alone : undisturbed state (.worker reserve .resolves) = true := rfl
    obtain ⟨still, member⟩ := crewed.step standing alone stepped
    refine .step alone stepped (.here ⟨still, Platform.workLeft_lt standing member ?_⟩)
    have shorter : (state.store.moveToProcessing reserve entry).pending.length =
        state.store.pending.length - 1 := by simp [Store.moveToProcessing]
    have positive := List.length_pos_of_ne_nil queued
    show 13 * (state.store.moveToProcessing reserve entry).pending.length + later.remaining <
      13 * state.store.pending.length + 0
    rw [shorter]
    omega

/-- The crew can work off everything. -/
theorem Crewed.drains {reserve : WorkerId} {crew : Finset WorkerId}
    (crewed : Crewed reserve crew state) :
    Attainable state fun after => Crewed reserve crew after ∧ Drained after :=
  Machine.Reaches.of_variant (Crewed reserve crew) Drained (fun after => after.workLeft crew)
    (fun _ crewed working => crewed.advances working) crewed

/-- Every reachable state can be brought to one that a crew with a live worker can drain. -/
theorem CrashStopReached.crewed (reached : CrashStopReached state) :
    Attainable state fun after => ∃ reserve crew, Crewed reserve crew after := by
  -- A worker is started, and the lists of those that have crashed are worked off one after another.
  obtain ⟨trace, run⟩ := reached
  obtain ⟨reserve, isFresh⟩ := (Finitary.reached run).workers.exists_notMem
  have absent : state.workers reserve = .absent := by simpa using isFresh
  have starts : platform.step state (.workerStart reserve) =
      some (state.withWorker reserve (.pop, state.store)) := by
    simp [platform, Platform.step, absent]
  have alone : undisturbed state (.workerStart reserve) = true := rfl
  refine .step alone starts ?_
  have started := CrashStopReached.step ⟨trace, run⟩ alone starts
  generalize opened : state.withWorker reserve (.pop, state.store) = begun at started
  have stands : begun.workers reserve = .running .pop := by simp [← opened]
  obtain ⟨earlier, toBegun⟩ := started
  refine (Machine.Reaches.all CrashStopReached (fun worker after =>
    after.workers worker = .crashed → after.store.processing worker = [])
    (fun _ _ _ reached alone stepped => reached.step alone stepped)
    (fun _ _ _ _ alone stepped worker => undisturbed_cleared alone stepped)
    (fun worker _ reached => reached.list_clears worker) ⟨earlier, toBegun⟩
    (Finitary.reached toBegun).workers.toFinset.toList).trans ?_
  intro later after toAfter cleared
  have still := CrashStopReached.later ⟨earlier, toBegun⟩ toAfter
  obtain ⟨whole, toEnd⟩ := still
  refine .here ⟨reserve, (Finitary.reached toEnd).workers.toFinset, ⟨whole, toEnd⟩, ?_, ?_, ?_⟩
  · -- Whoever has crashed by now had crashed, and so had started, before.
    intro worker crashed
    have was : begun.workers worker = .crashed := by
      refine (toAfter.preserves (fun middle => middle.workers worker = .crashed →
        begun.workers worker = .crashed) id ?_) crashed
      intro _ _ _ before alone stepped gone
      exact before ((undisturbed_crashed alone stepped).mp gone)
    exact cleared worker (by simp [was]) crashed
  · refine toAfter.preserves (fun middle => ∃ point, middle.workers reserve = .running point)
      ⟨.pop, stands⟩ ?_
    rintro _ _ _ ⟨point, running⟩ alone stepped
    rcases Platform.step_running stepped running with onward | ⟨rfl, _⟩
    · exact onward
    · simp [undisturbed] at alone
  · intro worker outside
    simpa using outside

/-! ## The guarantee -/

/--
No crash takes an accepted job beyond reach: without another one, everything accepted can end.

From every state of the crash-stop setting the workers and the monitor alone can empty all lists.
Every job that was enqueued is terminal then, and those that were terminal before are unchanged.
-/
theorem accepted_jobs_can_end (run : CrashStopRuns .initial trace state) :
    ∃ later final,
      platform.Runs (fun state label => undisturbed state label = true) state later final ∧
      final.store.pending = [] ∧ (∀ worker, final.store.processing worker = []) ∧
      ∀ jobId, (state.posts jobId).pushed = true →
        isTerminalStatus (final.store.statusOf jobId) = true ∧
        (isTerminalStatus (state.store.statusOf jobId) = true →
          final.store.statusOf jobId = state.store.statusOf jobId) := by
  obtain ⟨later, final, onward, ⟨reserve, crew, crewed⟩, drained⟩ :
      Attainable state fun after => (∃ reserve crew, Crewed reserve crew after) ∧ Drained after :=
    (CrashStopReached.crewed ⟨trace, run⟩).trans fun _ _ _ ⟨reserve, crew, crewed⟩ =>
      crewed.drains.imp fun _ done => ⟨⟨reserve, crew, done.1⟩, done.2⟩
  have whole : CrashStopRuns .initial (trace ++ later) final :=
    run.append (CrashStopRuns.of_undisturbed onward)
  have orderly := Orderly.reached whole.clean
  -- Nobody is left with an element: the dead lists were cleared, and the crew waits.
  have emptied : ∀ worker, final.store.processing worker = [] := by
    intro worker
    cases at_ : final.workers worker with
    | absent => exact orderly.absentEmpty worker at_
    | crashed => exact crewed.cleared worker at_
    | running point =>
      obtain rfl := drained.waiting worker point at_
      exact (whole.inHand worker).pop at_
  refine ⟨later, final, onward, drained.pending, emptied, fun jobId pushed => ⟨?_, fun ended => ?_⟩⟩
  · -- A job that is not over would be on a list.
    have posts : final.posts jobId = state.posts jobId := by
      refine onward.preserves (fun after => after.posts jobId = state.posts jobId) rfl ?_
      intro _ label _ same alone stepped
      rcases Platform.step_post stepped jobId with ⟨kept, _⟩ | ⟨_, _, _, rfl, _⟩ |
        ⟨_, _, rfl, _⟩ | ⟨rfl, _⟩
      · exact kept.trans same
      all_goals simp [undisturbed, crashStop, launchFaults] at alone
    by_contra isOpen
    rcases enqueued_listed whole (posts ▸ pushed) (by simpa using isOpen) with queued | ⟨worker, listed⟩
    · simp [drained.pending] at queued
    · simp [emptied worker] at listed
  · obtain ⟨status, found, terminal⟩ : ∃ status, state.store.statusOf jobId = some status ∧
        status.isTerminal = true := by
      simpa [isTerminalStatus, Option.any_eq_true] using ended
    rw [found]
    exact (Orderly.reached run.clean).keeps_status
      (CrashStopRuns.clean_later run (CrashStopRuns.of_undisturbed onward)) found terminal

/-- The guarantee where one worker has crashed in its sandbox and another behind its commit. -/
theorem accepted_jobs_can_end_example : ∃ state, CrashStopRuns .initial
      (submission "first" ++ submission "second" ++ takingUp "w1" ++ [.workerCrash "w1"] ++
        takingUp "w2" ++ [.sandbox "w2" (some cleanExit)] ++ workerCalls "w2" 5 ++
        [.workerCrash "w2"]) state ∧
    (state.store.statusOf "first", state.store.statusOf "second") =
      (some .running, some .completed) ∧
    ∃ later final,
      platform.Runs (fun state label => undisturbed state label = true) state later final ∧
      final.store.pending = [] ∧ isTerminalStatus (final.store.statusOf "first") = true ∧
      final.store.statusOf "second" = some .completed := by
  obtain ⟨state, run, facts⟩ := Machine.runs_of_guardedRun platform
    (fun state label => crashStop state label = true) Platform.initial
    (submission "first" ++ submission "second" ++ takingUp "w1" ++ [.workerCrash "w1"] ++
      takingUp "w2" ++ [.sandbox "w2" (some cleanExit)] ++ workerCalls "w2" 5 ++ [.workerCrash "w2"])
    (fun state => (state.store.statusOf "first", state.store.statusOf "second",
      (state.posts "first").pushed, (state.posts "second").pushed))
    (some .running, some .completed, true, true) (by decide)
  obtain ⟨first, second, pushed, pushed'⟩ : state.store.statusOf "first" = some .running ∧
      state.store.statusOf "second" = some .completed ∧ (state.posts "first").pushed = true ∧
      (state.posts "second").pushed = true := by simpa using facts
  -- Both jobs were pushed, one is RUNNING in the list of a dead worker, the other is over.
  obtain ⟨later, final, onward, empty, _, ends⟩ := accepted_jobs_can_end run
  refine ⟨state, run, by rw [first, second], later, final, onward, empty, (ends "first" pushed).1, ?_⟩
  rw [(ends "second" pushed').2 (by rw [second]; rfl), second]

end CodeExecution

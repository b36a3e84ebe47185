import CodeExecution.Guarantees.Draining

/-! Graceful shutdown costs no attempt: a worker that leaves its loop leaves nothing behind. -/

namespace CodeExecution

variable {state next : Fleet} {label : FleetLabel} {trace : List FleetLabel} {worker : WorkerId}

/-! ## The fleet refines the platform -/

/-- The fleet stands where a run of the platform leads that notices the same. -/
def Fleet.Refined (noticed : List Notice) (state : Fleet) : Prop :=
  ∃ labels, CrashStopRuns .initial labels state.current ∧
    platform.observe notices .initial labels = noticed

/-- Whoever has departed is gone, and has left an empty list. -/
def Fleet.LeftNothing (state : Fleet) : Prop :=
  ∀ worker, state.departed worker = true → state.current.workers worker = .crashed ∧
    state.current.store.processing worker = []

/-- A step of the fleet is a step of the platform, behind which a worker may die with an empty list. -/
theorem Fleet.Refined.step {noticed : List Notice} (refined : state.Refined noticed)
    (setting : fleetCrashStop state label = true) (stepped : fleet.step state label = some next) :
    next.Refined (noticed ++ fleetNotices state label) := by
  obtain ⟨labels, run, same⟩ := refined
  cases label with
  | signal worker =>
    -- The handler of a signal touches nothing that the others see.
    have kept : next.current = state.current := by
      simp only [fleet, Fleet.step] at stepped
      split at stepped
      · simp at stepped
      · obtain rfl := Option.some.inj stepped
        rfl
    exact ⟨labels, kept ▸ run, by simp [fleetNotices, same]⟩
  | platform label =>
    obtain ⟨moved, went, rfl⟩ := Option.map_eq_some_iff.mp stepped
    have onward : CrashStopRuns .initial (labels ++ [label]) moved := .snoc run setting went
    have grown : platform.observe notices .initial (labels ++ [label]) =
        noticed ++ notices state.current label := by rw [Machine.observe_snoc run went, same]
    rcases state.arrive_cases label moved with goesOn | ⟨worker, _, _, pops, leaves⟩
    · rw [goesOn]
      exact ⟨_, onward, grown⟩
    · -- Nothing is in hand at the head of the loop, so the death holds no job.
      have dies : platform.step moved (.workerCrash worker) =
          some { moved with workers := Function.update moved.workers worker .crashed } := by
        simp [platform, Platform.step, pops]
      rw [leaves]
      refine ⟨_, onward.snoc rfl dies, ?_⟩
      have empty := (onward.inHand worker).pop pops
      rw [Machine.observe_snoc onward dies, grown]
      simp [notices, empty, fleetNotices]

/-- Every run of the fleet is a run of the platform in which the same is noticed. -/
theorem Fleet.Refined.reached
    (run : fleet.Runs (fun state label => fleetCrashStop state label = true) .initial trace state) :
    state.Refined (fleet.observe fleetNotices .initial trace) := by
  refine run.preserves_trace
    (fun trace state => state.Refined (fleet.observe fleetNotices .initial trace))
    ⟨[], .nil, rfl⟩ ?_
  intro _ _ _ _ earlier refined setting stepped
  -- What is noticed grows with the trace.
  rw [Machine.observe_snoc earlier stepped]
  exact refined.step setting stepped

/-- A departed worker stays gone, and its list stays empty. -/
theorem Fleet.LeftNothing.step (left : state.LeftNothing) {noticed : List Notice}
    (refined : state.Refined noticed) (setting : fleetCrashStop state label = true)
    (stepped : fleet.step state label = some next) : next.LeftNothing := by
  cases label with
  | signal worker =>
    simp only [fleet, Fleet.step] at stepped
    split at stepped
    · simp at stepped
    · obtain rfl := Option.some.inj stepped
      exact left
  | platform label =>
    obtain ⟨moved, went, rfl⟩ := Option.map_eq_some_iff.mp stepped
    have still : ∀ worker, state.departed worker = true → moved.workers worker = .crashed ∧
        moved.store.processing worker = [] := by
      intro worker was
      obtain ⟨gone, empty⟩ := left worker was
      refine ⟨Platform.step_crashed went gone, ?_⟩
      rcases Platform.step_deadList went gone with same | cleared
      · exact same.trans empty
      · exact cleared
    rcases state.arrive_cases label moved with goesOn | ⟨worker, _, _, pops, leaves⟩
    · rw [goesOn]
      exact still
    · -- The one that departs has come back for its next job, with nothing in hand.
      obtain ⟨labels, run, _⟩ := refined
      have onward : CrashStopRuns .initial (labels ++ [label]) moved := .snoc run setting went
      have empty := (onward.inHand worker).pop pops
      rw [leaves]
      intro other departed
      by_cases same : other = worker
      · subst same
        exact ⟨by simp, empty⟩
      · have was : state.departed other = true := by simpa [same] using departed
        exact ⟨by simpa [same] using (still other was).1, (still other was).2⟩

/-! ## The guarantee -/

/--
Graceful stops are free, in runs in which workers crash or are told to stop at any time.

A worker that has left its loop has an empty list for good.
Only real crashes count as attempts: a job is started once more at most than its holders have crashed,
and has a letter only after one crash more than there are retries.
-/
theorem graceful_stops_are_free
    (run : fleet.Runs (fun state label => fleetCrashStop state label = true) .initial trace state) :
    (∀ worker, state.departed worker = true → state.current.workers worker = .crashed ∧
      state.current.store.processing worker = []) ∧
    ∀ jobId,
      startsOf jobId (fleet.observe fleetNotices .initial trace) ≤
        1 + crashesOf jobId (fleet.observe fleetNotices .initial trace) ∧
      ∀ letter ∈ state.current.store.deadLetter, letter.jobId = jobId →
        crashesOf jobId (fleet.observe fleetNotices .initial trace) = maxRetryCount + 1 := by
  refine ⟨?_, fun jobId => ?_⟩
  · refine run.preserves_trace (fun _ state => state.LeftNothing)
      (fun _ departed => by simp [Fleet.initial] at departed) ?_
    intro _ _ _ _ earlier left setting stepped
    exact left.step (Fleet.Refined.reached earlier) setting stepped
  · -- The platform's own run has balanced counts, and notices the same.
    obtain ⟨labels, refined, same⟩ := Fleet.Refined.reached run
    obtain ⟨events, attempt, lived, located, starts, crashes⟩ :=
      platform_refines_attempts refined jobId
    have balanced := Attempt.Balanced.reached lived
    rw [starts, crashes, same] at balanced
    refine ⟨balanced.bounded.1, ?_⟩
    rintro letter member rfl
    have buried : attempt = .buried :=
      located.buried_of_lettered refined (.inl ⟨letter, member, rfl⟩)
    rw [buried] at balanced
    exact balanced.1

/-- A worker crashes with a job, and the next one is told to stop while it executes that job. -/
def stoppedRun : List FleetLabel :=
  (submission "job" ++ takingUp "w1" ++ [Label.workerCrash "w1"] ++ detecting "s" "w1" ++
    scanCalls "s" 6 ++ takingUp "w2").map .platform ++ [.signal "w2"] ++
  (.sandbox "w2" (some cleanExit) :: workerCalls "w2" 9).map .platform

/-- The guarantee in a run with a crash and a stop. -/
theorem graceful_stops_are_free_example : ∃ state,
    fleet.Runs (fun state label => fleetCrashStop state label = true) .initial stoppedRun state ∧
    state.departed "w2" = true ∧ state.current.store.statusOf "job" = some .completed ∧
    state.current.store.processing "w2" = [] ∧
    startsOf "job" (fleet.observe fleetNotices .initial stoppedRun) ≤
      1 + crashesOf "job" (fleet.observe fleetNotices .initial stoppedRun) := by
  obtain ⟨state, run, ends⟩ := Machine.runs_of_guardedRun fleet
    (fun state label => fleetCrashStop state label = true) .initial stoppedRun
    (fun state => (state.departed "w2", state.current.store.statusOf "job")) (true, some .completed)
    (by decide)
  obtain ⟨departed, completed⟩ := Prod.mk.inj ends
  -- The one crash is counted, and the stop is not.
  have free := graceful_stops_are_free run
  exact ⟨state, run, departed, completed, (free.1 "w2" departed).2, (free.2 "job").1⟩

/-! ## A stop comes to its end -/

/-- The labels of one worker's own program, where nothing fails. -/
def ownStep (worker : WorkerId) (state : Fleet) (label : FleetLabel) : Prop :=
  fleetCrashStop state label = true ∧ ∃ own, label = .platform own ∧ own.mover? = some worker

/-- A stopping worker departs by its own steps, with its list empty and the held job over. -/
def Fleet.Departs (state : Fleet) (worker : WorkerId) (held : Option JobId) (steps : Nat) : Prop :=
  ∃ later final, later.length ≤ steps ∧ fleet.Runs (ownStep worker) state later final ∧
    final.departed worker = true ∧ final.current.store.processing worker = [] ∧
    ∀ jobId ∈ held, (final.current.store.recordOf jobId).IsClosed

/-- One more step before it departs. -/
theorem Fleet.Departs.cons {held : Option JobId} {steps : Nat} (permitted : ownStep worker state label)
    (stepped : fleet.step state label = some next) (departs : next.Departs worker held steps) :
    state.Departs worker held (steps + 1) := by
  obtain ⟨later, final, short, run, ends⟩ := departs
  exact ⟨label :: later, final, by simpa using short, .cons permitted stepped run, ends⟩

/-- There may be more time than it needs. -/
theorem Fleet.Departs.mono {held : Option JobId} {steps more : Nat}
    (departs : state.Departs worker held steps) (within : steps ≤ more) :
    state.Departs worker held more := by
  obtain ⟨later, final, short, ends⟩ := departs
  exact ⟨later, final, by omega, ends⟩

/-- A worker that comes to the head of its loop departs there. -/
theorem Fleet.departs_at_head {labels : List Label} {own : Label} {moved : Platform}
    {held : Option JobId} (run : CrashStopRuns .initial labels state.current)
    (told : state.stopping worker = true) (setting : crashStop state.current own = true)
    (mover : own.mover? = some worker) (stepped : platform.step state.current own = some moved)
    (pops : moved.workers worker = .running .pop)
    (closed : ∀ jobId ∈ held, (moved.store.recordOf jobId).IsClosed) : state.Departs worker held 1 := by
  have onward : CrashStopRuns .initial (labels ++ [own]) moved := .snoc run setting stepped
  -- The flag is read before the next job is asked for.
  have leaves : fleet.step state (.platform own) = some
      { state with
        current := { moved with workers := Function.update moved.workers worker .crashed }
        departed := Function.update state.departed worker true } := by
    simp [fleet, Fleet.step, stepped, Fleet.arrive, mover, told, pops]
  exact ⟨[.platform own], _, by simp, .cons ⟨setting, own, rfl, mover⟩ leaves .nil, by simp,
    (onward.inHand worker).pop pops, closed⟩

/-- A worker that is not back at the head of its loop goes on with its job. -/
theorem Fleet.arrive_within {own : Label} {after : WorkerPoint × Store}
    (mover : own.mover? = some worker) (within : after.1 ≠ .pop)
    (stepped : platform.step state.current own = some (state.current.withWorker worker after)) :
    fleet.step state (.platform own) =
      some { state with current := state.current.withWorker worker after } := by
  simp [fleet, Fleet.step, stepped, Fleet.arrive, mover, within]

/-- A stopping worker with a job in hand finishes it, and departs. -/
theorem Fleet.departs_within {labels : List Label} {point : WorkerPoint} {held : Option JobId}
    {steps : Nat} (run : CrashStopRuns .initial labels state.current)
    (told : state.stopping worker = true)
    (running : state.current.workers worker = .running point) (busy : point ≠ .pop)
    (within : point.remaining ≤ steps)
    (holds : ∀ jobId ∈ held, (state.current.store.recordOf jobId).IsClosed ∨
      ∃ job, point.listed? = some job ∧ job.jobId = jobId) : state.Departs worker held steps := by
  -- Every own step leaves fewer steps to the head of the loop, so the induction is on their number.
  induction steps generalizing state labels point with
  | zero =>
    obtain ⟨_, _, advance⟩ := run.worker_advances running busy
    have fewer := advance.fewer
    omega
  | succ steps ih =>
    obtain ⟨own, after, advance⟩ := run.worker_advances running busy
    have setting := crashStop_of_undisturbed advance.alone
    have fewer := advance.fewer
    have onward : CrashStopRuns .initial (labels ++ [own]) (state.current.withWorker worker after) :=
      .snoc run setting advance.stepped
    -- The job is closed by the time it is acknowledged, and stays closed.
    have orderly := Orderly.reached run.clean
    have kept {jobId : JobId} (closed : (state.current.store.recordOf jobId).IsClosed) :
        ((state.current.withWorker worker after).store.recordOf jobId).IsClosed := by
      have single : CrashStopRuns state.current [own] (state.current.withWorker worker after) :=
        .snoc .nil setting advance.stepped
      rw [orderly.keeps_closed (CrashStopRuns.clean_later run single) closed]
      exact closed
    have holds' : ∀ jobId ∈ held,
        ((state.current.withWorker worker after).store.recordOf jobId).IsClosed ∨
          ∃ job, after.1.listed? = some job ∧ job.jobId = jobId := by
      intro jobId isHeld
      rcases holds jobId isHeld with closed | ⟨job, listed, rfl⟩
      · exact .inl (kept closed)
      · rcases advance.keeps job listed with still | rfl
        · exact .inr ⟨job, still, rfl⟩
        · exact .inl (kept (orderly.sound.relied _ _ _ (.working running rfl)))
    by_cases back : after.1 = .pop
    · have closed : ∀ jobId ∈ held,
          ((state.current.withWorker worker after).store.recordOf jobId).IsClosed := by
        intro jobId isHeld
        rcases holds' jobId isHeld with closed | ⟨job, listed, _⟩
        · exact closed
        · simp [back, WorkerPoint.listed?] at listed
      exact (Fleet.departs_at_head run told setting advance.own advance.stepped (by simp [back])
        closed).mono (by omega)
    · have stepped := Fleet.arrive_within advance.own back advance.stepped
      have permitted : ownStep worker state (.platform own) := ⟨setting, own, rfl, advance.own⟩
      exact .cons permitted stepped (ih onward told (by simp) back (by omega) holds')

/--
A stop is never stuck: a worker that was told to stop can always finish by thirteen steps of its own.

It then has left its loop with an empty list, and the job that it had in hand is over.
-/
theorem stops_complete {point : WorkerPoint}
    (run : fleet.Runs (fun state label => fleetCrashStop state label = true) .initial trace state)
    (told : state.stopping worker = true)
    (running : state.current.workers worker = .running point) :
    ∃ later final, later.length ≤ 13 ∧ fleet.Runs (ownStep worker) state later final ∧
      final.departed worker = true ∧ final.current.store.processing worker = [] ∧
      ∀ job, point.listed? = some job →
        isTerminalStatus (final.current.store.statusOf job.jobId) = true := by
  obtain ⟨labels, refined, _⟩ := Fleet.Refined.reached run
  have departs : state.Departs worker (point.listed?.map QueuePayload.jobId) 13 := by
    by_cases busy : point = .pop
    swap
    · refine Fleet.departs_within refined told running busy ?_ fun jobId isHeld => .inr ?_
      · unfold WorkerPoint.remaining
        split <;> omega
      · simpa using isHeld
    -- The signal came while the worker waited for a job, and it may still be given one.
    subst busy
    have setting : crashStop state.current (.worker worker .resolves) = true := rfl
    cases last : state.current.store.pending.getLast? with
    | none =>
      have stepped := Platform.worker_resolves running
        (show _ = some (WorkerPoint.pop, state.current.store) by simp [WorkerPoint.resolve, last])
      exact (Fleet.departs_at_head refined told setting rfl stepped (by simp)
        (by simp [WorkerPoint.listed?])).mono (by omega)
    -- It pops once more, and finishes that job.
    | some entry =>
      obtain ⟨job, rfl, _⟩ := (AllGenuine.reached refined.unguarded).1 entry
        (.pending (List.mem_of_getLast? last))
      have stepped := Platform.worker_resolves running
        (show _ = some (WorkerPoint.claim job,
          state.current.store.moveToProcessing worker (.payload job)) by
          simp [WorkerPoint.resolve, last])
      have onward := refined.snoc setting stepped
      have permitted : ownStep worker state (.platform (.worker worker .resolves)) :=
        ⟨setting, _, rfl, rfl⟩
      have claims : (state.current.withWorker worker (WorkerPoint.claim job,
          state.current.store.moveToProcessing worker (.payload job))).workers worker =
          .running (.claim job) := by simp
      refine .cons permitted (Fleet.arrive_within rfl (by simp) stepped) ?_
      exact Fleet.departs_within onward told claims (by simp) (Nat.le_refl 12)
        (by simp [WorkerPoint.listed?])
  obtain ⟨later, final, short, alone, departed, empty, closed⟩ := departs
  refine ⟨later, final, short, alone, departed, empty, fun job listed => ?_⟩
  exact Store.terminal_iff_closed.mpr (closed job.jobId (by simp [listed]))

/-- The guarantee for a worker that is told to stop as soon as it has started its sandbox. -/
theorem stops_complete_example : ∃ state later final,
    fleet.Runs (fun state label => fleetCrashStop state label = true) .initial
      ((submission "job" ++ takingUp "w").map .platform ++ [.signal "w"]) state ∧
    later.length ≤ 13 ∧ fleet.Runs (ownStep "w") state later final ∧
    final.departed "w" = true ∧ final.current.store.processing "w" = [] ∧
    isTerminalStatus (final.current.store.statusOf "job") = true := by
  obtain ⟨state, run, facts⟩ := Machine.runs_of_guardedRun fleet
    (fun state label => fleetCrashStop state label = true) .initial
    ((submission "job" ++ takingUp "w").map .platform ++ [.signal "w"])
    (fun state => (state.stopping "w", state.current.workers "w"))
    (true, .running (.executing (submittedPayload "job"))) (by decide)
  obtain ⟨told, running⟩ := Prod.mk.inj facts
  -- The worker is in its sandbox when it is told, and goes on alone from there.
  obtain ⟨later, final, short, alone, departed, empty, ends⟩ := stops_complete run told running
  exact ⟨state, later, final, run, short, alone, departed, empty, ends _ rfl⟩

end CodeExecution

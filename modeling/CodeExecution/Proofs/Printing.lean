import CodeExecution.Proofs.Coverage
import CodeExecution.Proofs.Markers
import CodeExecution.Proofs.Sandbox
import CodeExecution.Services.Printing

/-! Attempts that print: what each of them has added to the stream of its job. -/

namespace CodeExecution

/-! ## Data -/

@[simp] theorem dataOn_nil (stream : OutputStream) : dataOn stream [] = [] := rfl

@[simp] theorem dataOn_append (stream : OutputStream) (earlier later : List StreamEntry) :
    dataOn stream (earlier ++ later) = dataOn stream earlier ++ dataOn stream later := by
  simp [dataOn]

/-- System messages are no data of an output. -/
theorem dataOn_system (stream : OutputStream) (data : List UInt16) :
    dataOn stream [(.system, data)] = [] := by
  cases stream <;> rfl

/-- A data event takes back nothing that was published. -/
theorem SandboxOutput.handleOutput_published (state : SandboxOutput) (event : OutputEvent) :
    ∃ chunks, (state.handleOutput event).published = state.published ++ chunks := by
  by_cases exceeded : state.streamOutputLimitExceeded = true
  · exact ⟨[], by rw [handleOutput_exceeded exceeded, List.append_nil]⟩
  · rw [handleOutput_going (by simpa using exceeded)]
    -- The event has no text, or goes beyond the limit, or is published.
    split
    · exact ⟨[], (List.append_nil _).symm⟩
    · split
      · exact ⟨_, rfl⟩
      · exact ⟨_, rfl⟩

/-! ## The platform beside the sandboxes -/

/-- What crash-stop runs keep on the platform. -/
structure Steady (state : Platform) : Prop where
  orderly : Orderly state
  routine : Routine state
  marking : Marking state

/-- The platform is steady before the first request. -/
theorem Steady.initial : Steady .initial :=
  ⟨Orderly.initial, Routine.reached .nil, Marking.initial⟩

/-- Crash-stop steps keep it so. -/
theorem Steady.step {state next : Platform} {label : Label} (steady : Steady state)
    (setting : crashStop state label = true) (stepped : platform.step state label = some next) :
    Steady next :=
  have clean := steady.routine.cleanlySupervised setting
  ⟨steady.orderly.step clean.1 clean.2 stepped, steady.routine.step setting stepped,
    steady.marking.step stepped⟩

/-- An effect on the platform adds no data to any stream. -/
theorem Marking.dataOn_addEntry {state : Platform} (marking : Marking state) (label : Label)
    (entries : JobId → List StreamEntry) (jobId : JobId) (stream : OutputStream) :
    dataOn stream ((state.effect label).addEntry entries jobId) = dataOn stream (entries jobId) := by
  cases made : state.effect label with
  | stream call key chunk =>
    cases call with
    | xadd =>
      -- What is added is a completion marker.
      obtain ⟨worker, _, point, -, running, marks⟩ := Platform.effect_stream made
      have completes := marking worker point .xadd chunk key running marks
      have system : chunk.type = .system := (of_decide_eq_true completes).1
      simp only [Effect.addEntry]
      by_cases same : jobId = key
      · subst same
        rw [Function.update_self, dataOn_append, system, dataOn_system, List.append_nil]
      · rw [Function.update_of_ne same]
    | publish | expire => rfl
  | _ => rfl

/-- A worker executes its job until its sandbox settles, or it dies. -/
theorem Platform.step_executing {state next : Platform} {label : Label} {worker : WorkerId}
    {job : QueuePayload} (stepped : state.step label = some next)
    (running : state.workers worker = .running (.executing job)) :
    next.workers worker = .running (.executing job) ∨ (∃ result, label = .sandbox worker result) ∨
      label = .workerCrash worker := by
  rcases Platform.step_running stepped running with ⟨later, runs⟩ | ⟨dies, -⟩
  · rcases Platform.step_worker stepped runs with ⟨was, -⟩ | ⟨outcome, before, after, rfl, was, went, -⟩ |
      ⟨_, -, was, -⟩ | ⟨result, before, rfl, -⟩ | ⟨-, was, -⟩
    · rw [running] at was
      exact .inl (runs.trans was.symm)
    · -- No call is awaited inside the sandbox.
      obtain rfl : .executing job = before := by simpa [running] using was
      rcases awaitCall_cases went with ⟨_, resolved⟩ | ⟨_, _, handled, _⟩ | ⟨_, _, _, resolved, _⟩
      · simp [WorkerPoint.resolve] at resolved
      · simp [WorkerPoint.handler] at handled
      · simp [WorkerPoint.resolve] at resolved
    · simp [running] at was
    · exact .inr (.inl ⟨result, rfl⟩)
    · simp [running] at was
  · exact .inr (.inr dies)

/-! ## Sandboxes after a step -/

/-- A sandbox that is there after a step was there before, or has just been launched. -/
theorem Printing.executionsAfter_cases {state : Printing} {label : Label} {worker : WorkerId}
    {execution : Execution} (going : state.executionsAfter label worker = some execution) :
    (label = .launch worker ∧ execution = ⟨.initial, 0⟩) ∨
    (state.executions worker = some execution ∧ label ≠ .launch worker ∧
      (∀ result, label ≠ .sandbox worker result) ∧ label ≠ .workerCrash worker) := by
  cases label with
  | launch launcher =>
    by_cases same : worker = launcher
    · subst same
      exact .inl ⟨rfl, by simpa [executionsAfter, eq_comm] using going⟩
    · exact .inr ⟨by simpa [executionsAfter, same] using going, by simp [Ne.symm same], by simp, by simp⟩
  | sandbox mover _ | workerCrash mover =>
    by_cases same : worker = mover
    · -- The sandbox of that worker is gone.
      subst same
      simp [executionsAfter] at going
    · exact .inr ⟨by simpa [executionsAfter, same] using going, by simp, by simp [Ne.symm same],
        by simp [Ne.symm same]⟩
  | _ => exact .inr ⟨going, by simp, by simp, by simp⟩

/-- Only the sandbox that has moved on is another one than before. -/
theorem Printing.withExecution_cases {state : Printing} {worker other : WorkerId}
    {moved execution : Execution}
    (going : (state.withExecution worker moved).executions other = some execution) :
    (other = worker ∧ execution = moved) ∨ (other ≠ worker ∧ state.executions other = some execution) := by
  -- The update is at that worker alone.
  by_cases same : other = worker
  · subst same
    exact .inl ⟨rfl, by simpa [withExecution, eq_comm] using going⟩
  · exact .inr ⟨same, by simpa [withExecution, same] using going⟩

/-! ## Attempts at a job -/

/-- The setting of a crash-stop run, in which programs may print whatever they like. -/
def crashStopping (state : Printing) : PrintingLabel → Bool
  | .platform label => crashStop state.platform label
  | .output _ _ | .add _ => true

/-- The entries that were in a job's stream when its last attempt was launched. -/
def launchedOf (jobId : JobId) (state : Printing) (label : PrintingLabel)
    (launched : List StreamEntry) : List StreamEntry :=
  match label with
  | .platform (.launch worker) =>
    match state.platform.workers worker with
    | .running (.launch job) => if job.jobId = jobId then state.entries jobId else launched
    | _ => launched
  | _ => launched

/-- The stored text of an output. -/
def ResultRow.text (row : ResultRow) : OutputStream → String
  | .stdout => row.stdout
  | .stderr => row.stderr

/-- A sandbox has handled some events, and has added as many chunks as it says. -/
structure Execution.Sound (execution : Execution) : Prop where
  output : ∃ events, execution.output = sandboxOutput events
  added : execution.added ≤ execution.output.published.length

/-- Behind what was there at the launch, a job's stream holds this data. -/
def Printing.Holds (state : Printing) (jobId : JobId) (launched : List StreamEntry)
    (data : OutputStream → List UInt16) : Prop :=
  ∀ stream, dataOn stream (state.entries jobId) = dataOn stream launched ++ data stream

/-- What the attempts at a job in progress have added to its stream. -/
structure Printed (jobId : JobId) (state : Printing) (launched : List StreamEntry) : Prop where
  /-- Every sandbox is some worker's, and has added its first chunks. -/
  going : ∀ worker execution, state.executions worker = some execution → execution.Sound ∧
    ∃ job, state.platform.workers worker = .running (.executing job) ∧
      (job.jobId = jobId → state.Holds jobId launched fun stream =>
        dataOn stream (execution.output.published.take execution.added))
  /-- A result without truncation is what its attempt has added. -/
  settled : ∀ worker call job result,
    state.platform.workers worker = .running (.persist call job result) → job.jobId = jobId →
    result.outputTruncated = false → state.Holds jobId launched fun stream =>
      Utf16.encode ((sandboxResultRow jobId result).text stream).toList

variable {jobId : JobId} {state next : Printing} {launched : List StreamEntry}

/-- Nothing is executed at first. -/
theorem Printed.initial : Printed jobId .initial [] where
  going worker execution going := by simp [Printing.initial] at going
  settled worker call job result running := by simp [Printing.initial, Platform.initial] at running

/-- Another data event leaves the added chunks as they are. -/
theorem Execution.Sound.handleOutput {execution : Execution} (sound : execution.Sound)
    (event : OutputEvent) :
    ({ execution with output := execution.output.handleOutput event } : Execution).Sound ∧
      (execution.output.handleOutput event).published.take execution.added =
        execution.output.published.take execution.added := by
  -- The handlers publish behind what they have published already.
  obtain ⟨chunks, grown⟩ := execution.output.handleOutput_published event
  obtain ⟨events, output⟩ := sound.output
  refine ⟨⟨⟨events ++ [event], ?_⟩, ?_⟩, ?_⟩
  · rw [sandboxOutput, List.foldl_concat, ← sandboxOutput, output]
  · rw [grown, List.length_append]
    exact le_trans sound.added (Nat.le_add_right _ _)
  · rw [grown, List.take_append_of_le_length sound.added]

/-- A data event adds nothing to the stream. -/
theorem Printed.output (printed : Printed jobId state launched) {worker : WorkerId} {event : OutputEvent}
    {execution : Execution} (going : state.executions worker = some execution) :
    Printed jobId (state.withExecution worker
      { execution with output := execution.output.handleOutput event }) launched where
  going other later goes := by
    -- The worker whose program prints is told apart from the others.
    rcases Printing.withExecution_cases goes with ⟨rfl, rfl⟩ | ⟨-, before⟩
    · obtain ⟨sound, job, running, holds⟩ := printed.going other execution going
      obtain ⟨sound', kept⟩ := sound.handleOutput event
      refine ⟨sound', job, running, fun own => ?_⟩
      simp only [kept]
      exact holds own
    · exact printed.going other later before
  settled := printed.settled

/-- XADD adds the next chunk behind the others of the same attempt. -/
theorem Printed.add (printed : Printed jobId state launched) (sole : SoleEngaged state.platform)
    {worker : WorkerId} {execution : Execution} {key : JobId} {chunk : StreamEntry}
    (going : state.executions worker = some execution)
    (executes : state.platform.executing? worker = some key)
    (nextChunk : execution.nextChunk = some chunk) :
    Printed jobId ((state.addEntry key chunk).withExecution worker
      { execution with added := execution.added + 1 }) launched := by
  obtain ⟨inside, chunkAt⟩ := List.getElem?_eq_some_iff.mp nextChunk
  obtain ⟨own, runs, rfl⟩ := Platform.executing_iff.mp executes
  -- Nobody else is engaged in the job.
  have elsewhere : ∀ other point, state.platform.workers other = .running point →
      point.engaged? = some jobId → other ≠ worker → ∀ data, state.Holds jobId launched data →
      ((state.addEntry own.jobId chunk).withExecution worker
        { execution with added := execution.added + 1 }).Holds jobId launched data := by
    intro other point running engaged different data holds stream
    have otherJob : jobId ≠ own.jobId := fun same =>
      different (sole other worker point _ jobId running runs engaged (congrArg some same.symm))
    exact (congrArg (dataOn stream) (Function.update_of_ne otherJob ..)).trans (holds stream)
  refine ⟨fun other later goes => ?_, fun other call job result running same whole => ?_⟩
  · rcases Printing.withExecution_cases goes with ⟨rfl, rfl⟩ | ⟨different, before⟩
    · obtain ⟨sound, job, running, holds⟩ := printed.going other execution going
      obtain rfl : own = job := by simpa [runs] using running
      refine ⟨⟨sound.output, inside⟩, own, runs, fun isJob stream => ?_⟩
      subst isJob
      -- The chunk is the one behind those that were added.
      have grown := holds rfl stream
      simp only [Printing.withExecution, Printing.addEntry, Function.update_self, dataOn_append, grown,
        List.take_add_one, List.getElem?_eq_getElem inside, chunkAt, Option.toList_some, List.append_assoc]
    · obtain ⟨sound, job, running, holds⟩ := printed.going other later before
      refine ⟨sound, job, running, fun isJob => ?_⟩
      exact elsewhere other _ running (congrArg some isJob) different _ (holds isJob)
  · have different : other ≠ worker := by
      intro isWorker
      subst isWorker
      exact absurd (runs.symm.trans running) (by simp)
    exact elsewhere other _ running (congrArg some same) different _
      (printed.settled other call job result running same whole)

/-- While a worker is engaged in the job, no other attempt at it is launched. -/
theorem launchedOf_engaged (sole : SoleEngaged state.platform) {label : PrintingLabel}
    {worker : WorkerId} {point : WorkerPoint} (running : state.platform.workers worker = .running point)
    (engaged : point.engaged? = some jobId) (other : label ≠ .platform (.launch worker)) :
    launchedOf jobId state label launched = launched := by
  unfold launchedOf
  split
  · next launcher =>
    split
    · next job launching =>
      -- The launching worker would be the engaged one.
      refine if_neg fun same => other ?_
      rw [sole launcher worker _ _ jobId launching running (congrArg some same) engaged]
    · rfl
  · rfl

/-- A sandbox that settles has added all it has published, so a result without truncation is in the stream. -/
theorem Printed.settles (printed : Printed jobId state launched) {worker : WorkerId}
    {result : SandboxResult} {job : QueuePayload}
    (settled : state.settles (.sandbox worker (some result)) = true)
    (running : state.platform.workers worker = .running (.executing job)) (own : job.jobId = jobId)
    (whole : result.outputTruncated = false) : state.Holds jobId launched fun stream =>
      Utf16.encode ((sandboxResultRow jobId result).text stream).toList := by
  obtain ⟨execution, going, resolves⟩ := (Option.any_eq_true _ _).mp settled
  obtain ⟨complete, stdout, stderr, truncated, -⟩ := of_decide_eq_true resolves
  obtain ⟨⟨⟨events, output⟩, -⟩, other, executing, holds⟩ := printed.going worker execution going
  obtain rfl : job = other := by simpa [running] using executing
  rw [whole, output] at truncated
  intro stream
  rw [holds own stream, complete, List.take_length]
  congr 1
  calc dataOn stream execution.output.published
      = (sandboxOutput events).publishedOn stream := by rw [output]; rfl
    _ = Utf16.encode ((sandboxOutput events).accumulator stream) :=
      publishedOn_eq_accumulator truncated.symm stream
    _ = Utf16.encode ((sandboxResultRow jobId result).text stream).toList := by
      -- The result has the texts that were accumulated.
      rw [← output]
      cases stream with
      | stdout => simp [sandboxResultRow, ResultRow.text, stdout, SandboxOutput.accumulator]
      | stderr => simp [sandboxResultRow, ResultRow.text, stderr, SandboxOutput.accumulator]

/-- Inside the result transaction, a call that resolves is followed by the next one of the same result. -/
theorem WorkerPoint.resolve_persist {worker : WorkerId} {before : WorkerPoint} {store after : Store}
    {call : TxPoint} {job : QueuePayload} {result : SandboxResult}
    (resolved : before.resolve worker store = some (.persist call job result, after)) :
    ∃ earlier, before = .persist earlier job result := by
  generalize same : WorkerPoint.persist call job result = point at resolved
  -- A transaction begins when the sandbox settles, which is no call.
  cases WorkerPoint.resolve_cases resolved with
  | connect | begin | insertResult | updateStatus =>
    obtain ⟨-, rfl, rfl⟩ := WorkerPoint.persist.inj same
    exact ⟨_, rfl⟩
  | rollback =>
    unfold requeueWithBackoff at same
    split at same <;> simp at same
  | _ => simp at same

/-- A step of the platform adds no data, and launches attempts or settles them. -/
theorem Printed.platform (printed : Printed jobId state launched) (steady : Steady state.platform)
    {label : Label} {after : Platform} (setting : crashStop state.platform label = true)
    (settles : state.settles label = true) (moved : state.platform.step label = some after) :
    Printed jobId
      { platform := after
        executions := state.executionsAfter label
        entries := (state.platform.effect label).addEntry state.entries }
      (launchedOf jobId state (.platform label) launched) := by
  -- The job's attempt is alone, so its account is opened by its own launch and no other.
  have sole := steady.orderly.soleEngaged
  have kept : ∀ {launched data}, state.Holds jobId launched data → Printing.Holds
      { platform := after
        executions := state.executionsAfter label
        entries := (state.platform.effect label).addEntry state.entries } jobId launched data :=
    fun holds stream =>
      (steady.marking.dataOn_addEntry label state.entries jobId stream).trans (holds stream)
  refine ⟨fun worker execution goes => ?_, fun worker call job result running own whole => ?_⟩
  · rcases Printing.executionsAfter_cases goes with ⟨rfl, rfl⟩ | ⟨before, unlaunched, unsettled, alive⟩
    · cases Platform.step_cases moved with
      | @launch _ job launching =>
        -- Nothing is added yet.
        refine ⟨⟨⟨[], rfl⟩, Nat.zero_le _⟩, job, by simp, fun own => kept fun stream => ?_⟩
        simp [launchedOf, launching, own]
    · obtain ⟨sound, job, running, holds⟩ := printed.going worker execution before
      have runs := (Platform.step_executing moved running).resolve_right
        (not_or.mpr ⟨fun ⟨result, same⟩ => unsettled result same, alive⟩)
      refine ⟨sound, job, runs, fun own => ?_⟩
      rw [launchedOf_engaged sole running (congrArg some own)
        fun same => unlaunched (PrintingLabel.platform.inj same)]
      exact kept (holds own)
  · rcases Platform.step_worker moved running with ⟨was, -⟩ | ⟨outcome, before, store, rfl, was, went, -⟩ |
      ⟨_, -, -, executing, -⟩ | ⟨settled, before, rfl, was, resolves, -⟩ | ⟨-, -, popping, -⟩
    · have unlaunched : label ≠ .launch worker := by
        intro same
        subst same
        cases Platform.step_cases moved with
        | launch launching => simp [was] at launching
      rw [launchedOf_engaged sole was (congrArg some own)
        fun same => unlaunched (PrintingLabel.platform.inj same)]
      exact kept (printed.settled worker call job result was own whole)
    · obtain rfl := (crashStop_resolves setting).2.1 _ _ rfl
      obtain ⟨earlier, rfl⟩ := WorkerPoint.resolve_persist went
      exact kept (printed.settled worker earlier job result was own whole)
    · simp at executing
    · -- The sandbox has resolved, and the transaction begins.
      obtain ⟨own', rfl⟩ := Option.isSome_iff_exists.mp setting
      cases before with
      | executing executed =>
        obtain ⟨-, rfl, rfl⟩ := WorkerPoint.persist.inj (Option.some.inj resolves)
        exact kept (printed.settles settles was own whole)
      | _ => simp [WorkerPoint.sandboxSettled] at resolves
    · simp at popping

/-- Every step of a crash-stop run keeps the account of what was added. -/
theorem Printed.step (printed : Printed jobId state launched) (steady : Steady state.platform)
    {label : PrintingLabel} (setting : crashStopping state label = true)
    (stepped : printing.step state label = some next) :
    Printed jobId next (launchedOf jobId state label launched) := by
  -- One lemma for each kind of label.
  cases Printing.step_cases stepped with
  | platform settles moved => exact printed.platform steady setting settles moved
  | output going => exact printed.output going
  | add going executes nextChunk =>
    exact printed.add steady.orderly.soleEngaged going executes nextChunk

/-- The platform of a crash-stop run stays steady. -/
theorem Steady.printing_step (steady : Steady state.platform) {label : PrintingLabel}
    (setting : crashStopping state label = true) (stepped : printing.step state label = some next) :
    Steady next.platform := by
  -- Only the labels of the platform move it.
  cases Printing.step_cases stepped with
  | platform _ moved => exact steady.step setting moved
  | output | add => exact steady

end CodeExecution

import CodeExecution.Effects
import CodeExecution.Services.Broadcast

/-! The calls of `publishSystemChunk`: who makes them, and with which chunk. -/

namespace CodeExecution

/-- The call of `publishSystemChunk` that a worker is at, its chunk and its job. -/
def WorkerPoint.marking? : WorkerPoint → Option (StreamCall × StreamChunk × JobId)
  | .complete call chunk job => some (call, chunk, job.jobId)
  | .deadLetterComplete call chunk letter => some (call, chunk, letter.jobId)
  | _ => none

/-- The retry path begins with no such call. -/
@[simp] theorem requeueWithBackoff_marking (job : QueuePayload) :
    (requeueWithBackoff job).marking? = none := by
  unfold requeueWithBackoff
  split <;> rfl

/-- A sandbox that settles does not lead to one. -/
theorem WorkerPoint.sandboxSettled_marking {before point : WorkerPoint}
    {result : Option SandboxResult} (settled : before.sandboxSettled result = some point) :
    point.marking? = none := by
  -- What follows is a BEGIN, or the first call of a requeue.
  unfold sandboxSettled at settled
  repeat' split at settled
  all_goals first
    | (obtain rfl := Option.some.inj settled; first | rfl | simp)
    | simp at settled

/-- Nor does a failed call. -/
theorem WorkerPoint.handler_marking {before point : WorkerPoint}
    (handled : before.handler = some point) : point.marking? = none := by
  -- What follows is the loop's head, a ROLLBACK, or the first call of a requeue.
  unfold handler at handled
  split at handled
  all_goals first
    | (obtain rfl := Option.some.inj handled; first | rfl | simp)
    | simp at handled

/-- A worker begins with a fresh marker, and then makes one call after the other. -/
theorem WorkerPoint.resolve_marking {worker : WorkerId} {before point : WorkerPoint}
    {store after : Store} {call : StreamCall} {chunk : StreamChunk} {jobId : JobId}
    (resolved : before.resolve worker store = some (point, after))
    (marking : point.marking? = some (call, chunk, jobId)) :
    (call = .xadd ∧ chunk.isCompletion = true) ∨
      ∃ earlier, before.marking? = some (earlier, chunk, jobId) ∧ earlier.next = some call ∧
        after = earlier.effect jobId chunk store := by
  -- A marker begins behind the acknowledgement, or behind the letter's push.
  cases WorkerPoint.resolve_cases resolved with
  | acknowledge | sendLetter =>
    obtain ⟨rfl, rfl, rfl⟩ : StreamCall.xadd = call ∧ completionChunk store.now = chunk ∧ _ = jobId := by
      simpa [marking?] using marking
    exact .inl ⟨rfl, rfl⟩
  | @complete earlier following own job follows
  | @letterComplete earlier following own letter follows =>
    obtain ⟨rfl, rfl, rfl⟩ : following = call ∧ own = chunk ∧ _ = jobId := by
      simpa [marking?] using marking
    exact .inr ⟨earlier, rfl, follows, rfl⟩
  | rollback => simp at marking
  | _ => simp [marking?] at marking

/-- Such a call is its effect. -/
theorem WorkerPoint.effect_marking {point : WorkerPoint} {call : StreamCall} {chunk : StreamChunk}
    {jobId : JobId} (marking : point.marking? = some (call, chunk, jobId)) (worker : WorkerId)
    (store : Store) : point.effect worker store = .stream call jobId chunk := by
  -- There are two such points, one for each of the two ways to end a job.
  unfold marking? at marking
  split at marking
  · obtain ⟨rfl, rfl, rfl⟩ := by simpa using marking
    rfl
  · obtain ⟨rfl, rfl, rfl⟩ := by simpa using marking
    rfl
  · simp at marking

/-- No other call has such an effect. -/
theorem WorkerPoint.marking_of_effect {point : WorkerPoint} {worker : WorkerId} {store : Store}
    {call : StreamCall} {jobId : JobId} {chunk : StreamChunk}
    (made : point.effect worker store = .stream call jobId chunk) :
    point.marking? = some (call, chunk, jobId) := by
  -- The point that has this effect is one of the two ends of the loop.
  unfold WorkerPoint.effect at made
  repeat' split at made
  all_goals first
    | (obtain ⟨rfl, rfl, rfl⟩ := Effect.stream.inj made; rfl)
    | simp at made

/-- Only workers write to streams. -/
theorem Platform.effect_stream {state : Platform} {label : Label} {call : StreamCall} {jobId : JobId}
    {chunk : StreamChunk} (made : state.effect label = .stream call jobId chunk) :
    ∃ worker outcome point, label = .worker worker outcome ∧
      state.workers worker = .running point ∧ point.marking? = some (call, chunk, jobId) := by
  -- The point that has this effect tells the call.
  obtain ⟨worker, outcome, point, rfl, running, source⟩ := Platform.effect_byWorker made rfl
  exact ⟨worker, outcome, point, rfl, running, WorkerPoint.marking_of_effect source⟩

/-! ## The chunks of these calls -/

/-- Whatever workers publish by these calls is a completion marker. -/
def Marking (state : Platform) : Prop :=
  ∀ worker point call chunk jobId, state.workers worker = .running point →
    point.marking? = some (call, chunk, jobId) → chunk.isCompletion = true

/-- Nobody publishes anything at first. -/
theorem Marking.initial : Marking .initial := by
  intro worker point call chunk jobId running
  simp [Platform.initial] at running

/-- A step of the platform keeps it so. -/
theorem Marking.step {state next : Platform} {label : Label} (marking : Marking state)
    (stepped : state.step label = some next) : Marking next := by
  intro worker point call chunk jobId running marks
  rcases Platform.step_worker stepped running with ⟨was, _⟩ |
    ⟨outcome, before, after, rfl, was, went, rfl⟩ | ⟨job, _, _, rfl, _⟩ |
    ⟨result, before, _, _, settled, _⟩ | ⟨_, _, rfl, _⟩
  · exact marking worker point call chunk jobId was marks
  · -- The chunk is fresh, or the one of the call before.
    rcases awaitCall_cases went with ⟨_, resolved⟩ | ⟨_, _, handled, same⟩ |
      ⟨_, reply, _, _, handled, same⟩
    · rcases WorkerPoint.resolve_marking resolved marks with ⟨_, fresh⟩ | ⟨earlier, was', _, _⟩
      · exact fresh
      · exact marking worker before earlier chunk jobId was was'
    · obtain ⟨rfl, _⟩ := Prod.mk.inj same
      simp [WorkerPoint.handler_marking handled] at marks
    · obtain ⟨rfl, _⟩ := Prod.mk.inj same
      simp [WorkerPoint.handler_marking handled] at marks
  · simp [WorkerPoint.marking?] at marks
  · simp [WorkerPoint.sandboxSettled_marking settled] at marks
  · simp [WorkerPoint.marking?] at marks

end CodeExecution

import CodeExecution.Proofs.Markers
import CodeExecution.Proofs.RowWrites

/-! What is behind a completion marker: whatever the end of a job brings about, and nothing undoes. -/

namespace CodeExecution

variable {state next : Platform} {label : Label} {behind : Store → JobId → Prop}

/-- The job that a worker has ended, while it has calls to make about it. -/
def WorkerPoint.ended? : WorkerPoint → Option JobId
  | .acknowledge job | .complete _ _ job => some job.jobId
  | .deadLetterPush letter | .deadLetterComplete _ _ letter => some letter.jobId
  | _ => none

/-- A chunk is in the stream of a job, or was published on its channel. -/
def Store.Said (store : Store) (jobId : JobId) (chunk : StreamChunk) : Prop :=
  chunk ∈ store.streams jobId ∨ chunk ∈ store.published jobId

/-- Whatever is behind the end of a job is behind markers too, and behind whoever is about to send one. -/
structure Backed (behind : Store → JobId → Prop) (state : Platform) : Prop where
  workers : ∀ worker point jobId, state.workers worker = .running point →
    point.ended? = some jobId → behind state.store jobId
  said : ∀ jobId chunk, state.store.Said jobId chunk → chunk.isCompletion = true →
    behind state.store jobId

/-- A call that ends a job commits its result. -/
theorem WorkerPoint.resolve_ended {worker : WorkerId} {before point : WorkerPoint} {store after : Store}
    {jobId : JobId} (resolved : before.resolve worker store = some (point, after))
    (ended : point.ended? = some jobId) :
    before.ended? = some jobId ∨ (before.effect worker store).finishes? = some jobId := by
  -- The two commits end a job, and the calls behind them leave it ended.
  cases WorkerPoint.resolve_cases resolved with
  | commit | letterCommit => exact .inr ended
  | acknowledge | sendLetter | complete | letterComplete => exact .inl ended
  | rollback =>
    unfold requeueWithBackoff at ended
    split at ended <;> simp [ended?] at ended
  | _ => simp [ended?] at ended

/-- No handler begins behind the commit. -/
theorem WorkerPoint.handler_ended {before point : WorkerPoint} (handled : before.handler = some point) :
    point.ended? = none := by
  unfold WorkerPoint.handler requeueWithBackoff at handled
  repeat' split at handled
  all_goals first
    | (obtain rfl := Option.some.inj handled; rfl)
    | simp at handled

/-- Neither does what follows a sandbox. -/
theorem WorkerPoint.sandboxSettled_ended {before point : WorkerPoint} {result : Option SandboxResult}
    (settled : before.sandboxSettled result = some point) : point.ended? = none := by
  unfold WorkerPoint.sandboxSettled requeueWithBackoff at settled
  repeat' split at settled
  all_goals first
    | (obtain rfl := Option.some.inj settled; rfl)
    | simp at settled

/-- A list of a table has grown by one element at most. -/
theorem mem_of_mem_update {table : JobId → List StreamChunk} {grown jobId : JobId}
    {fresh chunk : StreamChunk}
    (member : chunk ∈ Function.update table grown (table grown ++ [fresh]) jobId) :
    chunk ∈ table jobId ∨ (grown = jobId ∧ fresh = chunk) := by
  -- Only the list of the job that has grown is another one.
  by_cases same : jobId = grown
  · subst same
    rw [Function.update_self, List.mem_append, List.mem_singleton] at member
    exact member.imp_right fun equal => ⟨rfl, equal.symm⟩
  · rw [Function.update_of_ne same] at member
    exact .inl member

/-- What a stream or a channel has after an effect it had before, or the effect adds it. -/
theorem Effect.said_apply {effect : Effect} {store : Store} {jobId : JobId} {chunk : StreamChunk}
    (said : (effect.apply store).Said jobId chunk) :
    store.Said jobId chunk ∨ ∃ call, effect = .stream call jobId chunk := by
  -- Writes to the tables say nothing, and of the rest only the stream calls do.
  by_cases tables : effect.onTables = true
  · obtain ⟨_, _, written⟩ := Effect.apply_tables tables store
    rw [written] at said
    exact .inl said
  cases effect with
  | stream call streamed own =>
    cases call with
    | xadd =>
      rcases said with listed | published
      · rcases mem_of_mem_update listed with earlier | ⟨rfl, rfl⟩
        · exact .inl (.inl earlier)
        · exact .inr ⟨.xadd, rfl⟩
      · exact .inl (.inr published)
    | publish =>
      rcases said with listed | published
      · exact .inl (.inl listed)
      · rcases mem_of_mem_update published with earlier | ⟨rfl, rfl⟩
        · exact .inl (.inr earlier)
        · exact .inr ⟨.publish, rfl⟩
    | expire => exact .inl said
  | releaseLock lockId =>
    simp only [Effect.apply, Store.releaseLock] at said
    split at said <;> exact .inl said
  | unchanged | pop _ _ | push _ | remove _ _ | delete _ | sendLetter _ | acquireLock _ =>
    exact .inl said
  | _ => exact absurd rfl tables

/-- A step of the platform keeps what is behind a marker, if the end of a job brings it about and it stays. -/
theorem Backed.step (backed : Backed behind state) (stepped : state.step label = some next)
    (stays : ∀ jobId, behind state.store jobId → behind next.store jobId)
    (finished : ∀ jobId, (state.effect label).finishes? = some jobId → behind next.store jobId) :
    Backed behind next := by
  obtain ⟨⟨now, lock, same, _⟩, _⟩ := Platform.step_effect stepped
  refine ⟨fun worker point jobId running ended => ?_, fun jobId chunk said marks => ?_⟩
  · rcases Platform.step_worker stepped running with ⟨was, _⟩ |
      ⟨outcome, before, after, rfl, was, went, _⟩ | ⟨_, _, _, rfl, _⟩ | ⟨_, _, _, _, settled, _⟩ |
      ⟨_, _, rfl, _⟩
    · exact stays jobId (backed.workers worker point jobId was ended)
    · rcases awaitCall_cases went with ⟨rfl, resolved⟩ | ⟨_, _, handled, moved⟩ |
        ⟨_, _, _, _, handled, moved⟩
      · rcases WorkerPoint.resolve_ended resolved ended with earlier | finishes
        · exact stays jobId (backed.workers worker before jobId was earlier)
        · refine finished jobId ?_
          simpa [Platform.effect, was, CallOutcome.applied] using finishes
      · obtain ⟨rfl, _⟩ := Prod.mk.inj moved
        simp [WorkerPoint.handler_ended handled] at ended
      · obtain ⟨rfl, _⟩ := Prod.mk.inj moved
        simp [WorkerPoint.handler_ended handled] at ended
    · simp [WorkerPoint.ended?] at ended
    · simp [WorkerPoint.sandboxSettled_ended settled] at ended
    · simp [WorkerPoint.ended?] at ended
  · rw [same] at said
    rcases @Effect.said_apply (state.effect label) _ jobId chunk said with earlier | ⟨call, sends⟩
    · exact stays jobId (backed.said jobId chunk earlier marks)
    · -- Only a worker that has ended the job sends markers.
      obtain ⟨worker, _, point, _, running, marking⟩ := Platform.effect_stream sends
      have ended : point.ended? = some jobId := by
        unfold WorkerPoint.marking? at marking
        split at marking <;> simp_all [WorkerPoint.ended?]
      exact stays jobId (backed.workers worker point jobId running ended)

/-- Nothing else that happens to streams touches a table, a list or a process. -/
theorem Platform.Streamed.store_eq {label : BroadcastLabel} (streamed : state.Streamed label next) :
    ∃ streams published expiring,
      next = { state with store := { state.store with streams, published, expiring } } := by
  cases streamed <;> exact ⟨_, _, _, rfl⟩

/-- It puts no marker anywhere, because a sandbox never sends one. -/
theorem Platform.Streamed.said {label : BroadcastLabel} {jobId : JobId} {chunk : StreamChunk}
    (streamed : state.Streamed label next) (said : next.store.Said jobId chunk)
    (marks : chunk.isCompletion = true) : state.store.Said jobId chunk := by
  -- What a sandbox prints is never a completion.
  have unprinted : chunk.fromSandbox = true → state.store.Said jobId chunk := by
    intro own
    rw [StreamChunk.fromSandbox_isCompletion own] at marks
    exact absurd marks (by decide)
  cases streamed with
  | append own =>
    rcases said with listed | published
    · rcases mem_of_mem_update listed with earlier | ⟨rfl, rfl⟩
      · exact .inl earlier
      · exact unprinted own
    · exact .inr published
  | announce own =>
    rcases said with listed | published
    · exact .inl listed
    · rcases mem_of_mem_update published with earlier | ⟨rfl, rfl⟩
      · exact .inr earlier
      · exact unprinted own
  -- The other two only take entries away.
  | @trim trimmed =>
    refine said.imp_left fun listed => ?_
    by_cases same : jobId = trimmed
    · subst same
      exact List.mem_of_mem_tail (by simpa [Store.trimStream] using listed)
    · simpa [Store.trimStream, same] using listed
  | @streamExpires expired =>
    refine said.imp_left fun listed => ?_
    by_cases same : jobId = expired
    · subst same
      simp [Store.dropStream] at listed
    · simpa [Store.dropStream, same] using listed

/-- So it keeps what is behind a marker, if that is in the tables. -/
theorem Backed.streamed {label : BroadcastLabel} (backed : Backed behind state)
    (streamed : state.Streamed label next)
    (stays : ∀ jobId, behind state.store jobId → behind next.store jobId) : Backed behind next where
  -- The workers are the same, and nothing new is said.
  workers := by
    intro worker point jobId running ended
    obtain ⟨_, _, _, same⟩ := streamed.store_eq
    have was : state.workers worker = .running point := by rw [same] at running; exact running
    exact stays jobId (backed.workers worker point jobId was ended)
  said := fun jobId chunk said marks => stays jobId (backed.said jobId chunk (streamed.said said marks) marks)

/-- Nobody has said anything at first. -/
theorem Backed.initial : Backed behind .initial where
  workers := fun _ _ _ running => by simp [Platform.initial] at running
  said := fun _ _ said => by simp [Store.Said, Platform.initial, Store.empty] at said

end CodeExecution

import CodeExecution.Authors
import CodeExecution.Proofs.Markers

/-! The end of a stream: which of the components that end a job also finish its stream. -/

namespace CodeExecution

variable {state next : Platform} {returned : List (Writer × JobId)}

/-! ## The setting -/

/-- The call does not reject. -/
def Label.resolves : Label → Bool
  | .gateway _ outcome | .worker _ outcome | .scan _ outcome | .startup outcome =>
    outcome = .resolves
  | _ => true

/--
Every call resolves, and no completion marker leaves its stream.

A marker leaves when more entries than are retained follow it, or when its key expires.
-/
def keepsMarkers (state : Platform) : BroadcastLabel → Bool
  | .platform label => label.resolves
  | .append _ _ | .announce _ _ => true
  | .trim jobId => (state.store.streams jobId).head?.all fun oldest => !oldest.isCompletion
  | .streamExpires jobId => (state.store.streams jobId).all fun chunk => !chunk.isCompletion

/-- The component that returns at a label from the operation that ended a job, and the job. -/
def returns (state : Platform) : BroadcastLabel → List (Writer × JobId)
  | .platform (.worker worker .resolves) =>
    match state.workers worker with
    -- The normal path and the worker's `sendToDLQ` both end in `publishSystemChunk`.
    | .running (.complete .expire _ job) => [(.worker worker, job.jobId)]
    | .running (.deadLetterComplete .expire _ letter) => [(.worker worker, letter.jobId)]
    | _ => []
  | .platform (.scan lockId .resolves) =>
    match state.scans lockId with
    -- The `sendToDLQ` of the reaper ends in its LPUSH.
    | .recover (.deadLetterPush letter _) _ _ => [(.scan lockId, letter.jobId)]
    | _ => []
  | _ => []

/-- The platform and its streams, with everyone who has ended a job and returned. -/
abbrev returningBroadcast : Machine (Platform × List (Writer × JobId)) BroadcastLabel :=
  broadcast.recording returns

/-- What a client that is attached to a job relies on. -/
structure StreamFinished (store : Store) (jobId : JobId) : Prop where
  /-- The stream holds a completion marker, which was also published. -/
  marker : ∃ chunk, chunk ∈ store.streams jobId ∧ chunk.isCompletion = true ∧
    chunk ∈ store.published jobId
  /-- The stream key has an expiry set. -/
  expiry : store.expiring jobId = true

/-! ## Markers that stay -/

/-- No completion marker, no message and no expiry of a marked stream is lost. -/
structure Store.KeepsMarkers (before after : Store) : Prop where
  streams : ∀ jobId chunk, chunk.isCompletion = true → chunk ∈ before.streams jobId →
    chunk ∈ after.streams jobId
  published : ∀ jobId chunk, chunk ∈ before.published jobId → chunk ∈ after.published jobId
  expiring : ∀ jobId chunk, chunk.isCompletion = true → chunk ∈ before.streams jobId →
    before.expiring jobId = true → after.expiring jobId = true

/-- A finished stream stays finished. -/
theorem StreamFinished.kept {before after : Store} {jobId : JobId}
    (finished : StreamFinished before jobId) (keeps : before.KeepsMarkers after) :
    StreamFinished after jobId := by
  -- The marker that is kept is the one that was published.
  obtain ⟨chunk, listed, marks, published⟩ := finished.marker
  exact ⟨⟨chunk, keeps.streams _ _ marks listed, marks, keeps.published _ _ published⟩,
    keeps.expiring _ _ marks listed finished.expiry⟩

/-- The calls of `publishSystemChunk` that have been made before this one. -/
structure Marked (store : Store) (jobId : JobId) (chunk : StreamChunk) (call : StreamCall) : Prop where
  marks : chunk.isCompletion = true
  listed : call ≠ .xadd → chunk ∈ store.streams jobId
  published : call = .expire → chunk ∈ store.published jobId

/-- They stay made. -/
theorem Marked.kept {before after : Store} {jobId : JobId} {chunk : StreamChunk} {call : StreamCall}
    (marked : Marked before jobId chunk call) (keeps : before.KeepsMarkers after) :
    Marked after jobId chunk call where
  marks := marked.marks
  listed later := keeps.streams _ _ marked.marks (marked.listed later)
  published last := keeps.published _ _ (marked.published last)

/-- One call of `publishSystemChunk` makes way for the next. -/
theorem Marked.advance {store : Store} {jobId : JobId} {chunk : StreamChunk}
    {call following : StreamCall} (marked : Marked store jobId chunk call)
    (follows : call.next = some following) :
    Marked (call.effect jobId chunk store) jobId chunk following := by
  -- An XADD puts the chunk into the stream, and a PUBLISH then shows it to the clients.
  cases call with
  | xadd =>
    obtain rfl : StreamCall.publish = following := Option.some.inj follows
    exact ⟨marked.marks, fun _ => by simp [StreamCall.effect, Store.appendStream], by simp⟩
  | publish =>
    obtain rfl : StreamCall.expire = following := Option.some.inj follows
    exact ⟨marked.marks, fun _ => marked.listed (by simp),
      fun _ => by simp [StreamCall.effect, Store.publish]⟩
  | expire => simp [StreamCall.next] at follows

/-- After the last call the stream is finished. -/
theorem Marked.finish {store : Store} {jobId : JobId} {chunk : StreamChunk}
    (marked : Marked store jobId chunk .expire) :
    StreamFinished (StreamCall.expire.effect jobId chunk store) jobId :=
  ⟨⟨chunk, marked.listed (by simp), marked.marks, marked.published rfl⟩,
    by simp [StreamCall.effect, Store.expireStream]⟩

/-- A key of a table of lists that only grows keeps its elements. -/
theorem mem_update_append {table : JobId → List StreamChunk} {grown jobId : JobId}
    {chunk fresh : StreamChunk} (listed : chunk ∈ table jobId) :
    chunk ∈ Function.update table grown (table grown ++ [fresh]) jobId := by
  -- Under the other keys the table is unchanged.
  by_cases same : jobId = grown
  · subst same
    simp [listed]
  · simpa [same] using listed

/-- An XADD loses nothing. -/
theorem Store.keepsMarkers_append (store : Store) (jobId : JobId) (chunk : StreamChunk) :
    store.KeepsMarkers (store.appendStream jobId chunk) :=
  ⟨fun _ _ _ listed => mem_update_append listed, fun _ _ published => published,
    fun _ _ _ _ expiring => expiring⟩

/-- Nor does a PUBLISH. -/
theorem Store.keepsMarkers_publish (store : Store) (jobId : JobId) (chunk : StreamChunk) :
    store.KeepsMarkers (store.publish jobId chunk) :=
  ⟨fun _ _ _ listed => listed, fun _ _ published => mem_update_append published,
    fun _ _ _ _ expiring => expiring⟩

/-- No effect on the platform takes anything from a stream. -/
theorem Effect.keepsMarkers (effect : Effect) (store : Store) :
    store.KeepsMarkers (effect.apply store) := by
  have refl : ∀ {after : Store}, after.streams = store.streams →
      after.published = store.published → after.expiring = store.expiring →
      store.KeepsMarkers after := by
    intro after streams published expiring
    exact ⟨by simp [streams], by simp [published], fun _ _ _ _ set => by rw [expiring]; exact set⟩
  -- The tables are no streams.
  by_cases tables : effect.onTables = true
  · obtain ⟨submissions, results, written⟩ := Effect.apply_tables tables store
    rw [written]
    exact refl rfl rfl rfl
  -- Three commands write to streams, and all of them add something.
  cases effect with
  | stream call jobId chunk =>
    cases call with
    | xadd => exact store.keepsMarkers_append jobId chunk
    | publish => exact store.keepsMarkers_publish jobId chunk
    | expire =>
      refine ⟨fun _ _ _ listed => listed, fun _ _ published => published, ?_⟩
      intro key _ _ _ set
      by_cases same : key = jobId
      · simp [Effect.apply, StreamCall.effect, Store.expireStream, same]
      · simpa [Effect.apply, StreamCall.effect, Store.expireStream, same] using set
  | releaseLock lockId =>
    simp only [Effect.apply, Store.releaseLock]
    split <;> exact refl rfl rfl rfl
  | unchanged | pop _ _ | push _ | remove _ _ | delete _ | sendLetter _ | acquireLock _ =>
    exact refl rfl rfl rfl
  | _ => exact absurd rfl tables

/-- Only an EXPIRE sets an expiry. -/
theorem Effect.expiring_apply (effect : Effect) (store : Store) (jobId : JobId) :
    (∃ chunk, effect = .stream .expire jobId chunk) ∨
      (effect.apply store).expiring jobId = store.expiring jobId := by
  by_cases tables : effect.onTables = true
  · obtain ⟨submissions, results, written⟩ := Effect.apply_tables tables store
    exact .inr (by rw [written])
  -- All other commands leave the expiries alone.
  cases effect with
  | stream call key chunk =>
    cases call with
    | expire =>
      by_cases same : jobId = key
      · exact .inl ⟨chunk, by rw [same]⟩
      · exact .inr (by simp [Effect.apply, StreamCall.effect, Store.expireStream, same])
    | xadd | publish => exact .inr rfl
  | releaseLock lockId =>
    simp only [Effect.apply, Store.releaseLock]
    split <;> exact .inr rfl
  | unchanged | pop _ _ | push _ | remove _ _ | delete _ | sendLetter _ | acquireLock _ =>
    exact .inr rfl
  | _ => exact absurd rfl tables

/-- Trimming and expiry take no marker away, as long as they are kept to unmarked entries. -/
theorem Platform.Streamed.keepsMarkers {label : BroadcastLabel}
    (streamed : state.Streamed label next) (keeps : keepsMarkers state label = true) :
    state.store.KeepsMarkers next.store := by
  cases streamed with
  | append => exact state.store.keepsMarkers_append _ _
  | announce => exact state.store.keepsMarkers_publish _ _
  | @trim jobId =>
    refine ⟨fun key chunk marks listed => ?_, fun _ _ published => published,
      fun _ _ _ _ expiring => expiring⟩
    by_cases same : key = jobId
    · -- The entry that goes is the first one, which is no marker.
      subst same
      have oldest : ∀ first, (state.store.streams key).head? = some first →
          first.isCompletion = false := by
        simpa [CodeExecution.keepsMarkers, Option.all_eq_true] using keeps
      cases entries : state.store.streams key with
      | nil => simp [entries] at listed
      | cons first rest =>
        have different : chunk ≠ first := by
          intro same
          subst same
          simp [oldest chunk (by simp [entries])] at marks
        simp only [entries, List.mem_cons] at listed
        simpa [Store.trimStream, entries] using listed.resolve_left different
    · simpa [Store.trimStream, same] using listed
  | @streamExpires jobId =>
    have unmarked : ∀ chunk, chunk ∈ state.store.streams jobId → chunk.isCompletion = false := by
      simpa [CodeExecution.keepsMarkers] using keeps
    have elsewhere : ∀ key chunk, chunk.isCompletion = true → chunk ∈ state.store.streams key →
        key ≠ jobId := by
      intro key chunk marks listed same
      subst same
      simp [unmarked chunk listed] at marks
    refine ⟨fun key chunk marks listed => ?_, fun _ _ published => published, ?_⟩
    · simpa [Store.dropStream, elsewhere key chunk marks listed] using listed
    · intro key chunk marks listed expiring
      simpa [Store.dropStream, elsewhere key chunk marks listed] using expiring

/-! ## Workers that return -/

/-- A worker has returned once its last call has resolved. -/
theorem mem_returns_worker {label : BroadcastLabel} {worker : WorkerId} {jobId : JobId} :
    (Writer.worker worker, jobId) ∈ returns state label ↔
      label = .platform (.worker worker .resolves) ∧ ∃ point chunk,
        state.workers worker = .running point ∧ point.marking? = some (.expire, chunk, jobId) := by
  -- The two last calls of a worker are the EXPIREs of its two ways to end a job.
  constructor
  · intro member
    unfold returns at member
    repeat' split at member
    all_goals first
      | (next running =>
          obtain ⟨rfl, rfl⟩ : worker = _ ∧ jobId = _ := by simpa using member
          exact ⟨rfl, _, _, running, rfl⟩)
      | simp at member
  · intro marks
    obtain ⟨rfl, point, chunk, running, marking⟩ := marks
    unfold WorkerPoint.marking? at marking
    split at marking
    · obtain ⟨rfl, rfl, rfl⟩ := by simpa using marking
      simp [returns, running]
    · obtain ⟨rfl, rfl, rfl⟩ := by simpa using marking
      simp [returns, running]
    · simp at marking

/-! ## The invariant -/

/-- Workers publish their markers in order, and only they finish streams. -/
structure Finishing (state : Platform) (returned : List (Writer × JobId)) : Prop where
  marking : ∀ worker point call chunk jobId, state.workers worker = .running point →
    point.marking? = some (call, chunk, jobId) → Marked state.store jobId chunk call
  finished : ∀ worker jobId, (Writer.worker worker, jobId) ∈ returned →
    StreamFinished state.store jobId
  expiring : ∀ jobId, state.store.expiring jobId = true →
    ∃ worker, (Writer.worker worker, jobId) ∈ returned

/-- Before the first request there is nothing to finish. -/
theorem Finishing.initial : Finishing Platform.initial [] :=
  ⟨by simp [Platform.initial], by simp, by simp [Platform.initial, Store.empty]⟩

/-- A step on a stream keeps everything that is marked. -/
theorem Finishing.streamed {label : BroadcastLabel} (finishing : Finishing state returned)
    (keeps : keepsMarkers state label = true) (streamed : state.Streamed label next) :
    Finishing next returned := by
  -- Workers stay where they are, and no step on a stream sets an expiry.
  have kept := streamed.keepsMarkers keeps
  have workers : next.workers = state.workers := by cases streamed <;> rfl
  refine ⟨fun worker point call chunk jobId running marking => ?_,
    fun worker jobId member => (finishing.finished worker jobId member).kept kept, fun jobId set => ?_⟩
  · rw [workers] at running
    exact (finishing.marking worker point call chunk jobId running marking).kept kept
  · refine finishing.expiring jobId ?_
    cases streamed with
    | append | announce | trim => exact set
    | @streamExpires expired =>
      by_cases same : jobId = expired
      · simp [Store.dropStream, same] at set
      · simpa [Store.dropStream, same] using set

/-- A step of the platform keeps everything that is marked, and finishes the streams of those who return. -/
theorem Finishing.stepped {label : Label} (finishing : Finishing state returned)
    (resolves : label.resolves = true) (stepped : state.step label = some next) :
    Finishing next (returned ++ returns state (.platform label)) := by
  obtain ⟨⟨now, lock, same, _⟩, _⟩ := Platform.step_effect stepped
  have kept : state.store.KeepsMarkers next.store := by
    have applied := (state.effect label).keepsMarkers state.store
    rw [same]
    exact ⟨applied.streams, applied.published, applied.expiring⟩
  -- Whoever stands before a call of `publishSystemChunk` has made the calls before it.
  refine ⟨fun worker point call chunk jobId running marking => ?_, ?_, ?_⟩
  · rcases Platform.step_worker stepped running with ⟨was, _⟩ |
      ⟨outcome, before, after, rfl, was, went, rfl⟩ | ⟨job, _, _, rfl, _⟩ |
      ⟨result, before, _, _, settled, _⟩ | ⟨_, _, rfl, _⟩
    · exact (finishing.marking worker point call chunk jobId was marking).kept kept
    · obtain rfl : outcome = .resolves := by simpa [Label.resolves] using resolves
      rcases WorkerPoint.resolve_marking went marking with ⟨rfl, marks⟩ |
        ⟨earlier, was', follows, rfl⟩
      · exact ⟨marks, by simp, by simp⟩
      · exact (finishing.marking worker before earlier chunk jobId was was').advance follows
    · simp [WorkerPoint.marking?] at marking
    · simp [WorkerPoint.sandboxSettled_marking settled] at marking
    · simp [WorkerPoint.marking?] at marking
  · intro worker jobId member
    rcases List.mem_append.mp member with earlier | fresh
    · exact (finishing.finished worker jobId earlier).kept kept
    · -- Who returns now makes the last of the three calls.
      obtain ⟨isLabel, point, chunk, running, marking⟩ := mem_returns_worker.mp fresh
      obtain rfl : label = .worker worker .resolves := BroadcastLabel.platform.inj isLabel
      have made : state.effect (.worker worker .resolves) = .stream .expire jobId chunk := by
        simp [Platform.effect, running, CallOutcome.applied, point.effect_marking marking]
      have done := (finishing.marking worker point .expire chunk jobId running marking).finish
      rw [same, made]
      exact ⟨done.marker, done.expiry⟩
  · intro jobId set
    rw [same] at set
    -- An expiry that is new was set by a worker that returns now.
    rcases (state.effect label).expiring_apply state.store jobId with ⟨chunk, made⟩ | unchanged
    · obtain ⟨worker, outcome, point, rfl, running, marking⟩ := Platform.effect_stream made
      obtain rfl : outcome = .resolves := by simpa [Label.resolves] using resolves
      exact ⟨worker, List.mem_append_right _
        (mem_returns_worker.mpr ⟨rfl, point, chunk, running, marking⟩)⟩
    · obtain ⟨worker, member⟩ := finishing.expiring jobId (unchanged ▸ set)
      exact ⟨worker, List.mem_append_left _ member⟩

/--
Where every call resolves, the stream of a job is finished exactly if a worker has ended the job and returned.

The reaper's `sendToDLQ` returns without a completion marker, and sets no expiry.
-/
theorem finished_streams {trace : List BroadcastLabel}
    {reached : Platform × List (Writer × JobId)}
    (run : returningBroadcast.Runs (fun reached label => keepsMarkers reached.1 label = true)
      (Platform.initial, []) trace reached) (jobId : JobId) :
    StreamFinished reached.1.store jobId ↔ ∃ worker, (Writer.worker worker, jobId) ∈ reached.2 := by
  -- Expiries are set by those workers alone, as the last of their calls.
  have finishing := run.preserves (fun reached => Finishing reached.1 reached.2) .initial ?_
  · exact ⟨fun finished => finishing.expiring jobId finished.expiry,
      fun ⟨worker, member⟩ => finishing.finished worker jobId member⟩
  · rintro ⟨state, _⟩ label ⟨next, _⟩ finishing keeps stepped
    obtain ⟨moved, rfl⟩ := Machine.recording_step.mp stepped
    rcases Platform.broadcastStep_cases moved with ⟨own, rfl, platformMoved⟩ | streamed
    · exact finishing.stepped keeps platformMoved
    · have quiet : returns state label = [] := by cases streamed <;> rfl
      simpa only [quiet, List.append_nil] using finishing.streamed keeps streamed

/-- A worker that prints a line, stores its result and finishes the stream. -/
def printingAttempt (worker : WorkerId) (chunk : StreamChunk) : List BroadcastLabel :=
  (takingUp worker).map .platform ++ [.append worker chunk, .announce worker chunk] ++
    (.sandbox worker (some cleanExit) :: workerCalls worker 9).map .platform

/-- The guarantee for a job that prints a line and completes. -/
theorem finished_streams_example : ∃ reached,
    returningBroadcast.Runs (fun reached label => keepsMarkers reached.1 label = true)
      (Platform.initial, [])
      ((submission "job").map .platform ++ printingAttempt "w" ⟨.stdout, "1", 0⟩) reached ∧
    reached.2 = [(Writer.worker "w", "job")] ∧ StreamFinished reached.1.store "job" := by
  -- The run is executed, and the worker has returned at its end.
  obtain ⟨reached, run, read⟩ := Machine.runs_of_guardedRun returningBroadcast
    (fun reached label => keepsMarkers reached.1 label = true) (Platform.initial, [])
    ((submission "job").map .platform ++ printingAttempt "w" ⟨.stdout, "1", 0⟩)
    (fun reached => reached.2) [(Writer.worker "w", "job")] (by decide)
  exact ⟨reached, run, read, (finished_streams run "job").mpr ⟨"w", by simp [read]⟩⟩

/-- A worker claims the job and dies, and a scan recovers the job. -/
def crashedAttempt (worker : WorkerId) (lockId : LockId) (calls : Nat) : List Label :=
  .workerStart worker :: workerCalls worker 2 ++ [.workerCrash worker] ++ detecting lockId worker ++
    scanCalls lockId calls

/-- Four workers that crash in turn, and the scans up to the push of the job's letter. -/
def fourCrashes (jobId : JobId) : List Label :=
  submission jobId ++ crashedAttempt "w1" "s1" 6 ++ crashedAttempt "w2" "s2" 6 ++
    crashedAttempt "w3" "s3" 6 ++ crashedAttempt "w4" "s4" 8

/-- The reaper ends a job that crashed four workers, and leaves its stream unfinished. -/
theorem stream_unfinished : ∃ reached,
    returningBroadcast.Runs (fun reached label => keepsMarkers reached.1 label = true)
      (Platform.initial, []) ((fourCrashes "job").map .platform) reached ∧
    (Writer.scan "s4", "job") ∈ reached.2 ∧ reached.1.store.statusOf "job" = some .failed ∧
    ¬ StreamFinished reached.1.store "job" := by
  -- The run is executed, and the stream key has no expiry at its end.
  obtain ⟨reached, run, read⟩ := Machine.runs_of_guardedRun returningBroadcast
    (fun reached label => keepsMarkers reached.1 label = true) (Platform.initial, [])
    ((fourCrashes "job").map .platform)
    (fun reached => (reached.2, reached.1.store.statusOf "job", reached.1.store.expiring "job"))
    ([(Writer.scan "s4", "job")], some .failed, false) (by decide)
  simp only [Prod.mk.injEq] at read
  obtain ⟨returned, failed, unset⟩ := read
  refine ⟨reached, run, by simp [returned], failed, fun finished => ?_⟩
  have set := finished.expiry
  simp [unset] at set

end CodeExecution

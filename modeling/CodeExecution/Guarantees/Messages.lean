import CodeExecution.Guarantees.FinishedStreams
import CodeExecution.Proofs.Completion
import CodeExecution.Proofs.Wire

/-! Messages: what is read of a text is what was written, in the lists of Redis and in the streams. -/

namespace CodeExecution

variable {state next : Platform} {wire : Wire} {trace : List Label}

/-! ## Payloads -/

/--
Texts of payloads carry everything, and what the services make of texts is the text of what they mean.

A requeue spreads a parsed payload and sets its count, and `sendToDLQ` picks the fields of a letter one by
one. LREM compares texts, and two texts are equal for equal payloads or letters alone.
-/
theorem texts_carry_payloads :
    (∀ job : QueuePayload, parseRaw job.raw = some job.json) ∧
    (∀ job : QueuePayload, requeueRaw job.raw = some (job.withRetry (job.retryCount + 1)).raw) ∧
    (∀ job reason failedAt,
      letterRaw job.raw failedAt reason = some (deadLetterPayload job reason failedAt).raw) ∧
    (∀ first second : QueuePayload, first.raw = second.raw ↔ first = second) ∧
    ∀ first second : DLQPayload, first.raw = second.raw ↔ first = second :=
  ⟨fun job => parseRaw_rawOf job.json, requeueRaw_raw,
    fun job reason failedAt => letterRaw_raw (deadLetterPayload job reason failedAt),
    fun _ _ => QueuePayload.raw_injective.eq_iff, fun _ _ => DLQPayload.raw_injective.eq_iff⟩

/-- Texts spell every reachable state. -/
theorem Spells.reached
    (run : wiredPlatform.Runs (fun _ _ => True) (.initial, .initial) trace (state, wire)) :
    Spells state wire ∧ ∃ earlier, platform.Runs (fun _ _ => True) .initial earlier state := by
  refine run.preserves (fun wired => Spells wired.1 wired.2 ∧
    ∃ earlier, platform.Runs (fun _ _ => True) .initial earlier wired.1)
    ⟨.initial, [], .nil⟩ ?_
  rintro ⟨state, wire⟩ label ⟨next, after⟩ both _ stepped
  obtain ⟨spells, earlier, run⟩ := both
  obtain ⟨moved, rfl⟩ := Machine.tracking_step.mp stepped
  refine ⟨spells.step moved fun worker entry member => ?_, _, run.snoc trivial moved⟩
  -- Nothing but payloads is ever held.
  obtain ⟨payload, isPayload, _⟩ := (AllGenuine.reached run).1 entry (.processing member)
  exact ⟨payload, isPayload⟩

/--
The lists of Redis, kept as texts by services that know texts alone, spell the lists of the model.

The services push what they parse, spread and stringify, and remove what they hold; any calls may fail,
any processes may crash and scans may recover live workers. Every text in a job list is that of a payload
whose row is there and whose count is within the limit, and a worker in the middle of a job holds the
text of its payload.
-/
theorem lists_spell_payloads
    (run : wiredPlatform.Runs (fun _ _ => True) (.initial, .initial) trace (state, wire)) :
    wire.pending = state.store.pending.map Entry.raw ∧
    (∀ worker, wire.processing worker = (state.store.processing worker).map Entry.raw) ∧
    wire.deadLetter = state.store.deadLetter.map DLQPayload.raw ∧
    (∀ raw, (raw ∈ wire.pending ∨ ∃ worker, raw ∈ wire.processing worker) →
      ∃ job, raw = QueuePayload.raw job ∧ job.retryCount ≤ maxRetryCount ∧
        state.store.hasSubmission job.jobId = true) ∧
    ∀ worker point job, state.workers worker = .running point → point.carried? = some job →
      wire.rawJob worker = some job.raw := by
  obtain ⟨spells, earlier, plain⟩ := Spells.reached run
  obtain ⟨pending, processing, deadLetter⟩ := spells.lists
  have genuine := (AllGenuine.reached plain).1
  -- Every element of a list is the payload of a job that was posted.
  have payloads : ∀ entry raw, state.Holds entry → entry.raw = raw →
      ∃ job, raw = QueuePayload.raw job ∧ job.retryCount ≤ maxRetryCount ∧
        state.store.hasSubmission job.jobId = true := by
    rintro entry _ holds rfl
    obtain ⟨job, rfl, own⟩ := genuine entry holds
    exact ⟨job, rfl, own.within, own.stored⟩
  refine ⟨pending, processing, deadLetter, ?_, spells.workers⟩
  rintro raw (queued | ⟨worker, listed⟩)
  · rw [pending] at queued
    obtain ⟨entry, member, spelled⟩ := List.mem_map.mp queued
    exact payloads entry raw (.pending member) spelled
  · rw [processing] at listed
    obtain ⟨entry, member, spelled⟩ := List.mem_map.mp listed
    exact payloads entry raw (.processing member) spelled

/-- A worker whose claim fails pushes the next payload, and removes the one in hand. -/
private def respelledRun : List Label :=
  submission "job" ++ [.workerStart "w", .worker "w" .resolves, .worker "w" (.rejects false),
    .worker "w" .resolves, .worker "w" .resolves, .worker "w" .resolves]

/-- The guarantee for a payload that was parsed, spread and written again. -/
theorem lists_spell_payloads_example : ∃ state wire,
    wiredPlatform.Runs (fun _ _ => True) (.initial, .initial) respelledRun (state, wire) ∧
    wire.pending = [((submittedPayload "job").withRetry 1).raw] ∧ wire.processing "w" = [] := by
  obtain ⟨state, run, read⟩ := Machine.runs_of_guardedRun platform (fun _ _ => True) .initial
    respelledRun (fun state => (state.store.pending, state.store.processing "w"))
    ([.payload ((submittedPayload "job").withRetry 1)], []) (by decide)
  obtain ⟨pending, processing⟩ := Prod.mk.inj read
  -- The texts follow the run, and spell the lists at its end.
  obtain ⟨wire, followed⟩ := run.tracked Wire.follow .initial
  obtain ⟨spelledPending, spelledProcessing, _⟩ := lists_spell_payloads followed
  exact ⟨state, wire, followed, by rw [spelledPending, pending]; rfl,
    by rw [spelledProcessing, processing]; rfl⟩

/-! ## Completion -/

/-- A chunk as it is sent, with its data in code units. -/
def StreamChunk.raw (chunk : StreamChunk) : Raw :=
  chunkRaw (chunk.type, Utf16.encode chunk.data.toList) chunk.timestamp

/-- The gateway recognises the markers of workers, and nothing else. -/
theorem StreamChunk.isCompletionPayload_raw (chunk : StreamChunk) :
    isCompletionPayload chunk.raw = chunk.isCompletion := by
  rw [Bool.eq_iff_iff, StreamChunk.raw, isCompletionPayload_chunkRaw, Prod.mk.injEq,
    Json.encode_name_inj]
  simp [StreamChunk.isCompletion]

/-- A result of the job is stored. -/
def Store.hasResult (store : Store) (jobId : JobId) : Prop :=
  (store.results.lookup jobId).isSome = true

/-- No step deletes a result. -/
theorem Platform.step_hasResult {label : Label} {jobId : JobId} (stepped : state.step label = some next)
    (found : state.store.hasResult jobId) : next.store.hasResult jobId := by
  obtain ⟨⟨_, _, same, _⟩, _⟩ := Platform.step_effect stepped
  rw [same]
  exact (state.effect label).results_stay found

/-- A transaction that ends a job leaves one. -/
theorem Platform.finished_hasResult {label : Label} {jobId : JobId}
    (stepped : state.step label = some next)
    (finishes : (state.effect label).finishes? = some jobId) : next.store.hasResult jobId := by
  obtain ⟨⟨_, _, same, _⟩, _⟩ := Platform.step_effect stepped
  -- A handler that gives up also writes a result, but it ends no job.
  have uncompensated : ∀ failed, state.effect label ≠ .insertFailure failed := by
    intro failed made
    rw [made] at finishes
    simp [Effect.finishes?] at finishes
  rw [same]
  show (((state.effect label).apply state.store).results.lookup jobId).isSome = true
  rw [Effect.results_isSome state.store jobId uncompensated, finishes]
  simp

/--
A text that the gateway takes for the end of a job, in a replay or in a live message, has a result behind it.

Any calls may fail, any processes may crash, and programs may print whatever they like: the result of the
job is stored before its marker is written, and stays.
-/
theorem completion_has_result {trace : List BroadcastLabel}
    (run : broadcast.Runs (fun _ _ => True) .initial trace state) {jobId : JobId} {chunk : StreamChunk}
    (said : state.store.Said jobId chunk) (completes : isCompletionPayload chunk.raw = true) :
    state.store.hasResult jobId := by
  -- Whatever is said as a completion is backed by a result, in every state of the run.
  have backed := run.preserves (Backed Store.hasResult) .initial ?_
  · rw [StreamChunk.isCompletionPayload_raw] at completes
    exact backed.said jobId chunk said completes
  · intro state label next backed _ stepped
    rcases Platform.broadcastStep_cases stepped with ⟨own, rfl, moved⟩ | streamed
    · exact backed.step moved (fun _ => Platform.step_hasResult moved)
        fun _ => Platform.finished_hasResult moved
    · exact backed.streamed streamed fun _ found => by
        obtain ⟨_, _, _, rfl⟩ := streamed.store_eq
        exact found

/-- A program prints the text of the marker, which is no marker; the worker's own marker comes later. -/
theorem completion_has_result_example : ∃ state,
    broadcast.Runs (fun _ _ => True) .initial ((submission "job").map .platform ++
      printingAttempt "w" ⟨.stdout, "EXECUTION_COMPLETE", 0⟩) state ∧
    isCompletionPayload (StreamChunk.raw ⟨.stdout, "EXECUTION_COMPLETE", 0⟩) = false ∧
    state.store.hasResult "job" := by
  obtain ⟨state, run, read⟩ := Machine.runs_of_guardedRun broadcast (fun _ _ => True) .initial
    ((submission "job").map .platform ++ printingAttempt "w" ⟨.stdout, "EXECUTION_COMPLETE", 0⟩)
    (fun state => state.store.streams "job")
    [⟨.stdout, "EXECUTION_COMPLETE", 0⟩, completionChunk 0] (by decide)
  refine ⟨state, run, by rw [StreamChunk.isCompletionPayload_raw]; rfl, ?_⟩
  -- The second entry of the stream is the marker.
  have said : state.store.Said "job" (completionChunk 0) := .inl (by rw [read]; simp)
  exact completion_has_result run said (by rw [StreamChunk.isCompletionPayload_raw]; rfl)

end CodeExecution

import CodeExecution.Guarantees.Messages
import CodeExecution.Guarantees.TerminalStatus
import CodeExecution.Services.Detail

/-! Reading a submission: what a client that was told of the end of a job finds, from then on. -/

namespace CodeExecution

variable {state next : Platform} {jobId : JobId}

/-! ## Rows that nobody writes -/

/-- The row of a finished job is left alone by all but the writes of its own end, retry or failure. -/
theorem Effect.row_stays {effect : Effect} {store : Store} {row : SubmissionRow}
    (found : store.submissions.lookup jobId = some row) (terminal : row.status.isTerminal = true)
    (fresh : ∀ payload, effect = .submit payload → store.hasSubmission payload.jobId = false)
    (claims : ∀ phase, effect.write? = some (jobId, phase) → phase = .claim) :
    (effect.apply store).submissions.lookup jobId = some row := by
  have own : row.id = jobId := KeyedTable.key_of_lookup found
  -- An update passes over a row that does not meet its condition.
  have passed : ∀ condition change, condition row = false →
      (store.updateSubmissions condition change).submissions.lookup jobId = some row := by
    intro condition change unmet
    simp [Store.updateSubmissions, KeyedTable.lookup_updateWhere, found, unmet]
  have other : ∀ written phase, effect.write? = some (written, phase) → phase ≠ .claim →
      jobId ≠ written := by
    rintro _ phase writes distinct rfl
    exact distinct (claims phase writes)
  cases effect with
  -- A new row has another key.
  | submit payload =>
    have free : store.submissions.lookup payload.jobId = none := by
      simpa [Store.hasSubmission] using fresh payload rfl
    have away : payload.jobId ≠ jobId := by
      rintro rfl
      rw [free] at found
      exact absurd found (by simp)
    have key : (submissionRow payload).id = payload.jobId := rfl
    rw [Effect.apply, Store.insertSubmission]
    rw [KeyedTable.lookup_insert _ _ _ (by rw [key]; exact free), if_neg (by rw [key]; exact away), found]
  -- Claims and resets ask for an open status.
  | claim claimed =>
    refine passed _ _ ?_
    cases is : row.status <;> simp_all [SubmissionStatus.isTerminal]
  | resetRunning =>
    refine passed _ _ ?_
    cases is : row.status <;> simp_all [SubmissionStatus.isTerminal]
  -- The other writes are of other jobs.
  | markFailed written =>
    exact passed _ _ (by simpa [own] using other written _ rfl (by simp))
  | requeueRow written retryCount =>
    exact passed _ _ (by simpa [own] using other written _ rfl (by simp))
  | commitResult written result =>
    obtain ⟨results, same⟩ := store.commitResult_eq written result
    rw [Effect.apply, same]
    exact passed _ _ (by simpa [own] using other written _ rfl (by simp))
  | commitDeadLetter letter =>
    obtain ⟨results, same⟩ := store.commitDeadLetter_eq letter
    rw [Effect.apply, same]
    exact passed _ _ (by simpa [own] using other letter.jobId _ rfl (by simp))
  | insertFailure failed =>
    obtain ⟨results, same⟩ := store.upsertResult_eq (enqueueFailureResult failed) fun row =>
      { row with
        errorMessage := (enqueueFailureResult failed).errorMessage
        errorCategory := (enqueueFailureResult failed).errorCategory }
    rw [Effect.apply, same]
    exact found
  | stream call streamed chunk => cases call <;> exact found
  | releaseLock lockId =>
    simp only [Effect.apply, Store.releaseLock]
    split <;> exact found
  | _ => exact found

/-- The handler of a request has returned, or its process is gone. -/
def PostPoint.isOver : PostPoint → Bool
  | .answered _ | .crashed => true
  | .idle | .insert _ | .enqueue _ | .depth _ | .markFailed _ | .insertFailure _ => false

/-- Such a handler makes no further call. -/
theorem Platform.step_over {label : Label} (stepped : state.step label = some next)
    (done : (state.posts jobId).isOver = true) : (next.posts jobId).isOver = true := by
  rcases Platform.step_post stepped jobId with ⟨same, _⟩ | ⟨_, _, _, _, idle, _⟩ |
    ⟨outcome, after, _, went, _⟩ | ⟨_, rfl⟩
  · rw [same]
    exact done
  · simp [idle, PostPoint.isOver] at done
  · -- There is neither a call nor a handler for its failure.
    cases at_ : state.posts jobId with
    | answered code =>
      rcases outcome with _ | _ | _ <;>
        simp [at_, awaitCall, PostPoint.resolve, PostPoint.handler] at went
    | crashed =>
      rcases outcome with _ | _ | _ <;>
        simp [at_, awaitCall, PostPoint.resolve, PostPoint.handler] at went
    | _ => simp [at_, PostPoint.isOver] at done
  · simp [PostPoint.isOver]

/-- Once a job is closed and its handler has returned, its row and its result are written no more. -/
theorem Orderly.reads_stay (orderly : Orderly state) {label : Label}
    (watched : supervised state label = true) (stepped : state.step label = some next)
    (done : (state.posts jobId).isOver = true) {row : SubmissionRow}
    (found : state.store.submissions.lookup jobId = some row) (terminal : row.status.isTerminal = true) :
    next.store.submissions.lookup jobId = some row ∧
      next.store.results.lookup jobId = state.store.results.lookup jobId := by
  have closed : (state.store.recordOf jobId).IsClosed :=
    ⟨row.status, row.retryCount, by simp [Store.recordOf, found], terminal⟩
  obtain ⟨⟨_, _, same, _⟩, fresh⟩ := Platform.step_effect stepped
  -- Whoever else writes the row relies on an open job.
  have claims : ∀ phase, (state.effect label).write? = some (jobId, phase) → phase = .claim := by
    intro phase write
    have writes := Platform.effect_writes write
    cases writes with
    | claim => rfl
    | @submit key _ payload inserts =>
      have absent := orderly.insert_fresh inserts
      rw [absent] at closed
      obtain ⟨_, _, impossible, _⟩ := closed
      exact absurd impossible (by simp)
    | @markFailed key _ payload gives =>
      have facts := orderly.posts key
      rw [gives] at facts
      obtain rfl : payload.jobId = key := facts
      simp [gives, PostPoint.isOver] at done
    | commit running | requeue running | deadLetter running =>
      exact absurd (orderly.sound.relied _ _ _ (.working running rfl)) closed.not_open
    | recoverRequeue recovers | recoverDeadLetter recovers =>
      exact absurd (orderly.sound.relied _ _ _ (.recovering recovers rfl)) closed.not_open
  have uncompensated : state.effect label ≠ .insertFailure jobId := by
    intro made
    obtain ⟨key, _, payload, _, at_, isJob⟩ := Platform.effect_insertFailure made
    have facts := orderly.posts key
    rw [at_] at facts
    obtain rfl : payload.jobId = key := facts
    rw [← isJob, at_] at done
    simp [PostPoint.isOver] at done
  rw [same]
  exact ⟨Effect.row_stays found terminal fresh claims,
    Effect.results_other uncompensated (orderly.effect_unfinished closed label)⟩

/-! ## Runs with streams -/

/-- Supervised steps without unclean failures, and anything that happens to streams. -/
def cleanBroadcast (state : Platform) : BroadcastLabel → Prop
  | .platform label => cleanlySupervised state label
  | .append _ _ | .announce _ _ | .trim _ | .streamExpires _ => True

instance (state : Platform) (label : BroadcastLabel) : Decidable (cleanBroadcast state label) := by
  cases label <;> unfold cleanBroadcast <;> infer_instance

/-- The state of a job's life is kept by what happens to streams. -/
theorem Orderly.streamed {label : BroadcastLabel} (orderly : Orderly state)
    (streamed : state.Streamed label next) : Orderly next := by
  obtain ⟨_, _, _, rfl⟩ := streamed.store_eq
  exact orderly.of_same rfl rfl rfl rfl rfl (fun _ _ _ _ => Iff.rfl) orderly.locked

/-- Every step of such a run keeps the platform orderly. -/
theorem Orderly.broadcastStep {label : BroadcastLabel} (orderly : Orderly state)
    (permitted : cleanBroadcast state label) (stepped : broadcast.step state label = some next) :
    Orderly next := by
  rcases Platform.broadcastStep_cases stepped with ⟨own, rfl, moved⟩ | streamed
  · exact orderly.step permitted.1 permitted.2 moved
  · exact orderly.streamed streamed

/-- A job is over, and its result is stored. -/
def Store.concluded (store : Store) (jobId : JobId) : Prop :=
  (store.recordOf jobId).IsClosed ∧ store.hasResult jobId

/-- A job that is over stays so. -/
theorem Orderly.step_concluded {label : Label} (orderly : Orderly state)
    (watched : supervised state label = true) (stepped : state.step label = some next)
    (concluded : state.store.concluded jobId) : next.store.concluded jobId := by
  obtain ⟨closed, found⟩ := concluded
  refine ⟨?_, Platform.step_hasResult stepped found⟩
  -- A closed job has no phase left, and results are not taken away.
  rcases orderly.lifecycle_step watched stepped jobId with kept | ⟨phase, moved⟩
  · rw [kept]
    exact closed
  · simp [lifecycle_closed closed phase] at moved

/-- A transaction that ends a job writes a terminal status. -/
theorem Effect.finishes_closes {effect : Effect} (finishes : effect.finishes? = some jobId) :
    ∃ status, status.isTerminal = true ∧ effect.write? = some (jobId, .close status) := by
  -- Two transactions end a job, and both set its status.
  cases effect with
  | commitResult committed result =>
    obtain rfl : committed = jobId := by simpa [Effect.finishes?] using finishes
    exact ⟨_, finalOutcome_terminal result, rfl⟩
  | commitDeadLetter letter =>
    obtain rfl : letter.jobId = jobId := by simpa [Effect.finishes?] using finishes
    exact ⟨.failed, rfl, rfl⟩
  | _ => simp [Effect.finishes?] at finishes

/-- Whoever writes a terminal status finds a row. -/
theorem Orderly.closes_stored (orderly : Orderly state) {label : Label} {status : SubmissionStatus}
    (writes : state.Writes label jobId (.close status)) :
    ∃ columns, state.store.recordOf jobId = some columns := by
  have ofOpen : ∀ {record : JobRecord}, record.IsOpen → ∃ columns, record = some columns := by
    intro _ isOpen
    obtain ⟨status, retryCount, found, _⟩ := isOpen
    exact ⟨_, found⟩
  generalize isPhase : Phase.close status = phase at writes
  -- Each of the four that close relies on a row that is there.
  cases writes with
  | commit running | deadLetter running =>
    exact ofOpen (orderly.sound.relied _ _ _ (.working running rfl))
  | recoverDeadLetter recovers => exact ofOpen (orderly.sound.relied _ _ _ (.recovering recovers rfl))
  | markFailed gives =>
    obtain ⟨_, _, found, _⟩ := orderly.sound.relied _ _ _ (orderly.markFailed_stake gives)
    exact ⟨_, found⟩
  | submit _ | claim _ | requeue _ | recoverRequeue _ => simp at isPhase

/-- A transaction that ends a job concludes it. -/
theorem Orderly.finished_concluded {label : Label} (orderly : Orderly state)
    (stepped : state.step label = some next)
    (finishes : (state.effect label).finishes? = some jobId) : next.store.concluded jobId := by
  refine ⟨?_, Platform.finished_hasResult stepped finishes⟩
  -- The row is there before, so the write closes it.
  obtain ⟨status, terminal, write⟩ := Effect.finishes_closes finishes
  obtain ⟨⟨earlier, retryCount⟩, found⟩ := orderly.closes_stored (Platform.effect_writes write)
  have notReset : state.effect label ≠ .resetRunning := by
    intro resets
    simp [resets, Effect.finishes?] at finishes
  refine ⟨status, retryCount, ?_, terminal⟩
  rw [Platform.step_recordOf_apply stepped,
    Effect.recordOf_apply notReset (Platform.step_effect stepped).2, write]
  simp [found, Phase.apply]

/-- In such runs the platform is orderly, and whoever is told that a job has ended may rely on it. -/
theorem Orderly.broadcastReached {trace : List BroadcastLabel}
    (run : broadcast.Runs cleanBroadcast .initial trace state) :
    Orderly state ∧ Backed Store.concluded state := by
  -- The results of jobs that are over must be there before their completions are.
  refine run.preserves (fun state => Orderly state ∧ Backed Store.concluded state)
    ⟨.initial, .initial⟩ ?_
  intro state label next both permitted stepped
  obtain ⟨orderly, backed⟩ := both
  refine ⟨orderly.broadcastStep permitted stepped, ?_⟩
  rcases Platform.broadcastStep_cases stepped with ⟨own, rfl, moved⟩ | streamed
  · exact backed.step moved (fun _ => orderly.step_concluded permitted.1 moved)
      fun _ => orderly.finished_concluded moved
  · refine backed.streamed streamed fun _ concluded => ?_
    obtain ⟨_, _, _, rfl⟩ := streamed.store_eq
    exact concluded

/-! ## The guarantees -/

/--
A final reply of `GET /submissions/:id` stays the same, field by field.

The client knows the job because its POST has been answered. Calls may fail and processes may crash, but
no failure falls between handing a job on and its acknowledgement.
-/
theorem final_detail_kept {trace later : List BroadcastLabel} {code : Nat} {detail : SubmissionDetail}
    (run : broadcast.Runs cleanBroadcast .initial trace state)
    (answered : state.posts jobId = .answered code)
    (read : getSubmission state.store jobId = .ok detail) (terminal : detail.status.isTerminal = true)
    (continued : broadcast.Runs cleanBroadcast state later next) :
    getSubmission next.store jobId = .ok detail := by
  have orderly := (Orderly.broadcastReached run).1
  -- The induction is on the later run, which keeps the two rows and the handler.
  have kept := continued.preserves (fun reached => Orderly reached ∧
    (reached.posts jobId).isOver = true ∧
    reached.store.submissions.lookup jobId = state.store.submissions.lookup jobId ∧
    reached.store.results.lookup jobId = state.store.results.lookup jobId)
    ⟨orderly, by rw [answered]; rfl, rfl, rfl⟩ ?_
  · obtain ⟨_, _, row, result⟩ := kept
    rw [getSubmission_congr row result, read]
  · intro reached label after invariant permitted stepped
    obtain ⟨orderly, done, row, result⟩ := invariant
    refine ⟨orderly.broadcastStep permitted stepped, ?_⟩
    rcases Platform.broadcastStep_cases stepped with ⟨own, rfl, moved⟩ | streamed
    · obtain ⟨stored, found, rfl⟩ := getSubmission_ok read
      obtain ⟨row', result'⟩ := orderly.reads_stay permitted.1 moved done (row.trans found) terminal
      exact ⟨Platform.step_over moved done, row'.trans found.symm, result'.trans result⟩
    · obtain ⟨_, _, _, rfl⟩ := streamed.store_eq
      exact ⟨done, row, result⟩

/-- A job that prints a line and completes. -/
private def completedRun : List BroadcastLabel :=
  (submission "job").map .platform ++ printingAttempt "w" ⟨.stdout, "1", 0⟩

/-- The worker dies, a scan visits it, and the stream expires. -/
private def aftermath : List BroadcastLabel :=
  (.workerCrash "w" :: detecting "s" "w" ++ scanCalls "s" 3).map .platform ++ [.streamExpires "job"]

/-- The guarantee for a job whose worker is scanned after its death. -/
theorem final_detail_kept_example : ∃ state next detail,
    broadcast.Runs cleanBroadcast .initial completedRun state ∧
    broadcast.Runs cleanBroadcast state aftermath next ∧
    getSubmission next.store "job" = .ok detail ∧ detail.status = .completed := by
  obtain ⟨state, run, seen⟩ := Machine.runs_of_guardedRun broadcast cleanBroadcast .initial completedRun
    (fun state => (state.posts "job", (getSubmission state.store "job").toOption.map SubmissionDetail.status,
      (broadcast.guardedRun cleanBroadcast state aftermath).isSome))
    (.answered 201, some .completed, true) (by decide)
  simp only [Prod.mk.injEq] at seen
  obtain ⟨answered, status, continues⟩ := seen
  -- The worker dies and is scanned, and the stream expires.
  obtain ⟨next, executed⟩ := Option.isSome_iff_exists.mp continues
  have continued := Machine.runs_iff_guardedRun.mpr executed
  obtain ⟨detail, isDetail, completed⟩ := Option.map_eq_some_iff.mp status
  have read : getSubmission state.store "job" = .ok detail := by
    cases reply : getSubmission state.store "job" <;> simp_all [Except.toOption]
  exact ⟨state, next, detail, run, continued,
    final_detail_kept run answered read (by rw [completed]; rfl) continued, completed⟩

/--
A client that was told of the end of a job reads a final reply with a result, whenever it asks.

It was told by a text that it recognises, in a replay or in a live message.
-/
theorem completion_reads_final {trace later : List BroadcastLabel} {chunk : StreamChunk}
    (run : broadcast.Runs cleanBroadcast .initial trace state)
    (said : state.store.Said jobId chunk) (completes : isCompletionPayload chunk.raw = true)
    (continued : broadcast.Runs cleanBroadcast state later next) :
    ∃ detail, getSubmission next.store jobId = .ok detail ∧ detail.status.isTerminal = true ∧
      detail.stdout.isSome = true ∧ detail.stderr.isSome = true := by
  obtain ⟨orderly, backed⟩ := Orderly.broadcastReached run
  rw [StreamChunk.isCompletionPayload_raw] at completes
  -- The result is stored before the marker is written, and both stay for the rest of the run.
  have concluded := continued.preserves (fun reached => Orderly reached ∧ reached.store.concluded jobId)
    ⟨orderly, backed.said jobId chunk said completes⟩ ?_
  · obtain ⟨_, ⟨status, retryCount, found, terminal⟩, stored⟩ := concluded
    obtain ⟨row, isRow, columns⟩ := Option.map_eq_some_iff.mp found
    obtain ⟨result, isResult⟩ := Option.isSome_iff_exists.mp stored
    obtain ⟨rfl, _⟩ := Prod.mk.inj columns
    refine ⟨submissionDetail row (some result), ?_, terminal, rfl, rfl⟩
    rw [getSubmission, isRow, isResult]
  · intro reached label after invariant permitted stepped
    obtain ⟨orderly, concluded⟩ := invariant
    refine ⟨orderly.broadcastStep permitted stepped, ?_⟩
    rcases Platform.broadcastStep_cases stepped with ⟨own, rfl, moved⟩ | streamed
    · exact orderly.step_concluded permitted.1 moved concluded
    · obtain ⟨_, _, _, rfl⟩ := streamed.store_eq
      exact concluded

/-- The guarantee for a client that reads after the marker has expired with its stream. -/
theorem completion_reads_final_example : ∃ state next detail,
    broadcast.Runs cleanBroadcast .initial completedRun state ∧
    broadcast.Runs cleanBroadcast state aftermath next ∧
    getSubmission next.store "job" = .ok detail ∧ detail.status.isTerminal = true := by
  obtain ⟨state, run, seen⟩ := Machine.runs_of_guardedRun broadcast cleanBroadcast .initial completedRun
    (fun state => (state.store.streams "job",
      (broadcast.guardedRun cleanBroadcast state aftermath).isSome))
    ([⟨.stdout, "1", 0⟩, completionChunk 0], true) (by decide)
  obtain ⟨entries, continues⟩ := Prod.mk.inj seen
  obtain ⟨next, executed⟩ := Option.isSome_iff_exists.mp continues
  have continued := Machine.runs_iff_guardedRun.mpr executed
  -- The marker was appended, and the rest of the run has dropped the stream.
  have said : state.store.Said "job" (completionChunk 0) := .inl (by rw [entries]; simp)
  obtain ⟨detail, read, terminal, _⟩ := completion_reads_final run said
    (by rw [StreamChunk.isCompletionPayload_raw]; rfl) continued
  exact ⟨state, next, detail, run, continued, read, terminal⟩

end CodeExecution

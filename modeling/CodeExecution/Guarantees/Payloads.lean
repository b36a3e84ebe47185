import CodeExecution.Proofs.Sparing
import CodeExecution.Settings

/-! Payloads: whatever fails, what is held anywhere is what was posted, with a count within the limit. -/

namespace CodeExecution

variable {state next : Platform} {label : Label} {entry : Entry} {trace : List Label}

/-- An element is the payload of a request whose row is stored, in one of its spellings. -/
structure Genuine (arrived : List QueuePayload) (store : Store) (payload : QueuePayload) : Prop where
  posted : ∃ posted ∈ arrived, payload.Spells posted
  within : payload.retryCount ≤ maxRetryCount
  stored : store.hasSubmission payload.jobId = true

/-- Everything that is held is such a payload. -/
def AllGenuine (arrived : List QueuePayload) (state : Platform) : Prop :=
  ∀ entry, state.Holds entry → ∃ payload, entry = .payload payload ∧
    Genuine arrived state.store payload

/-- A payload stays genuine. -/
theorem Genuine.later {arrived : List QueuePayload} {payload : QueuePayload}
    (genuine : Genuine arrived state.store payload) (more : List QueuePayload)
    (stepped : state.step label = some next) :
    Genuine (arrived ++ more) next.store payload := by
  obtain ⟨⟨posted, member, spells⟩, within, stored⟩ := genuine
  exact ⟨⟨posted, List.mem_append_left _ member, spells⟩, within,
    Platform.step_hasSubmission stepped stored⟩

/-- Every step keeps this, because it only copies payloads and counts within the limit. -/
theorem AllGenuine.step {arrived : List QueuePayload} {pushed : List (JobId × QueuePayload)}
    (genuine : AllGenuine arrived state) (traced : Traced arrived pushed state)
    (limited : Limited state) (stepped : state.step label = some next) :
    AllGenuine (arrived ++ received state label) next := by
  intro entry holds
  -- What is held was held before, has been counted up from that, or is new from a POST.
  cases Platform.Holds.derived limited stepped holds with
  | held was =>
    obtain ⟨payload, isPayload, own⟩ := genuine entry was
    exact ⟨payload, isPayload, own.later _ stepped⟩
  | @counted payload retryCount was within =>
    obtain ⟨same, isPayload, own⟩ := genuine _ was
    obtain rfl := Entry.payload.inj isPayload
    obtain ⟨⟨posted, member, spells⟩, _, stored⟩ := own.later (received state label) stepped
    exact ⟨_, rfl, ⟨posted, member, spells.withRetry retryCount⟩, within, stored⟩
  | @inserted key payload own inserts spells unspent stored =>
    have arrives := traced.works key payload (by rw [inserts]; rfl)
    exact ⟨own, rfl, ⟨payload, List.mem_append_left _ arrives, spells⟩, by omega, stored⟩

/-- Nothing is held at first. -/
theorem AllGenuine.initial : AllGenuine [] .initial := by
  intro entry holds
  -- Each place where an entry may be is empty.
  cases holds with
  | pending member | processing member | letter member =>
    simp [Platform.initial, Store.empty] at member
  | handler pushes => simp [Platform.initial] at pushes
  | worker running => simp [Platform.initial] at running
  | recovery recovers => simp [Platform.initial] at recovers
  | row found => simp [Platform.initial, Store.empty] at found
  | startup member => simp [Platform.initial, StartupPoint.carried] at member

/-- Every reachable state holds genuine payloads alone. -/
theorem AllGenuine.reached (run : platform.Runs (fun _ _ => True) .initial trace state) :
    AllGenuine (platform.observe received .initial trace) state ∧ Limited state := by
  refine run.preserves_trace (fun trace state =>
    AllGenuine (platform.observe received .initial trace) state ∧ Limited state)
    ⟨.initial, .initial⟩ ?_
  intro trace state label next earlier both _ stepped
  -- The bound on the counts goes along, as a requeue needs it.
  obtain ⟨genuine, limited⟩ := both
  rw [Machine.observe_snoc earlier stepped]
  exact ⟨genuine.step (Traced.reached earlier) limited stepped, limited.step stepped⟩

/-- The job of a worker in charge has a row. -/
theorem AllGenuine.inCharge {arrived : List QueuePayload} {worker : WorkerId} {point : WorkerPoint}
    {jobId : JobId} (genuine : AllGenuine arrived state)
    (running : state.workers worker = .running point) (charge : point.inCharge? = some jobId) :
    state.store.hasSubmission jobId = true := by
  obtain ⟨payload, carries, rfl⟩ := WorkerPoint.inCharge_carried charge
  obtain ⟨own, same, isGenuine⟩ := genuine _ (.worker running carries)
  obtain rfl := Entry.payload.inj same
  exact isGenuine.stored

/-- What was received was posted. -/
theorem post_of_observed {payload : QueuePayload}
    (run : platform.Runs (fun _ _ => True) .initial trace state)
    (arrived : payload ∈ platform.observe received .initial trace) :
    ∃ userId, .post payload.jobId payload.code payload.language userId ∈ trace ∧
      payload.userId = .ofRequest userId := by
  -- The induction is on the run, which ends with the label that is looked at.
  induction run with
  | nil => simp [Machine.observe] at arrived
  | snoc earlier permitted stepped ih =>
    rw [Machine.observe_snoc earlier stepped] at arrived
    rcases List.mem_append.mp arrived with before | now
    · obtain ⟨userId, posted, spelled⟩ := ih before
      exact ⟨userId, List.mem_append_left _ posted, spelled⟩
    · rename_i label
      cases label with
      | post jobId code language userId =>
        simp only [received, receivePost, PostPoint.payload?, Option.toList_some,
          List.mem_singleton] at now
        subst now
        exact ⟨userId, List.mem_append_right _ (List.mem_singleton.mpr rfl), rfl⟩
      | _ => simp [received] at now

/-- What was posted was received. -/
theorem observed_of_post {jobId : JobId} {code : ClientText} {language : Language}
    {userId : Option ClientText} (run : platform.Runs (fun _ _ => True) .initial trace state)
    (posted : .post jobId code language userId ∈ trace) :
    ∃ payload ∈ platform.observe received .initial trace, payload.jobId = jobId ∧
      payload.code = code ∧ payload.language = language ∧ payload.userId = .ofRequest userId := by
  -- The induction follows the run to the step that receives the request.
  induction run with
  | nil => simp at posted
  | snoc earlier permitted stepped ih =>
    rw [Machine.observe_snoc earlier stepped]
    rcases List.mem_append.mp posted with before | now
    · obtain ⟨payload, member, own⟩ := ih before
      exact ⟨payload, List.mem_append_left _ member, own⟩
    · obtain rfl := List.mem_singleton.mp now
      exact ⟨_, List.mem_append_right _ (List.mem_singleton.mpr rfl), rfl, rfl, rfl, rfl⟩

/-- The user id of a request is read off its payload. -/
theorem UserIdField.ofRequest_injective : Function.Injective UserIdField.ofRequest := by
  intro first second same
  cases first <;> cases second <;> simp_all [UserIdField.ofRequest]

/-- The user id of a request as the database keeps it. -/
theorem UserIdField.stored_ofRequest (userId : Option ClientText) :
    (UserIdField.ofRequest userId).stored = match userId.map Utf16.toWellFormed with
      | none => .null
      | some userId => .value userId := by
  cases userId <;> rfl

/-- The columns that a request's payload is rebuilt from are the request's, in well-formed texts. -/
theorem columns_of_rebuilt {row : SubmissionRow} {posted : QueuePayload} {userId : Option ClientText}
    (same : payloadOfRow row = posted.rebuilt row.retryCount) (column : posted.userId = .ofRequest userId) :
    row.sourceCode = Utf16.toWellFormed posted.code ∧ row.language = posted.language ∧
      row.userId = userId.map Utf16.toWellFormed ∧ row.createdAt = posted.submittedAt := by
  simp only [payloadOfRow, QueuePayload.rebuilt, QueuePayload.mk.injEq, column,
    UserIdField.stored_ofRequest] at same
  obtain ⟨_, user, code, language, _, time⟩ := same
  refine ⟨code, language, ?_, time⟩
  -- An absent user id and a null one are the same column.
  cases isUser : row.userId <;> cases isPosted : userId.map Utf16.toWellFormed <;> simp_all

/--
Whatever is held anywhere is the one request of its job, with a count within the limit.

It is the request word for word, or as the database has it, with lone surrogates replaced.
This holds of the three kinds of lists, of the variables of handlers, workers, recoveries and the startup
recovery, and of what a row would be rebuilt to: any calls may fail and any processes may crash, and
payloads may have been lost, recounted and rebuilt from the database any number of times.
-/
theorem held_payload_was_posted (run : platform.Runs (fun _ _ => True) .initial trace state)
    (holds : state.Holds entry) :
    ∃ payload, entry = .payload payload ∧ payload.retryCount ≤ maxRetryCount ∧ ∃ code userId,
      .post payload.jobId code payload.language userId ∈ trace ∧
      (∀ code' language' userId', .post payload.jobId code' language' userId' ∈ trace →
        code' = code ∧ language' = payload.language ∧ userId' = userId) ∧
      ((payload.code = code ∧ payload.userId = .ofRequest userId) ∨
        (payload.code = Utf16.toWellFormed code ∧
          payload.userId = (UserIdField.ofRequest userId).stored)) ∧
      ∃ row, state.store.submissions.lookup payload.jobId = some row ∧
        row.sourceCode = Utf16.toWellFormed code ∧ row.language = payload.language ∧
        row.userId = userId.map Utf16.toWellFormed ∧ row.createdAt = payload.submittedAt ∧
        row.retryCount ≤ maxRetryCount := by
  have genuine := (AllGenuine.reached run).1
  have traced := Traced.reached run
  obtain ⟨payload, rfl, ⟨posted, arrived, spells⟩, within, stored⟩ := genuine entry holds
  obtain ⟨userId, member, column⟩ := post_of_observed run arrived
  -- Both spellings keep these three fields.
  obtain ⟨sameJob, sameLanguage, sameTime⟩ : payload.jobId = posted.jobId ∧
      payload.language = posted.language ∧ payload.submittedAt = posted.submittedAt := by
    rcases spells with same | same <;> rw [same] <;> exact ⟨rfl, rfl, rfl⟩
  refine ⟨payload, rfl, within, posted.code, userId, ?_, ?_, ?_, ?_⟩
  · rw [sameJob, sameLanguage]
    exact member
  · -- An identifier is drawn once.
    intro code' language' userId' member'
    obtain ⟨other, arrived', isJob, rfl, rfl, column'⟩ := observed_of_post run member'
    obtain rfl := traced.alone other arrived' posted arrived (isJob.trans sameJob)
    exact ⟨rfl, sameLanguage.symm, UserIdField.ofRequest_injective (column'.symm.trans column)⟩
  · rcases spells with same | same
    · exact .inl ⟨by rw [same]; rfl, by rw [same, ← column]; rfl⟩
    · exact .inr ⟨by rw [same]; rfl, by rw [same, ← column]; rfl⟩
  · obtain ⟨row, found⟩ := Option.isSome_iff_exists.mp stored
    have own : row.id = payload.jobId := KeyedTable.key_of_lookup found
    obtain ⟨other, arrived', rebuilt⟩ := traced.rows payload.jobId row found
    have isJob : other.jobId = row.id := congrArg QueuePayload.jobId rebuilt.symm
    obtain rfl := traced.alone other arrived' posted arrived (isJob.trans (own.trans sameJob))
    obtain ⟨sourceCode, language, user, time⟩ := columns_of_rebuilt rebuilt column
    obtain ⟨_, isPayload, rowOwn⟩ := genuine _ (.row found)
    obtain rfl := Entry.payload.inj isPayload
    exact ⟨row, found, sourceCode, language.trans sameLanguage.symm, user, time.trans sameTime.symm,
      rowOwn.within⟩

/-- A worker dies with the only payload of its job, which a restarted monitor then rebuilds. -/
private def rebuiltRun : List Label :=
  submission "job" ++ takingUp "w1" ++ [.workerCrash "w1", .startupBegin, .startup .resolves,
    .startup .resolves, .startupSelect [submissionRow (submittedPayload "job")],
    .startup .resolves] ++ takingUp "w2"

/-- The guarantee for the program that the next worker executes. -/
theorem held_payload_was_posted_example : ∃ state job,
    platform.Runs (fun _ _ => True) .initial rebuiltRun state ∧
    state.workers "w2" = .running (.executing job) ∧
    ∃ code userId, .post job.jobId code job.language userId ∈ rebuiltRun ∧
      (job.code = code ∨ job.code = Utf16.toWellFormed code) := by
  obtain ⟨state, run, running⟩ := Machine.runs_of_guardedRun platform (fun _ _ => True) .initial
    rebuiltRun (fun state => state.workers "w2")
    (.running (.executing ((submittedPayload "job").rebuilt 0))) (by decide)
  -- The payload that is executed was rebuilt from the row, and is a POST's all the same.
  obtain ⟨payload, isPayload, _, code, userId, posted, _, spells, _⟩ :=
    held_payload_was_posted run (.worker running rfl)
  obtain rfl := Entry.payload.inj isPayload
  exact ⟨state, _, run, running, code, userId, posted, spells.imp And.left And.left⟩

end CodeExecution

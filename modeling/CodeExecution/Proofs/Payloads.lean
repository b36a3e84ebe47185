import CodeExecution.Guarantees.Rebuild
import CodeExecution.Proofs.ListMoves
import CodeExecution.Proofs.RetryCounts
import CodeExecution.Recoveries

/-! Where elements of the job lists are held, and where each of them was held one step earlier. -/

namespace CodeExecution

variable {state next : Platform} {label : Label} {entry : Entry} {jobId : JobId}

/-! ## Places -/

/-- A letter is made of the whole payload. -/
@[simp] theorem deadLetterPayload_payload (job : QueuePayload) (reason : String)
    (failedAt : Timestamp) : (deadLetterPayload job reason failedAt).payload = job := rfl

/-- The payload that a worker's variables have. -/
def WorkerPoint.carried? : WorkerPoint → Option QueuePayload
  | .pop => none
  | .claim job | .statusCheck job | .repush job | .discard job | .launch job | .executing job
  | .persist _ job _ | .acknowledge job | .complete _ _ job | .requeue _ job | .exhausted job => some job
  | .deadLetter _ letter | .deadLetterPush letter | .deadLetterComplete _ _ letter =>
    some letter.payload

/-- The elements that the variables of a recovery have. -/
def RecoverPoint.carried : RecoverPoint → List Entry
  | .list => []
  | .check cursor | .reset cursor | .push cursor =>
    cursor.visited ++ .payload cursor.job :: cursor.todo
  | .deadLetter _ letter cursor | .deadLetterPush letter cursor =>
    .payload letter.payload :: (cursor.visited ++ .payload cursor.job :: cursor.todo)
  | .delete visited => visited

/-- The rows that the startup recovery has read, and not pushed. -/
def StartupPoint.carried : StartupPoint → List SubmissionRow
  | .rehydrate row rest => row :: rest
  | .idle | .resetRunning | .checkDepth | .selectPending | .finished | .failed => []

/-- An element is somewhere on the platform, or it would be made of what is there. -/
inductive Platform.Holds (state : Platform) : Entry → Prop
  | pending {entry : Entry} (member : entry ∈ state.store.pending) : Holds state entry
  | processing {entry : Entry} {worker : WorkerId} (member : entry ∈ state.store.processing worker) :
      Holds state entry
  /-- A handler is about to push it. -/
  | handler {key : JobId} {payload : QueuePayload} (pushes : state.posts key = .enqueue payload) :
      Holds state (.payload payload)
  | worker {worker : WorkerId} {point : WorkerPoint} {payload : QueuePayload}
      (running : state.workers worker = .running point) (carries : point.carried? = some payload) :
      Holds state (.payload payload)
  | recovery {lockId : LockId} {point : RecoverPoint} {owner : WorkerId} {rest : List WorkerId}
      {entry : Entry} (recovers : state.scans lockId = .recover point owner rest)
      (member : entry ∈ point.carried) : Holds state entry
  | row {jobId : JobId} {row : SubmissionRow}
      (found : state.store.submissions.lookup jobId = some row) :
      Holds state (.payload (payloadOfRow row))
  | startup {row : SubmissionRow} (member : row ∈ state.startup.carried) :
      Holds state (.payload (payloadOfRow row))
  | letter {letter : DLQPayload} (member : letter ∈ state.store.deadLetter) :
      Holds state (.payload letter.payload)

/-! ## The variables of the processes -/

/-- The retry path keeps the job. -/
@[simp] theorem requeueWithBackoff_carried (job : QueuePayload) :
    (requeueWithBackoff job).carried? = some job := by
  unfold requeueWithBackoff
  split <;> rfl

/-- A worker gets a payload from the end of the pending list, and keeps it till it is through. -/
theorem WorkerPoint.resolve_carried {worker : WorkerId} {before point : WorkerPoint}
    {store after : Store} {payload : QueuePayload}
    (resolved : before.resolve worker store = some (point, after))
    (carries : point.carried? = some payload) :
    before.carried? = some payload ∨
      (before = .pop ∧ store.pending.getLast? = some (.payload payload)) := by
  -- Only the pop comes by a payload.
  cases WorkerPoint.resolve_cases resolved with
  | pop last =>
    obtain rfl := Option.some.inj carries
    exact .inr ⟨rfl, last⟩
  | @complete call following => exact .inl carries
  | rollback =>
    rw [requeueWithBackoff_carried] at carries
    exact .inl carries
  | _ => first | exact .inl carries | simp [WorkerPoint.carried?] at carries

/-- A failed call brings no other payload. -/
theorem WorkerPoint.handler_carried {before point : WorkerPoint} {payload : QueuePayload}
    (handled : before.handler = some point) (carries : point.carried? = some payload) :
    before.carried? = some payload := by
  -- The catch block runs the retry path for the job, or drops it.
  unfold WorkerPoint.handler at handled
  split at handled
  all_goals try obtain rfl := Option.some.inj handled
  all_goals first
    | exact carries
    | (rw [requeueWithBackoff_carried] at carries; exact carries)
    | (simp at handled; done)
    | simp [WorkerPoint.carried?] at carries

/-- Nor does a sandbox that settles. -/
theorem WorkerPoint.sandboxSettled_carried {before point : WorkerPoint}
    {result : Option SandboxResult} {payload : QueuePayload}
    (settled : before.sandboxSettled result = some point) (carries : point.carried? = some payload) :
    before.carried? = some payload := by
  unfold WorkerPoint.sandboxSettled at settled
  -- The transaction and the retry carry the payload of the sandbox.
  repeat' split at settled
  · obtain rfl := Option.some.inj settled
    exact carries
  · obtain rfl := Option.some.inj settled
    rw [requeueWithBackoff_carried] at carries
    exact carries
  · simp at settled

/-- The loop of a recovery keeps what it has read. -/
theorem RecoverPoint.visit_carried (visited todo : List Entry) :
    (RecoverPoint.visit visited todo).carried = visited ++ todo := by
  -- An element that is passed over changes sides.
  induction todo generalizing visited with
  | nil => simp [RecoverPoint.visit, RecoverPoint.carried]
  | cons first rest ih =>
    cases first with
    | payload job => rfl
    | malformed text => simp [RecoverPoint.visit, ih]

/-- So does its next iteration. -/
theorem Cursor.advance_carried (cursor : Cursor) :
    cursor.advance.carried = cursor.visited ++ .payload cursor.job :: cursor.todo := by
  simp [Cursor.advance, Cursor.visitedNext, RecoverPoint.visit_carried]

/-- A recovery gets its elements from the list of the dead worker. -/
theorem RecoverPoint.resolve_carried {worker : WorkerId} {point after : RecoverPoint}
    {store later : Store} (resolved : point.resolve worker store = some (some after, later))
    (member : entry ∈ after.carried) : entry ∈ point.carried ∨ entry ∈ store.processing worker := by
  -- Only LRANGE reads elements, and a letter is made of the payload of its iteration.
  cases RecoverPoint.resolve_cases resolved with
  | list => exact .inr (by simpa [RecoverPoint.visit_carried] using member)
  | skip | push => exact .inl (by rw [Cursor.advance_carried] at member; exact member)
  | sendLetter =>
    rw [Cursor.advance_carried] at member
    exact .inl (List.mem_cons_of_mem _ member)
  | exhausts =>
    left
    rcases List.mem_cons.mp member with rfl | earlier
    · simp [RecoverPoint.carried]
    · exact earlier
  | retries | reset | connect | begin | updateStatus | insertResult | commit => exact .inl member

/-! ## Counts within the limit -/

/-- What is about to be written counts within the limit. -/
structure Limited (state : Platform) : Prop where
  inserts : ∀ key payload, state.posts key = .insert payload → payload.retryCount = 0
  workers : ∀ worker point, state.workers worker = .running point → point.withinLimit
  recoveries : WithinLimit state

/-- Failed calls lead to the test of the limit, or to no requeue. -/
theorem WorkerPoint.handler_withinLimit {before point : WorkerPoint}
    (handled : before.handler = some point) : point.withinLimit := by
  unfold WorkerPoint.handler at handled
  split at handled
  all_goals try obtain rfl := Option.some.inj handled
  all_goals first
    | exact requeueWithBackoff_withinLimit _
    | trivial

/-- No call leads a handler back to its INSERT. -/
theorem PostPoint.call_ne_insert {point next : PostPoint} {store after : Store}
    {outcome : CallOutcome} {payload : QueuePayload}
    (went : awaitCall outcome (point.resolve store) point.handler store = some (next, after)) :
    next ≠ .insert payload := by
  rcases PostPoint.call_cases went with ⟨_, resolved⟩ | ⟨_, _, rfl⟩ | rfl
  · cases resolved <;> simp
  · simp
  · simp

/-- Every step keeps the counts within the limit, whatever fails. -/
theorem Limited.step (limited : Limited state) (stepped : state.step label = some next) :
    Limited next := by
  refine ⟨?_, ?_, limited.recoveries.step stepped⟩
  · intro key payload inserts
    rcases Platform.step_post stepped key with ⟨same, _⟩ | ⟨_, _, _, rfl, _, rfl⟩ |
      ⟨_, after, rfl, went, rfl⟩ | ⟨_, rfl⟩
    · exact limited.inserts key payload (same ▸ inserts)
    · obtain rfl := PostPoint.insert.inj (by simpa [receivePost] using inserts)
      rfl
    · obtain ⟨point, later⟩ := after
      obtain rfl : point = .insert payload := by simpa using inserts
      exact absurd rfl (PostPoint.call_ne_insert went)
    · simp at inserts
  · intro worker point running
    rcases Platform.step_worker stepped running with ⟨was, _⟩ |
      ⟨outcome, before, after, rfl, was, went, rfl⟩ | ⟨_, _, _, rfl, _⟩ |
      ⟨result, before, _, _, settled, _⟩ | ⟨_, _, rfl, _⟩
    · exact limited.workers worker point was
    -- A call resolves, or fails before or after it has been executed and is handled.
    · rcases awaitCall_cases went with ⟨_, resolved⟩ | ⟨_, _, handled, same⟩ |
        ⟨_, _, _, _, handled, same⟩
      · exact WorkerPoint.resolve_withinLimit resolved (limited.workers worker before was)
      · obtain ⟨rfl, _⟩ := Prod.mk.inj same
        exact WorkerPoint.handler_withinLimit handled
      · obtain ⟨rfl, _⟩ := Prod.mk.inj same
        exact WorkerPoint.handler_withinLimit handled
    · trivial
    -- A sandbox that rejects leads to a retry, whose test of the count is the limit.
    · unfold WorkerPoint.sandboxSettled at settled
      repeat' split at settled
      · obtain rfl := Option.some.inj settled; trivial
      · obtain rfl := Option.some.inj settled; exact requeueWithBackoff_withinLimit _
      · simp at settled
    · trivial

/-- Nothing is about to be written at first. -/
theorem Limited.initial : Limited .initial :=
  ⟨by simp [Platform.initial], by simp [Platform.initial],
    by simp [WithinLimit, Platform.initial]⟩

/-! ## One step earlier -/

/-- The two spellings of a posted payload: as the gateway pushes it, and as the recovery rebuilds it. -/
def QueuePayload.Spells (payload posted : QueuePayload) : Prop :=
  payload = posted.withRetry payload.retryCount ∨ payload = posted.rebuilt payload.retryCount

/-- The copy for another attempt keeps its spelling. -/
theorem QueuePayload.Spells.withRetry {payload posted : QueuePayload} (spells : payload.Spells posted)
    (retryCount : Nat) : (payload.withRetry retryCount).Spells posted := by
  rcases spells with same | same
  · exact .inl (by rw [same]; rfl)
  · exact .inr (by rw [same]; rfl)

/-- What an element was one step earlier. -/
inductive Derived (state next : Platform) : Entry → Prop
  | held {entry : Entry} (was : state.Holds entry) : Derived state next entry
  /-- It is the copy of a payload with another count. -/
  | counted {payload : QueuePayload} {retryCount : Nat} (was : state.Holds (.payload payload))
      (within : retryCount ≤ maxRetryCount) :
      Derived state next (.payload (payload.withRetry retryCount))
  /-- It is the payload of a request whose row has just been inserted. -/
  | inserted {key : JobId} {payload own : QueuePayload} (inserts : state.posts key = .insert payload)
      (spells : own.Spells payload) (unspent : own.retryCount = 0)
      (stored : next.store.hasSubmission own.jobId = true) : Derived state next (.payload own)

/-- What is pushed is held by the process that pushes it, or counts its next attempt. -/
theorem Platform.push_derived (limited : Limited state) (made : state.effect label = .push entry) :
    Derived state next entry := by
  -- Five calls push: one of a handler, two of a worker, one of a recovery and one at startup.
  rcases Platform.effect_source made (by simp) with ⟨key, _, _, source⟩ |
    ⟨worker, _, point, _, running, source⟩ | ⟨lockId, _, _, source⟩ | ⟨_, _, source⟩
  · cases at_ : state.posts key with
    | enqueue payload =>
      rw [at_] at source
      obtain rfl := Effect.push.inj source
      exact .held (.handler at_)
    | _ => simp [at_, PostPoint.effect] at source
  · unfold WorkerPoint.effect at source
    repeat' split at source
    all_goals simp at source
    · subst source
      exact .held (.worker running rfl)
    · subst source
      exact .counted (.worker running rfl) (limited.workers worker _ running)
  · cases at_ : state.scans lockId with
    | recover point owner rest =>
      rw [at_] at source
      cases point with
      | push cursor =>
        obtain rfl := Effect.push.inj source
        exact .counted (.recovery at_ (by simp [RecoverPoint.carried]))
          (limited.recoveries lockId _ owner rest at_)
      | deadLetter call _ _ => cases call <;> simp [ScanPoint.effect, RecoverPoint.effect] at source
      | _ => simp [ScanPoint.effect, RecoverPoint.effect] at source
    | acquire =>
      simp only [at_, ScanPoint.effect] at source
      split at source <;> simp at source
    | _ => simp [at_, ScanPoint.effect] at source
  · cases at_ : state.startup with
    | rehydrate row rest =>
      rw [at_] at source
      obtain rfl := Effect.push.inj source
      exact .held (.startup (by simp [at_, StartupPoint.carried]))
    | _ => simp [at_, StartupPoint.effect] at source

/-- A pending element was there before, or it has been pushed. -/
theorem Effect.pending_arrives {effect : Effect} {store : Store}
    (member : entry ∈ (effect.apply store).pending) : entry ∈ store.pending ∨ effect = .push entry := by
  -- A pop takes the last element, and the other commands leave the list alone.
  cases effect with
  | push pushed =>
    rcases List.mem_cons.mp member with rfl | earlier
    · exact .inr rfl
    · exact .inl earlier
  | pop _ _ => exact .inl (List.dropLast_subset _ member)
  | remove _ _ | delete _ | sendLetter _ => exact .inl member
  | _ => exact .inl (by rw [(Effect.apply_lists rfl).1] at member; exact member)

/-- A row counts what it counted, or what a requeue has written, or it is new. -/
theorem Effect.count_apply {effect : Effect} {store : Store} {status : SubmissionStatus}
    {retryCount : Nat}
    (fresh : ∀ payload, effect = .submit payload → store.hasSubmission payload.jobId = false)
    (found : (effect.apply store).recordOf jobId = some (status, retryCount)) :
    (∃ earlier, store.recordOf jobId = some (earlier, retryCount)) ∨
      effect.write? = some (jobId, .retry retryCount) ∨ effect.write? = some (jobId, .submit) := by
  by_cases resets : effect = .resetRunning
  · subst resets
    rw [Effect.apply, Store.recordOf_resetRunning] at found
    obtain ⟨⟨earlier, counted⟩, was, same⟩ := Option.map_eq_some_iff.mp found
    refine .inl ⟨earlier, ?_⟩
    split at same <;> obtain ⟨_, rfl⟩ := Prod.mk.inj same <;> exact was
  · rw [Effect.recordOf_apply resets fresh] at found
    split at found
    · next written phase write =>
      split at found
      · next own =>
        subst own
        -- Claims and final statuses keep the count.
        cases phase with
        | submit => exact .inr (.inr write)
        | claim =>
          obtain ⟨⟨earlier, counted⟩, was, same⟩ := Option.map_eq_some_iff.mp found
          refine .inl ⟨earlier, ?_⟩
          split at same <;> obtain ⟨_, rfl⟩ := Prod.mk.inj same <;> exact was
        | retry following =>
          obtain ⟨_, _, same⟩ := Option.map_eq_some_iff.mp found
          obtain ⟨_, rfl⟩ := Prod.mk.inj same
          exact .inr (.inl write)
        | close final =>
          obtain ⟨⟨earlier, counted⟩, was, same⟩ := Option.map_eq_some_iff.mp found
          obtain ⟨_, rfl⟩ := Prod.mk.inj same
          exact .inl ⟨earlier, was⟩
      · exact .inl ⟨status, found⟩
    · exact .inl ⟨status, found⟩

/-- A row that a step leaves was there with its count, or with another one, or it is new. -/
theorem Platform.row_derived (limited : Limited state) (stepped : state.step label = some next)
    {row : SubmissionRow} (found : next.store.submissions.lookup jobId = some row) :
    Derived state next (.payload (payloadOfRow row)) := by
  have own : row.id = jobId := KeyedTable.key_of_lookup found
  have stored : next.store.hasSubmission jobId = true := by simp [Store.hasSubmission, found]
  have record : next.store.recordOf jobId = some (row.status, row.retryCount) := by
    simp [Store.recordOf, found]
  obtain ⟨⟨now, lock, same, _⟩, fresh⟩ := Platform.step_effect stepped
  have found' : ((state.effect label).apply state.store).submissions.lookup jobId = some row := by
    rw [same] at found
    exact found
  rw [Platform.step_recordOf_apply stepped] at record
  rcases Effect.payloadOfRow_apply fresh found' with ⟨payload, inserts, rfl⟩ | ⟨old, before, copied⟩
  · obtain ⟨key, at_⟩ := Platform.effect_submit inserts
    refine .inserted at_ (.inr ?_) rfl (by rw [← own] at stored; exact stored)
    exact payloadOfRow_submissionRow payload
  · rw [copied]
    -- The row was there, and its count is the old one or was tested against the limit.
    rcases Effect.count_apply fresh record with ⟨_, was⟩ | write | write
    · have kept : row.retryCount = old.retryCount := by
        have both := Option.some.inj (was.symm.trans (show state.store.recordOf jobId =
          some (old.status, old.retryCount) by simp [Store.recordOf, before]))
        exact (Prod.mk.inj both).2
      rw [kept]
      exact .held (.row before)
    · refine .counted (.row before) ?_
      generalize isPhase : Phase.retry row.retryCount = phase at write
      have writes := Platform.effect_writes write
      cases writes with
      | @requeue worker _ _ running =>
        rw [Phase.retry.inj isPhase]
        exact limited.workers worker _ running
      | @recoverRequeue lockId _ _ owner rest recovers =>
        rw [Phase.retry.inj isPhase]
        exact limited.recoveries lockId _ owner rest recovers
      | submit _ | markFailed _ | claim _ | commit _ | deadLetter _ | recoverDeadLetter _ =>
        simp at isPhase
    · -- A new row needs a free key.
      obtain ⟨payload, isSubmit, rfl⟩ : ∃ payload, state.effect label = .submit payload ∧
          payload.jobId = jobId := by
        cases made : state.effect label <;> simp [made, Effect.write?] at write
        exact ⟨_, rfl, write⟩
      have free := fresh payload isSubmit
      simp [Store.hasSubmission, before] at free

/-- A handler comes to its push from the INSERT of the row. -/
theorem PostPoint.resolved_enqueue {point : PostPoint} {store after : Store} {payload : QueuePayload}
    (resolved : PostPoint.Resolved store point (.enqueue payload) after) :
    point = .insert payload ∧ after.hasSubmission payload.jobId = true := by
  cases resolved with
  -- The INSERT is of a job without a row, and makes it one.
  | insert free =>
    have absent : store.submissions.lookup (submissionRow payload).id = none := by
      simpa [Store.hasSubmission, submissionRow] using free
    refine ⟨rfl, ?_⟩
    simp only [Store.hasSubmission, Store.insertSubmission, KeyedTable.lookup_insert _ _ _ absent]
    simp [submissionRow]

/-- Whatever is held after a step was held before it, or comes of what was held. -/
theorem Platform.Holds.derived (limited : Limited state) (stepped : state.step label = some next)
    (holds : next.Holds entry) : Derived state next entry := by
  obtain ⟨⟨now, lock, same, _⟩, fresh⟩ := Platform.step_effect stepped
  cases holds with
  | pending member =>
    rw [same] at member
    -- What arrives in the pending list was pushed by somebody.
    rcases Effect.pending_arrives member with earlier | pushed
    · exact .held (.pending earlier)
    · exact Platform.push_derived limited pushed
  | processing member =>
    -- What arrives in a processing list was pending.
    rcases Platform.step_arrivals stepped member with earlier | ⟨_, queued⟩
    · exact .held (.processing earlier)
    · exact .held (.pending queued)
  | @handler key payload pushes =>
    rcases Platform.step_post stepped key with ⟨kept, _⟩ | ⟨_, _, _, _, _, rfl⟩ |
      ⟨_, after, rfl, went, rfl⟩ | ⟨_, rfl⟩
    · exact .held (.handler (kept ▸ pushes))
    · simp [receivePost] at pushes
    · -- The push follows the INSERT.
      obtain ⟨point, later⟩ := after
      obtain rfl : point = .enqueue payload := by simpa using pushes
      rcases PostPoint.call_cases went with ⟨rfl, resolved⟩ | ⟨_, _, impossible⟩ | impossible
      · obtain ⟨at_, stored⟩ := PostPoint.resolved_enqueue resolved
        exact .inserted at_ (.inl rfl) (limited.inserts key payload at_) stored
      · simp at impossible
      · simp at impossible
    · simp at pushes
  | @worker worker point payload running carries =>
    -- A worker gets a payload by its pop alone, and keeps it on every other path.
    rcases Platform.step_worker stepped running with ⟨was, _⟩ |
      ⟨outcome, before, after, rfl, was, went, _⟩ | ⟨job, _, was, rfl, _⟩ |
      ⟨result, before, _, was, settled, _⟩ | ⟨_, _, rfl, _⟩
    · exact .held (.worker was carries)
    · rcases awaitCall_cases went with ⟨_, resolved⟩ | ⟨_, _, handled, moved⟩ |
        ⟨_, _, _, _, handled, moved⟩
      · rcases WorkerPoint.resolve_carried resolved carries with earlier | ⟨_, last⟩
        · exact .held (.worker was earlier)
        · exact .held (.pending (List.mem_of_getLast? last))
      · obtain ⟨rfl, _⟩ := Prod.mk.inj moved
        exact .held (.worker was (WorkerPoint.handler_carried handled carries))
      · obtain ⟨rfl, _⟩ := Prod.mk.inj moved
        exact .held (.worker was (WorkerPoint.handler_carried handled carries))
    · exact .held (.worker was carries)
    · exact .held (.worker was (WorkerPoint.sandboxSettled_carried settled carries))
    · simp [WorkerPoint.carried?] at carries
  | @recovery lockId point owner rest _ recovers member =>
    -- A recovery reads its payloads from the list, and keeps them to the end of its loop.
    rcases Platform.step_scan stepped lockId with ⟨kept, _⟩ | ⟨_, _, rfl⟩ |
      ⟨outcome, after, _, went, rfl⟩ | ⟨_, _, _, _, rfl⟩ | ⟨_, rfl⟩
    · exact .held (.recovery (kept ▸ recovers) member)
    · simp at recovers
    · obtain ⟨first, later⟩ := after
      obtain rfl : first = .recover point owner rest := by simpa using recovers
      rcases ScanPoint.call_recover went with
        ⟨was, before, _, resolved⟩ | ⟨call, letter, cursor, before, rfl⟩ | ⟨rfl, _⟩
      · rcases RecoverPoint.resolve_carried resolved member with earlier | listed
        · exact .held (.recovery before earlier)
        · exact .held (.processing listed)
      · exact .held (.recovery before member)
      · simp [RecoverPoint.carried] at member
    · obtain ⟨rfl, _⟩ := ScanPoint.recoverAll_recover (by simpa using recovers)
      simp [RecoverPoint.carried] at member
    · simp at recovers
  | row found => exact Platform.row_derived limited stepped found
  | @startup row member =>
    -- The rows are read from the table in one bulk, and pushed one by one.
    have after : ∀ rows, row ∈ (StartupPoint.rehydrateAll rows).carried → row ∈ rows := by
      intro rows
      cases rows <;> simp [StartupPoint.rehydrateAll, StartupPoint.carried]
    cases Platform.step_cases stepped with
    | startupBegin => simp [StartupPoint.carried] at member
    | @startup outcome after' went =>
      obtain ⟨point, later⟩ := after'
      have stays : row ∈ state.startup.carried := by
        rcases awaitCall_cases went with ⟨_, resolved⟩ | ⟨_, _, handled, moved⟩ |
          ⟨_, _, _, _, handled, moved⟩
        · cases at_ : state.startup with
          | rehydrate first rest =>
            rw [at_] at resolved
            obtain ⟨rfl, _⟩ := Prod.mk.inj (Option.some.inj resolved)
            exact List.mem_cons_of_mem _ (after rest (by simpa using member))
          | checkDepth =>
            rw [at_] at resolved
            obtain ⟨rfl, _⟩ := Prod.mk.inj (Option.some.inj resolved)
            simp only [Platform.withStartup_startup] at member
            split at member <;> simp [StartupPoint.carried] at member
          | resetRunning =>
            rw [at_] at resolved
            obtain ⟨rfl, _⟩ := Prod.mk.inj (Option.some.inj resolved)
            simp [StartupPoint.carried] at member
          | _ => simp [at_, StartupPoint.resolve] at resolved
        all_goals
          obtain ⟨rfl, _⟩ := Prod.mk.inj moved
          unfold StartupPoint.handler at handled
          split at handled
          all_goals first
            | (obtain rfl := Option.some.inj handled; simp [StartupPoint.carried] at member)
            | simp at handled
      exact .held (.startup stays)
    | @startupSelect rows selecting ordered =>
      have listed := ordered.1.subset (after rows (by simpa using member))
      exact .held (.row (KeyedTable.mem_select_iff.mp listed).1)
    | _ => exact .held (.startup member)
  | letter member =>
    -- A letter comes from whoever has written its row.
    rcases Platform.step_letters stepped member with earlier | ⟨sender, running⟩ |
      ⟨lockId, cursor, owner, rest, recovers⟩
    · exact .held (.letter earlier)
    · exact .held (.worker running rfl)
    · exact .held (.recovery recovers (by simp [RecoverPoint.carried]))

end CodeExecution

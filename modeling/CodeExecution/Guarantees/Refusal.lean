import CodeExecution.Proofs.Refusals
import CodeExecution.Settings

/-! Refused submissions: when a reply of 503 means that the job is never executed. -/

namespace CodeExecution

variable {state next : Platform} {label : Label} {jobId : JobId} {noticed : List Notice}

/-! ## Handlers and their payloads -/

/-- The payload a handler works with. -/
def PostPoint.payload? : PostPoint → Option QueuePayload
  | .insert payload | .enqueue payload | .depth payload | .markFailed payload
  | .insertFailure payload => some payload
  | .idle | .answered _ | .crashed => none

/-- A handler keeps its payload until it answers. -/
theorem PostPoint.call_payload {point : PostPoint} {store : Store} {outcome : CallOutcome}
    {after : PostPoint × Store} {payload : QueuePayload}
    (went : awaitCall outcome (point.resolve store) point.handler store = some after)
    (works : after.1.payload? = some payload) : point.payload? = some payload := by
  -- Each point passes its payload on to the next, whether the call resolves or rejects.
  obtain ⟨next, later⟩ := after
  rcases PostPoint.call_cases went with ⟨_, resolved⟩ | ⟨own, rfl | rfl, rfl⟩ | rfl
  · cases resolved with
    | insert | enqueue | markFailed => exact works
    | depth | insertFailure => simp [payload?] at works
  · exact works
  · exact works
  · -- An answer has no payload.
    simp [payload?] at works

/-- A handler answers once it has read the depth, or once it has given up, or with an error. -/
theorem PostPoint.call_answered {point : PostPoint} {store later : Store} {outcome : CallOutcome}
    {code : Nat}
    (went : awaitCall outcome (point.resolve store) point.handler store =
      some (.answered code, later)) :
    (code = 201 ∧ ∃ payload, point = .depth payload) ∨
    (code = 503 ∧ outcome = .resolves ∧ ∃ payload, point = .insertFailure payload) ∨
    code = 500 := by
  -- Two calls are followed by an answer; every exception that ends the handler answers 500.
  rcases PostPoint.call_cases went with ⟨rfl, resolved⟩ | ⟨_, _, impossible⟩ | answers
  · cases resolved with
    | depth => exact .inl ⟨rfl, _, rfl⟩
    | insertFailure => exact .inr (.inl ⟨rfl, rfl, _, rfl⟩)
  · simp at impossible
  · exact .inr (.inr (PostPoint.answered.inj answers))

/-- A handler reads the depth once its push has resolved. -/
theorem PostPoint.call_depth {point : PostPoint} {store later : Store} {outcome : CallOutcome}
    {payload : QueuePayload}
    (went : awaitCall outcome (point.resolve store) point.handler store =
      some (.depth payload, later)) : outcome = .resolves ∧ point = .enqueue payload := by
  -- No exception leads back to the depth read.
  rcases PostPoint.call_cases went with ⟨rfl, resolved⟩ | ⟨_, _, impossible⟩ | impossible
  · cases resolved with
    | enqueue => exact ⟨rfl, rfl⟩
  · simp at impossible
  · simp at impossible

/-- Every handler works for the job id that it drew. -/
def Keyed (state : Platform) : Prop :=
  ∀ key payload, (state.posts key).payload? = some payload → payload.jobId = key

/-- Every label keeps this. -/
theorem Keyed.step (keyed : Keyed state) (stepped : state.step label = some next) : Keyed next := by
  -- A new request draws its job id for itself, and the calls keep the payload.
  intro key payload works
  rcases Platform.step_post stepped key with ⟨same, _⟩ | ⟨_, _, _, _, _, rfl⟩ |
    ⟨outcome, after, rfl, went, rfl⟩ | ⟨_, rfl⟩
  · exact keyed key payload (same ▸ works)
  · obtain rfl : _ = payload := by simpa [receivePost, PostPoint.payload?] using works
    rfl
  · exact keyed key payload (PostPoint.call_payload went (by simpa using works))
  · simp [PostPoint.payload?] at works

/-- What a handler pushes to the pending list. -/
def enqueued (state : Platform) : Label → List (JobId × QueuePayload)
  | .gateway jobId outcome =>
    match state.effect (.gateway jobId outcome) with
    | .push (.payload payload) => [(jobId, payload)]
    | _ => []
  | _ => []

/-! ## The invariant -/

/--
What is known of a job and its handler.

A job that somebody has executed, or is about to, has a touched row, and is not refused.
-/
structure Unexecuted (jobId : JobId) (noticed : List Notice) (state : Platform) : Prop where
  stored : Stored state
  keyed : Keyed state
  touched : startsOf jobId noticed ≠ 0 ∨ Engaged state jobId ∨
    (state.store.results.lookup jobId).isSome = true →
    JobRecord.Touched (state.store.recordOf jobId)
  refused : state.store.refused jobId = true → startsOf jobId noticed = 0 ∧ ¬ Engaged state jobId
  refusing : ∀ payload, state.posts jobId = .insertFailure payload →
    state.store.refused jobId = true
  answered : state.posts jobId = .answered 503 →
    state.store.refused jobId = true ∧ (state.store.results.lookup jobId).isSome = true

/-- Before the first request there is nothing to know. -/
theorem Unexecuted.initial (jobId : JobId) : Unexecuted jobId [] Platform.initial where
  -- No job was taken up and no handler has answered.
  stored := .initial
  keyed := by simp [Keyed, Platform.initial, PostPoint.payload?]
  touched := by
    intro touched
    rcases touched with started | ⟨_, _, running, _⟩ | found
    · simp at started
    · simp [Platform.initial] at running
    · simp [Platform.initial, Store.empty] at found
  refused := by simp [Platform.initial, Store.refused, Store.statusOf, Store.empty]
  refusing := by simp [Platform.initial]
  answered := by simp [Platform.initial]

/-! ## Steps -/

/-- A job that was given up has no further phase. -/
theorem Unexecuted.refused_stays (known : Unexecuted jobId noticed state)
    (clean : refusesCleanly state label = true) (stepped : state.step label = some next)
    (refused : state.store.refused jobId = true) : next.store.refused jobId = true := by
  -- Nobody is engaged in it, and the condition excludes the writes of the others.
  obtain ⟨⟨now, lock, same, _⟩, fresh⟩ := Platform.step_effect stepped
  have after : next.store.refused jobId = ((state.effect label).apply state.store).refused jobId := by
    rw [same]
    rfl
  rw [after]
  refine Effect.refused_stays refused fresh ?_ ?_
  · intro retryCount made
    simp [refusesCleanly, made, refused] at clean
  · intro finishes
    cases made : state.effect label with
    | commitResult committed result =>
      obtain rfl : committed = jobId := by simpa [made, Effect.finishes?] using finishes
      obtain ⟨worker, _, job, _, running, isJob⟩ := Platform.effect_commitResult made
      exact (known.refused refused).2 ⟨worker, _, running, congrArg some isJob⟩
    | commitDeadLetter letter =>
      obtain rfl : letter.jobId = jobId := by simpa [made, Effect.finishes?] using finishes
      simp [refusesCleanly, made, refused] at clean
    | _ => simp [made, Effect.finishes?] at finishes

/-- Whoever takes up a job touches its row. -/
theorem Unexecuted.touched_step (known : Unexecuted jobId noticed state)
    (clean : refusesCleanly state label = true) (stepped : state.step label = some next)
    (takenUp : startsOf jobId (noticed ++ notices state label) ≠ 0 ∨ Engaged next jobId ∨
      (next.store.results.lookup jobId).isSome = true) :
    JobRecord.Touched (next.store.recordOf jobId) := by
  have unreset : state.effect label ≠ .resetRunning := by
    intro made
    simp [refusesCleanly, made] at clean
  have earlier : startsOf jobId noticed ≠ 0 ∨ Engaged state jobId ∨
      (state.store.results.lookup jobId).isSome = true →
      JobRecord.Touched (next.store.recordOf jobId) := fun before =>
    Platform.step_touched stepped unreset (known.touched before)
  rcases takenUp with started | engaged | found
  · -- A sandbox is started behind a claim.
    by_cases before : startsOf jobId noticed = 0
    · exact earlier (.inr (.inl (engaged_of_starts (by simpa [before] using started))))
    · exact earlier (.inl before)
  · rcases Platform.step_engaged stepped engaged with before | ⟨retryCount, running⟩
    · exact earlier (.inr (.inl before))
    · exact ⟨by simp [running], by simp [running]⟩
  · -- A result is written by a transaction, or after the handler's update.
    by_cases before : (state.store.results.lookup jobId).isSome = true
    · exact earlier (.inr (.inr before))
    · obtain ⟨⟨now, lock, same, _⟩, fresh⟩ := Platform.step_effect stepped
      -- The handler has marked the row before it writes the result.
      by_cases compensates : state.effect label = .insertFailure jobId
      · obtain ⟨key, _, payload, _, inserts, isJob⟩ := Platform.effect_insertFailure compensates
        obtain rfl : payload.jobId = key := known.keyed key payload (by rw [inserts]; rfl)
        have refused := known.refusing payload (isJob ▸ inserts)
        refine Platform.step_touched stepped unreset (JobRecord.touched_of_terminal ?_)
        rw [← Store.statusOf_eq, ((Store.refused_iff _ _).mp refused).1]
        rfl
      -- A transaction writes a terminal status in the same step.
      by_cases finishes : (state.effect label).finishes? = some jobId
      · refine JobRecord.touched_of_terminal ?_
        have whole : (state.effect label).splits state.store jobId = false := by
          cases made : state.effect label with
          | commitResult _ _ | commitDeadLetter _ => rfl
          | _ => simp [made, Effect.finishes?] at finishes
        have closed := Effect.closed whole fresh
        rw [finishes, (known.stored.finishes finishes).1] at closed
        rw [← Store.statusOf_eq, same]
        exact closed.trans (by simp)
      · have unchanged : next.store.results.lookup jobId = state.store.results.lookup jobId := by
          rw [same]
          exact Effect.results_other compensates finishes
        rw [unchanged] at found
        exact absurd found before

/-- A refused job is not executed, and was not. -/
theorem Unexecuted.refused_step (known : Unexecuted jobId noticed state)
    (clean : refusesCleanly state label = true) (stepped : state.step label = some next)
    (refused : next.store.refused jobId = true) :
    startsOf jobId (noticed ++ notices state label) = 0 ∧ ¬ Engaged next jobId := by
  -- It is refused already, or its handler gives it up now, and finds the row untouched.
  obtain ⟨⟨now, lock, same, _⟩, fresh⟩ := Platform.step_effect stepped
  have idle : startsOf jobId noticed = 0 ∧ ¬ Engaged state jobId := by
    have after : ((state.effect label).apply state.store).refused jobId = true := by
      rw [same] at refused
      exact refused
    rcases Effect.refused_before after fresh with before | marks | compensates
    · exact known.refused before
    · have untouched : state.store.recordOf jobId = some (.pending, 0) := by
        simpa [refusesCleanly, marks] using clean
      refine ⟨?_, fun engaged => (known.touched (.inr (.inl engaged))).2 untouched⟩
      by_contra started
      exact (known.touched (.inl started)).2 untouched
    · obtain ⟨key, _, payload, _, inserts, isJob⟩ := Platform.effect_insertFailure compensates
      obtain rfl : payload.jobId = key := known.keyed key payload (by rw [inserts]; rfl)
      exact known.refused (known.refusing payload (isJob ▸ inserts))
  -- An execution that begins now needs somebody who was engaged in the job.
  constructor
  · rw [startsOf_append, idle.1, Nat.zero_add]
    by_contra started
    exact idle.2 (engaged_of_starts started)
  · intro engaged
    rcases Platform.step_engaged stepped engaged with before | ⟨retryCount, running⟩
    · exact idle.2 before
    · have failed := ((Store.refused_iff _ _).mp refused).1
      simp [Store.statusOf_eq, running] at failed

/-- The handler's update refuses a row that nobody has touched. -/
theorem Unexecuted.marked (known : Unexecuted jobId noticed state)
    (clean : refusesCleanly state label = true) (stepped : state.step label = some next)
    (marks : state.effect label = .markFailed jobId) : next.store.refused jobId = true := by
  -- There is no result yet.
  obtain ⟨⟨now, lock, same, _⟩, _⟩ := Platform.step_effect stepped
  have untouched : state.store.recordOf jobId = some (.pending, 0) := by
    simpa [refusesCleanly, marks] using clean
  have record : next.store.recordOf jobId = (state.store.setStatus jobId .failed).recordOf jobId := by
    rw [same, marks]
    rfl
  have results : next.store.results = state.store.results := by
    rw [same, marks]
    rfl
  rw [Store.refused_iff, Store.statusOf_eq, record, results]
  refine ⟨by simp [untouched], fun row found => ?_⟩
  exact absurd untouched (known.touched (.inr (.inr (by simp [found])))).2

/-- Every clean step keeps what is known. -/
theorem Unexecuted.step (known : Unexecuted jobId noticed state)
    (clean : refusesCleanly state label = true) (stepped : state.step label = some next) :
    Unexecuted jobId (noticed ++ notices state label) next where
  stored := known.stored.step stepped
  keyed := known.keyed.step stepped
  touched := known.touched_step clean stepped
  refused := known.refused_step clean stepped
  refusing payload inserts := by
    -- The handler has just marked the row, or it has done so before.
    rcases Platform.step_post stepped jobId with ⟨same, _⟩ | ⟨_, _, _, _, _, rfl⟩ |
      ⟨outcome, after, rfl, went, rfl⟩ | ⟨_, rfl⟩
    · exact known.refused_stays clean stepped (known.refusing payload (same ▸ inserts))
    · simp [receivePost] at inserts
    · obtain ⟨point, later⟩ := after
      obtain rfl : point = .insertFailure payload := by simpa using inserts
      obtain ⟨rfl, gives⟩ := PostPoint.call_insertFailure went
      obtain rfl := known.keyed jobId payload (by rw [gives]; rfl)
      have marks : state.effect (.gateway payload.jobId .resolves) = .markFailed payload.jobId := by
        simp [Platform.effect, gives, CallOutcome.applied, PostPoint.effect]
      exact known.marked clean stepped marks
    · simp at inserts
  answered replied := by
    -- The reply follows the failure result.
    obtain ⟨⟨now, lock, written, _⟩, _⟩ := Platform.step_effect stepped
    rcases Platform.step_post stepped jobId with ⟨same, _⟩ | ⟨_, _, _, _, _, rfl⟩ |
      ⟨outcome, after, rfl, went, rfl⟩ | ⟨_, rfl⟩
    · obtain ⟨refused, found⟩ := known.answered (same ▸ replied)
      refine ⟨known.refused_stays clean stepped refused, ?_⟩
      rw [written]
      exact Effect.results_stay _ found
    · simp [receivePost] at replied
    · obtain ⟨point, later⟩ := after
      obtain rfl : point = .answered 503 := by simpa using replied
      rcases PostPoint.call_answered went with ⟨impossible, _⟩ | ⟨_, rfl, payload, inserts⟩ |
        impossible
      · simp at impossible
      · refine ⟨known.refused_stays clean stepped (known.refusing payload inserts), ?_⟩
        obtain rfl := known.keyed jobId payload (by rw [inserts]; rfl)
        have made : state.effect (.gateway payload.jobId .resolves) =
            .insertFailure payload.jobId := by
          simp [Platform.effect, inserts, CallOutcome.applied, PostPoint.effect]
        have key : payload.jobId = (enqueueFailureResult payload.jobId).jobId := rfl
        rw [written, Effect.results_apply, made]
        simp only [Effect.upsert?]
        rw [Store.results_upsertResult, if_pos key]
        rfl
      · simp at impossible
    · simp at replied

/-- What is known of a handler that gets as far as the depth read: its payload has been pushed. -/
structure Queued (jobId : JobId) (pushed : List (JobId × QueuePayload)) (state : Platform) : Prop where
  keyed : Keyed state
  read : ∀ payload, state.posts jobId = .depth payload → (jobId, payload) ∈ pushed
  answered : state.posts jobId = .answered 201 →
    ∃ payload, payload.jobId = jobId ∧ (jobId, payload) ∈ pushed

/-- Every label keeps this. -/
theorem Queued.step {pushed : List (JobId × QueuePayload)} (queued : Queued jobId pushed state)
    (stepped : state.step label = some next) :
    Queued jobId (pushed ++ enqueued state label) next where
  keyed := queued.keyed.step stepped
  read payload reads := by
    -- The push has just resolved, or it was recorded before.
    rcases Platform.step_post stepped jobId with ⟨same, _⟩ | ⟨_, _, _, _, _, rfl⟩ |
      ⟨outcome, after, rfl, went, rfl⟩ | ⟨_, rfl⟩
    · exact List.mem_append_left _ (queued.read payload (same ▸ reads))
    · simp [receivePost] at reads
    · obtain ⟨point, later⟩ := after
      obtain rfl : point = .depth payload := by simpa using reads
      obtain ⟨rfl, pushes⟩ := PostPoint.call_depth went
      exact List.mem_append_right _ (by
        simp [enqueued, Platform.effect, pushes, CallOutcome.applied, PostPoint.effect])
    · simp at reads
  answered replied := by
    -- The reply follows the depth read.
    rcases Platform.step_post stepped jobId with ⟨same, _⟩ | ⟨_, _, _, _, _, rfl⟩ |
      ⟨outcome, after, rfl, went, rfl⟩ | ⟨_, rfl⟩
    · obtain ⟨payload, isJob, member⟩ := queued.answered (same ▸ replied)
      exact ⟨payload, isJob, List.mem_append_left _ member⟩
    · simp [receivePost] at replied
    · obtain ⟨point, later⟩ := after
      obtain rfl : point = .answered 201 := by simpa using replied
      rcases PostPoint.call_answered went with ⟨_, payload, reads⟩ | ⟨impossible, _⟩ | impossible
      · exact ⟨payload, queued.keyed jobId payload (by rw [reads]; rfl),
          List.mem_append_left _ (queued.read payload reads)⟩
      · simp at impossible
      · simp at impossible
    · simp at replied

/-! ## The guarantee -/

/-- What is known of a job after a clean run. -/
theorem Unexecuted.reached {trace : List Label}
    (run : platform.Runs (fun state label => refusesCleanly state label = true) Platform.initial
      trace state) (jobId : JobId) :
    Unexecuted jobId (platform.observe notices Platform.initial trace) state := by
  -- The induction is on the run, whose notices grow by those of each step.
  refine run.preserves_trace (fun trace state =>
    Unexecuted jobId (platform.observe notices Platform.initial trace) state)
    (Unexecuted.initial jobId) ?_
  intro trace state label next earlier known clean stepped
  rw [Machine.observe_snoc earlier stepped]
  exact known.step clean stepped

/-- What is known of its handler. -/
theorem Queued.reached {allowed : Platform → Label → Prop} {trace : List Label}
    (run : platform.Runs allowed Platform.initial trace state) (jobId : JobId) :
    Queued jobId (platform.observe enqueued Platform.initial trace) state := by
  -- The same induction, with the pushes of each step.
  refine run.preserves_trace (fun trace state =>
    Queued jobId (platform.observe enqueued Platform.initial trace) state)
    ⟨by simp [Keyed, Platform.initial, PostPoint.payload?], by simp [Platform.initial],
      by simp [Platform.initial]⟩ ?_
  intro trace state label next earlier queued _ stepped
  rw [Machine.observe_snoc earlier stepped]
  exact queued.step stepped

/--
A submission refused with 503 is never executed where handlers give up untouched jobs alone.

Its status stays FAILED, with the infrastructure error as its result.
A submission accepted with 201 has been pushed to the pending list.
-/
theorem refused_never_executed {trace : List Label} {state : Platform}
    (run : platform.Runs (fun state label => refusesCleanly state label = true) Platform.initial
      trace state) (jobId : JobId) :
    (state.posts jobId = .answered 503 → ∀ later next,
      platform.Runs (fun state label => refusesCleanly state label = true) state later next →
      startsOf jobId (platform.observe notices Platform.initial (trace ++ later)) = 0 ∧
      next.store.statusOf jobId = some .failed ∧
      ∃ row, next.store.results.lookup jobId = some row ∧
        row.errorMessage = (enqueueFailureResult jobId).errorMessage ∧
        row.errorCategory = (enqueueFailureResult jobId).errorCategory) ∧
    (state.posts jobId = .answered 201 →
      ∃ payload, payload.jobId = jobId ∧
        (jobId, payload) ∈ platform.observe enqueued Platform.initial trace) := by
  constructor
  · intro replied later next continued
    -- Once the job is refused and has its result, neither is taken back.
    have known := Unexecuted.reached run jobId
    have kept : next.store.refused jobId = true ∧ (next.store.results.lookup jobId).isSome = true := by
      refine (continued.preserves_trace (fun later reached =>
        platform.Runs (fun state label => refusesCleanly state label = true) Platform.initial
          (trace ++ later) reached ∧ reached.store.refused jobId = true ∧
          (reached.store.results.lookup jobId).isSome = true) ?_ ?_).2
      · exact ⟨by simpa using run, known.answered replied⟩
      · rintro later reached label next earlier ⟨whole, refused, found⟩ clean stepped
        refine ⟨by simpa using whole.snoc clean stepped,
          (Unexecuted.reached whole jobId).refused_stays clean stepped refused, ?_⟩
        obtain ⟨⟨now, lock, same, _⟩, _⟩ := Platform.step_effect stepped
        rw [same]
        exact Effect.results_stay _ found
    obtain ⟨refused, found⟩ := kept
    obtain ⟨row, isRow⟩ := Option.isSome_iff_exists.mp found
    obtain ⟨failed, results⟩ := (Store.refused_iff _ _).mp refused
    exact ⟨((Unexecuted.reached (run.append continued) jobId).refused refused).1, failed, row,
      isRow, results row isRow⟩
  · exact (Queued.reached run jobId).answered

/-- A request whose LPUSH loses its reply, and which is answered with 503. -/
def lostPush (jobId : JobId) : List Label :=
  [.post jobId oneLiner .python none, .gateway jobId .resolves, .gateway jobId (.rejects true),
    .gateway jobId .resolves, .gateway jobId .resolves]

/-- The guarantee for a payload that was queued all the same: a worker pops it, and discards it. -/
theorem refused_never_executed_example : ∃ state next,
    platform.Runs (fun state label => refusesCleanly state label = true) Platform.initial
      (lostPush "job") state ∧ state.posts "job" = .answered 503 ∧
    platform.Runs (fun state label => refusesCleanly state label = true) state
      (.workerStart "w" :: workerCalls "w" 4) next ∧
    startsOf "job" (platform.observe notices Platform.initial
      (lostPush "job" ++ .workerStart "w" :: workerCalls "w" 4)) = 0 ∧
    next.store.statusOf "job" = some .failed := by
  -- Both runs are executed, and the guarantee holds at the end of the second.
  obtain ⟨state, run, read⟩ := Machine.runs_of_guardedRun platform
    (fun state label => refusesCleanly state label = true) Platform.initial (lostPush "job")
    (fun state => (state.posts "job",
      (platform.guardedRun (fun state label => refusesCleanly state label = true) state
        (.workerStart "w" :: workerCalls "w" 4)).isSome)) (.answered 503, true) (by decide)
  obtain ⟨replied, continues⟩ := Prod.mk.inj read
  obtain ⟨next, executed⟩ := Option.isSome_iff_exists.mp continues
  have continued := Machine.runs_iff_guardedRun.mpr executed
  obtain ⟨unstarted, failed, _⟩ := (refused_never_executed run "job").1 replied _ _ continued
  exact ⟨state, next, run, replied, continued, unstarted, failed⟩

/-- A job is executed and refused when the depth read rejects after a worker has taken the job up. -/
theorem refused_executed : ∃ state,
    platform.Runs (fun _ _ => True) Platform.initial
      ([.post "job" oneLiner .python none, .gateway "job" .resolves, .gateway "job" .resolves] ++
        takingUp "w" ++ [.gateway "job" (.rejects false), .gateway "job" .resolves,
          .gateway "job" .resolves, .sandbox "w" (some cleanExit)] ++ workerCalls "w" 5) state ∧
      state.posts "job" = .answered 503 ∧ state.store.statusOf "job" = some .completed ∧
      startsOf "job" (platform.observe notices Platform.initial
        ([.post "job" oneLiner .python none, .gateway "job" .resolves, .gateway "job" .resolves] ++
          takingUp "w" ++ [.gateway "job" (.rejects false), .gateway "job" .resolves,
            .gateway "job" .resolves, .sandbox "w" (some cleanExit)] ++ workerCalls "w" 5)) = 1 := by
  -- The run and the observation are executed side by side.
  obtain ⟨state, run, read⟩ := Machine.runs_of_guardedRun platform (fun _ _ => True)
    Platform.initial
    ([.post "job" oneLiner .python none, .gateway "job" .resolves, .gateway "job" .resolves] ++
      takingUp "w" ++ [.gateway "job" (.rejects false), .gateway "job" .resolves,
        .gateway "job" .resolves, .sandbox "w" (some cleanExit)] ++ workerCalls "w" 5)
    (fun state => (state.posts "job", state.store.statusOf "job")) (.answered 503, some .completed)
    (by decide)
  obtain ⟨replied, completed⟩ := Prod.mk.inj read
  exact ⟨state, run, replied, completed, by decide⟩

end CodeExecution

import CodeExecution.Guarantees.Refusal
import CodeExecution.Proofs.Rebuild

/-! Rebuilding the queue from the database: an emptied Redis gets back the payloads of all open rows. -/

namespace CodeExecution

variable {state next lost : Platform} {label : Label}

/-! ## Where a row's payload comes from -/

/-- A user id once it has been through the database, which leaves no field out. -/
def UserIdField.stored : UserIdField → UserIdField
  -- NULL is read back for an absent user id.
  | .absent | .null => .null
  | .value userId => .value (Utf16.toWellFormed userId)

/-- A payload as the recovery spells it: both texts from their columns, and a retry count. -/
def QueuePayload.rebuilt (payload : QueuePayload) (retryCount : Nat) : QueuePayload :=
  -- The other fields are the gateway's.
  { payload with
    userId := payload.userId.stored
    code := Utf16.toWellFormed payload.code
    retryCount }

/-- The encoder of the recovery spells the gateway's payload in the texts of its columns. -/
theorem payloadOfRow_submissionRow (payload : QueuePayload) :
    payloadOfRow (submissionRow payload) = payload.rebuilt 0 := by
  -- They differ in the texts, which the columns spell in one way.
  obtain ⟨_, userId, _, _, _, _⟩ := payload
  cases userId <;> rfl

/-- The payload that a request is received with. -/
def received (state : Platform) : Label → List QueuePayload
  | .post jobId code language userId =>
    (receivePost jobId code language userId state.store.now).payload?.toList
  | _ => []

/-- What the rows, the handlers and their pushes have in common: the payloads that were received. -/
structure Traced (arrived : List QueuePayload) (pushed : List (JobId × QueuePayload))
    (state : Platform) : Prop where
  keyed : Keyed state
  begun : ∀ payload ∈ arrived, state.posts payload.jobId ≠ .idle
  alone : ∀ first ∈ arrived, ∀ second ∈ arrived, first.jobId = second.jobId → first = second
  works : ∀ key payload, (state.posts key).payload? = some payload → payload ∈ arrived
  pushes : ∀ entry ∈ pushed, entry.2.jobId = entry.1 ∧ entry.2 ∈ arrived
  rows : ∀ jobId row, state.store.submissions.lookup jobId = some row →
    ∃ payload ∈ arrived, payloadOfRow row = payload.rebuilt row.retryCount

/-- A handler never goes back to waiting for its request. -/
theorem PostPoint.call_begun {point : PostPoint} {store : Store} {outcome : CallOutcome}
    {after : PostPoint × Store}
    (went : awaitCall outcome (point.resolve store) point.handler store = some after) :
    after.1 ≠ .idle := by
  -- Neither a resolved call nor an exception leads there.
  obtain ⟨next, later⟩ := after
  rcases PostPoint.call_cases went with ⟨_, resolved⟩ | ⟨_, _, rfl⟩ | rfl
  · cases resolved <;> simp
  · simp
  · simp

/-- Rows are inserted by handlers. -/
theorem Platform.effect_submit {payload : QueuePayload} (made : state.effect label = .submit payload) :
    ∃ key, state.posts key = .insert payload := by
  -- The other services update rows that are there.
  rcases Platform.effect_source made (by simp) with ⟨key, _, _, source⟩ |
    ⟨worker, _, point, _, _, source⟩ | ⟨lockId, _, _, source⟩ | ⟨_, _, source⟩
  · unfold PostPoint.effect at source
    split at source
    all_goals simp at source
    subst source
    exact ⟨key, ‹_›⟩
  · exact absurd source ((point.effect_reaches worker state.store).1 payload)
  · unfold ScanPoint.effect RecoverPoint.effect at source
    repeat' split at source
    all_goals simp at source
  · unfold StartupPoint.effect at source
    split at source <;> simp at source

/-- A handler pushes the payload it stands at. -/
theorem enqueue_of_enqueued {entry : JobId × QueuePayload} (pushes : entry ∈ enqueued state label) :
    state.posts entry.1 = .enqueue entry.2 := by
  -- Of a handler's calls, one pushes.
  cases label with
  | gateway jobId outcome =>
    simp only [enqueued, Platform.effect] at pushes
    split at pushes
    · next payload made =>
      obtain rfl : entry = (jobId, payload) := by simpa using pushes
      split at made
      · cases at_ : state.posts jobId <;> simp [at_, PostPoint.effect] at made
        subst made
        rfl
      · simp at made
    · simp at pushes
  | _ => simp [enqueued] at pushes

/-- A request is received under an identifier that nobody has drawn. -/
theorem post_of_received {payload : QueuePayload} (arrives : payload ∈ received state label)
    (stepped : state.step label = some next) :
    state.posts payload.jobId = .idle ∧ next.posts payload.jobId = .insert payload := by
  -- Its handler is the one that has been idle.
  cases Platform.step_cases stepped with
  | post idle =>
    simp only [received, receivePost, PostPoint.payload?, Option.toList_some,
      List.mem_singleton] at arrives
    subst arrives
    exact ⟨idle, by simp [receivePost]⟩
  | _ => simp [received] at arrives

/-- Every label keeps what the payloads that were received say. -/
theorem Traced.step {arrived : List QueuePayload} {pushed : List (JobId × QueuePayload)}
    (traced : Traced arrived pushed state) (stepped : state.step label = some next) :
    Traced (arrived ++ received state label) (pushed ++ enqueued state label) next where
  keyed := traced.keyed.step stepped
  begun := by
    intro payload member
    rcases List.mem_append.mp member with before | now
    · -- A handler that has begun goes on, or dies.
      have begun := traced.begun payload before
      rcases Platform.step_post stepped payload.jobId with ⟨same, _⟩ | ⟨_, _, _, _, idle, _⟩ |
        ⟨_, after, _, went, rfl⟩ | ⟨_, rfl⟩
      · rw [same]; exact begun
      · exact absurd idle begun
      · simpa using PostPoint.call_begun went
      · simp
    · rw [(post_of_received now stepped).2]
      simp
  alone := by
    -- A request that arrives draws an identifier that nobody has.
    have fresh : ∀ payload ∈ received state label, ∀ other ∈ arrived,
        other.jobId ≠ payload.jobId := by
      intro payload now other before same
      exact traced.begun other before (by rw [same]; exact (post_of_received now stepped).1)
    intro first member second member' same
    rcases List.mem_append.mp member with before | now <;>
      rcases List.mem_append.mp member' with before' | now'
    · exact traced.alone first before second before' same
    · exact absurd same (fresh second now' first before)
    · exact absurd same.symm (fresh first now second before')
    · cases label with
      | post jobId code language userId =>
        simp only [received, receivePost, PostPoint.payload?, Option.toList_some,
          List.mem_singleton] at now now'
        rw [now, now']
      | _ => simp [received] at now
  works := by
    intro key payload works
    rcases Platform.step_post stepped key with ⟨same, _⟩ | ⟨_, _, _, rfl, _, rfl⟩ |
      ⟨_, after, _, went, rfl⟩ | ⟨_, rfl⟩
    · exact List.mem_append_left _ (traced.works key payload (same ▸ works))
    · refine List.mem_append_right _ ?_
      simpa [received] using works
    · exact List.mem_append_left _
        (traced.works key payload (PostPoint.call_payload went (by simpa using works)))
    · simp [PostPoint.payload?] at works
  pushes := by
    intro entry member
    rcases List.mem_append.mp member with before | now
    · obtain ⟨own, arrives⟩ := traced.pushes entry before
      exact ⟨own, List.mem_append_left _ arrives⟩
    · have works : (state.posts entry.1).payload? = some entry.2 := by
        rw [enqueue_of_enqueued now]
        rfl
      exact ⟨traced.keyed _ _ works, List.mem_append_left _ (traced.works _ _ works)⟩
  rows := by
    intro jobId row found
    obtain ⟨⟨now, lock, same, _⟩, fresh⟩ := Platform.step_effect stepped
    rw [same] at found
    rcases Effect.payloadOfRow_apply fresh found with ⟨payload, inserts, rfl⟩ | ⟨old, stored, kept⟩
    · obtain ⟨key, at_⟩ := Platform.effect_submit inserts
      exact ⟨payload, List.mem_append_left _ (traced.works key payload (by rw [at_]; rfl)),
        payloadOfRow_submissionRow payload⟩
    · obtain ⟨payload, member, spelled⟩ := traced.rows jobId old stored
      exact ⟨payload, List.mem_append_left _ member, by rw [kept, spelled]; rfl⟩

/-- What is known after any run. -/
theorem Traced.reached {allowed : Platform → Label → Prop} {trace : List Label}
    (run : platform.Runs allowed .initial trace state) :
    Traced (platform.observe received .initial trace) (platform.observe enqueued .initial trace)
      state := by
  refine run.preserves_trace (fun trace state => Traced (platform.observe received .initial trace)
    (platform.observe enqueued .initial trace) state) ?_ ?_
  · -- Nothing has been received, and there is no row.
    exact ⟨by simp [Keyed, Platform.initial, PostPoint.payload?], by simp [Machine.observe],
      by simp [Machine.observe], by simp [Platform.initial, PostPoint.payload?],
      by simp [Machine.observe], by simp [Platform.initial, Store.empty]⟩
  · intro trace state label next earlier traced _ stepped
    rw [Machine.observe_snoc earlier stepped, Machine.observe_snoc earlier stepped]
    exact traced.step stepped

/-! ## The recovery -/

/-- The store once Redis has lost every key, and Postgres nothing. -/
def Store.withoutRedis (store : Store) : Store :=
  { Store.empty with now := store.now, submissions := store.submissions, results := store.results }

/-- The elements that so many BRPOPLPUSH take, one after another. -/
def Store.pops (worker : WorkerId) : Nat → Store → List Entry
  | 0, _ => []
  | count + 1, store =>
    match store.pending.getLast? with
    | none => []
    | some entry => entry :: Store.pops worker count (store.moveToProcessing worker entry)

/-- The list is popped from its right end. -/
theorem Store.pops_eq (worker : WorkerId) (count : Nat) (store : Store) :
    store.pops worker count = store.pending.reverse.take count := by
  induction count generalizing store with
  | zero => simp [pops]
  | succ count ih =>
    rw [pops, List.getLast?_eq_head?_reverse]
    cases reversed : store.pending.reverse with
    | nil => simp
    | cons entry rest =>
      -- What is left of the list ends with the next element.
      have left : (store.moveToProcessing worker entry).pending.reverse = rest := by
        rw [Store.moveToProcessing, ← List.tail_reverse, reversed, List.tail_cons]
      simp [ih, left]

/-- A user id that is no longer left out. -/
def UserIdField.explicit : UserIdField → UserIdField
  | .absent | .null => .null
  | .value userId => .value userId

/-- The payload that a row stands for: the gateway's, with an explicit user id and the row's count. -/
def QueuePayload.restored (payload : QueuePayload) (retryCount : Nat) : QueuePayload :=
  { payload with userId := payload.userId.explicit, retryCount }

/-- Every surrogate of its two texts belongs to a pair. -/
def QueuePayload.wellFormed (payload : QueuePayload) : Bool :=
  Utf16.isWellFormed payload.code && payload.userId.toColumn.all Utf16.isWellFormed

/-- A payload comes back from the database as it was exactly if its texts are well formed. -/
theorem QueuePayload.rebuilt_eq_iff {payload : QueuePayload} {retryCount : Nat} :
    payload.rebuilt retryCount = payload.restored retryCount ↔ payload.wellFormed = true := by
  -- A text is stored as it is exactly if it has no lone surrogate.
  obtain ⟨_, userId, _, _, _, _⟩ := payload
  cases userId <;> simp [rebuilt, restored, wellFormed, UserIdField.stored, UserIdField.explicit,
    UserIdField.toColumn, Utf16.toWellFormed_eq_iff, and_comm]

/--
What a rebuilt store should have in common with the one that lost its Redis.

The payloads that arrived at the gateway are given, and those that it pushed.
-/
structure Store.RebuiltFrom (arrived : List QueuePayload) (pushed : List (JobId × QueuePayload))
    (lost store : Store) : Prop where
  /-- One payload for each row that was open, popped in the order of creation. -/
  queue : ∃ payloads : List QueuePayload,
    payloads.Perm ((lost.submissions.select SubmissionRow.isOpen).map payloadOfRow) ∧
    (payloads.Pairwise fun earlier later => earlier.submittedAt ≤ later.submittedAt) ∧
    ∀ worker, store.pops worker store.pending.length = payloads.map .payload
  /-- An open row's payload is the one the gateway pushed, but for an absent user id and the count. -/
  payloads : ∀ jobId row, lost.submissions.lookup jobId = some row → row.isOpen = true →
    ∃ payload ∈ arrived, payloadOfRow row = payload.restored row.retryCount ∧
      ∀ other, (jobId, other) ∈ pushed → other = payload
  waiting : ∀ jobId row, lost.submissions.lookup jobId = some row → row.isOpen = true →
    store.statusOf jobId = some .pending
  ended : ∀ jobId row, lost.submissions.lookup jobId = some row → row.isOpen = false →
    store.submissions.lookup jobId = some row
  results : store.results = lost.results

/-- Postgres finds an order to return the PENDING rows in. -/
theorem Store.pendingRows_exists (store : Store) : ∃ rows, store.pendingRows rows := by
  -- One such order sorts them by creation.
  generalize waiting : (store.submissions.select fun row => row.status = .pending) = rows
  have sorted : (rows.mergeSort fun earlier later => earlier.createdAt ≤ later.createdAt).Pairwise
      fun earlier later => decide (earlier.createdAt ≤ later.createdAt) = true :=
    List.pairwise_mergeSort (fun _ _ _ => by simpa using Nat.le_trans)
      (fun _ _ => by simpa using Nat.le_total _ _) rows
  refine ⟨rows.mergeSort fun earlier later => earlier.createdAt ≤ later.createdAt, ?_, ?_⟩
  · rw [waiting]
    exact List.mergeSort_perm _ _
  · simpa using sorted

/-- The loop over the rows that were read gets to its end. -/
theorem rehydration_finishes (rows : List SubmissionRow) (loops : state.startup = .rehydrateAll rows) :
    ∃ trace rebuilt, platform.Runs (fun _ label => startupAlone label = true) state trace rebuilt ∧
      rebuilt.startup = .finished := by
  -- Each push leaves one row less.
  induction rows generalizing state with
  | nil => exact ⟨[], state, .nil, loops⟩
  | cons row rest ih =>
    have pushes : platform.step state (.startup .resolves) = some (state.withStartup
        (.rehydrateAll rest, state.store.pushPending (.payload (payloadOfRow row)))) := by
      simp [platform, Platform.step, loops, StartupPoint.rehydrateAll, awaitCall,
        StartupPoint.resolve]
    obtain ⟨trace, rebuilt, run, returned⟩ := @ih (state.withStartup
      (.rehydrateAll rest, state.store.pushPending (.payload (payloadOfRow row)))) rfl
    exact ⟨_, rebuilt, .cons rfl pushes run, returned⟩

/-- Over an empty pending list the recovery gets to its end. -/
theorem recovery_finishes (restarted : state.startup = .resetRunning)
    (empty : state.store.pending = []) :
    ∃ trace rebuilt, platform.Runs (fun _ label => startupAlone label = true) state trace rebuilt ∧
      rebuilt.startup = .finished := by
  -- The bulk update and the length are followed by the rows in some order.
  obtain ⟨rows, read⟩ := Store.pendingRows_exists state.store.resetRunning
  have resets : platform.step state (.startup .resolves) =
      some (state.withStartup (.checkDepth, state.store.resetRunning)) := by
    simp [platform, Platform.step, restarted, awaitCall, StartupPoint.resolve]
  have measures : platform.step (state.withStartup (.checkDepth, state.store.resetRunning))
      (.startup .resolves) =
        some (state.withStartup (.selectPending, state.store.resetRunning)) := by
    have still : state.store.resetRunning.pending = [] := empty
    simp [platform, Platform.step, awaitCall, StartupPoint.resolve, still, Platform.withStartup]
  have reads : platform.step (state.withStartup (.selectPending, state.store.resetRunning))
      (.startupSelect rows) =
        some (state.withStartup (.rehydrateAll rows, state.store.resetRunning)) := by
    simp [platform, Platform.step, read, Platform.withStartup]
  obtain ⟨trace, rebuilt, run, returned⟩ := rehydration_finishes rows
    (rfl : (state.withStartup (.rehydrateAll rows, state.store.resetRunning)).startup = _)
  exact ⟨_, rebuilt, .cons rfl resets (.cons rfl measures (.cons rfl reads run)), returned⟩

/-- A row has the columns of the one request that arrived for it. -/
theorem Traced.payload_unique {arrived : List QueuePayload} {pushed : List (JobId × QueuePayload)}
    (traced : Traced arrived pushed lost) {row : SubmissionRow} {payload : QueuePayload}
    (found : lost.store.submissions.lookup payload.jobId = some row) (member : payload ∈ arrived) :
    payloadOfRow row = payload.rebuilt row.retryCount := by
  obtain ⟨other, member', spelled⟩ := traced.rows payload.jobId row found
  have own : other.jobId = row.id := (congrArg QueuePayload.jobId spelled).symm
  obtain rfl := traced.alone other member' payload member (own.trans (KeyedTable.key_of_lookup found))
  exact spelled

/-- Once the recovery has returned, the queue is rebuilt exactly if the open requests are well formed. -/
theorem Rebuilding.rebuilt_iff {arrived : List QueuePayload} {pushed : List (JobId × QueuePayload)}
    {store : Store} (phase : Rebuilding lost.store store .finished)
    (traced : Traced arrived pushed lost) : lost.store.RebuiltFrom arrived pushed store ↔
      ∀ payload ∈ arrived, ∀ row, lost.store.submissions.lookup payload.jobId = some row →
        row.isOpen = true → payload.wellFormed = true := by
  constructor
  · intro rebuilt payload member row found isOpen
    obtain ⟨other, member', restored, _⟩ := rebuilt.payloads payload.jobId row found isOpen
    have own : other.jobId = row.id := (congrArg QueuePayload.jobId restored).symm
    obtain rfl := traced.alone other member' payload member (own.trans (KeyedTable.key_of_lookup found))
    exact QueuePayload.rebuilt_eq_iff.mp ((traced.payload_unique found member).symm.trans restored)
  intro formed
  generalize at_ : StartupPoint.finished = point at phase
  cases phase with
  | resetting | failed => simp at at_
  | reading reset results empty reads =>
    subst at_
    simp at reads
  | rehydrating rows left reset results read pending =>
    -- Nothing is left of the rows that were read.
    obtain rfl : left = [] := by
      cases left with
      | nil => rfl
      | cons _ _ => simp [StartupPoint.rehydrateAll] at at_
    rw [List.append_nil] at read
    refine ⟨⟨rows.map payloadOfRow, ?_, ?_, fun worker => ?_⟩, fun jobId row found isOpen => ?_,
      fun jobId row found => (reset.lookup found).1, fun jobId row found => (reset.lookup found).2,
      results⟩
    · rw [← reset.payloads]
      exact read.1.map payloadOfRow
    · exact List.pairwise_map.mpr read.2
    · rw [Store.pops_eq, ← List.length_reverse, List.take_length, pending]
      simp
    · obtain ⟨payload, member, spelled⟩ := traced.rows jobId row found
      -- The row, the payload and the push have one identifier.
      have own : payload.jobId = row.id := (congrArg QueuePayload.jobId spelled).symm
      have key : payload.jobId = jobId := own.trans (KeyedTable.key_of_lookup found)
      have wellFormed := formed payload member row (key ▸ found) isOpen
      refine ⟨payload, member, spelled.trans (QueuePayload.rebuilt_eq_iff.mpr wellFormed),
        fun other pushes => ?_⟩
      obtain ⟨pusher, member'⟩ := traced.pushes _ pushes
      exact traced.alone other member' payload member (pusher.trans key.symm)

/-- The phases of a recovery that has returned. -/
theorem Rebuilding.reached {begun rebuilt : Platform} {trace : List Label}
    (restarts : platform.step { lost with store := lost.store.withoutRedis } .startupBegin =
      some begun)
    (run : platform.Runs (fun _ label => startupAlone label = true) begun trace rebuilt)
    (returned : rebuilt.startup = .finished) :
    Rebuilding lost.store rebuilt.store .finished := by
  obtain rfl := Option.some.inj restarts
  -- The restart begins in the first phase, and each call keeps or ends the phase it is in.
  have phase := run.preserves (fun reached => Rebuilding lost.store reached.store reached.startup)
    (.resetting rfl rfl rfl) fun _ _ _ phase permitted stepped => phase.step permitted stepped
  rwa [returned] at phase

/--
After any run, the recovery over an emptied Redis gets to its end.

Wherever it has, the queue is rebuilt from the tables exactly if no text of an open request has a lone
surrogate, which the queue keeps and the database replaces.
-/
theorem queue_rebuilt {before : List Label} {begun : Platform}
    (earlier : platform.Runs (fun _ _ => True) .initial before lost)
    (restarts : platform.step { lost with store := lost.store.withoutRedis } .startupBegin =
      some begun) :
    (∃ trace rebuilt, platform.Runs (fun _ label => startupAlone label = true) begun trace rebuilt ∧
      rebuilt.startup = .finished) ∧
    ∀ trace rebuilt, platform.Runs (fun _ label => startupAlone label = true) begun trace rebuilt →
      rebuilt.startup = .finished →
      (lost.store.RebuiltFrom (platform.observe received .initial before)
        (platform.observe enqueued .initial before) rebuilt.store ↔
      ∀ payload ∈ platform.observe received .initial before, ∀ row,
        lost.store.submissions.lookup payload.jobId = some row → row.isOpen = true →
          payload.wellFormed = true) := by
  -- One invariant follows the recovery, and another one what Redis had before it.
  constructor
  · obtain rfl := Option.some.inj restarts
    exact recovery_finishes rfl rfl
  · intro trace rebuilt run returned
    exact (Rebuilding.reached restarts run returned).rebuilt_iff (Traced.reached earlier)

/-- The guarantee for a job in execution and a later one in the queue, which are popped in this order. -/
theorem queue_rebuilt_example : ∃ lost begun rebuilt,
    platform.Runs (fun _ _ => True) .initial
      (submission "job" ++ takingUp "w1" ++ .clock 5 :: submission "next") lost ∧
    platform.step { lost with store := lost.store.withoutRedis } .startupBegin = some begun ∧
    platform.Runs (fun _ label => startupAlone label = true) begun
      [.startup .resolves, .startup .resolves, .startupSelect
        [{ submissionRow (submittedPayload "job") with updatedAt := 5 },
          submissionRow { submittedPayload "next" with submittedAt := 5 }],
        .startup .resolves, .startup .resolves] rebuilt ∧
    rebuilt.store.pops "w2" 2 = [.payload { submittedPayload "job" with userId := .null },
      .payload { submittedPayload "next" with userId := .null, submittedAt := 5 }] ∧
    lost.store.RebuiltFrom
      (platform.observe received .initial
        (submission "job" ++ takingUp "w1" ++ .clock 5 :: submission "next"))
      (platform.observe enqueued .initial
        (submission "job" ++ takingUp "w1" ++ .clock 5 :: submission "next")) rebuilt.store := by
  -- One job is executing and one is queued when Redis loses its data; both runs are executed.
  have executed : ((platform.guardedRun (fun _ _ => True) .initial
      (submission "job" ++ takingUp "w1" ++ .clock 5 :: submission "next")).bind fun lost =>
        (platform.step { lost with store := lost.store.withoutRedis } .startupBegin).bind fun begun =>
          (platform.guardedRun (fun _ label => startupAlone label = true) begun
            [.startup .resolves, .startup .resolves, .startupSelect
              [{ submissionRow (submittedPayload "job") with updatedAt := 5 },
                submissionRow { submittedPayload "next" with submittedAt := 5 }],
              .startup .resolves, .startup .resolves]).map fun rebuilt =>
                (rebuilt.startup, rebuilt.store.pops "w2" 2)) =
      some (.finished, [.payload { submittedPayload "job" with userId := .null },
        .payload { submittedPayload "next" with userId := .null, submittedAt := 5 }]) := by decide
  have formed : (platform.observe received .initial
      (submission "job" ++ takingUp "w1" ++ .clock 5 :: submission "next")).all
        QueuePayload.wellFormed = true := by decide
  obtain ⟨lost, earlier, executed⟩ := Option.bind_eq_some_iff.mp executed
  obtain ⟨begun, restarts, executed⟩ := Option.bind_eq_some_iff.mp executed
  obtain ⟨rebuilt, recovers, shown⟩ := Option.map_eq_some_iff.mp executed
  obtain ⟨returned, popped⟩ := Prod.mk.inj shown
  have before := Machine.runs_iff_guardedRun.mpr earlier
  have run := Machine.runs_iff_guardedRun.mpr recovers
  exact ⟨lost, begun, rebuilt, before, restarts, run, popped,
    ((queue_rebuilt before restarts).2 _ rebuilt run returned).mpr fun payload member _ _ _ =>
      List.all_eq_true.mp formed payload member⟩

/-- A request whose code is one lone surrogate. -/
def loneSurrogate : List Label :=
  .post "job" [0xD800] .python none :: List.replicate 3 (.gateway "job" .resolves)

/-- Its payload is rebuilt with another code than the one that the gateway pushed. -/
theorem queue_rebuilt_otherwise : ∃ lost begun rebuilt,
    platform.Runs (fun _ _ => True) .initial loneSurrogate lost ∧
    lost.store.pending = [.payload { submittedPayload "job" with code := [0xD800] }] ∧
    platform.step { lost with store := lost.store.withoutRedis } .startupBegin = some begun ∧
    platform.Runs (fun _ label => startupAlone label = true) begun
      [.startup .resolves, .startup .resolves,
        .startupSelect [submissionRow { submittedPayload "job" with code := [0xD800] }],
        .startup .resolves] rebuilt ∧
    rebuilt.startup = .finished ∧
    rebuilt.store.pending =
      [.payload { submittedPayload "job" with code := [0xFFFD], userId := .null }] ∧
    ¬ lost.store.RebuiltFrom (platform.observe received .initial loneSurrogate)
      (platform.observe enqueued .initial loneSurrogate) rebuilt.store := by
  -- The runs are executed, and the row of the request is open.
  have executed : ((platform.guardedRun (fun _ _ => True) .initial loneSurrogate).bind fun lost =>
      (platform.step { lost with store := lost.store.withoutRedis } .startupBegin).bind fun begun =>
        (platform.guardedRun (fun _ label => startupAlone label = true) begun
          [.startup .resolves, .startup .resolves,
            .startupSelect [submissionRow { submittedPayload "job" with code := [0xD800] }],
            .startup .resolves]).map fun rebuilt =>
              (lost.store.pending, (lost.store.submissions.lookup "job").map SubmissionRow.isOpen,
                rebuilt.startup, rebuilt.store.pending)) =
      some ([.payload { submittedPayload "job" with code := [0xD800] }], some true, .finished,
        [.payload { submittedPayload "job" with code := [0xFFFD], userId := .null }]) := by decide
  obtain ⟨lost, earlier, executed⟩ := Option.bind_eq_some_iff.mp executed
  obtain ⟨begun, restarts, executed⟩ := Option.bind_eq_some_iff.mp executed
  obtain ⟨rebuilt, recovers, shown⟩ := Option.map_eq_some_iff.mp executed
  simp only [Prod.mk.injEq] at shown
  obtain ⟨queued, isOpen, returned, pushed⟩ := shown
  obtain ⟨row, found, isOpen⟩ := Option.map_eq_some_iff.mp isOpen
  have before := Machine.runs_iff_guardedRun.mpr earlier
  have run := Machine.runs_iff_guardedRun.mpr recovers
  refine ⟨lost, begun, rebuilt, before, queued, restarts, run, returned, pushed, fun rebuiltFrom => ?_⟩
  have formed := ((Rebuilding.reached restarts run returned).rebuilt_iff (Traced.reached before)).mp
    rebuiltFrom { submittedPayload "job" with code := [0xD800] } (by decide) row found isOpen
  exact absurd formed (by decide)

end CodeExecution

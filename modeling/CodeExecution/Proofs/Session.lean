import CodeExecution.Guarantees.Detail
import CodeExecution.Guarantees.Rebuild
import CodeExecution.Guarantees.RunIsolation
import CodeExecution.Web.Session

/-! What the browser knows of its jobs, and that what it was told of them stays true. -/

namespace CodeExecution

/-! ## Jobs that the hook knows -/

namespace SubmissionHook

variable {hook next : SubmissionHook} {jobId other : JobId} {label : HookLabel}

/-- A change of a set-up adds none and removes none. -/
theorem withRun_known {change : JobRun → JobRun} :
    (hook.withRun jobId change).runs other ≠ none ↔ hook.runs other ≠ none := by
  rw [withRun_runs]
  split
  · next same => subst same; simp
  · rfl

/-- Clearing the timeout adds no set-up and removes none. -/
theorem clearedRuns_known : hook.clearedRuns other ≠ none ↔ hook.runs other ≠ none := by
  unfold clearedRuns
  cases hook.fallbackTimerRef with
  | none => rfl
  | some timed => exact withRun_known

/-- Set-ups with the sockets of before are those of the jobs of before. -/
theorem known_of_sockets {runs : JobId → Option JobRun}
    (sockets : (runs other).map JobRun.socket = hook.socketOf other) :
    runs other ≠ none ↔ hook.runs other ≠ none := by
  rw [socketOf] at sockets
  cases first : runs other <;> cases second : hook.runs other <;> simp_all

/-- A job becomes known by the reply to a POST, and stays known. -/
theorem Moves.known (moved : hook.Moves label next) : next.runs other ≠ none ↔
    hook.runs other ≠ none ∨ ∃ index, label = .submitted index other := by
  -- Only the reply to a POST sets a job up; the other events change the set-ups that are there.
  cases moved with
  | run request =>
    simp only [SubmissionHook.run, tearDown]
    split
    · simp only [clearTimers_eq, closeStream]
      rw [clearedRuns_known, withRun_known]
      simp
    · simp only [clearTimers_eq]
      rw [clearedRuns_known]
      simp
  | @submitted index jobId =>
    by_cases own : other = jobId
    · subst own
      simp [SubmissionHook.submitted]
    · simp [SubmissionHook.submitted, own, Ne.symm own]
  | opened =>
    rw [withRun_known]
    simp
  | @message jobId run frame =>
    cases frame with
    | chunk chunk =>
      obtain ⟨runs, same, sockets, _⟩ := hook.onMessage_chunk jobId chunk
      rw [same]
      simpa using known_of_sockets (sockets other)
    | malformed text =>
      rw [onMessage, withRun_known]
      simp
  -- These only clear timers.
  | closed | failed =>
    simp only [onClose, finalize, clearTimers_eq]
    rw [clearedRuns_known, withRun_known]
    simp
  | @timeout jobId run =>
    obtain ⟨runs, interval, same, sockets, _⟩ := hook.timeoutFired_spec jobId run
    rw [same]
    simpa using known_of_sockets (sockets other)
  | @replied index fetch detail =>
    cases caller : fetch.caller with
    | finalize => simp [fetched]
    | poll =>
      simp only [fetched]
      split
      · rw [clearTimers_eq, clearedRuns_known]
        simp
      · simp
  | @lost index fetch =>
    cases caller : fetch.caller with
    | finalize | poll => simp [fetchFailed]
  | submitFailed | interval | progress | read => simp [SubmissionHook.submitFailed, poll]

/-- The interval polls a job whose set-up is there. -/
theorem Moves.polled (moved : hook.Moves label next) (polled : next.pollIntervalRef = some other) :
    hook.pollIntervalRef = some other ∨ hook.runs other ≠ none := by
  cases moved with
  | run request =>
    obtain ⟨runs, same, _⟩ := hook.run_spec request
    simp [same] at polled
  | @message jobId run frame =>
    cases frame with
    | chunk chunk =>
      obtain ⟨runs, same, _⟩ := hook.onMessage_chunk jobId chunk
      rw [same] at polled
      exact .inl polled
    | malformed text => exact .inl polled
  | closed | failed =>
    obtain ⟨runs, same, _⟩ := hook.onClose_spec _
    rw [same] at polled
    simp at polled
  | @timeout jobId run found =>
    -- The callback starts the interval for its own job.
    unfold timeoutFired at polled
    dsimp only at polled
    split at polled
    · exact .inl polled
    · rw [startFallbackPoll_eq] at polled
      cases held : hook.pollIntervalRef with
      | some _ => exact .inl (by simpa [withRun, held] using polled)
      | none =>
        obtain rfl : jobId = other := by simpa [withRun, held] using polled
        exact .inr (by simp [found])
  | @replied index fetch detail =>
    refine .inl ?_
    cases caller : fetch.caller with
    | finalize => simpa [fetched, caller] using polled
    | poll =>
      simp only [fetched, caller] at polled
      split at polled
      · simp [clearTimers_eq] at polled
      · exact polled
  | @lost index fetch =>
    cases caller : fetch.caller with
    | finalize | poll => exact .inl (by simpa [fetchFailed, caller] using polled)
  | submitted | submitFailed | opened | interval | progress | read => exact .inl polled

/-- A GET asks for a job that is known or polled, and is answered as the server has read it. -/
theorem Moves.fetching (moved : hook.Moves label next) {fetch : Fetch} (member : fetch ∈ next.fetches) :
    fetch ∈ hook.fetches ∨
    (fetch.reply = none ∧ (hook.runs fetch.jobId ≠ none ∨ hook.pollIntervalRef = some fetch.jobId)) ∨
    ∃ index old detail, label = .read index detail ∧ hook.fetches[index]? = some old ∧
      fetch = { old with reply := some detail } := by
  -- A GET is made by the close of a socket, or by the interval.
  cases moved with
  | run request =>
    obtain ⟨runs, same, _⟩ := hook.run_spec request
    exact .inl (by simpa [same] using member)
  | @message jobId run frame =>
    cases frame with
    | chunk chunk =>
      obtain ⟨runs, same, _⟩ := hook.onMessage_chunk jobId chunk
      rw [same] at member
      exact .inl member
    | malformed text => exact .inl member
  | closed found | failed found =>
    obtain ⟨runs, same, _⟩ := hook.onClose_spec _
    rw [same] at member
    rcases List.mem_append.mp member with old | new
    · exact .inl old
    · rw [List.mem_singleton.mp new]
      exact .inr (.inl ⟨rfl, .inl (by simp [found])⟩)
  | @timeout jobId run =>
    obtain ⟨runs, interval, same, _⟩ := hook.timeoutFired_spec jobId run
    rw [same] at member
    exact .inl member
  | interval running =>
    rcases List.mem_append.mp member with old | new
    · exact .inl old
    · rw [List.mem_singleton.mp new]
      exact .inr (.inl ⟨rfl, .inr running⟩)
  | @read index old detail waiting =>
    rcases List.mem_or_eq_of_mem_set member with kept | isNew
    · exact .inl kept
    · exact .inr (.inr ⟨index, old, detail, rfl, waiting, isNew⟩)
  | @replied index fetch detail =>
    obtain ⟨runs, timer, interval, same⟩ :=
      fetched_eq { hook with fetches := hook.fetches.eraseIdx index } detail fetch.caller
    rw [same] at member
    exact .inl (List.mem_of_mem_eraseIdx member)
  | @lost index fetch =>
    have kept : ({ hook with fetches := hook.fetches.eraseIdx index }.fetchFailed fetch.caller).fetches =
        hook.fetches.eraseIdx index := by cases fetch.caller <;> rfl
    rw [kept] at member
    exact .inl (List.mem_of_mem_eraseIdx member)
  | submitted | submitFailed | opened | progress => exact .inl member

end SubmissionHook

/-! ## Rows of jobs -/

section Rows

variable {state next : Platform} {jobId : JobId} {label : BroadcastLabel}

/-- A row that a step leaves has the program of before, or that of a request whose row is inserted. -/
theorem Platform.step_program {label : Label} (stepped : state.step label = some next)
    {row : SubmissionRow} (found : next.store.submissions.lookup jobId = some row) :
    (∃ old, state.store.submissions.lookup jobId = some old ∧ row.sourceCode = old.sourceCode ∧
      row.language = old.language) ∨
    ∃ key payload, state.posts key = .insert payload ∧ row = submissionRow payload := by
  -- A write to a row that is there copies its program.
  obtain ⟨⟨_, _, same, _⟩, fresh⟩ := Platform.step_effect stepped
  rw [same] at found
  rcases Effect.payloadOfRow_apply fresh found with ⟨payload, inserts, isRow⟩ | ⟨old, before, copied⟩
  · obtain ⟨key, at_⟩ := Platform.effect_submit inserts
    exact .inr ⟨key, payload, at_, isRow⟩
  · have code : (payloadOfRow row).code = (payloadOfRow old).code := by rw [copied]; rfl
    have language : (payloadOfRow row).language = (payloadOfRow old).language := by rw [copied]; rfl
    exact .inl ⟨old, before, code, language⟩

/-- Once the handler has returned, a reply keeps its program, and a final reply stays as it is. -/
theorem Orderly.reply_stays {detail : SubmissionDetail} (orderly : Orderly state)
    (permitted : cleanBroadcast state label) (stepped : broadcast.step state label = some next)
    (done : (state.posts jobId).isOver = true) (read : getSubmission state.store jobId = .ok detail) :
    ∃ later, getSubmission next.store jobId = .ok later ∧ later.sourceCode = detail.sourceCode ∧
      later.language = detail.language ∧ (detail.status.isTerminal = true → later = detail) := by
  obtain ⟨row, found, rfl⟩ := getSubmission_ok read
  rcases Platform.broadcastStep_cases stepped with ⟨own, rfl, moved⟩ | streamed
  · have stored : next.store.hasSubmission jobId = true :=
      Platform.step_hasSubmission moved (by simp [Store.hasSubmission, found])
    obtain ⟨after, found'⟩ := Option.isSome_iff_exists.mp stored
    refine ⟨_, by rw [getSubmission, found'], ?_⟩
    -- The row is there, so it is not inserted.
    obtain ⟨code, language⟩ : after.sourceCode = row.sourceCode ∧ after.language = row.language := by
      rcases Platform.step_program moved found' with ⟨old, before, same⟩ | ⟨key, payload, inserts, same⟩
      · obtain rfl := Option.some.inj (found.symm.trans before)
        exact same
      · have absent := orderly.insert_fresh inserts
        have own : payload.jobId = jobId := by
          rw [← KeyedTable.key_of_lookup found', same]
          rfl
        simp [own, Store.recordOf, found] at absent
    refine ⟨code, language, fun terminal => ?_⟩
    obtain ⟨kept, result⟩ := orderly.reads_stay permitted.1 moved done found terminal
    obtain rfl := Option.some.inj (found'.symm.trans kept)
    rw [result]
  · obtain ⟨_, _, _, rfl⟩ := streamed.store_eq
    exact ⟨_, read, rfl, rfl, fun _ => rfl⟩

/-- The program of a job is that of this request, in its handler and, as stored, in its row. -/
structure AskedFor (state : Platform) (jobId : JobId) (request : SubmitRequest) : Prop where
  begun : state.posts jobId ≠ .idle
  carried : ∀ payload, state.posts jobId = .insert payload →
    payload.code = request.code ∧ payload.language = request.language
  stored : ∀ row, state.store.submissions.lookup jobId = some row →
    row.sourceCode = Utf16.toWellFormed request.code ∧ row.language = request.language

/-- The program of a job stays the one of its request. -/
theorem AskedFor.step {request : SubmitRequest} (asked : AskedFor state jobId request)
    (orderly : Orderly state) (stepped : broadcast.step state label = some next) :
    AskedFor next jobId request := by
  rcases Platform.broadcastStep_cases stepped with ⟨own, rfl, moved⟩ | streamed
  swap
  · obtain ⟨_, _, _, rfl⟩ := streamed.store_eq
    exact ⟨asked.begun, asked.carried, asked.stored⟩
  have posts : next.posts jobId ≠ .idle ∧
      ∀ payload, next.posts jobId = .insert payload → state.posts jobId = .insert payload := by
    rcases Platform.step_post moved jobId with ⟨same, _⟩ | ⟨_, _, _, _, idle, _⟩ |
      ⟨_, after, _, went, rfl⟩ | ⟨_, rfl⟩
    · rw [same]
      exact ⟨asked.begun, fun _ inserts => inserts⟩
    · exact absurd idle asked.begun
    · obtain ⟨point, later⟩ := after
      have started : point ≠ .idle := by
        generalize state.posts jobId = before at went
        rcases PostPoint.call_cases went with ⟨_, resolved⟩ | ⟨_, _, rfl⟩ | rfl
        · cases resolved <;> simp
        · simp
        · simp
      refine ⟨by simpa using started, fun payload inserts => ?_⟩
      exact absurd (by simpa using inserts) (PostPoint.call_ne_insert went)
    · exact ⟨by simp, by simp⟩
  refine ⟨posts.1, fun payload inserts => asked.carried payload (posts.2 payload inserts), ?_⟩
  intro row found
  rcases Platform.step_program moved found with ⟨old, before, code, language⟩ | ⟨key, payload, inserts, rfl⟩
  · rw [code, language]
    exact asked.stored old before
  · -- The row that is inserted is that of the handler of this job.
    have facts := orderly.posts key
    rw [inserts] at facts
    obtain ⟨own, _⟩ := facts
    have isKey : (submissionRow payload).id = jobId := KeyedTable.key_of_lookup found
    obtain rfl : jobId = key := isKey.symm.trans own
    obtain ⟨code, language⟩ := asked.carried payload inserts
    exact ⟨congrArg Utf16.toWellFormed code, language⟩

/-- A handler that has just been called works for its own request. -/
theorem AskedFor.of_post {request : SubmitRequest} (orderly : Orderly state)
    (stepped : state.step (.post jobId request.code request.language none) = some next) :
    AskedFor next jobId request := by
  cases Platform.step_cases stepped with
  | post idle =>
    -- The row of a job is inserted by its own handler only, which has not begun.
    have unstored : state.store.recordOf jobId = none := by
      have facts := orderly.posts jobId
      rw [idle] at facts
      exact facts
    refine ⟨by simp [receivePost], fun payload inserts => ?_, fun row found => ?_⟩
    · obtain rfl : _ = payload := by simpa [receivePost] using inserts
      exact ⟨rfl, rfl⟩
    · have found : state.store.submissions.lookup jobId = some row := found
      simp [Store.recordOf, found] at unstored

end Rows

/-! ## Sessions -/

section Sessions

variable {state next : Session} {label : SessionLabel} {trace : List SessionLabel}

/-- Nothing is wrong with the monitor, and no failure is unclean; the browser may do anything. -/
def cleanSession (state : Session) : SessionLabel → Prop
  | .server label => cleanBroadcast state.server label
  | .arrives _ _ | .browser _ => True

instance (state : Session) (label : SessionLabel) : Decidable (cleanSession state label) := by
  cases label <;> unfold cleanSession <;> infer_instance

/-- A reply that the browser has, or is about to have, is still true. -/
structure Answered (state : Session) (detail : SubmissionDetail) : Prop where
  known : state.hook.runs detail.jobId ≠ none
  current : ∃ now, getSubmission state.server.store detail.jobId = .ok now ∧
    now.sourceCode = detail.sourceCode ∧ now.language = detail.language ∧
    (detail.status.isTerminal = true → now = detail)

/-- What the browser knows of its jobs, and what it has been told of them. -/
structure Briefed (trace : List SessionLabel) (state : Session) : Prop where
  orderly : Orderly state.server
  posts : ∀ request ∈ state.hook.posts, .browser (.run request) ∈ trace
  asked : ∀ jobId request, state.asked jobId = some request →
    .browser (.run request) ∈ trace ∧ AskedFor state.server jobId request
  /-- The hook knows the jobs whose POSTs have been answered. -/
  known : ∀ jobId, state.hook.runs jobId ≠ none →
    (state.server.posts jobId).isOver = true ∧ state.asked jobId ≠ none
  polled : ∀ jobId, state.hook.pollIntervalRef = some jobId → state.hook.runs jobId ≠ none
  fetches : ∀ fetch ∈ state.hook.fetches, state.hook.runs fetch.jobId ≠ none ∧
    ∀ detail, fetch.reply = some detail → Answered state detail
  result : ∀ detail, state.hook.result = some detail → Answered state detail
  /-- Two statuses are shown only where a reply has them. -/
  status : ∀ status, state.hook.status = .job status → status = .completed ∨ status = .timeout →
    ∃ detail, detail.status = status ∧ Answered state detail

/-- More labels forget no request. -/
theorem Briefed.extend (told : Briefed trace state) (more : List SessionLabel) :
    Briefed (trace ++ more) state where
  -- The trace is read for POSTs and runs only, and these stay in it.
  orderly := told.orderly
  posts request member := List.mem_append_left _ (told.posts request member)
  asked jobId request isAsked :=
    ⟨List.mem_append_left _ (told.asked jobId request isAsked).1, (told.asked jobId request isAsked).2⟩
  known := told.known
  polled := told.polled
  fetches := told.fetches
  result := told.result
  status := told.status

/-- What the browser was told stays true while the services go on. -/
theorem Briefed.serve (told : Briefed trace state) {label : BroadcastLabel} {server : Platform}
    (permitted : cleanBroadcast state.server label)
    (stepped : broadcast.step state.server label = some server) :
    Briefed trace (state.withServer server) := by
  -- A final reply does not change, and the others keep their program.
  have still {detail : SubmissionDetail} (answered : Answered state detail) :
      Answered (state.withServer server) detail := by
    obtain ⟨known, now, read, code, language, final⟩ := answered
    obtain ⟨later, read', code', language', final'⟩ :=
      told.orderly.reply_stays permitted stepped (told.known _ known).1 read
    refine ⟨known, later, read', code'.trans code, language'.trans language, fun terminal => ?_⟩
    rw [final' (by rw [final terminal]; exact terminal), final terminal]
  exact {
    orderly := told.orderly.broadcastStep permitted stepped
    posts := told.posts
    asked := fun jobId request isAsked => by
      obtain ⟨ran, asked⟩ := told.asked jobId request isAsked
      exact ⟨ran, asked.step told.orderly stepped⟩
    known := fun jobId isKnown => by
      obtain ⟨done, isAsked⟩ := told.known jobId isKnown
      refine ⟨?_, isAsked⟩
      show (server.posts jobId).isOver = true
      rcases Platform.broadcastStep_cases stepped with ⟨own, rfl, moved⟩ | streamed
      · exact Platform.step_over moved done
      · obtain ⟨_, _, _, rfl⟩ := streamed.store_eq
        exact done
    polled := told.polled
    fetches := fun fetch member => by
      obtain ⟨known, replied⟩ := told.fetches fetch member
      exact ⟨known, fun detail served => still (replied detail served)⟩
    result := fun detail shown => still (told.result detail shown)
    status := fun status shown final => by
      obtain ⟨detail, same, answered⟩ := told.status status shown final
      exact ⟨detail, same, still answered⟩ }

/-- A request that arrives is remembered with its job. -/
theorem Briefed.arrive (told : Briefed trace state) {request : SubmitRequest} {jobId : JobId}
    {server : Platform} (posted : request ∈ state.hook.posts)
    (stepped : broadcast.step state.server
      (.platform (.post jobId request.code request.language none)) = some server) :
    Briefed trace { state.withServer server with
      asked := Function.update state.asked jobId (some request) } := by
  have clean : cleanBroadcast state.server
      (.platform (.post jobId request.code request.language none)) := ⟨rfl, rfl⟩
  -- To the services it is a step like any other.
  have served := told.serve clean stepped
  exact { served with
    asked := fun other asker isAsked => by
      dsimp only at isAsked
      by_cases own : other = jobId
      · subst own
        obtain rfl : request = asker := by simpa using isAsked
        exact ⟨told.posts request posted, AskedFor.of_post told.orderly stepped⟩
      · rw [Function.update_of_ne own] at isAsked
        exact served.asked other asker isAsked
    known := fun other isKnown => by
      obtain ⟨done, isAsked⟩ := served.known other isKnown
      refine ⟨done, ?_⟩
      dsimp only
      by_cases own : other = jobId
      · simp [own]
      · rw [Function.update_of_ne own]
        exact isAsked
    fetches := fun fetch member => by
      obtain ⟨known, replied⟩ := served.fetches fetch member
      exact ⟨known, fun detail served => ⟨(replied detail served).known, (replied detail served).current⟩⟩
    result := fun detail shown => ⟨(served.result detail shown).known, (served.result detail shown).current⟩
    status := fun status shown final => by
      obtain ⟨detail, same, answered⟩ := served.status status shown final
      exact ⟨detail, same, answered.known, answered.current⟩ }

section Browse

variable {label : HookLabel} {hook : SubmissionHook} {detail : SubmissionDetail}

/-- A reply stays true while the hook goes on, whose jobs stay known. -/
theorem Answered.browse (answered : Answered state detail)
    (stepped : useSubmission.step state.hook label = some hook) : Answered { state with hook } detail :=
  ⟨(SubmissionHook.step_moves stepped).known.mpr (.inl answered.known), answered.current⟩

/-- A job that is known by the end of a step has had the reply to its POST. -/
theorem Briefed.known_browse (told : Briefed trace state) (allowed : state.answered label = true)
    (stepped : useSubmission.step state.hook label = some hook) {jobId : JobId}
    (isKnown : hook.runs jobId ≠ none) :
    (state.server.posts jobId).isOver = true ∧ state.asked jobId ≠ none := by
  rcases (SubmissionHook.step_moves stepped).known.mp isKnown with before | ⟨index, rfl⟩
  · exact told.known jobId before
  · -- The gateway replies once its handler has returned.
    obtain ⟨answered, isAsked, _⟩ : state.server.posts jobId = .answered 201 ∧
        state.asked jobId ≠ none ∧ state.asked jobId = state.hook.posts[index]? := by
      simpa [Session.answered] using allowed
    exact ⟨by rw [answered]; rfl, isAsked⟩

/-- A POST that waits for its reply is one that the user has caused. -/
theorem Briefed.posts_browse (told : Briefed trace state)
    (ran : ∀ request, label = .run request → .browser (.run request) ∈ trace) {request : SubmitRequest}
    (member : request ∈ state.hook.postsAfter label) : .browser (.run request) ∈ trace := by
  -- A run adds its own request, and a reply takes one away.
  cases label with
  | run own =>
    rcases List.mem_append.mp member with before | isOwn
    · exact told.posts request before
    · exact ran request (by rw [List.mem_singleton.mp isOwn])
  | submitted index jobId | submitFailed index message =>
    exact told.posts request (List.mem_of_mem_eraseIdx member)
  | _ => exact told.posts request member

/-- What the gateway reads for a GET is true when it is read. -/
theorem Briefed.read_answered (told : Briefed trace state) {index : Nat} {fetch : Fetch}
    (waiting : state.hook.fetches[index]? = some fetch)
    (allowed : state.answered (.read index detail) = true) : Answered state detail := by
  have same : (getSubmission state.server.store fetch.jobId).toOption = some detail := by
    simpa [Session.answered, waiting] using allowed
  have read : getSubmission state.server.store fetch.jobId = .ok detail := by
    cases reply : getSubmission state.server.store fetch.jobId <;> simp_all [Except.toOption]
  -- The reply is about the job that was asked for, which is known.
  obtain ⟨row, found, isDetail⟩ := getSubmission_ok read
  have key : row.id = fetch.jobId := KeyedTable.key_of_lookup found
  have own : detail.jobId = fetch.jobId := by
    rw [isDetail]
    exact key
  have known := (told.fetches fetch (List.mem_of_getElem? waiting)).1
  exact ⟨own ▸ known, detail, own ▸ read, rfl, rfl, fun _ => rfl⟩

/-- A GET is for a known job, and brings what was read for it. -/
theorem Briefed.fetches_browse (told : Briefed trace state) (allowed : state.answered label = true)
    (stepped : useSubmission.step state.hook label = some hook) {fetch : Fetch}
    (member : fetch ∈ hook.fetches) : hook.runs fetch.jobId ≠ none ∧
      ∀ detail, fetch.reply = some detail → Answered { state with hook } detail := by
  have moved := SubmissionHook.step_moves stepped
  have keeps {jobId : JobId} (was : state.hook.runs jobId ≠ none) : hook.runs jobId ≠ none :=
    moved.known.mpr (.inl was)
  -- A fetch was there before, is new and unread, or has its reply now.
  rcases moved.fetching member with before | ⟨unread, known | polls⟩ |
    ⟨index, old, detail, rfl, waiting, rfl⟩
  · obtain ⟨known, replied⟩ := told.fetches fetch before
    exact ⟨keeps known, fun detail served => (replied detail served).browse stepped⟩
  · exact ⟨keeps known, by simp [unread]⟩
  · exact ⟨keeps (told.polled _ polls), by simp [unread]⟩
  · refine ⟨keeps (told.fetches old (List.mem_of_getElem? waiting)).1, fun served isServed => ?_⟩
    obtain rfl := Option.some.inj isServed
    exact (told.read_answered waiting allowed).browse stepped

/-- The reply of a GET is shown as it was read. -/
theorem Briefed.fetched (told : Briefed trace state) {outcome : FetchOutcome}
    (ended : state.hook.fetchOutcome? label = some outcome) (replied : outcome.reply = some detail) :
    Answered state detail := by
  -- A GET that is lost brings no reply.
  cases label with
  | replied index =>
    simp only [SubmissionHook.fetchOutcome?, Option.bind_eq_some_iff, Option.map_eq_some_iff] at ended
    obtain ⟨fetch, waiting, own, served, rfl⟩ := ended
    obtain rfl := Option.some.inj replied
    exact (told.fetches fetch (List.mem_of_getElem? waiting)).2 own served
  | lost index =>
    simp only [SubmissionHook.fetchOutcome?, Option.map_eq_some_iff] at ended
    obtain ⟨_, _, rfl⟩ := ended
    simp at replied
  | _ => simp [SubmissionHook.fetchOutcome?] at ended

/-- The result that is shown comes of a reply, or was shown before. -/
theorem Briefed.result_browse (told : Briefed trace state)
    (isResult : state.hook.resultAfter label = some detail) : Answered state detail := by
  -- A new run clears the result, and a GET that settles may replace it.
  unfold SubmissionHook.resultAfter at isResult
  split at isResult
  · simp at isResult
  · rcases Option.or_eq_some_iff.mp isResult with new | ⟨_, before⟩
    · obtain ⟨outcome, ended, shows⟩ := Option.bind_eq_some_iff.mp new
      exact told.fetched ended (Isolation.reply_of_result shows)
    · exact told.result detail before

/-- A final status that is shown comes of a reply, or was shown before. -/
theorem Briefed.status_browse (told : Briefed trace state) {status : SubmissionStatus}
    (isShown : state.hook.statusAfter label = .job status)
    (final : status = .completed ∨ status = .timeout) :
    ∃ detail, detail.status = status ∧ Answered state detail := by
  unfold SubmissionHook.statusAfter at isShown
  split at isShown
  · simp at isShown
  · obtain rfl := UiStatus.job.inj isShown
    simp at final
  · simp at isShown
  · -- A frame makes a job RUNNING at most.
    simp only [UiStatus.afterFrame, UiStatus.started] at isShown
    split at isShown
    · exact told.status status isShown final
    · split at isShown
      · obtain rfl := UiStatus.job.inj isShown
        simp at final
      · exact told.status status isShown final
  · cases shows : (state.hook.fetchOutcome? label).bind FetchOutcome.shows with
    | none => exact told.status status (by simpa [shows] using isShown) final
    | some newest =>
      obtain rfl : newest = status := by simpa [shows] using isShown
      obtain ⟨outcome, ended, isNewest⟩ := Option.bind_eq_some_iff.mp shows
      -- A failed GET shows FAILED at most.
      unfold FetchOutcome.shows at isNewest
      split at isNewest
      · next _ _ detail replied => exact ⟨detail, Option.some.inj isNewest, told.fetched ended replied⟩
      · obtain rfl := Option.some.inj isNewest
        simp at final
      · simp at isNewest

/-- What the hook shows comes of a reply that it was waiting for, or was shown before. -/
theorem Briefed.browse (told : Briefed trace state)
    (ran : ∀ request, label = .run request → .browser (.run request) ∈ trace)
    (allowed : state.answered label = true) (stepped : useSubmission.step state.hook label = some hook) :
    Briefed trace { state with hook } := by
  have moved := SubmissionHook.step_moves stepped
  -- The services stand still, so each field follows from what the hook has moved.
  have shown := moved.shown
  exact {
    orderly := told.orderly
    posts := fun request member => told.posts_browse ran (shown.posts ▸ member)
    asked := told.asked
    known := fun jobId isKnown => told.known_browse allowed stepped isKnown
    polled := fun jobId polls => by
      rcases moved.polled polls with before | known
      · exact moved.known.mpr (.inl (told.polled jobId before))
      · exact moved.known.mpr (.inl known)
    fetches := fun fetch member => told.fetches_browse allowed stepped member
    result := fun detail isResult => (told.result_browse (shown.result ▸ isResult)).browse stepped
    status := fun status isShown final => by
      obtain ⟨detail, has, answered⟩ := told.status_browse (shown.status ▸ isShown) final
      exact ⟨detail, has, answered.browse stepped⟩ }

end Browse

/-- Every session of the clean setting tells the truth. -/
theorem Briefed.reached (run : session.Runs cleanSession .initial trace state) : Briefed trace state := by
  refine run.preserves_trace Briefed ?_ ?_
  · exact {
      orderly := .initial
      posts := by simp [Session.initial, SubmissionHook.initial]
      asked := by simp [Session.initial]
      known := fun _ known => absurd rfl known
      polled := by simp [Session.initial, SubmissionHook.initial]
      fetches := by simp [Session.initial, SubmissionHook.initial]
      result := by simp [Session.initial, SubmissionHook.initial]
      status := by simp [Session.initial, SubmissionHook.initial] }
  -- The labels of a step are on record before the step is followed.
  intro trace state label next _ told permitted stepped
  cases label with
  | server label =>
    obtain ⟨server, moved, rfl⟩ := Option.map_eq_some_iff.mp stepped
    exact (told.extend _).serve permitted moved
  | arrives request jobId =>
    simp only [session, Session.step] at stepped
    split at stepped
    · next posted =>
      obtain ⟨server, moved, rfl⟩ := Option.map_eq_some_iff.mp stepped
      exact (told.extend _).arrive posted moved
    · simp at stepped
  | browser label =>
    simp only [session, Session.step] at stepped
    split at stepped
    · next allowed =>
      obtain ⟨hook, moved, rfl⟩ := Option.map_eq_some_iff.mp stepped
      exact (told.extend _).browse (fun request same => by simp [same]) allowed moved
    · simp at stepped

end Sessions

end CodeExecution

import CodeExecution.Web.Submission

/-! What each handler of the `useSubmission` hook changes, and what one step can do. -/

namespace CodeExecution

/-! ## Frames -/

/-- The line that a frame adds to the output. -/
def Frame.lines : Frame → List OutputLine
  | .chunk ⟨.stdout, data, _⟩ => [⟨.stdout, data⟩]
  | .chunk ⟨.stderr, data, _⟩ => [⟨.stderr, data⟩]
  | .chunk ⟨.system, _, _⟩ | .malformed _ => []

/-- The status once a line of output has come. -/
def UiStatus.started (status : UiStatus) : UiStatus :=
  if status = .job .pending then .job .running else status

/-- The status once a frame has come. -/
def UiStatus.afterFrame (status : UiStatus) (frame : Frame) : UiStatus :=
  if frame.lines = [] then status else status.started

/-! ## Outcomes -/

/-- What a GET has come back with, for whom, and about which job. -/
structure FetchOutcome where
  jobId : JobId
  caller : FetchCaller
  /-- Nothing, where the GET was rejected. -/
  reply : Option SubmissionDetail
  deriving DecidableEq, Repr

/-- The status that an outcome puts on display; a failed poll puts none. -/
def FetchOutcome.shows (outcome : FetchOutcome) : Option SubmissionStatus :=
  match outcome.reply, outcome.caller with
  | some detail, _ => some detail.status
  | none, .finalize => some .failed
  | none, .poll => none

/-- The result that an outcome puts on display. -/
def FetchOutcome.result? (outcome : FetchOutcome) : Option SubmissionDetail :=
  match outcome.reply, outcome.caller with
  | some detail, .finalize => some detail
  | some detail, .poll => if detail.status.isTerminal then some detail else none
  | none, _ => none

namespace SubmissionHook

variable {hook next : SubmissionHook} {jobId other : JobId} {label : HookLabel}

/-! ## Set-ups -/

/-- `readyState` of the socket of a job, where it has one. -/
def socketOf (hook : SubmissionHook) (jobId : JobId) : Option ReadyState :=
  (hook.runs jobId).map JobRun.socket

/-- The timeout of a job is pending. -/
def timeoutPending (hook : SubmissionHook) (jobId : JobId) : Bool :=
  (hook.runs jobId).any JobRun.timeoutPending

/-- The set-ups behind a change of one of them. -/
theorem withRun_runs (change : JobRun → JobRun) :
    (hook.withRun jobId change).runs other =
      if other = jobId then (hook.runs jobId).map change else hook.runs other := by
  simp only [withRun, Function.update_apply]

/-- A change adds no set-up. -/
theorem withRun_none {change : JobRun → JobRun} (absent : hook.runs other = none) :
    (hook.withRun jobId change).runs other = none := by
  rw [withRun_runs]
  split
  · next same => rw [← same, absent, Option.map_none]
  · exact absent

/-- A change that spares the socket leaves all of them as they are. -/
theorem withRun_socketOf {change : JobRun → JobRun} (spares : ∀ run, (change run).socket = run.socket) :
    (hook.withRun jobId change).socketOf other = hook.socketOf other := by
  -- Only the changed set-up is a case of its own.
  rw [socketOf, withRun_runs]
  split
  · next same =>
    subst same
    cases found : hook.runs other with
    | none => simp [socketOf, found]
    | some run => simp [socketOf, found, spares]
  · rfl

/-- A change that spares the timeout leaves all of them as they are. -/
theorem withRun_timeoutPending {change : JobRun → JobRun}
    (spares : ∀ run, (change run).timeoutPending = run.timeoutPending) :
    (hook.withRun jobId change).timeoutPending other = hook.timeoutPending other := by
  -- Only the changed set-up is a case of its own.
  rw [timeoutPending, withRun_runs]
  split
  · next same =>
    subst same
    cases found : hook.runs other with
    | none => simp [timeoutPending, found]
    | some run => simp [timeoutPending, found, spares]
  · rfl

/-- A set-up whose timeout is cleared has none pending. -/
theorem withRun_cleared {change : JobRun → JobRun} (clears : ∀ run, (change run).timeoutPending = false) :
    (hook.withRun jobId change).timeoutPending other =
      (hook.timeoutPending other && !decide (other = jobId)) := by
  rw [timeoutPending, withRun_runs]
  -- The set-up of another job is left alone.
  split
  · next same =>
    subst same
    cases found : hook.runs other with
    | none => simp
    | some run => simp [clears]
  · next differs => simp [timeoutPending, differs]

/-! ## Timers -/

/-- The set-ups once the timeout in the ref is cleared. -/
def clearedRuns (hook : SubmissionHook) : JobId → Option JobRun :=
  match hook.fallbackTimerRef with
  | some jobId => (hook.withRun jobId fun run => { run with timeoutPending := false }).runs
  | none => hook.runs

/-- Clearing the timeout adds no set-up. -/
theorem clearedRuns_none (absent : hook.runs other = none) : hook.clearedRuns other = none := by
  unfold clearedRuns
  cases hook.fallbackTimerRef with
  | none => exact absent
  | some timed => exact withRun_none absent

/-- Clearing the timeout touches nothing else but its ref. -/
theorem clearFallbackTimer_eq (hook : SubmissionHook) :
    hook.clearFallbackTimer = { hook with runs := hook.clearedRuns, fallbackTimerRef := none } := by
  unfold clearFallbackTimer clearedRuns
  cases held : hook.fallbackTimerRef with
  | none =>
    -- With an empty ref both sides are the hook as it is.
    dsimp only
    rw [← held]
  | some jobId => rfl

/-- `clearTimers` touches nothing else but the two refs. -/
theorem clearTimers_eq (hook : SubmissionHook) :
    hook.clearTimers =
      { hook with runs := hook.clearedRuns, fallbackTimerRef := none, pollIntervalRef := none } := by
  rw [clearTimers, clearFallbackTimer_eq]

/-- No socket is touched by the timers. -/
theorem clearedRuns_socket (hook : SubmissionHook) (jobId : JobId) :
    (hook.clearedRuns jobId).map JobRun.socket = hook.socketOf jobId := by
  unfold clearedRuns
  cases held : hook.fallbackTimerRef with
  | none => rfl
  | some timed => exact withRun_socketOf fun _ => rfl

/-- The timeout in the ref is the one that is cleared. -/
theorem clearedRuns_timeoutPending (hook : SubmissionHook) (jobId : JobId) :
    (hook.clearedRuns jobId).any JobRun.timeoutPending =
      (hook.timeoutPending jobId && !decide (hook.fallbackTimerRef = some jobId)) := by
  -- An empty ref clears nothing.
  unfold clearedRuns
  cases held : hook.fallbackTimerRef with
  | none => simp [timeoutPending]
  | some timed =>
    simp only [Option.some.injEq, eq_comm (a := timed)]
    exact withRun_cleared fun _ => rfl

/-- An interval that runs already is kept. -/
theorem startFallbackPoll_eq (hook : SubmissionHook) (jobId : JobId) :
    hook.startFallbackPoll jobId =
      { hook with pollIntervalRef := some (hook.pollIntervalRef.getD jobId) } := by
  unfold startFallbackPoll
  -- The guard is on the ref.
  cases running : hook.pollIntervalRef with
  | none => rfl
  | some polled =>
    simp only [Option.getD_some]
    rw [← running]

/-- The interval that an error starts is cleared by the close behind it. -/
theorem onClose_onError (run : JobRun) :
    (hook.onError jobId run).onClose jobId = hook.onClose jobId := by
  -- The error changes the interval at most, and closing forgets it.
  have forgets (interval : Option JobId) :
      ({ hook with pollIntervalRef := interval } : SubmissionHook).onClose jobId =
        hook.onClose jobId := by
    simp only [onClose, finalize, clearTimers_eq]
    rfl
  unfold onError onUnavailable
  split
  · rfl
  · split
    · rfl
    · rw [startFallbackPoll_eq, forgets]

/-! ## Handlers -/

/-- The timeouts that are pending once the one in the ref is cleared. -/
def timeoutsCleared (hook : SubmissionHook) (jobId : JobId) : Bool :=
  hook.timeoutPending jobId && !decide (hook.fallbackTimerRef = some jobId)

/-- The two variables that a chunk sets. -/
def heard (hook : SubmissionHook) (jobId : JobId) : SubmissionHook :=
  (hook.withRun jobId fun run => { run with receivedAnyMessage := true }).withRun jobId
    fun run => { run with sawFirstMessage := true }

/-- No socket depends on what was heard. -/
theorem heard_socketOf : (hook.heard jobId).socketOf other = hook.socketOf other := by
  rw [heard, withRun_socketOf, withRun_socketOf]
  · exact fun _ => rfl
  · exact fun _ => rfl

/-- No timeout depends on what was heard. -/
theorem heard_timeoutPending : (hook.heard jobId).timeoutPending other = hook.timeoutPending other := by
  rw [heard, withRun_timeoutPending, withRun_timeoutPending]
  · exact fun _ => rfl
  · exact fun _ => rfl

/-- A chunk is shown, and clears the timeout in the ref, whosever it is. -/
theorem onMessage_chunk (hook : SubmissionHook) (jobId : JobId) (chunk : StreamChunk) :
    ∃ runs, hook.onMessage jobId (.chunk chunk) =
        { hook with
          runs
          fallbackTimerRef := none
          output := hook.output ++ (Frame.chunk chunk).lines
          status := hook.status.afterFrame (.chunk chunk) } ∧
      (∀ other, (runs other).map JobRun.socket = hook.socketOf other) ∧
      ∀ other, (runs other).any JobRun.timeoutPending = hook.timeoutsCleared other := by
  refine ⟨(hook.heard jobId).clearedRuns, ?_, fun other => ?_, fun other => ?_⟩
  · have cleared : (hook.heard jobId).clearFallbackTimer =
        { hook with runs := (hook.heard jobId).clearedRuns, fallbackTimerRef := none } :=
      clearFallbackTimer_eq _
    obtain ⟨type, data, timestamp⟩ := chunk
    -- Only the output chunks are shown, and both kinds in the same way.
    simp only [onMessage, onChunk]
    rw [← heard, cleared]
    cases type with
    | stdout => simp [Frame.lines, UiStatus.afterFrame, UiStatus.started]
    | stderr => simp [Frame.lines, UiStatus.afterFrame, UiStatus.started]
    | system => simp [Frame.lines, UiStatus.afterFrame]
  · rw [clearedRuns_socket, heard_socketOf]
  · rw [clearedRuns_timeoutPending, heard_timeoutPending]
    rfl

/-- A malformed frame is only remembered. -/
theorem onMessage_malformed (hook : SubmissionHook) (jobId : JobId) (text : String) :
    ∃ runs, hook.onMessage jobId (.malformed text) = { hook with runs } ∧
      (∀ other, (runs other).map JobRun.socket = hook.socketOf other) ∧
      ∀ other, (runs other).any JobRun.timeoutPending = hook.timeoutPending other :=
  ⟨_, rfl, fun _ => withRun_socketOf fun _ => rfl, fun _ => withRun_timeoutPending fun _ => rfl⟩

/-- The close of a socket clears both timers, whosever they are, and fetches the result. -/
theorem onClose_spec (hook : SubmissionHook) (jobId : JobId) :
    ∃ runs, hook.onClose jobId =
        { hook with
          runs
          fallbackTimerRef := none
          pollIntervalRef := none
          fetches := hook.fetches ++ [⟨jobId, .finalize, none⟩] } ∧
      ∀ other, (runs other).any JobRun.timeoutPending = hook.timeoutsCleared other := by
  -- The socket is closed first, which spares the timeouts.
  refine ⟨(hook.withRun jobId fun run => { run with socket := .closed }).clearedRuns, ?_, fun other => ?_⟩
  · simp only [onClose, finalize, clearTimers_eq]
    rfl
  · have spared : (hook.withRun jobId fun run => { run with socket := .closed }).timeoutPending other =
      hook.timeoutPending other := withRun_timeoutPending fun _ => rfl
    rw [clearedRuns_timeoutPending, spared]
    rfl

/-- A timeout that fires starts an interval at most. -/
theorem timeoutFired_spec (hook : SubmissionHook) (jobId : JobId) (run : JobRun) :
    ∃ runs interval, hook.timeoutFired jobId run = { hook with runs, pollIntervalRef := interval } ∧
      (∀ other, (runs other).map JobRun.socket = hook.socketOf other) ∧
      (∀ other, (runs other).any JobRun.timeoutPending =
        (hook.timeoutPending other && !decide (other = jobId))) ∧
      ∀ polled, hook.pollIntervalRef = some polled → interval = some polled := by
  -- Whether a message was seen decides about the interval only.
  unfold timeoutFired
  dsimp only
  split
  · exact ⟨_, _, rfl, fun _ => withRun_socketOf fun _ => rfl, fun _ => withRun_cleared fun _ => rfl,
      fun _ running => running⟩
  · rw [startFallbackPoll_eq]
    refine ⟨_, _, rfl, fun _ => withRun_socketOf fun _ => rfl, fun _ => withRun_cleared fun _ => rfl,
      fun polled running => ?_⟩
    have kept : (hook.withRun jobId fun run => { run with timeoutPending := false }).pollIntervalRef =
      some polled := running
    rw [kept, Option.getD_some]

/-- A call of `run` forgets the timers and what was shown. -/
theorem run_spec (hook : SubmissionHook) (request : SubmitRequest) :
    ∃ runs, hook.run request =
        { hook with
          runs
          fallbackTimerRef := none
          pollIntervalRef := none
          status := .submitting
          output := []
          result := none
          submitError := none
          posts := hook.posts ++ [request] } ∧
      ∀ other, hook.runs other = none → runs other = none := by
  -- The old socket is closed first, which touches the set-ups only.
  obtain ⟨runs, torn, absent⟩ : ∃ runs, hook.tearDown =
      { hook with runs, fallbackTimerRef := none, pollIntervalRef := none } ∧
      ∀ other, hook.runs other = none → runs other = none := by
    unfold tearDown
    split
    · exact ⟨_, clearTimers_eq _, fun _ none_ => clearedRuns_none (withRun_none none_)⟩
    · exact ⟨_, clearTimers_eq _, fun _ none_ => clearedRuns_none none_⟩
  exact ⟨runs, by rw [run, torn], absent⟩

/-! ## Steps -/

/-- What one step can do, label by label. -/
inductive Moves (hook : SubmissionHook) : HookLabel → SubmissionHook → Prop
  | run (request : SubmitRequest) : Moves hook (.run request) (hook.run request)
  | submitted {index : Nat} {jobId : JobId} (posted : index < hook.posts.length)
      (fresh : hook.runs jobId = none) :
      Moves hook (.submitted index jobId)
        ({ hook with posts := hook.posts.eraseIdx index }.submitted jobId)
  | submitFailed {index : Nat} (message : Option String) (posted : index < hook.posts.length) :
      Moves hook (.submitFailed index message)
        ({ hook with posts := hook.posts.eraseIdx index }.submitFailed message)
  | opened {jobId : JobId} (connecting : hook.socketOf jobId = some .connecting) :
      Moves hook (.opened jobId) (hook.withRun jobId fun run => { run with socket := .opened })
  | message {jobId : JobId} {run : JobRun} (frame : Frame) (found : hook.runs jobId = some run) :
      Moves hook (.message jobId frame) (hook.onMessage jobId frame)
  | closed {jobId : JobId} {run : JobRun} (found : hook.runs jobId = some run) :
      Moves hook (.closed jobId) (hook.onClose jobId)
  | failed {jobId : JobId} {run : JobRun} (found : hook.runs jobId = some run) :
      Moves hook (.failed jobId) (hook.onClose jobId)
  | timeout {jobId : JobId} {run : JobRun} (found : hook.runs jobId = some run)
      (pending : run.timeoutPending) : Moves hook (.timeout jobId) (hook.timeoutFired jobId run)
  | interval {jobId : JobId} (running : hook.pollIntervalRef = some jobId) :
      Moves hook .interval (hook.poll jobId)
  | progress (jobId : JobId) (status : SubmissionStatus) :
      Moves hook (.progress jobId status) { hook with rows := Function.update hook.rows jobId status }
  | read {index : Nat} {fetch : Fetch} {detail : SubmissionDetail}
      (waiting : hook.fetches[index]? = some fetch) (named : detail.jobId = fetch.jobId)
      (current : detail.status = hook.rows fetch.jobId) :
      Moves hook (.read index detail)
        { hook with fetches := hook.fetches.set index { fetch with reply := some detail } }
  | replied {index : Nat} {fetch : Fetch} {detail : SubmissionDetail}
      (waiting : hook.fetches[index]? = some fetch) (served : fetch.reply = some detail) :
      Moves hook (.replied index)
        ({ hook with fetches := hook.fetches.eraseIdx index }.fetched detail fetch.caller)
  | lost {index : Nat} {fetch : Fetch} (waiting : hook.fetches[index]? = some fetch) :
      Moves hook (.lost index)
        ({ hook with fetches := hook.fetches.eraseIdx index }.fetchFailed fetch.caller)

/-- Every step is one of these. -/
theorem step_moves (stepped : hook.step label = some next) : hook.Moves label next := by
  -- Each label has its own guard, which is split off here.
  cases label with
  | run request =>
    obtain rfl := Option.some.inj stepped
    exact .run request
  | submitted index jobId =>
    simp only [step, Option.ite_none_right_eq_some, Option.some.injEq] at stepped
    obtain ⟨⟨posted, fresh⟩, rfl⟩ := stepped
    exact .submitted posted fresh
  | submitFailed index message =>
    simp only [step, Option.ite_none_right_eq_some, Option.some.injEq] at stepped
    obtain ⟨posted, rfl⟩ := stepped
    exact .submitFailed message posted
  | opened jobId =>
    simp only [step, Option.bind_eq_some_iff, Option.ite_none_right_eq_some,
      Option.some.injEq] at stepped
    obtain ⟨run, found, connecting, rfl⟩ := stepped
    exact .opened (by simp [socketOf, found, connecting])
  | message jobId frame =>
    simp only [step, Option.bind_eq_some_iff, Option.ite_none_right_eq_some,
      Option.some.injEq] at stepped
    obtain ⟨run, found, open_, rfl⟩ := stepped
    exact .message frame found
  | closed jobId =>
    simp only [step, Option.bind_eq_some_iff, Option.ite_none_right_eq_some,
      Option.some.injEq] at stepped
    obtain ⟨run, found, open_, rfl⟩ := stepped
    exact .closed found
  | failed jobId =>
    simp only [step, Option.bind_eq_some_iff, Option.ite_none_left_eq_some,
      Option.some.injEq] at stepped
    obtain ⟨run, found, open_, rfl⟩ := stepped
    -- The error handler closes the socket, and `onClose` does nothing more behind it.
    rw [onClose_onError]
    exact .failed found
  | timeout jobId =>
    simp only [step, Option.bind_eq_some_iff, Option.ite_none_right_eq_some,
      Option.some.injEq] at stepped
    obtain ⟨run, found, pending, rfl⟩ := stepped
    exact .timeout found pending
  | interval =>
    simp only [step, Option.map_eq_some_iff] at stepped
    obtain ⟨jobId, running, rfl⟩ := stepped
    exact .interval running
  | progress jobId status =>
    obtain rfl := Option.some.inj stepped
    exact .progress jobId status
  | read index detail =>
    simp only [step, Option.bind_eq_some_iff, Option.ite_none_right_eq_some,
      Option.some.injEq] at stepped
    obtain ⟨fetch, waiting, ⟨_, named, current⟩, rfl⟩ := stepped
    exact .read waiting named current
  | replied index =>
    simp only [step, Option.bind_eq_some_iff, Option.map_eq_some_iff] at stepped
    obtain ⟨fetch, waiting, detail, served, rfl⟩ := stepped
    exact .replied waiting served
  | lost index =>
    simp only [step, Option.map_eq_some_iff] at stepped
    obtain ⟨fetch, waiting, rfl⟩ := stepped
    exact .lost waiting

/-! ## What is shown -/

/-- The GET that a label ends. -/
def fetchOutcome? (hook : SubmissionHook) : HookLabel → Option FetchOutcome
  | .replied index => hook.fetches[index]?.bind fun fetch =>
    fetch.reply.map fun detail => ⟨fetch.jobId, fetch.caller, some detail⟩
  | .lost index => hook.fetches[index]?.map fun fetch => ⟨fetch.jobId, fetch.caller, none⟩
  | _ => none

/-- The status that is shown after a label. -/
def statusAfter (hook : SubmissionHook) (label : HookLabel) : UiStatus :=
  match label with
  | .run _ => .submitting
  | .submitted _ _ => .job .pending
  | .submitFailed _ _ => .submitError
  | .message _ frame => hook.status.afterFrame frame
  | _ => (((hook.fetchOutcome? label).bind FetchOutcome.shows).map UiStatus.job).getD hook.status

/-- The job that is shown after a label. -/
def jobIdAfter (hook : SubmissionHook) : HookLabel → Option JobId
  | .submitted _ jobId => some jobId
  | _ => hook.jobId

/-- The POSTs that are awaited after a label. -/
def postsAfter (hook : SubmissionHook) : HookLabel → List SubmitRequest
  | .run request => hook.posts ++ [request]
  | .submitted index _ | .submitFailed index _ => hook.posts.eraseIdx index
  | _ => hook.posts

/-- The output that is shown after a label. -/
def outputAfter (hook : SubmissionHook) : HookLabel → List OutputLine
  | .run _ => []
  | .message _ frame => hook.output ++ frame.lines
  | _ => hook.output

/-- The result that is shown after a label. -/
def resultAfter (hook : SubmissionHook) (label : HookLabel) : Option SubmissionDetail :=
  match label with
  | .run _ => none
  | _ => ((hook.fetchOutcome? label).bind FetchOutcome.result?).or hook.result

/-- What is shown after a label, and which POSTs are awaited then. -/
structure Shows (hook : SubmissionHook) (label : HookLabel) (next : SubmissionHook) : Prop where
  status : next.status = hook.statusAfter label
  jobId : next.jobId = hook.jobIdAfter label
  output : next.output = hook.outputAfter label
  result : next.result = hook.resultAfter label
  posts : next.posts = hook.postsAfter label

/-- A reply is shown by both callers, and a poll shows the result with a terminal status only. -/
theorem fetched_eq (hook : SubmissionHook) (detail : SubmissionDetail) (caller : FetchCaller) :
    ∃ runs timer interval, hook.fetched detail caller =
      { hook with
        runs
        fallbackTimerRef := timer
        pollIntervalRef := interval
        status := .job detail.status
        result := (FetchOutcome.result? ⟨detail.jobId, caller, some detail⟩).or hook.result } := by
  -- Only a poll with a terminal status clears the timers.
  cases caller with
  | finalize => exact ⟨hook.runs, hook.fallbackTimerRef, hook.pollIntervalRef, rfl⟩
  | poll =>
    unfold fetched FetchOutcome.result?
    dsimp only
    split
    · rw [clearTimers_eq]
      exact ⟨_, _, _, rfl⟩
    · exact ⟨hook.runs, hook.fallbackTimerRef, hook.pollIntervalRef, rfl⟩

/-- Every step shows this. -/
theorem Moves.shown (moved : hook.Moves label next) : hook.Shows label next := by
  -- The spec of each handler says what it leaves on display.
  cases moved with
  | run request =>
    obtain ⟨runs, same, -⟩ := hook.run_spec request
    rw [same]
    exact ⟨rfl, rfl, rfl, rfl, rfl⟩
  | @message jobId run frame found =>
    cases frame with
    | chunk chunk =>
      obtain ⟨runs, same, -⟩ := hook.onMessage_chunk jobId chunk
      rw [same]
      exact ⟨rfl, rfl, rfl, rfl, rfl⟩
    | malformed text => exact ⟨rfl, rfl, (List.append_nil _).symm, rfl, rfl⟩
  | closed found | failed found =>
    obtain ⟨runs, same, -⟩ := hook.onClose_spec _
    rw [same]
    exact ⟨rfl, rfl, rfl, rfl, rfl⟩
  | @timeout jobId run found pending =>
    obtain ⟨runs, interval, same, -⟩ := hook.timeoutFired_spec jobId run
    rw [same]
    exact ⟨rfl, rfl, rfl, rfl, rfl⟩
  | @replied index fetch detail waiting served =>
    obtain ⟨runs, timer, interval, same⟩ :=
      fetched_eq { hook with fetches := hook.fetches.eraseIdx index } detail fetch.caller
    rw [same]
    refine ⟨?_, rfl, rfl, ?_, rfl⟩
    · simp [statusAfter, fetchOutcome?, waiting, served, FetchOutcome.shows]
    · simp [resultAfter, fetchOutcome?, waiting, served, FetchOutcome.result?]
  | @lost index fetch waiting =>
    cases caller : fetch.caller with
    | finalize | poll =>
      refine ⟨?_, rfl, rfl, ?_, rfl⟩
      · simp [fetchFailed, statusAfter, fetchOutcome?, waiting, caller, FetchOutcome.shows]
      · simp [fetchFailed, resultAfter, fetchOutcome?, waiting, caller, FetchOutcome.result?]
  | submitted posted fresh | submitFailed message posted | opened connecting | interval running =>
    exact ⟨rfl, rfl, rfl, rfl, rfl⟩
  | progress jobId status | read waiting named current => exact ⟨rfl, rfl, rfl, rfl, rfl⟩

end SubmissionHook

/-- A reply about a job that has printed nothing. -/
def detailOf (jobId : JobId) (status : SubmissionStatus) : SubmissionDetail where
  jobId := jobId
  userId := none
  language := .python
  sourceCode := [0x31]
  status := status
  retryCount := 0
  exitCode := none
  stdout := none
  stderr := none
  errorMessage := none
  errorCategory := none
  executionTimeMs := none
  memoryUsedBytes := none
  outputTruncated := false
  streamOutputLimitExceeded := false
  createdAt := 0
  updatedAt := 0

end CodeExecution

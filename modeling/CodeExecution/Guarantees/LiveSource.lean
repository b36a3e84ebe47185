import CodeExecution.Proofs.Submissions

/-! When a busy hook always has a source of progress left. -/

namespace CodeExecution

namespace SubmissionHook

variable {hook next : SubmissionHook} {label : HookLabel}

/-- The socket of the shown job is connecting or open. -/
def streaming (hook : SubmissionHook) : Bool :=
  hook.jobId.any fun jobId => (hook.socketOf jobId).any ReadyState.isLive

/-- The timeout in the ref is pending. -/
def fallbackArmed (hook : SubmissionHook) : Bool :=
  hook.fallbackTimerRef.any hook.timeoutPending

/-- The interval is running. -/
def polling (hook : SubmissionHook) : Bool :=
  hook.pollIntervalRef.isSome

/-- The hook awaits neither a POST nor a GET. -/
def Quiet (hook : SubmissionHook) : Prop :=
  hook.posts = [] ∧ hook.fetches = []

/-- A PENDING or RUNNING job that no request is about has a source of progress. -/
def Sourced (hook : SubmissionHook) : Prop :=
  hook.status.isLive → hook.Quiet → hook.streaming ∨ hook.fallbackArmed ∨ hook.polling

/-- One GET is all that the hook waits for: no stream is open and no interval runs. -/
def Exposed (hook : SubmissionHook) : Prop :=
  hook.posts = [] ∧ hook.fetches.length = 1 ∧ ¬ hook.streaming ∧ ¬ hook.polling

/-- A GET that is all the hook waits for does not leave the job PENDING or RUNNING. -/
def OutcomeSettles (hook : SubmissionHook) : HookLabel → Prop
  | .replied index => hook.Exposed → ∀ fetch, hook.fetches[index]? = some fetch → ∀ detail,
      fetch.reply = some detail → detail.status.isTerminal
  -- A finalize fetch that fails settles the job as FAILED, and a poll that fails changes nothing.
  | .lost index => hook.Exposed → ∀ fetch, hook.fetches[index]? = some fetch → fetch.caller = .poll →
      ¬ hook.status.isLive
  | _ => True

/-! ## The timeout and its stream -/

/-- While the timeout in the ref is pending, it is that of the shown job, whose socket is live. -/
def Backed (hook : SubmissionHook) : Prop :=
  ∀ timed, hook.fallbackTimerRef = some timed → hook.timeoutPending timed → hook.jobId = some timed ∧
    (hook.socketOf timed).any ReadyState.isLive

/-- A pending timeout means that the stream is open. -/
theorem Backed.streaming (backed : hook.Backed) (armed : hook.fallbackArmed) : hook.streaming := by
  obtain ⟨timed, held, pending⟩ := (Option.any_eq_true _ _).mp armed
  obtain ⟨shown, live⟩ := backed timed held pending
  rw [SubmissionHook.streaming, shown]
  exact live

/-- The timeout adds nothing to the sources, as its stream is open. -/
theorem Backed.sourced_iff (backed : hook.Backed) :
    hook.Sourced ↔ (hook.status.isLive → hook.Quiet → hook.streaming ∨ hook.polling) := by
  -- The timeout is a source only together with its stream.
  constructor
  · intro sourced live quiet
    rcases sourced live quiet with streams | armed | polls
    · exact .inl streams
    · exact .inl (backed.streaming armed)
    · exact .inr polls
  · intro sourced live quiet
    rcases sourced live quiet with streams | polls
    · exact .inl streams
    · exact .inr (.inr polls)

/-- Without a timeout in the ref there is nothing to back. -/
theorem backed_of_cleared (cleared : hook.fallbackTimerRef = none) : hook.Backed := by
  intro timed held
  rw [cleared] at held
  cases held

/-- What keeps the ref, the shown job and its sockets keeps the timeout backed, if it arms none. -/
theorem Backed.of_frame (backed : hook.Backed) (ref : next.fallbackTimerRef = hook.fallbackTimerRef)
    (shown : next.jobId = hook.jobId)
    (live : ∀ jobId, (hook.socketOf jobId).any ReadyState.isLive →
      (next.socketOf jobId).any ReadyState.isLive)
    (pending : ∀ jobId, next.timeoutPending jobId → hook.timeoutPending jobId) : next.Backed := by
  intro timed held armed
  obtain ⟨same, open_⟩ := backed timed (ref ▸ held) (pending timed armed)
  exact ⟨shown.trans same, live timed open_⟩

/-- A socket that opens was connecting, and stays live. -/
theorem opened_live {jobId other : JobId}
    (live : (hook.socketOf other).any ReadyState.isLive) :
    ((hook.withRun jobId fun run => { run with socket := .opened }).socketOf other).any
      ReadyState.isLive := by
  -- The socket that opens is live now, and the others are as they were.
  rw [socketOf, withRun_runs]
  split
  · next same =>
    subst same
    cases found : hook.runs other with
    | none => simp [socketOf, found] at live
    | some run => rfl
  · exact live

/-- Every step keeps the timeout backed. -/
theorem Moves.backed (moved : hook.Moves label next) (backed : hook.Backed) : next.Backed := by
  -- Whatever clears the ref leaves nothing to back, and only a POST arms a timeout.
  cases moved with
  | run request =>
    obtain ⟨runs, same, -⟩ := hook.run_spec request
    rw [same]
    exact backed_of_cleared rfl
  | @submitted index jobId posted fresh =>
    -- The new timeout is that of the job that is shown from now on, and its socket connects.
    intro timed held _
    obtain rfl := Option.some.inj held
    refine ⟨rfl, ?_⟩
    simp [SubmissionHook.submitted, socketOf, ReadyState.isLive]
  | submitFailed message posted => exact backed.of_frame rfl rfl (fun _ live => live) fun _ armed => armed
  | opened connecting =>
    refine backed.of_frame rfl rfl (fun _ live => opened_live live) fun other armed => ?_
    rw [withRun_timeoutPending] at armed
    · exact armed
    · exact fun _ => rfl
  | message frame found =>
    cases frame with
    | chunk chunk =>
      obtain ⟨runs, same, -⟩ := hook.onMessage_chunk _ chunk
      rw [same]
      exact backed_of_cleared rfl
    | malformed text =>
      obtain ⟨runs, same, sockets, timeouts⟩ := hook.onMessage_malformed _ text
      rw [same]
      refine backed.of_frame rfl rfl (fun other live => ?_) fun other armed => ?_
      · rwa [← sockets other] at live
      · rwa [← timeouts other]
  | closed found | failed found =>
    obtain ⟨runs, same, -⟩ := hook.onClose_spec _
    rw [same]
    exact backed_of_cleared rfl
  | @timeout jobId run found pending =>
    obtain ⟨runs, interval, same, sockets, timeouts, -⟩ := hook.timeoutFired_spec jobId run
    rw [same]
    -- The timeout that fires is pending no more, though it stays in the ref.
    refine backed.of_frame rfl rfl (fun other live => ?_) fun other armed => ?_
    · rwa [← sockets other] at live
    · have left := (timeouts other).symm.trans armed
      exact ((Bool.and_eq_true _ _).mp left).1
  | interval running | progress jobId status | read waiting named current =>
    exact backed.of_frame rfl rfl (fun _ live => live) fun _ armed => armed
  | @replied index fetch detail waiting served =>
    cases fetch.caller with
    | finalize => exact backed.of_frame rfl rfl (fun _ live => live) fun _ armed => armed
    | poll =>
      unfold fetched
      dsimp only
      split
      · rw [clearTimers_eq]
        exact backed_of_cleared rfl
      · exact backed.of_frame rfl rfl (fun _ live => live) fun _ armed => armed
  | @lost index fetch waiting =>
    cases fetch.caller with
    | finalize | poll => exact backed.of_frame rfl rfl (fun _ live => live) fun _ armed => armed

/-! ## Sources -/

/-- Nothing is asked of a status that is not live. -/
theorem sourced_of_settled (settled : hook.status.isLive = false) : hook.Sourced := by
  intro live
  rw [settled] at live
  cases live

/-- Nothing is asked while a GET is awaited. -/
theorem sourced_of_fetching (fetching : hook.fetches ≠ []) : hook.Sourced :=
  fun _ quiet => absurd quiet.2 fetching

/-- What neither ends a request nor a source keeps a job sourced. -/
theorem Sourced.of_frame (sourced : hook.Sourced) (backed : hook.Backed)
    (status : next.status.isLive → hook.status.isLive) (posts : next.posts = hook.posts)
    (fetches : next.fetches = [] → hook.fetches = []) (streams : hook.streaming → next.streaming)
    (polls : hook.polling → next.polling) : next.Sourced := by
  intro live quiet
  rcases backed.sourced_iff.mp sourced (status live) ⟨posts ▸ quiet.1, fetches quiet.2⟩ with was | was
  · exact .inl (streams was)
  · exact .inr (.inr (polls was))

/-- The end of a GET keeps a job sourced unless it was all that the hook waited for. -/
theorem sourced_iff_of_fetched (backed : next.Backed) {index : Nat} {fetch : Fetch}
    (waiting : hook.fetches[index]? = some fetch) (posts : next.posts = hook.posts)
    (fetches : next.fetches = hook.fetches.eraseIdx index) (streams : next.streaming = hook.streaming)
    (polls : next.polling = hook.polling) :
    next.Sourced ↔ (hook.Exposed → ¬ next.status.isLive) := by
  -- The GET was awaited, so none is left only if it was alone.
  have last : next.fetches = [] ↔ hook.fetches.length = 1 := by
    obtain ⟨inside, -⟩ := List.getElem?_eq_some_iff.mp waiting
    rw [fetches, ← List.length_eq_zero_iff, List.length_eraseIdx_of_lt inside]
    omega
  -- Without its stream and its interval, only a settled status is sourced.
  rw [backed.sourced_iff, Quiet, Exposed, posts, last, streams, polls]
  constructor
  · rintro sourced ⟨idle, one, silent, still⟩ live
    rcases sourced live ⟨idle, one⟩ with streaming | polling
    · exact silent streaming
    · exact still polling
  · rintro settles live ⟨idle, one⟩
    by_contra none_
    rw [not_or] at none_
    exact settles ⟨idle, one, none_.1, none_.2⟩ live

/-- The stream stays open where the shown job and the sockets stay the same. -/
theorem streaming_of_sockets (was : hook.streaming) (shown : next.jobId = hook.jobId)
    (sockets : ∀ jobId, next.socketOf jobId = hook.socketOf jobId) : next.streaming := by
  obtain ⟨jobId, same, live⟩ := (Option.any_eq_true _ _).mp was
  exact (Option.any_eq_true _ _).mpr ⟨jobId, shown.trans same, (sockets jobId).symm ▸ live⟩

/-- A status is live once a line has come only if it was live before. -/
theorem isLive_of_afterFrame {status : UiStatus} {frame : Frame}
    (live : (status.afterFrame frame).isLive) : status.isLive := by
  -- A line moves PENDING to RUNNING at most, and both are live.
  unfold UiStatus.afterFrame UiStatus.started at live
  split at live
  · exact live
  · split at live
    · next pending =>
      subst pending
      rfl
    · exact live

/-- A reply keeps a job sourced exactly where it meets the condition. -/
theorem sourced_iff_of_replied {index : Nat} {fetch : Fetch} {detail : SubmissionDetail}
    (backed : ({ hook with fetches := hook.fetches.eraseIdx index }.fetched detail fetch.caller).Backed)
    (waiting : hook.fetches[index]? = some fetch) (served : fetch.reply = some detail) :
    hook.OutcomeSettles (.replied index) ↔
      ({ hook with fetches := hook.fetches.eraseIdx index }.fetched detail fetch.caller).Sourced := by
  have only : hook.OutcomeSettles (.replied index) ↔ (hook.Exposed → detail.status.isTerminal) := by
    simp [OutcomeSettles, waiting, served]
  rw [only]
  by_cases clears : fetch.caller = .poll ∧ detail.status.isTerminal
  · -- The timers are cleared, and the status is terminal.
    refine iff_of_true (fun _ => clears.2) (sourced_of_settled ?_)
    obtain ⟨runs, timer, interval, same⟩ :=
      fetched_eq { hook with fetches := hook.fetches.eraseIdx index } detail fetch.caller
    rw [same]
    simp [UiStatus.isLive, clears.2]
  · -- The reply is only shown.
    have shown : ∃ result, ({ hook with fetches := hook.fetches.eraseIdx index }.fetched detail
        fetch.caller) = { hook with
          fetches := hook.fetches.eraseIdx index, result, status := .job detail.status } := by
      cases caller : fetch.caller with
      | finalize => exact ⟨_, rfl⟩
      | poll =>
        have running : detail.status.isTerminal = false := by
          simpa using fun terminal => clears ⟨caller, terminal⟩
        exact ⟨hook.result, by simp [fetched, running]⟩
    obtain ⟨result, same⟩ := shown
    rw [same] at backed ⊢
    rw [sourced_iff_of_fetched backed waiting rfl rfl rfl rfl]
    simp [UiStatus.isLive]

/-- A GET that fails keeps a job sourced exactly where it meets the condition. -/
theorem sourced_iff_of_lost {index : Nat} {fetch : Fetch}
    (backed : ({ hook with fetches := hook.fetches.eraseIdx index }.fetchFailed fetch.caller).Backed)
    (waiting : hook.fetches[index]? = some fetch) :
    hook.OutcomeSettles (.lost index) ↔
      ({ hook with fetches := hook.fetches.eraseIdx index }.fetchFailed fetch.caller).Sourced := by
  have only : hook.OutcomeSettles (.lost index) ↔
      (hook.Exposed → fetch.caller = .poll → ¬ hook.status.isLive) := by
    simp [OutcomeSettles, waiting]
  rw [only]
  -- A failed finalize fetch shows FAILED, and a failed poll shows nothing.
  cases caller : fetch.caller with
  | finalize => exact iff_of_true (by simp) (sourced_of_settled rfl)
  | poll =>
    rw [caller] at backed
    rw [sourced_iff_of_fetched backed waiting rfl rfl rfl rfl]
    simp [fetchFailed]

/-- A step keeps a job sourced exactly where it meets the condition. -/
theorem Moves.sourced_iff (moved : hook.Moves label next) (backed : hook.Backed)
    (sourced : hook.Sourced) : hook.OutcomeSettles label ↔ next.Sourced := by
  have backed' : next.Backed := moved.backed backed
  -- All labels but the two ends of a GET are always allowed.
  cases moved with
  | run request =>
    obtain ⟨runs, same, -⟩ := hook.run_spec request
    rw [same]
    exact iff_of_true trivial (sourced_of_settled rfl)
  | @submitted index jobId posted fresh =>
    -- The socket of the new job connects.
    refine iff_of_true trivial fun _ _ => .inl ?_
    simp [streaming, SubmissionHook.submitted, socketOf, ReadyState.isLive]
  | submitFailed message posted => exact iff_of_true trivial (sourced_of_settled rfl)
  | @opened jobId connecting =>
    refine iff_of_true trivial (sourced.of_frame backed (fun live => live) rfl (fun none_ => none_)
      (fun was => ?_) fun was => was)
    obtain ⟨shown, same, live⟩ := (Option.any_eq_true _ _).mp was
    exact (Option.any_eq_true _ _).mpr ⟨shown, same, opened_live live⟩
  | @message jobId run frame found =>
    refine iff_of_true trivial ?_
    cases frame with
    | chunk chunk =>
      obtain ⟨runs, same, sockets, -⟩ := hook.onMessage_chunk jobId chunk
      rw [same]
      exact sourced.of_frame backed isLive_of_afterFrame rfl (fun none_ => none_)
        (fun was => streaming_of_sockets was rfl sockets) fun was => was
    | malformed text =>
      obtain ⟨runs, same, sockets, -⟩ := hook.onMessage_malformed jobId text
      rw [same]
      exact sourced.of_frame backed (fun live => live) rfl (fun none_ => none_)
        (fun was => streaming_of_sockets was rfl sockets) fun was => was
  | closed found | failed found =>
    -- The GET of `finalize` is awaited.
    obtain ⟨runs, same, -⟩ := hook.onClose_spec _
    rw [same]
    exact iff_of_true trivial (sourced_of_fetching (by simp))
  | @timeout jobId run found pending =>
    obtain ⟨runs, interval, same, sockets, -, kept⟩ := hook.timeoutFired_spec jobId run
    rw [same]
    refine iff_of_true trivial (sourced.of_frame backed (fun live => live) rfl (fun none_ => none_)
      (fun was => streaming_of_sockets was rfl sockets) fun was => ?_)
    obtain ⟨polled, running⟩ := Option.isSome_iff_exists.mp was
    exact Option.isSome_iff_exists.mpr ⟨polled, kept polled running⟩
  | interval running => exact iff_of_true trivial (sourced_of_fetching (by simp [poll]))
  | progress jobId status => exact iff_of_true trivial sourced
  | read waiting named current =>
    exact iff_of_true trivial (sourced.of_frame backed (fun live => live) rfl
      (fun none_ => (List.set_eq_nil_iff _ _).mp none_) (fun was => was) fun was => was)
  | replied waiting served => exact sourced_iff_of_replied backed' waiting served
  | lost waiting => exact sourced_iff_of_lost backed' waiting

/-- The timeout is backed after every run. -/
theorem backed_run {allowed : SubmissionHook → HookLabel → Prop} {trace : List HookLabel}
    (run : useSubmission.Runs allowed .initial trace hook) : hook.Backed :=
  run.preserves Backed (backed_of_cleared rfl) fun _ _ _ backed _ stepped =>
    (step_moves stepped).backed backed

end SubmissionHook

/-! ## The guarantee -/

/--
Along a run, a job shown as PENDING or RUNNING always has a source of progress left exactly where
no GET that is all the hook waits for leaves such a status behind.
-/
theorem busy_sourced_iff {trace : List HookLabel} {hook : SubmissionHook}
    (run : useSubmission.Runs (fun _ _ => True) .initial trace hook) :
    useSubmission.Always .initial trace SubmissionHook.Sourced ↔
      useSubmission.Runs SubmissionHook.OutcomeSettles .initial trace hook := by
  have exactly := run.always_iff (SubmissionHook.sourced_of_settled rfl)
    fun _ _ _ _ earlier sourced _ stepped =>
      (SubmissionHook.step_moves stepped).sourced_iff (SubmissionHook.backed_run earlier) sourced
  simpa only [true_and] using exactly

/-- The socket drops behind the first line, and the finalize fetch finds the job still RUNNING. -/
def droppedStream : List HookLabel := [
  .run ⟨[0x31], .python⟩,
  .submitted 0 "first",
  .opened "first",
  .progress "first" .running,
  .message "first" (.chunk ⟨.stdout, "1", 0⟩),
  .failed "first",
  .read 0 (detailOf "first" .running),
  .replied 0]

/-- The dropped stream ends in a state that nothing will ever change but the server. -/
theorem droppedStream_runs : ∃ hook, useSubmission.Runs (fun _ _ => True) .initial droppedStream hook ∧
    (hook.status, hook.posts, hook.fetches, hook.streaming, hook.fallbackArmed, hook.polling) =
      (.job .running, [], [], false, false, false) :=
  Machine.runs_of_guardedRun useSubmission _ _ _ _ _ rfl

/-- The equivalence at the dropped stream. -/
theorem busy_sourced_iff_example : ∃ hook,
    useSubmission.Runs (fun _ _ => True) .initial droppedStream hook ∧
      (useSubmission.Always .initial droppedStream SubmissionHook.Sourced ↔
        useSubmission.Runs SubmissionHook.OutcomeSettles .initial droppedStream hook) := by
  obtain ⟨hook, run, -⟩ := droppedStream_runs
  exact ⟨hook, run, busy_sourced_iff run⟩

/-- A busy hook may be left without any source of progress. -/
theorem busy_unsourced : ¬ ∀ trace hook, useSubmission.Runs (fun _ _ => True) .initial trace hook →
    hook.Sourced := by
  intro claimed
  obtain ⟨hook, run, ends⟩ := droppedStream_runs
  simp only [Prod.mk.injEq] at ends
  obtain ⟨status, posts, fetches, streams, armed, polls⟩ := ends
  -- The stream was dropped while no timer was armed.
  have sourced := claimed _ _ run (by rw [status]; rfl) ⟨posts, fetches⟩
  rw [streams, armed, polls] at sourced
  exact absurd sourced (by decide)

end CodeExecution

import CodeExecution.Proofs.Submissions
import Mathlib.Data.List.Induction

/-! What is shown of a job as a function of its events, and which labels clear the timers of a job. -/

namespace CodeExecution

/-- The status, the result and the output that are shown. -/
structure View where
  status : UiStatus
  output : List OutputLine
  result : Option SubmissionDetail
  deriving DecidableEq, Repr

/-- An event that may change what is shown of a job. -/
inductive JobEvent where
  | frame (frame : Frame)
  | fetched (outcome : FetchOutcome)
  deriving DecidableEq, Repr

/-- What is shown of a job that has just been submitted. -/
def View.fresh : View := ⟨.job .pending, [], none⟩

/-- What an event makes of a view. -/
def View.after (view : View) : JobEvent → View
  | .frame frame => ⟨view.status.afterFrame frame, view.output ++ frame.lines, view.result⟩
  | .fetched outcome =>
    ⟨(outcome.shows.map UiStatus.job).getD view.status, view.output, outcome.result?.or view.result⟩

/-- What some events of a job, and nothing else, make of it. -/
def View.of (events : List JobEvent) : View :=
  events.foldl View.after .fresh

namespace SubmissionHook

variable {hook next : SubmissionHook} {label : HookLabel} {own : JobId}

/-- What the hook shows. -/
def view (hook : SubmissionHook) : View := ⟨hook.status, hook.output, hook.result⟩

/-- The job whose socket, timeout, interval or GET a label is about. -/
def subject? (hook : SubmissionHook) : HookLabel → Option JobId
  | .opened jobId | .message jobId _ | .closed jobId | .failed jobId | .timeout jobId => some jobId
  | .interval => hook.pollIntervalRef
  | .read index _ | .replied index | .lost index => hook.fetches[index]?.map Fetch.jobId
  | .run _ | .submitted _ _ | .submitFailed _ _ | .progress _ _ => none

/-- The event of a label, where it may change what is shown of its job. -/
def event? (hook : SubmissionHook) : HookLabel → Option JobEvent
  | .message _ frame => some (.frame frame)
  | label => (hook.fetchOutcome? label).map .fetched

/-- The label clears the timeout or the interval of a job. -/
def disarms (hook : SubmissionHook) (label : HookLabel) (jobId : JobId) : Bool :=
  (hook.step label).any fun next =>
    (hook.timeoutPending jobId && !next.timeoutPending jobId) ||
      (decide (hook.pollIntervalRef = some jobId) && !decide (next.pollIntervalRef = some jobId))

end SubmissionHook

/-! ## Views -/

/-- One more event is the last one. -/
theorem View.of_snoc (events : List JobEvent) (event : JobEvent) :
    View.of (events ++ [event]) = (View.of events).after event := by
  simp [View.of]

/-- What the events of a job make of it is always a status of a job. -/
theorem View.of_status (events : List JobEvent) : ∃ status, (View.of events).status = .job status := by
  -- The last event decides, and each kind keeps to the statuses of a job.
  induction events using List.reverseRecOn with
  | nil => exact ⟨.pending, rfl⟩
  | append_singleton events event ih =>
    obtain ⟨status, shown⟩ := ih
    rw [View.of_snoc]
    cases event with
    | frame frame =>
      simp only [View.after, shown, UiStatus.afterFrame, UiStatus.started]
      split
      · exact ⟨status, rfl⟩
      · split
        · exact ⟨.running, rfl⟩
        · exact ⟨status, rfl⟩
    | fetched outcome =>
      simp only [View.after, shown]
      cases outcome.shows with
      | none => exact ⟨status, rfl⟩
      | some reported => exact ⟨reported, rfl⟩

namespace SubmissionHook

variable {hook next : SubmissionHook} {label : HookLabel} {own : JobId}

/-- The labels by which no job takes the place of another one. -/
def Ordinary : HookLabel → Prop
  | .run _ | .submitted _ _ => False
  | _ => True

/-- Beside the calls of `run` and the end of their POSTs, an event of a job changes what is shown. -/
theorem Moves.view_eq (moved : hook.Moves label next) (ordinary : Ordinary label)
    (posted : ∀ index message, label ≠ .submitFailed index message) :
    next.view = (hook.event? label).elim hook.view hook.view.after := by
  obtain ⟨status, -, output, result, -⟩ := moved.shown
  rw [view, status, output, result]
  -- A frame and an outcome are shown as the view has them, and nothing else is.
  have fetched : (⟨(((hook.fetchOutcome? label).bind FetchOutcome.shows).map UiStatus.job).getD
        hook.status, hook.output,
      ((hook.fetchOutcome? label).bind FetchOutcome.result?).or hook.result⟩ : View) =
      ((hook.fetchOutcome? label).map JobEvent.fetched).elim hook.view hook.view.after := by
    cases hook.fetchOutcome? label with
    | none => rfl
    | some outcome => rfl
  cases label with
  | run _ | submitted _ _ => exact ordinary.elim
  | submitFailed index message => exact absurd rfl (posted index message)
  | message jobId frame => rfl
  | _ => exact fetched

/-! ## Timers -/

/-- Beside the calls of `run`, the timeouts are spared, or the one in the ref is cleared. -/
theorem Moves.timeouts (moved : hook.Moves label next) (ordinary : Ordinary label) (own : JobId) :
    (next.fallbackTimerRef = hook.fallbackTimerRef ∧
      (next.timeoutPending own → hook.timeoutPending own)) ∨
      next.timeoutPending own = hook.timeoutsCleared own := by
  -- Only `clearFallbackTimer` touches the ref, and it clears the timeout that is in it.
  cases moved with
  | run _ | submitted _ _ => exact ordinary.elim
  | submitFailed message posted => exact .inl ⟨rfl, id⟩
  | opened connecting =>
    refine .inl ⟨rfl, fun pending => ?_⟩
    rw [withRun_timeoutPending] at pending
    · exact pending
    · exact fun _ => rfl
  | @message jobId run frame found =>
    cases frame with
    | chunk chunk =>
      obtain ⟨runs, same, -, timeouts⟩ := hook.onMessage_chunk jobId chunk
      rw [same]
      exact .inr (timeouts own)
    | malformed text =>
      obtain ⟨runs, same, -, timeouts⟩ := hook.onMessage_malformed jobId text
      rw [same]
      exact .inl ⟨rfl, fun pending => (timeouts own).symm.trans pending⟩
  | closed found | failed found =>
    obtain ⟨runs, same, timeouts⟩ := hook.onClose_spec _
    rw [same]
    exact .inr (timeouts own)
  -- The timeout that fires is no longer pending.
  | @timeout jobId run found fired =>
    obtain ⟨runs, interval, same, -, timeouts, -⟩ := hook.timeoutFired_spec jobId run
    rw [same]
    refine .inl ⟨rfl, fun pending => ?_⟩
    exact ((Bool.and_eq_true _ _).mp ((timeouts own).symm.trans pending)).1
  | @replied index fetch detail waiting served =>
    cases fetch.caller with
    | finalize => exact .inl ⟨rfl, id⟩
    | poll =>
      simp only [fetched]
      split
      · rw [clearTimers_eq]
        exact .inr (clearedRuns_timeoutPending _ own)
      · exact .inl ⟨rfl, id⟩
  | @lost index fetch waiting =>
    cases fetch.caller with
    | finalize | poll => exact .inl ⟨rfl, id⟩
  | interval running | progress jobId status | read waiting named current => exact .inl ⟨rfl, id⟩

/-- A timeout that is pending is the one in the ref. -/
def Timed (hook : SubmissionHook) (own : JobId) : Prop :=
  hook.timeoutPending own → hook.fallbackTimerRef = some own

/-- A timeout that is pending and in the ref is pending no more once the ref is cleared. -/
theorem Timed.cleared (timed : hook.Timed own) : hook.timeoutsCleared own = false := by
  -- The ref names it where it is pending.
  unfold timeoutsCleared
  by_cases pending : hook.timeoutPending own
  · simp [timed pending]
  · simp [pending]

/-- The labels that clear no timer of a job. -/
def Calm (hook : SubmissionHook) (own : JobId) : HookLabel → Prop
  | .run _ | .submitted _ _ | .closed _ | .failed _ | .message _ (.chunk _) => False
  | .timeout jobId => jobId ≠ own
  | .replied index =>
    ∀ outcome, hook.fetchOutcome? (.replied index) = some outcome → outcome.result? = none
  | _ => True

/-- A label that clears no timer leaves them as they are, and an interval may start. -/
theorem Moves.keeps (moved : hook.Moves label next) (calm : hook.Calm own label) :
    next.timeoutPending own = hook.timeoutPending own ∧
      next.fallbackTimerRef = hook.fallbackTimerRef ∧
      (hook.pollIntervalRef = some own → next.pollIntervalRef = some own) := by
  -- A poll whose reply is not terminal and a malformed frame clear nothing.
  cases moved with
  | run _ | submitted _ _ | closed _ | failed _ => exact calm.elim
  | submitFailed message posted => exact ⟨rfl, rfl, id⟩
  | opened connecting => exact ⟨withRun_timeoutPending fun _ => rfl, rfl, id⟩
  | @message jobId run frame found =>
    cases frame with
    | chunk chunk => exact calm.elim
    | malformed text =>
      obtain ⟨runs, same, -, timeouts⟩ := hook.onMessage_malformed jobId text
      rw [same]
      exact ⟨timeouts own, rfl, id⟩
  | @timeout jobId run found pending =>
    obtain ⟨runs, interval, same, -, timeouts, kept⟩ := hook.timeoutFired_spec jobId run
    have other : own ≠ jobId := fun same => calm same.symm
    rw [same]
    exact ⟨(timeouts own).trans (by simp [other]), rfl, kept own⟩
  | interval running => exact ⟨rfl, rfl, id⟩
  | progress jobId status => exact ⟨rfl, rfl, id⟩
  | read waiting named current => exact ⟨rfl, rfl, id⟩
  | @replied index fetch detail waiting served =>
    have hidden := calm ⟨fetch.jobId, fetch.caller, some detail⟩ (by simp [fetchOutcome?, waiting, served])
    cases caller : fetch.caller with
    | finalize => simp [FetchOutcome.result?, caller] at hidden
    | poll =>
      have running : detail.status.isTerminal = false := by
        simpa [FetchOutcome.result?, caller] using hidden
      simp only [fetched, running]
      exact ⟨rfl, rfl, id⟩
  | @lost index fetch waiting =>
    cases fetch.caller with
    | finalize | poll => exact ⟨rfl, rfl, id⟩

/-- A label that clears no timer disarms nothing. -/
theorem disarms_of_calm (stepped : hook.step label = some next) (calm : hook.Calm own label) :
    hook.disarms label own = false := by
  -- Neither timer goes, and at most an interval comes.
  obtain ⟨pending, -, running⟩ := (step_moves stepped).keeps calm
  simp only [disarms, stepped, Option.any_some, pending]
  by_cases polled : hook.pollIntervalRef = some own
  · simp [running polled]
  · simp [polled]

/-- The close of a socket clears both timers. -/
theorem disarms_of_closed (stepped : hook.step label = some next) (timed : hook.Timed own)
    {jobId : JobId} (closes : label = .closed jobId ∨ label = .failed jobId) :
    hook.disarms label own = (hook.timeoutPending own || decide (hook.pollIntervalRef = some own)) := by
  have closed : next = hook.onClose jobId := by
    rcases closes with rfl | rfl
    · cases step_moves stepped with
      | closed found => rfl
    · cases step_moves stepped with
      | failed found => rfl
  -- `finalize` clears both, without a look at whose they are.
  obtain ⟨runs, same, timeouts⟩ := hook.onClose_spec jobId
  have pending : next.timeoutPending own = false := by
    rw [closed, same]
    exact (timeouts own).trans timed.cleared
  have interval : next.pollIntervalRef = none := by rw [closed, same]
  simp [disarms, stepped, pending, interval]

/-- A chunk clears the timeout. -/
theorem disarms_of_chunk {jobId : JobId} {chunk : StreamChunk}
    (stepped : hook.step (.message jobId (.chunk chunk)) = some next) (timed : hook.Timed own) :
    hook.disarms (.message jobId (.chunk chunk)) own = hook.timeoutPending own := by
  have heard : next = hook.onMessage jobId (.chunk chunk) := by
    cases step_moves stepped with
    | message frame found => rfl
  -- `onChunk` clears the timeout in the ref, and spares the interval.
  obtain ⟨runs, same, -, timeouts⟩ := hook.onMessage_chunk jobId chunk
  have pending : next.timeoutPending own = false := by
    rw [heard, same]
    exact (timeouts own).trans timed.cleared
  have interval : next.pollIntervalRef = hook.pollIntervalRef := by rw [heard, same]
  simp [disarms, stepped, pending, interval]

end SubmissionHook

end CodeExecution

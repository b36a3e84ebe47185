import CodeExecution.Proofs.Submissions
import CodeExecution.Web.History

/-! When the job history records nothing but a job's own terminal statuses. -/

namespace CodeExecution

/-- What has put the status on display. -/
inductive Author where
  /-- A call of `run`, or the reply to its POST. -/
  | run
  /-- A POST that has failed. -/
  | submission
  /-- The end of a GET about a job: its reply has this status, or a finalize fetch failed. -/
  | fetch (jobId : JobId) (status : SubmissionStatus)
  deriving DecidableEq, Repr

/-- One call of a function of `useJobHistory`. -/
inductive HistoryCall where
  | addEntry (jobId : JobId) (language : Language) (now : Timestamp)
  | updateStatus (jobId : JobId) (status : UiStatus) (author : Author)
  deriving DecidableEq, Repr

/-- What a call makes of the entries. -/
def HistoryCall.apply (entries : List JobHistoryEntry) : HistoryCall → List JobHistoryEntry
  | .addEntry jobId language now => CodeExecution.addEntry entries jobId language now
  | .updateStatus jobId status _ => CodeExecution.updateStatus entries jobId status

/-- The author of the status on display, and the calls so far. -/
structure HistoryLog where
  author : Author
  calls : List HistoryCall
  deriving DecidableEq, Repr

namespace HistoryLog

/-- Before the first call of `run`. -/
def initial : HistoryLog := ⟨.run, []⟩

/-- The author of the status that is shown after a label. -/
def authorAfter (hook : SubmissionHook) (label : HookLabel) (author : Author) : Author :=
  match label with
  | .run _ | .submitted _ _ => .run
  | .submitFailed _ _ => .submission
  | _ => ((hook.fetchOutcome? label).bind fun outcome =>
    outcome.shows.map (Author.fetch outcome.jobId)).getD author

/-- What a label adds. -/
def track (app : App) (label : AppLabel) (log : HistoryLog) : HistoryLog :=
  match label with
  | .hook label now =>
    { author := authorAfter app.submission label log.author
      calls := log.calls ++ (app.submittedEntry label).toList.map fun entry =>
        .addEntry entry.1 entry.2 now }
  | .render =>
    { log with calls := log.calls ++ app.effect.toList.map fun write =>
        .updateStatus write.1 write.2 log.author }

/-- The status is terminal, and the end of a GET about this very job has put it on display. -/
def Reported (jobId : JobId) (status : UiStatus) (author : Author) : Prop :=
  ∃ reported, author = .fetch jobId reported ∧ status = .job reported ∧ reported.isTerminal

/-- The history is made by its calls, and each status that is written, or would be now, is reported. -/
structure Recorded (stored : List JobHistoryEntry) (tracked : App × HistoryLog) : Prop where
  entries : tracked.1.entries = tracked.2.calls.foldl HistoryCall.apply stored
  written : ∀ jobId status author, .updateStatus jobId status author ∈ tracked.2.calls →
    Reported jobId status author
  pending : ∀ jobId status, tracked.1.effect = some (jobId, status) →
    Reported jobId status tracked.2.author

/-- A settled status comes from the job that is shown, or repeats what was rendered last. -/
def Attributed (app : App) : AppLabel → Prop
  | .hook (.submitFailed _ _) _ => ∀ shown, app.submission.jobId = some shown →
      (some shown, .submitError) = app.rendered
  | .hook label _ => ∀ shown, app.submission.jobId = some shown →
      ∀ outcome, app.submission.fetchOutcome? label = some outcome →
      ∀ status, outcome.shows = some status → status.isTerminal →
        outcome.jobId = shown ∨ (some shown, .job status) = app.rendered
  | .render => True

end HistoryLog

/-! ## Steps of the client -/

namespace App

variable {app next : App} {label : HookLabel} {now : Timestamp}

/-- What the effect writes is what is shown, where that is settled and was not rendered before. -/
theorem effect_eq_some {jobId : JobId} {status : UiStatus} :
    app.effect = some (jobId, status) ↔
      app.submission.jobId = some jobId ∧ app.submission.status = status ∧ settled status ∧
        (some jobId, status) ≠ app.rendered := by
  -- The test of the dependencies comes first, and then that of the status.
  unfold effect
  constructor
  · intro writes
    split at writes
    · cases writes
    · next changed =>
      obtain ⟨shown, same, settles⟩ := Option.bind_eq_some_iff.mp writes
      rw [Option.ite_none_right_eq_some] at settles
      obtain ⟨settles, pair⟩ := settles
      obtain ⟨rfl, rfl⟩ := Prod.mk.inj (Option.some.inj pair)
      exact ⟨same, rfl, settles, same ▸ changed⟩
  · rintro ⟨same, rfl, settles, changed⟩
    rw [same, if_neg changed, Option.bind_some, if_pos settles]

/-- A step of the hook within the client. -/
theorem step_hook (stepped : app.step (.hook label now) = some next) :
    app.submission.step label = some next.submission ∧
      next.entries = ((app.submittedEntry label).toList.map fun entry =>
        HistoryCall.addEntry entry.1 entry.2 now).foldl HistoryCall.apply app.entries ∧
      next.rendered = app.rendered := by
  simp only [step, Option.ite_none_left_eq_some, Option.map_eq_some_iff] at stepped
  obtain ⟨-, submission, moved, rfl⟩ := stepped
  refine ⟨moved, ?_, rfl⟩
  -- The entry of a new job is added in the same step.
  cases app.submittedEntry label with
  | none => rfl
  | some entry => rfl

end App

namespace HistoryLog

variable {app next : App} {label : HookLabel} {now : Timestamp} {log : HistoryLog}
  {stored : List JobHistoryEntry}

/-- What is not settled is not written. -/
theorem pending_of_unsettled {author : Author} (unsettled : App.settled next.submission.status = false)
    (jobId : JobId) (status : UiStatus) (writes : next.effect = some (jobId, status)) :
    Reported jobId status author := by
  obtain ⟨-, rfl, settles, -⟩ := App.effect_eq_some.mp writes
  rw [unsettled] at settles
  cases settles

/-- What would be written is the same where the same is shown. -/
theorem pending_of_same (recorded : Recorded stored (app, log))
    (jobId : next.submission.jobId = app.submission.jobId)
    (status : next.submission.status = app.submission.status) (rendered : next.rendered = app.rendered)
    (jobId' : JobId) (status' : UiStatus) (writes : next.effect = some (jobId', status')) :
    Reported jobId' status' log.author := by
  refine recorded.pending jobId' status' ?_
  rw [App.effect_eq_some] at writes ⊢
  rwa [← jobId, ← status, ← rendered]

/-- A line of output leaves the status as it is, or makes it RUNNING. -/
theorem afterFrame_cases (status : UiStatus) (frame : Frame) :
    status.afterFrame frame = status ∨ status.afterFrame frame = .job .running := by
  unfold UiStatus.afterFrame UiStatus.started
  split
  · exact .inl rfl
  · split
    · exact .inr rfl
    · exact .inl rfl

/-- A reported status is of the job that is shown exactly where a render would write it for its own. -/
theorem reported_attributed_iff (owner : JobId) {reported : SubmissionStatus}
    (shownJob : next.submission.jobId = app.submission.jobId)
    (shown : next.submission.status = .job reported) (rendered : next.rendered = app.rendered) :
    (∀ jobId, app.submission.jobId = some jobId → reported.isTerminal →
      owner = jobId ∨ (some jobId, .job reported) = app.rendered) ↔
      ∀ jobId status, next.effect = some (jobId, status) →
        Reported jobId status (.fetch owner reported) := by
  constructor
  · intro attributed jobId status writes
    obtain ⟨showing, same, settles, changed⟩ := App.effect_eq_some.mp writes
    obtain rfl : status = .job reported := same.symm.trans shown
    have terminal : reported.isTerminal := by simpa [App.settled, UiStatus.isTerminal] using settles
    rcases attributed jobId (shownJob ▸ showing) terminal with own | again
    · exact ⟨reported, by rw [own], rfl, terminal⟩
    · exact absurd (again.trans rendered.symm) changed
  · -- What was not rendered last is written, and so reported for this job.
    intro pending jobId showing terminal
    by_cases again : (some jobId, UiStatus.job reported) = app.rendered
    · exact .inr again
    · have writes : next.effect = some (jobId, .job reported) := App.effect_eq_some.mpr
        ⟨shownJob.trans showing, shown, by simpa [App.settled, UiStatus.isTerminal] using terminal,
          rendered ▸ again⟩
      obtain ⟨_, author, -, -⟩ := pending jobId _ writes
      exact .inl (Author.fetch.inj author).1

/-- The end of a GET is attributed exactly where a render would write what it has shown. -/
theorem outcome_attributed_iff (recorded : Recorded stored (app, log))
    (shownJob : next.submission.jobId = app.submission.jobId)
    (shown : next.submission.status = (((app.submission.fetchOutcome? label).bind
      FetchOutcome.shows).map UiStatus.job).getD app.submission.status)
    (rendered : next.rendered = app.rendered) :
    (∀ jobId, app.submission.jobId = some jobId →
      ∀ outcome, app.submission.fetchOutcome? label = some outcome →
      ∀ status, outcome.shows = some status → status.isTerminal →
        outcome.jobId = jobId ∨ (some jobId, .job status) = app.rendered) ↔
      ∀ jobId status, next.effect = some (jobId, status) → Reported jobId status
        (((app.submission.fetchOutcome? label).bind fun outcome =>
          outcome.shows.map (Author.fetch outcome.jobId)).getD log.author) := by
  -- An outcome that shows no status leaves the one that is pending.
  cases ended : app.submission.fetchOutcome? label with
  | none =>
    rw [ended] at shown
    exact iff_of_true (fun _ _ _ other => by cases other)
      (pending_of_same recorded shownJob shown rendered)
  | some outcome =>
    rw [ended, Option.bind_some] at shown
    cases shows : outcome.shows with
    | none =>
      rw [shows] at shown
      have unchanged := pending_of_same recorded shownJob shown rendered
      simpa [shows] using unchanged
    | some reported =>
      rw [shows] at shown
      have exactly := reported_attributed_iff outcome.jobId shownJob shown rendered
      simpa [shows] using exactly

/-- The failure of a POST is attributed exactly where a render would not write it. -/
theorem failure_attributed_iff (shownJob : next.submission.jobId = app.submission.jobId)
    (shown : next.submission.status = .submitError) (rendered : next.rendered = app.rendered) :
    (∀ jobId, app.submission.jobId = some jobId → (some jobId, .submitError) = app.rendered) ↔
      ∀ jobId status, next.effect = some (jobId, status) → Reported jobId status .submission := by
  -- No author of a failed POST is the end of a GET.
  constructor
  · intro attributed jobId status writes
    obtain ⟨showing, same, -, changed⟩ := App.effect_eq_some.mp writes
    obtain rfl := same.symm.trans shown
    exact absurd ((attributed jobId (shownJob ▸ showing)).trans rendered.symm) changed
  · intro pending jobId showing
    by_contra changed
    have writes : next.effect = some (jobId, .submitError) :=
      App.effect_eq_some.mpr ⟨shownJob.trans showing, shown, rfl, rendered ▸ changed⟩
    obtain ⟨_, author, -, -⟩ := pending jobId _ writes
    cases author

/-- A label of the hook is attributed exactly where a render would write what is reported. -/
theorem attributed_iff_pending (recorded : Recorded stored (app, log))
    (stepped : app.step (.hook label now) = some next) :
    Attributed app (.hook label now) ↔ ∀ jobId status, next.effect = some (jobId, status) →
      Reported jobId status (authorAfter app.submission label log.author) := by
  obtain ⟨moved, -, rendered⟩ := App.step_hook stepped
  obtain ⟨status, jobId, -, -, -⟩ := (SubmissionHook.step_moves moved).shown
  cases label with
  | run request =>
    exact iff_of_true (fun _ _ _ ended => by cases ended)
      (pending_of_unsettled (by rw [status]; rfl))
  | submitted index newJob =>
    exact iff_of_true (fun _ _ _ ended => by cases ended)
      (pending_of_unsettled (by rw [status]; rfl))
  | submitFailed index message => exact failure_attributed_iff jobId status rendered
  | message _ frame =>
    refine iff_of_true (fun _ _ _ ended => by cases ended) ?_
    -- A line makes the status RUNNING at most, which no effect writes.
    rcases afterFrame_cases app.submission.status frame with same | running
    · exact pending_of_same recorded jobId (status.trans same) rendered
    · exact pending_of_unsettled (by rw [status.trans running]; rfl)
  | _ => exact outcome_attributed_iff recorded jobId status rendered

/-- A step keeps the history recorded exactly where it is attributed. -/
theorem recorded_iff {label : AppLabel} (recorded : Recorded stored (app, log))
    (stepped : app.step label = some next) :
    Attributed app label ↔ Recorded stored (next, log.track app label) := by
  cases label with
  | hook label now =>
    obtain ⟨-, entries, -⟩ := App.step_hook stepped
    rw [attributed_iff_pending recorded stepped]
    constructor
    · -- The calls so far are kept, and `addEntry` writes no status.
      intro pending
      refine ⟨?_, fun jobId status author member => ?_, pending⟩
      · simp only [track, List.foldl_append, ← recorded.entries, entries]
      · rcases List.mem_append.mp member with old | new
        · exact recorded.written jobId status author old
        · obtain ⟨_, -, other⟩ := List.mem_map.mp new
          cases other
    · exact Recorded.pending
  | render =>
    obtain rfl := Option.some.inj stepped
    have unchanged : app.render.effect = none := by simp [App.effect, App.render]
    refine iff_of_true trivial ⟨?_, fun jobId status author member => ?_, fun jobId status writes => ?_⟩
    · simp only [track, List.foldl_append, ← recorded.entries, App.render]
      cases app.effect with
      | none => rfl
      | some write => rfl
    · rcases List.mem_append.mp member with old | new
      · exact recorded.written jobId status author old
      · -- The write is the one that was pending.
        obtain ⟨write, pending, same⟩ := List.mem_map.mp new
        obtain ⟨rfl, rfl, rfl⟩ := HistoryCall.updateStatus.inj same
        exact recorded.pending _ _ (Option.mem_toList.mp pending)
    · rw [unchanged] at writes
      cases writes

/-- A tracked step keeps the history recorded exactly where it is attributed. -/
theorem recorded_step_iff {tracked after : App × HistoryLog} {label : AppLabel}
    (recorded : Recorded stored tracked)
    (stepped : (webApp.tracking track).step tracked label = some after) :
    Attributed tracked.1 label ↔ Recorded stored after := by
  obtain ⟨moved, ghost⟩ := Machine.tracking_step.mp stepped
  -- The ghost follows the state before the step.
  obtain ⟨next, log⟩ := after
  dsimp only at moved ghost
  rw [ghost]
  exact recorded_iff recorded moved

end HistoryLog

/-! ## The guarantee -/

/--
Along any runs, each status that the effect writes for a job is terminal and was reported for that job
exactly where no settled status comes from elsewhere, unless it repeats what was rendered last.
-/
theorem history_recorded_iff {stored : List JobHistoryEntry} {trace : List AppLabel}
    {tracked : App × HistoryLog}
    (run : (webApp.tracking HistoryLog.track).Runs (fun _ _ => True) (.initial stored, .initial) trace
      tracked) :
    (webApp.tracking HistoryLog.track).Always (.initial stored, .initial) trace
        (HistoryLog.Recorded stored) ↔
      (webApp.tracking HistoryLog.track).Runs (fun tracked label => HistoryLog.Attributed tracked.1 label)
        (.initial stored, .initial) trace tracked := by
  have initial : HistoryLog.Recorded stored (.initial stored, .initial) :=
    ⟨rfl, fun _ _ _ member => (by cases member), fun _ _ writes => (by cases writes)⟩
  -- One step keeps the property exactly if it is an attributed one.
  have exactly := run.always_iff initial fun _ tracked label after _ recorded _ stepped =>
    HistoryLog.recorded_step_iff recorded stepped
  simpa only [true_and] using exactly

/-- A job completes, and the POST behind it fails. -/
def failedPost : List AppLabel := [
  .hook (.run ⟨[0x31], .python⟩) 0,
  .hook (.submitted 0 "first") 1,
  .render,
  .hook (.opened "first") 2,
  .hook (.progress "first" .completed) 3,
  .hook (.closed "first") 4,
  .hook (.read 0 (detailOf "first" .completed)) 5,
  .hook (.replied 0) 6,
  .render,
  .hook (.run ⟨[0x32], .python⟩) 7,
  .render,
  .hook (.submitFailed 0 (some "Request failed with status 503")) 8,
  .render]

/-- The failure ends up in the entry of the job that has completed. -/
theorem failedPost_runs : ∃ tracked,
    (webApp.tracking HistoryLog.track).Runs (fun _ _ => True) (.initial [], .initial) failedPost tracked ∧
    (tracked.1.entries, tracked.2.calls) =
      ([⟨"first", .python, "submit_error", 1⟩],
        [.addEntry "first" .python 1,
          .updateStatus "first" (.job .completed) (.fetch "first" .completed),
          .updateStatus "first" .submitError .submission]) :=
  Machine.runs_of_guardedRun (webApp.tracking HistoryLog.track) _ _ _ _ _ rfl

/-- The equivalence at the failed POST. -/
theorem history_recorded_iff_example : ∃ tracked,
    (webApp.tracking HistoryLog.track).Runs (fun _ _ => True) (.initial [], .initial) failedPost tracked ∧
    ((webApp.tracking HistoryLog.track).Always (.initial [], .initial) failedPost
        (HistoryLog.Recorded []) ↔
      (webApp.tracking HistoryLog.track).Runs (fun tracked label => HistoryLog.Attributed tracked.1 label)
        (.initial [], .initial) failedPost tracked) := by
  obtain ⟨tracked, run, -⟩ := failedPost_runs
  exact ⟨tracked, run, history_recorded_iff run⟩

/-- A later submission that fails may overwrite the entry of an earlier job. -/
theorem history_overwritten : ¬ ∀ stored trace tracked,
    (webApp.tracking HistoryLog.track).Runs (fun _ _ => True) (.initial stored, .initial) trace tracked →
      HistoryLog.Recorded stored tracked := by
  intro claimed
  obtain ⟨tracked, run, ends⟩ := failedPost_runs
  obtain ⟨-, calls⟩ := Prod.mk.inj ends
  obtain ⟨_, author, -, -⟩ := (claimed _ _ _ run).written "first" .submitError .submission (by simp [calls])
  cases author

end CodeExecution

import CodeExecution.Proofs.Views

/-! When what is shown of a run depends on the events of its own job alone. -/

namespace CodeExecution

/-- The job that was submitted last, and what has happened to it. -/
structure Isolation where
  /-- Nothing, from a call of `run` to the reply to a POST. -/
  owner : Option JobId
  /-- Its own events, in their order. -/
  events : List JobEvent
  /-- An event of another job has cleared its timeout or its interval. -/
  disarmed : Bool
  deriving DecidableEq, Repr

namespace Isolation

/-- Before the first call of `run`. -/
def initial : Isolation := ⟨none, [], false⟩

/-- What a label adds. -/
def track (hook : SubmissionHook) (label : HookLabel) (run : Isolation) : Isolation :=
  match label with
  | .run _ => ⟨none, [], false⟩
  | .submitted _ jobId => ⟨some jobId, [], false⟩
  | _ =>
    if hook.subject? label = run.owner then
      { run with events := run.events ++ (hook.event? label).toList }
    else { run with disarmed := run.disarmed || run.owner.any (hook.disarms label) }

/-- What is shown of the last run depends on its own events, and no others have cleared its timers. -/
def Isolated (tracked : SubmissionHook × Isolation) : Prop :=
  ∀ own, tracked.2.owner = some own →
    tracked.1.view = .of tracked.2.events ∧ tracked.2.disarmed = false

/-- The outcome of a GET about another job puts nothing new on display. -/
def Unnoticed (hook : SubmissionHook) (outcome : FetchOutcome) : Prop :=
  outcome.result? = none ∧ ∀ status, outcome.shows = some status → hook.status = .job status

/-- The label spares the last run, where it is about another one. -/
def Spares (tracked : SubmissionHook × Isolation) (label : HookLabel) : Prop :=
  match label with
  -- A POST that is replied to finds nothing on display.
  | .submitted _ _ => tracked.1.output = [] ∧ tracked.1.result = none
  -- No POST fails that another call of `run` has sent.
  | .submitFailed _ _ => tracked.2.owner = none
  | _ => ∀ own, tracked.2.owner = some own → tracked.1.subject? label ≠ some own →
    match label with
    -- Another socket closes while neither timer of this job is set.
    | .closed _ | .failed _ =>
      tracked.1.timeoutPending own = false ∧ tracked.1.pollIntervalRef ≠ some own
    -- Another stream sends markers at most, and none of them while the timeout is pending.
    | .message _ (.chunk chunk) =>
      (Frame.chunk chunk).lines = [] ∧ tracked.1.timeoutPending own = false
    | .replied _ | .lost _ =>
      ∀ outcome, tracked.1.fetchOutcome? label = some outcome → Unnoticed tracked.1 outcome
    | _ => True

variable {tracked after : SubmissionHook × Isolation} {hook next : SubmissionHook} {run : Isolation}
  {label : HookLabel} {own : JobId}

/-! ## What holds along every run -/

/-- A server replies about the job that it was asked about. -/
def Addressed (hook : SubmissionHook) : Prop :=
  ∀ fetch ∈ hook.fetches, ∀ detail, fetch.reply = some detail → detail.jobId = fetch.jobId

/-- What holds of the last run whatever the others do. -/
structure Sound (tracked : SubmissionHook × Isolation) : Prop where
  addressed : Addressed tracked.1
  timed : ∀ own, tracked.2.owner = some own → tracked.1.Timed own
  owned : ∀ own, tracked.2.owner = some own → ∀ detail, (View.of tracked.2.events).result = some detail →
    detail.jobId = own

/-- A GET that is ended was awaited, and its outcome is about the same job. -/
theorem outcome_addressed (addressed : Addressed hook) {outcome : FetchOutcome}
    (ended : hook.fetchOutcome? label = some outcome) :
    hook.subject? label = some outcome.jobId ∧
      ∀ detail, outcome.reply = some detail → detail.jobId = outcome.jobId := by
  -- Only the two ends of a GET have an outcome.
  cases label with
  | replied index =>
    simp only [SubmissionHook.fetchOutcome?, Option.bind_eq_some_iff, Option.map_eq_some_iff] at ended
    obtain ⟨fetch, waiting, detail, served, rfl⟩ := ended
    refine ⟨by simp [SubmissionHook.subject?, waiting], fun detail' same => ?_⟩
    obtain rfl := Option.some.inj same
    exact addressed fetch (List.mem_of_getElem? waiting) detail served
  | lost index =>
    simp only [SubmissionHook.fetchOutcome?, Option.map_eq_some_iff] at ended
    obtain ⟨fetch, waiting, rfl⟩ := ended
    exact ⟨by simp [SubmissionHook.subject?, waiting], fun detail same => by simp at same⟩
  | _ => simp [SubmissionHook.fetchOutcome?] at ended

/-- The result on display comes with a reply. -/
theorem reply_of_result {outcome : FetchOutcome} {detail : SubmissionDetail}
    (shown : outcome.result? = some detail) : outcome.reply = some detail := by
  -- Both callers show the reply itself.
  unfold FetchOutcome.result? at shown
  split at shown
  · next served _ => exact served.trans shown
  · next served _ =>
    split at shown
    · exact served.trans shown
    · cases shown
  · cases shown

/-- Every step keeps the replies about the jobs they were asked about. -/
theorem addressed_step (stepped : hook.step label = some next) (addressed : Addressed hook) :
    Addressed next := by
  -- Only `read` fills in a reply, and it names the job of the GET.
  have of_mem {fetches : List Fetch} (same : next.fetches = fetches)
      (known : ∀ fetch ∈ fetches, fetch ∈ hook.fetches ∨ fetch.reply = none) : Addressed next := by
    intro fetch member detail served
    rcases known fetch (same ▸ member) with old | unread
    · exact addressed fetch old detail served
    · rw [unread] at served
      cases served
  cases SubmissionHook.step_moves stepped with
  | run request =>
    obtain ⟨runs, same, -⟩ := hook.run_spec request
    exact of_mem (by rw [same]) fun fetch member => .inl member
  | @message jobId run frame found =>
    cases frame with
    | chunk chunk =>
      obtain ⟨runs, same, -⟩ := hook.onMessage_chunk jobId chunk
      exact of_mem (by rw [same]) fun fetch member => .inl member
    | malformed text => exact addressed
  | closed found | failed found =>
    obtain ⟨runs, same, -⟩ := hook.onClose_spec _
    refine of_mem (by rw [same]) fun fetch member => ?_
    rcases List.mem_append.mp member with old | new
    · exact .inl old
    · exact .inr (by rw [List.mem_singleton.mp new])
  | @timeout jobId run found pending =>
    obtain ⟨runs, interval, same, -⟩ := hook.timeoutFired_spec jobId run
    exact of_mem (by rw [same]) fun fetch member => .inl member
  | interval running =>
    refine of_mem rfl fun fetch member => ?_
    rcases List.mem_append.mp member with old | new
    · exact .inl old
    · exact .inr (by rw [List.mem_singleton.mp new])
  | read waiting named current =>
    -- The server names the job that it was asked about.
    intro fetch member detail served
    rcases List.mem_or_eq_of_mem_set member with old | rfl
    · exact addressed fetch old detail served
    · obtain rfl := Option.some.inj served
      exact named
  | @replied index fetch detail waiting served =>
    obtain ⟨runs, timer, interval, same⟩ :=
      SubmissionHook.fetched_eq { hook with fetches := hook.fetches.eraseIdx index } detail fetch.caller
    exact of_mem (by rw [same]) fun fetch member => .inl (List.mem_of_mem_eraseIdx member)
  | @lost index fetch waiting =>
    have kept : ({ hook with fetches := hook.fetches.eraseIdx index }.fetchFailed fetch.caller).fetches =
        hook.fetches.eraseIdx index := by cases fetch.caller <;> rfl
    exact of_mem kept fun fetch member => .inl (List.mem_of_mem_eraseIdx member)
  | submitted posted fresh | submitFailed message posted => exact addressed
  | opened connecting | progress jobId status => exact addressed

/-- Every step but a new run keeps a pending timeout in the ref. -/
theorem timed_step (stepped : hook.step label = some next) (timed : hook.Timed own)
    (ordinary : SubmissionHook.Ordinary label) : next.Timed own := by
  -- A timeout is cleared together with its ref.
  intro pending
  rcases (SubmissionHook.step_moves stepped).timeouts ordinary own with ⟨ref, was⟩ | cleared
  · exact ref.trans (timed (was pending))
  · rw [cleared, timed.cleared] at pending
    cases pending

/-- An ordinary label leaves the last run what it is, and adds its own events. -/
theorem track_ordinary (ordinary : SubmissionHook.Ordinary label) :
    run.track hook label =
      if hook.subject? label = run.owner then
        { run with events := run.events ++ (hook.event? label).toList }
      else { run with disarmed := run.disarmed || run.owner.any (hook.disarms label) } := by
  cases label with
  | run _ | submitted _ _ => exact ordinary.elim
  | _ => rfl

/-- An ordinary label leaves the last run what it is. -/
theorem track_owner (ordinary : SubmissionHook.Ordinary label) :
    (run.track hook label).owner = run.owner := by
  rw [track_ordinary ordinary]
  split
  · rfl
  · rfl

/-- An event of the last run keeps the result on display its own. -/
theorem owned_after {view : View} {event : JobEvent} (addressed : Addressed hook)
    (owned : ∀ detail, view.result = some detail → detail.jobId = own)
    (about : hook.subject? label = some own) (happened : hook.event? label = some event)
    {detail : SubmissionDetail} (shown : (view.after event).result = some detail) :
    detail.jobId = own := by
  -- The outcome is about the job of its GET, which the label is about.
  cases event with
  | frame frame => exact owned detail shown
  | fetched outcome =>
    have ended : hook.fetchOutcome? label = some outcome := by
      cases label with
      | message _ _ => simp [SubmissionHook.event?] at happened
      | _ => simpa [SubmissionHook.event?] using happened
    obtain ⟨subject, named⟩ := outcome_addressed addressed ended
    obtain rfl : own = outcome.jobId := Option.some.inj (about.symm.trans subject)
    rcases Option.or_eq_some_iff.mp shown with new | ⟨-, old⟩
    · exact named detail (reply_of_result new)
    · exact owned detail old

/-- Every step keeps all of this. -/
theorem Sound.step (sound : Sound (hook, run)) (stepped : hook.step label = some next) :
    Sound (next, run.track hook label) := by
  have addressed := addressed_step stepped sound.addressed
  -- A new call of `run` has no owner, and a new owner has its timeout in the ref.
  by_cases ordinary : SubmissionHook.Ordinary label
  · refine ⟨addressed, fun own owner => ?_, fun own owner detail shown => ?_⟩
    · rw [track_owner ordinary] at owner
      exact timed_step stepped (sound.timed own owner) ordinary
    · rw [track_owner ordinary] at owner
      rw [track_ordinary ordinary] at shown
      split at shown
      · next about =>
        -- Its own events may bring a result, which names the job.
        cases happened : hook.event? label with
        | none =>
          simp only [happened, Option.toList_none, List.append_nil] at shown
          exact sound.owned own owner detail shown
        | some event =>
          simp only [happened, Option.toList_some, View.of_snoc] at shown
          exact owned_after sound.addressed (sound.owned own owner) (about.trans owner) happened shown
      · exact sound.owned own owner detail shown
  · cases label with
    | run request => exact ⟨addressed, nofun, nofun⟩
    | submitted index jobId =>
      refine ⟨addressed, fun own owner _ => ?_, fun own owner detail shown => by cases shown⟩
      obtain rfl : jobId = own := Option.some.inj owner
      cases SubmissionHook.step_moves stepped with
      | submitted posted fresh => rfl
    | _ => exact absurd trivial ordinary

/-! ## Steps -/

/-- An event of the last run is one that its view is made of. -/
theorem isolated_own (moved : hook.Moves label next) (ordinary : SubmissionHook.Ordinary label)
    (isolated : Isolated (hook, run)) (owner : run.owner = some own)
    (about : hook.subject? label = some own) : Isolated (next, run.track hook label) := by
  -- The failure of a POST is about no job.
  have posted : ∀ index message, label ≠ .submitFailed index message := by
    rintro index message rfl
    cases about
  obtain ⟨shown, spared⟩ := isolated own owner
  rw [track_ordinary ordinary, if_pos (about.trans owner.symm)]
  refine fun _ _ => ⟨?_, spared⟩
  rw [moved.view_eq ordinary posted, shown]
  cases hook.event? label with
  | none => simp
  | some event => simp [View.of_snoc]

/-- Any other event has to leave the view and the timers of the last run as they are. -/
theorem isolated_foreign_iff (ordinary : SubmissionHook.Ordinary label)
    (isolated : Isolated (hook, run)) (owner : run.owner = some own)
    (foreign : hook.subject? label ≠ some own) :
    Isolated (next, run.track hook label) ↔
      next.view = hook.view ∧ hook.disarms label own = false := by
  -- The events of the own job are as they were.
  obtain ⟨shown, spared⟩ := isolated own owner
  dsimp only at shown spared
  rw [track_ordinary ordinary, if_neg (fun about => foreign (about.trans owner)), shown]
  constructor
  · intro kept
    obtain ⟨view, disarmed⟩ := kept own owner
    simp only [owner, spared, Option.any_some, Bool.false_or] at disarmed
    exact ⟨view, disarmed⟩
  · rintro ⟨view, disarmed⟩ _ _
    exact ⟨view, by simp [owner, spared, disarmed]⟩

/-- The outcome of a GET about another job is unnoticed exactly where it leaves the view as it is. -/
theorem unnoticed_iff (sound : Sound (hook, run)) (isolated : Isolated (hook, run))
    (owner : run.owner = some own) (foreign : hook.subject? label ≠ some own) {outcome : FetchOutcome}
    (ended : hook.fetchOutcome? label = some outcome) :
    Unnoticed hook outcome ↔ hook.view.after (.fetched outcome) = hook.view := by
  obtain ⟨subject, named⟩ := outcome_addressed sound.addressed ended
  constructor
  · rintro ⟨hidden, status⟩
    cases shows : outcome.shows with
    | none => simp [View.after, hidden, shows]
    | some reported => simp [View.after, hidden, shows, SubmissionHook.view, status reported shows]
  · intro same
    obtain ⟨status, -, result⟩ := View.mk.inj same
    refine ⟨?_, fun reported shows => ?_⟩
    · -- A result on display names its job, which is not the last one.
      cases shown : outcome.result? with
      | none => rfl
      | some detail =>
        rw [shown, Option.some_or] at result
        have displayed : (View.of run.events).result = some detail := by
          rw [← (isolated own owner).1]
          exact result.symm
        have about := named detail (reply_of_result shown)
        exact absurd (subject.trans (congrArg some (about.symm.trans
          (sound.owned own owner detail displayed)))) foreign
    · rw [shows] at status
      exact status.symm

/-- A label that is calm and changes no view spares the last run. -/
theorem isolated_of_calm (stepped : hook.step label = some next)
    (ordinary : SubmissionHook.Ordinary label) (isolated : Isolated (hook, run))
    (owner : run.owner = some own) (foreign : hook.subject? label ≠ some own)
    (calm : hook.Calm own label) (view : next.view = hook.view) :
    Isolated (next, run.track hook label) :=
  (isolated_foreign_iff ordinary isolated owner foreign).mpr
    ⟨view, SubmissionHook.disarms_of_calm stepped calm⟩

/-- The close of another socket. -/
theorem closed_iff (sound : Sound (hook, run)) (stepped : hook.step label = some next)
    (isolated : Isolated (hook, run)) (owner : run.owner = some own)
    (foreign : hook.subject? label ≠ some own) {jobId : JobId}
    (closes : label = .closed jobId ∨ label = .failed jobId) :
    (hook.timeoutPending own = false ∧ hook.pollIntervalRef ≠ some own) ↔
      Isolated (next, run.track hook label) := by
  -- A close shows nothing, and clears both timers.
  have ordinary : SubmissionHook.Ordinary label := by rcases closes with rfl | rfl <;> trivial
  have view : next.view = hook.view := by
    rw [(SubmissionHook.step_moves stepped).view_eq ordinary (by rcases closes with rfl | rfl <;> simp)]
    rcases closes with rfl | rfl <;> rfl
  rw [isolated_foreign_iff ordinary isolated owner foreign,
    SubmissionHook.disarms_of_closed stepped (sound.timed own owner) closes]
  simp [view]

/-- A chunk of another stream. -/
theorem chunk_iff (sound : Sound (hook, run)) {jobId : JobId} {chunk : StreamChunk}
    (stepped : hook.step (.message jobId (.chunk chunk)) = some next)
    (isolated : Isolated (hook, run)) (owner : run.owner = some own)
    (foreign : hook.subject? (.message jobId (.chunk chunk)) ≠ some own) :
    ((Frame.chunk chunk).lines = [] ∧ hook.timeoutPending own = false) ↔
      Isolated (next, run.track hook (.message jobId (.chunk chunk))) := by
  have ordinary : SubmissionHook.Ordinary (.message jobId (.chunk chunk)) := trivial
  rw [isolated_foreign_iff ordinary isolated owner foreign,
    SubmissionHook.disarms_of_chunk stepped (sound.timed own owner),
    (SubmissionHook.step_moves stepped).view_eq ordinary (by simp)]
  refine and_congr_left fun _ => ?_
  -- The output stays as it is only where nothing is added to it.
  constructor
  · intro silent
    simp [SubmissionHook.event?, View.after, SubmissionHook.view, silent, UiStatus.afterFrame]
  · intro same
    exact List.append_right_eq_self.mp (View.mk.inj same).2.1

/-- The end of a GET about another job. -/
theorem outcome_iff (sound : Sound (hook, run)) (stepped : hook.step label = some next)
    (isolated : Isolated (hook, run)) (owner : run.owner = some own)
    (foreign : hook.subject? label ≠ some own) {index : Nat}
    (ends : label = .replied index ∨ label = .lost index) {outcome : FetchOutcome}
    (ended : hook.fetchOutcome? label = some outcome) :
    Unnoticed hook outcome ↔ Isolated (next, run.track hook label) := by
  have ordinary : SubmissionHook.Ordinary label := by rcases ends with rfl | rfl <;> trivial
  have happened : hook.event? label = some (.fetched outcome) := by
    rcases ends with rfl | rfl <;> simp [SubmissionHook.event?, ended]
  have view : next.view = hook.view.after (.fetched outcome) := by
    rw [(SubmissionHook.step_moves stepped).view_eq ordinary (by rcases ends with rfl | rfl <;> simp),
      happened]
    rfl
  rw [isolated_foreign_iff ordinary isolated owner foreign, view,
    ← unnoticed_iff sound isolated owner foreign ended]
  -- Only an outcome that shows its result clears a timer.
  refine ⟨fun unnoticed => ⟨unnoticed, SubmissionHook.disarms_of_calm stepped ?_⟩, And.left⟩
  rcases ends with rfl | rfl
  · intro outcome' ended'
    obtain rfl := Option.some.inj (ended.symm.trans ended')
    exact unnoticed.1
  · trivial

/-- A GET that is ended has an outcome. -/
theorem exists_outcome (stepped : hook.step label = some next) {index : Nat}
    (ends : label = .replied index ∨ label = .lost index) :
    ∃ outcome, hook.fetchOutcome? label = some outcome := by
  -- A reply shows its detail, and a lost request shows that there is none.
  rcases ends with rfl | rfl
  · cases SubmissionHook.step_moves stepped with
    | @replied _ fetch detail waiting served =>
      exact ⟨⟨fetch.jobId, fetch.caller, some detail⟩, by
        simp [SubmissionHook.fetchOutcome?, waiting, served]⟩
  · cases SubmissionHook.step_moves stepped with
    | @lost _ fetch waiting =>
      exact ⟨⟨fetch.jobId, fetch.caller, none⟩, by simp [SubmissionHook.fetchOutcome?, waiting]⟩

/-- The failure of a POST puts an error on display, which no job has. -/
theorem submitFailed_iff {index : Nat} {message : Option String}
    (stepped : hook.step (.submitFailed index message) = some next) (isolated : Isolated (hook, run)) :
    run.owner = none ↔ Isolated (next, run.track hook (.submitFailed index message)) := by
  have ordinary : SubmissionHook.Ordinary (.submitFailed index message) := trivial
  constructor
  · -- Without an owner nothing is asked.
    intro none_ own owner
    rw [track_owner ordinary, none_] at owner
    cases owner
  · intro kept
    by_contra some_
    obtain ⟨own, owner⟩ := Option.ne_none_iff_exists'.mp some_
    have foreign : hook.subject? (.submitFailed index message) ≠ some own := by
      simp [SubmissionHook.subject?]
    obtain ⟨view, -⟩ := (isolated_foreign_iff ordinary isolated owner foreign).mp kept
    -- The view that is left is that of a job.
    obtain ⟨status, shown⟩ := View.of_status run.events
    have error : next.view.status = .submitError := (SubmissionHook.step_moves stepped).shown.status
    rw [view, (isolated own owner).1, shown] at error
    cases error

/-- The reply to a POST shows a job of which nothing is known yet. -/
theorem submitted_iff {index : Nat} {jobId : JobId}
    (stepped : hook.step (.submitted index jobId) = some next) :
    (hook.output = [] ∧ hook.result = none) ↔
      Isolated (next, run.track hook (.submitted index jobId)) := by
  -- The status is PENDING in any case, and the rest is as it was.
  have view : next.view = ⟨.job .pending, hook.output, hook.result⟩ := by
    cases SubmissionHook.step_moves stepped with
    | submitted posted fresh => rfl
  constructor
  · rintro ⟨output, result⟩ own _
    rw [view, output, result]
    exact ⟨rfl, rfl⟩
  · intro isolated
    obtain ⟨shown, -⟩ := isolated jobId rfl
    rw [view] at shown
    exact ⟨(View.mk.inj shown).2.1, (View.mk.inj shown).2.2⟩

/-- A step keeps the last run isolated exactly where it spares it. -/
theorem spares_iff (sound : Sound (hook, run)) (stepped : hook.step label = some next)
    (isolated : Isolated (hook, run)) :
    Spares (hook, run) label ↔ Isolated (next, run.track hook label) := by
  have moved := SubmissionHook.step_moves stepped
  -- Where an event of another job is harmless exactly under a condition, so is the label.
  have foreign_iff (ordinary : SubmissionHook.Ordinary label) {harmless : JobId → Prop}
      (exactly : ∀ own, run.owner = some own → hook.subject? label ≠ some own →
        (harmless own ↔ Isolated (next, run.track hook label))) :
      (∀ own, run.owner = some own → hook.subject? label ≠ some own → harmless own) ↔
        Isolated (next, run.track hook label) := by
    constructor
    · intro spares own owner
      rw [track_owner ordinary] at owner
      by_cases about : hook.subject? label = some own
      · exact isolated_own moved ordinary isolated owner about own ((track_owner ordinary).trans owner)
      · exact (exactly own owner about).mp (spares own owner about) own
          ((track_owner ordinary).trans owner)
    · intro kept own owner foreign
      exact (exactly own owner foreign).mpr kept
  -- An event that changes neither view nor timers is harmless.
  have calm_iff (ordinary : SubmissionHook.Ordinary label)
      (calm : ∀ own, hook.subject? label ≠ some own → hook.Calm own label) (view : next.view = hook.view) :
      (∀ own, run.owner = some own → hook.subject? label ≠ some own → True) ↔
        Isolated (next, run.track hook label) :=
    foreign_iff ordinary fun own owner foreign =>
      iff_of_true trivial (isolated_of_calm stepped ordinary isolated owner foreign (calm own foreign) view)
  -- The outcome of a GET is harmless where its status is not noticed.
  have outcomes_iff {index : Nat} (ends : label = .replied index ∨ label = .lost index) :
      (∀ own, run.owner = some own → hook.subject? label ≠ some own →
        ∀ outcome, hook.fetchOutcome? label = some outcome → Unnoticed hook outcome) ↔
        Isolated (next, run.track hook label) := by
    obtain ⟨outcome, ended⟩ := exists_outcome stepped ends
    refine foreign_iff (by rcases ends with rfl | rfl <;> trivial) fun own owner foreign => ?_
    rw [← outcome_iff sound stepped isolated owner foreign ends ended]
    simp [ended]
  have view_eq := moved.view_eq
  cases label with
  | run request => exact iff_of_true (fun _ _ _ => trivial) fun own owner => by cases owner
  | submitted index jobId => exact submitted_iff stepped
  | submitFailed index message => exact submitFailed_iff stepped isolated
  | opened jobId => exact calm_iff trivial (fun _ _ => trivial) (view_eq trivial (by simp))
  | message jobId frame =>
    cases frame with
    | chunk chunk =>
      exact foreign_iff trivial fun own owner foreign =>
        chunk_iff sound stepped isolated owner foreign
    | malformed text =>
      refine calm_iff trivial (fun _ _ => trivial) ((view_eq trivial (by simp)).trans ?_)
      simp [SubmissionHook.event?, View.after, SubmissionHook.view, Frame.lines, UiStatus.afterFrame]
  | closed jobId =>
    exact foreign_iff trivial fun own owner foreign =>
      closed_iff sound stepped isolated owner foreign (.inl rfl)
  | failed jobId =>
    exact foreign_iff trivial fun own owner foreign =>
      closed_iff sound stepped isolated owner foreign (.inr rfl)
  | timeout jobId =>
    exact calm_iff trivial (fun own foreign same => foreign (congrArg some same)) (view_eq trivial (by simp))
  | interval => exact calm_iff trivial (fun _ _ => trivial) (view_eq trivial (by simp))
  | progress jobId status => exact calm_iff trivial (fun _ _ => trivial) (view_eq trivial (by simp))
  | read index detail => exact calm_iff trivial (fun _ _ => trivial) (view_eq trivial (by simp))
  | replied index => exact outcomes_iff (.inl rfl)
  | lost index => exact outcomes_iff (.inr rfl)

/-- A tracked step keeps the last run isolated exactly where it spares it. -/
theorem spares_step_iff (sound : Sound tracked)
    (stepped : (useSubmission.tracking track).step tracked label = some after)
    (isolated : Isolated tracked) : Spares tracked label ↔ Isolated after := by
  obtain ⟨moved, ghost⟩ := Machine.tracking_step.mp stepped
  obtain ⟨next, run⟩ := after
  dsimp only at moved ghost
  rw [ghost]
  exact spares_iff sound moved isolated

/-- All of this holds after every run. -/
theorem sound_run {allowed : SubmissionHook × Isolation → HookLabel → Prop} {trace : List HookLabel}
    (run : (useSubmission.tracking track).Runs allowed (.initial, .initial) trace tracked) :
    Sound tracked := by
  refine run.preserves Sound ⟨fun _ member => (by cases member), nofun, nofun⟩ ?_
  -- The ghost moves with the hook, whatever steps are allowed.
  intro _ label after sound _ stepped
  obtain ⟨moved, ghost⟩ := Machine.tracking_step.mp stepped
  obtain ⟨next, run⟩ := after
  dsimp only at moved ghost
  rw [ghost]
  exact sound.step moved

end Isolation

/-! ## The guarantee -/

/--
Along any calls of `run`, what is shown of the last job submitted comes from its own events, and
no other ones clear its timers, exactly where every event of another run spares it.
-/
theorem run_isolated_iff {trace : List HookLabel} {tracked : SubmissionHook × Isolation}
    (run : (useSubmission.tracking Isolation.track).Runs (fun _ _ => True) (.initial, .initial) trace
      tracked) :
    (useSubmission.tracking Isolation.track).Always (.initial, .initial) trace Isolation.Isolated ↔
      (useSubmission.tracking Isolation.track).Runs Isolation.Spares (.initial, .initial) trace
        tracked := by
  have initial : Isolation.Isolated (.initial, .initial) := nofun
  -- One step keeps the runs apart exactly if it spares the last job, which the ghost tells.
  have exactly := run.always_iff initial fun _ tracked label after earlier isolated _ stepped =>
    Isolation.spares_step_iff (Isolation.sound_run earlier) stepped isolated
  simpa only [true_and] using exactly

/-- A poll reports COMPLETED while the socket is open; a new run closes it, and its `close` comes late. -/
def lateClose : List HookLabel := [
  .run ⟨[0x31], .python⟩,
  .submitted 0 "first",
  .opened "first",
  .timeout "first",
  .interval,
  .progress "first" .completed,
  .read 0 (detailOf "first" .completed),
  .replied 0,
  .run ⟨[0x32], .python⟩,
  .submitted 0 "second",
  .closed "first",
  .read 0 (detailOf "first" .completed),
  .replied 0]

/-- The late close ends with the result of the first job on display, and no timer for the second one. -/
theorem lateClose_runs : ∃ tracked,
    (useSubmission.tracking Isolation.track).Runs (fun _ _ => True) (.initial, .initial) lateClose
      tracked ∧
    (tracked.2.owner, tracked.1.result, tracked.1.status, tracked.2.disarmed) =
      (some "second", some (detailOf "first" .completed), .job .completed, true) :=
  Machine.runs_of_guardedRun (useSubmission.tracking Isolation.track) _ _ _ _ _ rfl

/-- The equivalence at the late close. -/
theorem run_isolated_iff_example : ∃ tracked,
    (useSubmission.tracking Isolation.track).Runs (fun _ _ => True) (.initial, .initial) lateClose
      tracked ∧
    ((useSubmission.tracking Isolation.track).Always (.initial, .initial) lateClose Isolation.Isolated ↔
      (useSubmission.tracking Isolation.track).Runs Isolation.Spares (.initial, .initial) lateClose
        tracked) := by
  obtain ⟨tracked, run, -⟩ := lateClose_runs
  exact ⟨tracked, run, run_isolated_iff run⟩

/-- A new run may show the result of the previous job, and lose its fallback timeout to it. -/
theorem run_disturbed : ¬ ∀ trace tracked,
    (useSubmission.tracking Isolation.track).Runs (fun _ _ => True) (.initial, .initial) trace tracked →
      Isolation.Isolated tracked := by
  intro claimed
  -- The late close of the first socket has cleared the timeout of the second job.
  obtain ⟨tracked, run, ends⟩ := lateClose_runs
  simp only [Prod.mk.injEq] at ends
  obtain ⟨owner, -, -, disarmed⟩ := ends
  have kept := (claimed _ _ run _ owner).2
  rw [disarmed] at kept
  cases kept

end CodeExecution

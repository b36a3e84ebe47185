import CodeExecution.Proofs.Submissions

/-! When the terminal status of a job stays on display, whatever order its replies come in. -/

namespace CodeExecution

open SubmissionHook

/-- A status of the server may be followed by this one: PENDING, RUNNING, and then one terminal status. -/
def SubmissionStatus.mayBecome : SubmissionStatus → SubmissionStatus → Bool
  | .pending, _ => true
  | .running, later => later ≠ .pending
  | status, later => later = status

/-- The hook is run for one job, whose status on the server is monotone. -/
def OneJob (hook : SubmissionHook) : HookLabel → Prop
  | .run _ => hook.status = .idle
  | .progress jobId status => (hook.rows jobId).mayBecome status
  | _ => True

instance (hook : SubmissionHook) (label : HookLabel) : Decidable (OneJob hook label) := by
  cases label <;> unfold OneJob <;> infer_instance

/-- Along some labels, a terminal status on display is never set back to PENDING or RUNNING. -/
def NeverSetBack (trace : List HookLabel) : Prop :=
  -- The two states are any two along the labels, the earlier one first.
  ∀ earlier later first second, earlier <+: later → later <+: trace →
    useSubmission.Runs (fun _ _ => True) .initial earlier first →
    useSubmission.Runs (fun _ _ => True) .initial later second →
    first.status.isTerminal → ¬ second.status.isLive

/-- The outcome puts a terminal status on display. -/
def FetchOutcome.settles (outcome : FetchOutcome) : Bool :=
  outcome.shows.any SubmissionStatus.isTerminal

/-- The outcome puts PENDING or RUNNING on display. -/
def FetchOutcome.unsettles (outcome : FetchOutcome) : Bool :=
  outcome.shows.any fun status => !status.isTerminal

/-- The outcomes of the GETs along some labels, in the order in which they arrive. -/
def arrivals (trace : List HookLabel) : List FetchOutcome :=
  useSubmission.observe (fun hook label => (hook.fetchOutcome? label).toList) .initial trace

/-- No PENDING or RUNNING reply arrives behind a terminal reply or a failed finalize fetch. -/
def NoneStale (outcomes : List FetchOutcome) : Prop :=
  outcomes.Pairwise fun earlier later => earlier.settles → later.unsettles = false

namespace SubmissionHook

variable {hook next : SubmissionHook} {label : HookLabel} {trace : List HookLabel}

/-! ## The stages of one job -/

/-- Before the reply to its POST a job has nothing that could report on it. -/
structure Unsubmitted (hook : SubmissionHook) : Prop where
  status : ∀ status, hook.status ≠ .job status
  once : hook.status = .idle → hook.posts = []
  posts : hook.posts.length ≤ 1
  runs : ∀ jobId, hook.runs jobId = none
  interval : hook.pollIntervalRef = none
  fetches : hook.fetches = []

/-- Behind the reply to its POST there is no other one. -/
structure Submitted (hook : SubmissionHook) : Prop where
  status : ∃ status, hook.status = .job status
  posts : hook.posts = []

/-- A hook that is run for one job is in one of two stages. -/
def Staged (hook : SubmissionHook) : Prop :=
  hook.Unsubmitted ∨ hook.Submitted

/-- The status of a job stays the status of a job, unless the hook is run again. -/
theorem statusAfter_job {status : SubmissionStatus} (shown : hook.status = .job status)
    (ran : ∀ request, label ≠ .run request)
    (posted : ∀ index message, label ≠ .submitFailed index message) :
    ∃ status, hook.statusAfter label = .job status := by
  -- A GET shows a status of a job, and a line at most moves PENDING to RUNNING.
  have kept : ∃ status', (((hook.fetchOutcome? label).bind FetchOutcome.shows).map
      UiStatus.job).getD hook.status = .job status' := by
    cases (hook.fetchOutcome? label).bind FetchOutcome.shows with
    | none => exact ⟨status, shown⟩
    | some reported => exact ⟨reported, rfl⟩
  cases label with
  | run request => exact absurd rfl (ran request)
  | submitted index jobId => exact ⟨.pending, rfl⟩
  | submitFailed index message => exact absurd rfl (posted index message)
  | message jobId frame =>
    simp only [statusAfter, UiStatus.afterFrame, UiStatus.started, shown]
    split
    · exact ⟨status, rfl⟩
    · split
      · exact ⟨.running, rfl⟩
      · exact ⟨status, rfl⟩
  | _ => exact kept

/-- Without a POST there is no reply to one. -/
theorem Moves.not_submitted (moved : hook.Moves label next) (none_ : hook.posts = []) (index : Nat)
    (jobId : JobId) : label ≠ .submitted index jobId := by
  rintro rfl
  cases moved with
  | submitted posted fresh => simp [none_] at posted

/-- Behind the reply to its POST a job that is run alone stays there. -/
theorem Moves.stays_submitted (moved : hook.Moves label next) (one : OneJob hook label)
    (after : hook.Submitted) : next.Submitted := by
  -- The call of `run` is not repeated, and no POST is awaited any more.
  obtain ⟨status, showing⟩ := after.status
  have ran : ∀ request, label ≠ .run request := by
    rintro request rfl
    exact absurd (showing.symm.trans one) (by simp)
  have failed : ∀ index message, label ≠ .submitFailed index message := by
    rintro index message rfl
    cases moved with
    | submitFailed message posted => simp [after.posts] at posted
  have replied := moved.not_submitted after.posts
  refine ⟨?_, ?_⟩
  · rw [moved.shown.status]
    exact statusAfter_job showing ran failed
  · rw [moved.shown.posts]
    unfold postsAfter
    split
    · exact absurd rfl (ran _)
    · exact absurd rfl (replied _ _)
    · exact absurd rfl (failed _ _)
    · exact after.posts

/-- A hook that is run for one job stays in its two stages. -/
theorem Moves.staged (moved : hook.Moves label next) (one : OneJob hook label)
    (staged : hook.Staged) : next.Staged := by
  rcases staged with before | after
  · -- Only the call of `run` and the end of its POST are possible.
    cases moved with
    | run request =>
      obtain ⟨runs, same, absent⟩ := hook.run_spec request
      rw [same]
      exact .inl ⟨nofun, nofun, by simp [before.once one], fun _ => absent _ (before.runs _), rfl,
        before.fetches⟩
    | @submitted index jobId posted fresh =>
      -- The POST that is replied to was the only one.
      refine .inr ⟨⟨.pending, rfl⟩, List.length_eq_zero_iff.mp ?_⟩
      have one_ := before.posts
      simp only [SubmissionHook.submitted, List.length_eraseIdx_of_lt posted]
      omega
    | @submitFailed index message posted =>
      refine .inl ⟨nofun, nofun, ?_, before.runs, before.interval, before.fetches⟩
      have one_ := before.posts
      simp only [SubmissionHook.submitFailed, List.length_eraseIdx_of_lt posted]
      omega
    | opened connecting => simp [socketOf, before.runs] at connecting
    | message frame found | closed found | failed found => exact absurd found (by simp [before.runs])
    | timeout found pending => exact absurd found (by simp [before.runs])
    | interval running => exact absurd running (by simp [before.interval])
    | progress jobId status =>
      exact .inl ⟨before.status, before.once, before.posts, before.runs, before.interval, before.fetches⟩
    | read waiting named current => simp [before.fetches] at waiting
    | replied waiting served => simp [before.fetches] at waiting
    | lost waiting => simp [before.fetches] at waiting
  · exact .inr (moved.stays_submitted one after)

/-- Every run for one job is staged. -/
theorem staged_run (run : useSubmission.Runs OneJob .initial trace hook) : hook.Staged := by
  refine run.preserves Staged (.inl ⟨nofun, fun _ => rfl, Nat.zero_le 1, fun _ => rfl, rfl, rfl⟩) ?_
  exact fun _ _ _ staged one stepped => (step_moves stepped).staged one staged

/-- One more label adds the outcome of the GET that it ends. -/
theorem arrivals_snoc {allowed : SubmissionHook → HookLabel → Prop}
    (run : useSubmission.Runs allowed .initial trace hook) (stepped : hook.step label = some next) :
    arrivals (trace ++ [label]) = arrivals trace ++ (hook.fetchOutcome? label).toList :=
  Machine.observe_snoc run stepped

/-- Before the reply to its POST no outcome has arrived. -/
theorem arrivals_unsubmitted (run : useSubmission.Runs OneJob .initial trace hook)
    (before : hook.Unsubmitted) : arrivals trace = [] := by
  refine run.preserves_trace (fun trace hook => hook.Unsubmitted → arrivals trace = [])
    (fun _ => rfl) ?_ before
  intro trace hook label next earlier none_ one stepped before'
  rcases staged_run earlier with before | after
  · -- Without a GET there is no outcome.
    have silent : hook.fetchOutcome? label = none := by
      cases label <;> simp [fetchOutcome?, before.fetches]
    rw [arrivals_snoc earlier stepped, none_ before, silent]
    rfl
  · obtain ⟨status, showing⟩ := ((step_moves stepped).stays_submitted one after).status
    exact absurd showing (before'.status status)

/-! ## What an outcome puts on display -/

/-- A line of output makes no status terminal or live, and ends neither. -/
theorem afterFrame_kind (status : UiStatus) (frame : Frame) :
    (status.afterFrame frame).isTerminal = status.isTerminal ∧
      (status.afterFrame frame).isLive = status.isLive := by
  -- PENDING and RUNNING are both live, and neither is terminal.
  unfold UiStatus.afterFrame UiStatus.started
  split
  · exact ⟨rfl, rfl⟩
  · split
    · next pending =>
      subst pending
      exact ⟨rfl, rfl⟩
    · exact ⟨rfl, rfl⟩

/-- A status gets a property, which the one before has not, from an outcome that shows one with it. -/
theorem fetched_kind (label : HookLabel) (kind : UiStatus → Bool)
    (before : kind hook.status = false) :
    kind ((((hook.fetchOutcome? label).bind FetchOutcome.shows).map UiStatus.job).getD hook.status) =
      (hook.fetchOutcome? label).any fun outcome => outcome.shows.any fun status => kind (.job status) := by
  -- Without an outcome, or with one that shows nothing, the status stays as it was.
  cases hook.fetchOutcome? label with
  | none => exact before
  | some outcome =>
    cases shows : outcome.shows with
    | none => simp [shows, before]
    | some status => simp [shows]

/-- A status becomes terminal by an outcome that settles it. -/
theorem statusAfter_isTerminal (open_ : hook.status.isTerminal = false) :
    (hook.statusAfter label).isTerminal = (hook.fetchOutcome? label).any FetchOutcome.settles := by
  have fetched := fetched_kind label UiStatus.isTerminal open_
  cases label with
  | message jobId frame => exact ((afterFrame_kind _ _).1).trans open_
  | run _ | submitted _ _ | submitFailed _ _ => rfl
  | _ => exact fetched

/-- Behind its POST, a status becomes live by an outcome that unsettles it. -/
theorem statusAfter_isLive (settled : hook.status.isLive = false)
    (replied : ∀ index jobId, label ≠ .submitted index jobId) :
    (hook.statusAfter label).isLive = (hook.fetchOutcome? label).any FetchOutcome.unsettles := by
  have fetched := fetched_kind label UiStatus.isLive settled
  -- Only a reply can show a status that is not final.
  cases label with
  | message jobId frame => exact ((afterFrame_kind _ _).2).trans settled
  | submitted index jobId => exact absurd rfl (replied index jobId)
  | run _ | submitFailed _ _ => rfl
  | _ => exact fetched

end SubmissionHook

/-! ## The guarantee -/

section

variable {trace : List HookLabel} {hook next : SubmissionHook} {label : HookLabel}

/-- A status that is terminal is not live. -/
theorem UiStatus.isLive_of_isTerminal {status : UiStatus} (terminal : status.isTerminal) :
    status.isLive = false := by
  cases status with
  | job status => simpa [UiStatus.isLive, UiStatus.isTerminal] using terminal
  | _ => rfl

/-- No terminal status has been on display along some labels. -/
def NoneTerminal (trace : List HookLabel) : Prop :=
  useSubmission.Always .initial trace fun hook => hook.status.isTerminal = false

/-- Without a terminal status along the labels there is nothing to set back. -/
theorem exists_terminal (some_ : ¬ NoneTerminal trace) : ∃ earlier first, earlier <+: trace ∧
    useSubmission.Runs (fun _ _ => True) .initial earlier first ∧ first.status.isTerminal := by
  by_contra none_
  refine some_ fun earlier first before run => ?_
  by_contra terminal
  exact none_ ⟨earlier, first, before, run, by simpa using terminal⟩

/-- One more label may set the status back only where a terminal one has been on display. -/
theorem neverSetBack_snoc (run : useSubmission.Runs OneJob .initial trace hook)
    (stepped : hook.step label = some next) :
    NeverSetBack (trace ++ [label]) ↔
      NeverSetBack trace ∧ (¬ NoneTerminal trace → next.status.isLive = false) := by
  have whole : useSubmission.Runs (fun _ _ => True) .initial (trace ++ [label]) next :=
    .snoc run.unguarded trivial stepped
  constructor
  · intro never
    refine ⟨fun earlier later first second before within =>
      never earlier later first second before (within.trans (List.prefix_append _ _)), fun some_ => ?_⟩
    obtain ⟨earlier, first, before, run', terminal⟩ := exists_terminal some_
    simpa using never earlier _ first next (before.trans (List.prefix_append _ _)) List.prefix_rfl run'
      whole terminal
  · rintro ⟨never, last⟩ earlier later first second before within run' run'' terminal
    rcases List.prefix_concat_iff.mp within with rfl | within
    · -- The later state is the last one.
      obtain rfl := run''.unique whole
      rcases List.prefix_concat_iff.mp before with rfl | before
      · obtain rfl := run'.unique whole
        simp [UiStatus.isLive_of_isTerminal terminal]
      · have settled := last fun none_ => by simp [none_ earlier first before run'] at terminal
        simp [settled]
    · exact never earlier later first second before within run' run'' terminal

/-- A terminal status has been on display exactly where an outcome that settles has arrived. -/
theorem noneTerminal_iff (run : useSubmission.Runs OneJob .initial trace hook) :
    NoneTerminal trace ↔ ∀ outcome ∈ arrivals trace, outcome.settles = false := by
  -- The induction is on the run; up to now the status on display is not terminal.
  induction run with
  | nil =>
    have nothing : arrivals [] = [] := rfl
    refine iff_of_true (Machine.always_nil.mpr rfl) fun outcome arrived => ?_
    rw [nothing] at arrived
    cases arrived
  | @snoc trace hook next label earlier one stepped ih =>
    have open_ : NoneTerminal trace → hook.status.isTerminal = false :=
      fun none_ => none_ _ _ List.prefix_rfl earlier.unguarded
    -- The last label adds one state and at most one outcome.
    rw [NoneTerminal, Machine.always_snoc earlier stepped, arrivals_snoc earlier stepped, ← NoneTerminal,
      (SubmissionHook.step_moves stepped).shown.status]
    simp only [List.mem_append, or_imp, forall_and, ← ih]
    refine and_congr_right fun none_ => ?_
    rw [SubmissionHook.statusAfter_isTerminal (open_ none_)]
    cases hook.fetchOutcome? label with
    | none => simp
    | some outcome => simp

/-- Behind a terminal status there is an outcome that has settled it. -/
theorem exists_settling (run : useSubmission.Runs OneJob .initial trace hook)
    (some_ : ¬ NoneTerminal trace) : ∃ outcome ∈ arrivals trace, outcome.settles := by
  by_contra silent
  refine some_ ((noneTerminal_iff run).mpr fun outcome arrived => ?_)
  by_contra settles
  exact silent ⟨outcome, arrived, by simpa using settles⟩

/-- A job of which an outcome has arrived has been submitted. -/
theorem submitted_of_arrived (run : useSubmission.Runs OneJob .initial trace hook)
    {outcome : FetchOutcome} (arrived : outcome ∈ arrivals trace) : hook.Submitted := by
  rcases SubmissionHook.staged_run run with before | after
  · rw [SubmissionHook.arrivals_unsubmitted run before] at arrived
    cases arrived
  · exact after

/-- Behind a terminal status that is never set back the status is not live. -/
theorem NeverSetBack.settled (never : NeverSetBack trace)
    (run : useSubmission.Runs OneJob .initial trace hook) (some_ : ¬ NoneTerminal trace) :
    hook.status.isLive = false := by
  obtain ⟨before, first, within, run', terminal⟩ := exists_terminal some_
  simpa using never before _ first hook within List.prefix_rfl run' run.unguarded terminal

/--
A terminal status on display is never set back to PENDING or RUNNING exactly where no such reply
arrives behind a terminal reply or a failed finalize fetch.
-/
theorem terminal_kept_iff (run : useSubmission.Runs OneJob .initial trace hook) :
    NeverSetBack trace ↔ NoneStale (arrivals trace) := by
  -- The induction is on the run; only an outcome that arrives behind a settling one matters.
  induction run with
  | nil =>
    refine iff_of_true ?_ List.Pairwise.nil
    intro earlier later first second before within run' run'' terminal
    obtain rfl := List.prefix_nil.mp within
    obtain rfl := List.prefix_nil.mp before
    simp [run'.eq_of_nil, SubmissionHook.initial, UiStatus.isTerminal] at terminal
  | @snoc trace hook next label earlier one stepped ih =>
    rw [neverSetBack_snoc earlier stepped, arrivals_snoc earlier stepped, NoneStale,
      List.pairwise_append, ih, NoneStale, (SubmissionHook.step_moves stepped).shown.status]
    have alone : (hook.fetchOutcome? label).toList.Pairwise fun earlier later : FetchOutcome =>
        earlier.settles → later.unsettles = false := by
      cases hook.fetchOutcome? label with
      | none => exact .nil
      | some outcome => exact List.pairwise_singleton _ _
    refine and_congr_right fun kept => ?_
    simp only [alone, true_and]
    by_cases none_ : NoneTerminal trace
    · refine iff_of_true (fun some_ => absurd none_ some_) fun outcome arrived _ _ settles => ?_
      rw [(noneTerminal_iff earlier).mp none_ outcome arrived] at settles
      cases settles
    · -- The reply to the POST is behind us, and the status on display is not live.
      obtain ⟨outcome, arrived, settles⟩ := exists_settling earlier none_
      have replied :=
        (SubmissionHook.step_moves stepped).not_submitted (submitted_of_arrived earlier arrived).posts
      have settled := (ih.mpr kept).settled earlier none_
      rw [SubmissionHook.statusAfter_isLive settled replied]
      constructor
      · intro never outcome' _ outcome'' ended _
        have none_' := never none_
        rw [Option.mem_toList] at ended
        rw [ended] at none_'
        simpa using none_'
      · intro stale _
        cases ended : hook.fetchOutcome? label with
        | none => rfl
        | some outcome' => simpa using stale outcome arrived outcome' (by simp [ended]) settles

end

/-- A slow poll that has read RUNNING comes back behind a later poll that has read COMPLETED. -/
def overtakenPoll : List HookLabel := [
  .run ⟨[0x31], .python⟩,
  .submitted 0 "first",
  .timeout "first",
  .interval,
  .progress "first" .running,
  .read 0 (detailOf "first" .running),
  .interval,
  .progress "first" .completed,
  .read 1 (detailOf "first" .completed),
  .replied 1]

/-- The slow poll is all that is awaited once the job is shown as COMPLETED. -/
theorem overtakenPoll_runs : ∃ hook, useSubmission.Runs OneJob .initial overtakenPoll hook ∧
    (hook.status, hook.fetches) =
      (.job .completed, [⟨"first", .poll, some (detailOf "first" .running)⟩]) :=
  Machine.runs_of_guardedRun useSubmission _ _ _ _ _ rfl

/-- The slow poll sets the status back. -/
theorem overtakenPoll_replied : ∃ hook,
    useSubmission.Runs OneJob .initial (overtakenPoll ++ [.replied 0]) hook ∧
      hook.status = .job .running :=
  Machine.runs_of_guardedRun useSubmission _ _ _ _ _ rfl

/-- The equivalence at the run with the slow poll. -/
theorem terminal_kept_iff_example : ∃ hook,
    useSubmission.Runs OneJob .initial (overtakenPoll ++ [.replied 0]) hook ∧
      (NeverSetBack (overtakenPoll ++ [.replied 0]) ↔
        NoneStale (arrivals (overtakenPoll ++ [.replied 0]))) := by
  obtain ⟨hook, run, -⟩ := overtakenPoll_replied
  exact ⟨hook, run, terminal_kept_iff run⟩

/-- A stale reply may overwrite a terminal status, although the status on the server is monotone. -/
theorem terminal_overwritten :
    ¬ ∀ trace hook, useSubmission.Runs OneJob .initial trace hook → NeverSetBack trace := by
  intro claimed
  obtain ⟨first, run, shown⟩ := overtakenPoll_runs
  obtain ⟨second, run', back⟩ := overtakenPoll_replied
  -- The second run goes one step further, and shows RUNNING behind COMPLETED.
  have never := claimed _ _ run' _ _ first second (List.prefix_append _ _) List.prefix_rfl
    run.unguarded run'.unguarded
  rw [(Prod.mk.inj shown).1, back] at never
  exact never rfl rfl

end CodeExecution

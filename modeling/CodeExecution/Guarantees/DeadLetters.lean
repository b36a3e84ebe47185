import CodeExecution.Proofs.Letters
import CodeExecution.Proofs.ListMoves
import CodeExecution.Services.Dismissal
import CodeExecution.Settings

/-! The dead-letter list and the tables: when each dead-lettered job has exactly one letter. -/

namespace CodeExecution

variable {state next : Platform} {label : Label} {jobId : JobId} {removed : JobId → Bool}

/-! ## The setting -/

/-- How many letters of a job the dead-letter list has. -/
def Store.lettersOf (store : Store) (jobId : JobId) : Nat :=
  store.deadLetter.countP fun letter => letter.jobId = jobId

/--
No letter is lost, and nobody writes to a job that has been dead-lettered.

A letter is lost between the COMMIT of its transaction and its LPUSH.
-/
def keepsLetters (state : Platform) (label : Label) : Bool :=
  !losesLetter state label &&
    match state.effect label with
    | .commitDeadLetter letter => !state.store.hasDeadLetterResult letter.jobId
    | .requeueRow jobId _ | .commitResult jobId _ | .insertFailure jobId =>
      !state.store.hasDeadLetterResult jobId
    | _ => true

/-- The same for the platform with its DELETE handlers, which may do as they like. -/
def Console.keepsLetters (state : Console) : ConsoleLabel → Bool
  | .platform label => CodeExecution.keepsLetters state.platform label
  | .dismiss _ _ | .dismissal _ _ | .dismissalCrash _ => true

/-- The jobs whose letters were removed by DELETE requests, after a step. -/
def Console.trackRemoved (state : Console) (label : ConsoleLabel) (removed : JobId → Bool) :
    JobId → Bool :=
  match state.removes? label with
  | some letter => Function.update removed letter.jobId true
  | none => removed

/-- The console with the jobs whose letters have been removed. -/
abbrev dismissingConsole : Machine (Console × (JobId → Bool)) ConsoleLabel :=
  console.tracking Console.trackRemoved

/-- The job that a worker is inside `sendToDLQ` for. -/
def WorkerPoint.sendsToDLQ? : WorkerPoint → Option JobId
  | .deadLetter _ letter | .deadLetterPush letter | .deadLetterComplete _ _ letter =>
    some letter.jobId
  | _ => none

/-- The job that a recovery is inside `sendToDLQ` for. -/
def RecoverPoint.sendsToDLQ? : RecoverPoint → Option JobId
  | .deadLetter _ letter _ | .deadLetterPush letter _ => some letter.jobId
  | _ => none

/-- Some process is inside `sendToDLQ` for the job. -/
def SendingToDLQ (state : Platform) (jobId : JobId) : Prop :=
  (∃ worker point, state.workers worker = .running point ∧ point.sendsToDLQ? = some jobId) ∨
  ∃ lockId point worker rest, state.scans lockId = .recover point worker rest ∧
    point.sendsToDLQ? = some jobId

/-- What the two stores say of a job, once nobody is dead-lettering it. -/
structure LettersAgree (state : Platform) (removed : JobId → Bool) (jobId : JobId) : Prop where
  /-- A dead-lettered job has one letter, unless that was removed. -/
  letter : state.store.hasDeadLetterResult jobId = true → removed jobId = false →
    state.store.lettersOf jobId = 1
  /-- A job with a letter is FAILED, with a dead-letter result. -/
  job : 0 < state.store.lettersOf jobId →
    state.store.statusOf jobId = some .failed ∧ state.store.hasDeadLetterResult jobId = true

/-! ## The invariant -/

/-- Each dead-lettered job has its letter in one place: on its way, in the list, or removed. -/
structure Posted (state : Platform) (removed : JobId → Bool) (jobId : JobId) : Prop where
  stored : Stored state
  placed : state.store.hasDeadLetterResult jobId = true ↔
    removed jobId = true ∨ 0 < state.store.lettersOf jobId ∨
      ∃ sender letter, Sends state sender letter ∧ letter.jobId = jobId
  once : state.store.lettersOf jobId + (removed jobId).toNat ≤ 1
  away : ∀ sender letter, Sends state sender letter → letter.jobId = jobId →
    state.store.lettersOf jobId = 0 ∧ removed jobId = false
  alone : ∀ sender other letter letter', Sends state sender letter → Sends state other letter' →
    letter.jobId = jobId → letter'.jobId = jobId → sender = other
  failed : state.store.hasDeadLetterResult jobId = true → state.store.statusOf jobId = some .failed

/-- Where nobody is dead-lettering the job, the stores agree. -/
theorem Posted.agree (posted : Posted state removed jobId) (settled : ¬ SendingToDLQ state jobId) :
    LettersAgree state removed jobId where
  letter dead unremoved := by
    -- The letter is in the list, because it is nowhere else.
    rcases posted.placed.mp dead with gone | listed | ⟨sender, letter, sends, isJob⟩
    · simp [gone] at unremoved
    · have once := posted.once
      omega
    · cases sends with
      | worker running => exact absurd (.inl ⟨_, _, running, congrArg some isJob⟩) settled
      | scan recovers => exact absurd (.inr ⟨_, _, _, _, recovers, congrArg some isJob⟩) settled
  job listed := by
    have dead := posted.placed.mpr (.inr (.inl listed))
    exact ⟨posted.failed dead, dead⟩

/-- Before the first request there are no letters. -/
theorem Posted.initial (jobId : JobId) : Posted Platform.initial (fun _ => false) jobId := by
  -- No process is running yet.
  have nobody : ∀ sender letter, ¬ Sends Platform.initial sender letter := by
    intro _ _ sends
    rcases sends with running | recovers
    · simp [Platform.initial] at running
    · simp [Platform.initial] at recovers
  refine ⟨.initial, ?_, by simp [Platform.initial, Store.lettersOf, Store.empty],
    fun _ _ sends => absurd sends (nobody _ _), fun _ _ _ _ sends => absurd sends (nobody _ _), ?_⟩
  · constructor
    · simp [Platform.initial, Store.empty, Store.hasDeadLetterResult]
    · intro sent
      rcases sent with gone | listed | ⟨sender, letter, sends, _⟩
      · simp at gone
      · simp [Platform.initial, Store.lettersOf, Store.empty] at listed
      · exact absurd sends (nobody _ _)
  · simp [Platform.initial, Store.empty, Store.hasDeadLetterResult]

/-! ## Steps -/

/-- Letters come to the list one by one. -/
theorem Effect.lettersOf_sendLetter {letter : DLQPayload} (store : Store)
    (isJob : letter.jobId = jobId) :
    ((Effect.sendLetter letter).apply store).lettersOf jobId = store.lettersOf jobId + 1 := by
  simp [Effect.apply, Store.lettersOf, Store.pushDeadLetter, isJob]

/-- No other effect changes the letters of a job. -/
theorem Effect.lettersOf_other (effect : Effect) (store : Store) (jobId : JobId)
    (other : ∀ letter, effect = .sendLetter letter → letter.jobId ≠ jobId) :
    (effect.apply store).lettersOf jobId = store.lettersOf jobId := by
  -- The list changes by a push only, which is of another job's letter.
  unfold Store.lettersOf
  cases effect with
  | sendLetter letter =>
    simp [Effect.apply, Store.pushDeadLetter, other letter rfl]
  | pop _ _ | push _ | remove _ _ | delete _ => rfl
  | _ => rw [(Effect.apply_lists rfl).2.2]

/-- A job that has been dead-lettered stays so. -/
theorem Posted.dead_stays (posted : Posted state removed jobId)
    (keeps : keepsLetters state label = true) (stepped : state.step label = some next)
    (dead : state.store.hasDeadLetterResult jobId = true) :
    next.store.hasDeadLetterResult jobId = true ∧ next.store.statusOf jobId = some .failed := by
  -- The writes that could change this are the ones that the condition excludes.
  obtain ⟨⟨now, lock, same, _⟩, fresh⟩ := Platform.step_effect stepped
  have unsettled : ∀ effect, state.effect label = effect →
      effect ≠ .insertFailure jobId ∧ effect.finishes? ≠ some jobId ∧
        ∀ retryCount, effect ≠ .requeueRow jobId retryCount := by
    intro effect made
    refine ⟨?_, ?_, ?_⟩
    · intro same
      subst same
      simp [keepsLetters, made, dead] at keeps
    · intro finishes
      cases effect with
      | commitResult committed result =>
        obtain rfl : committed = jobId := by simpa [Effect.finishes?] using finishes
        simp [keepsLetters, made, dead] at keeps
      | commitDeadLetter letter =>
        obtain rfl : letter.jobId = jobId := by simpa [Effect.finishes?] using finishes
        simp [keepsLetters, made, dead] at keeps
      | _ => simp [Effect.finishes?] at finishes
    · intro retryCount same
      subst same
      simp [keepsLetters, made, dead] at keeps
  obtain ⟨compensates, unfinished, unrequeued⟩ := unsettled _ rfl
  have results : next.store.results.lookup jobId = state.store.results.lookup jobId := by
    rw [same]
    exact Effect.results_other compensates unfinished
  refine ⟨by rw [Store.hasDeadLetterResult, results]; exact dead, ?_⟩
  rw [same]
  exact Effect.failed_stays (posted.failed dead) fresh unrequeued unfinished

/-- A job becomes dead-lettered by the commit of its dead-letter transaction. -/
theorem dead_before (stepped : state.step label = some next)
    (dead : next.store.hasDeadLetterResult jobId = true) :
    state.store.hasDeadLetterResult jobId = true ∨
      ∃ letter, state.effect label = .commitDeadLetter letter ∧ letter.jobId = jobId := by
  -- The effects on the results have been compared once and for all.
  obtain ⟨⟨now, lock, same, _⟩, _⟩ := Platform.step_effect stepped
  rw [same] at dead
  exact Effect.deadLetterResult dead

/-- A commit puts the letter of its job on its way. -/
theorem Posted.commit (posted : Posted state removed jobId)
    (keeps : keepsLetters state label = true) (stepped : state.step label = some next)
    {letter : DLQPayload} (commits : state.effect label = .commitDeadLetter letter)
    (isJob : letter.jobId = jobId) : Posted next removed jobId := by
  subst isJob
  obtain ⟨⟨now, lock, same, _⟩, fresh⟩ := Platform.step_effect stepped
  have kept : losesLetter state label = false := by
    simp only [keepsLetters, Bool.and_eq_true, Bool.not_eq_true'] at keeps
    exact keeps.1
  have undead : state.store.hasDeadLetterResult letter.jobId = false := by
    simpa [keepsLetters, commits, kept] using keeps
  -- The job has not been dead-lettered before, so no letter of it is anywhere.
  have nowhere : ¬ (removed letter.jobId = true ∨ 0 < state.store.lettersOf letter.jobId ∨
      ∃ sender own, Sends state sender own ∧ own.jobId = letter.jobId) := by
    rw [← posted.placed, undead]
    simp
  have unlisted : state.store.lettersOf letter.jobId = 0 := by
    have none_ := not_or.mp (not_or.mp nowhere).2
    omega
  have unsent : ∀ sender own, Sends state sender own → own.jobId ≠ letter.jobId :=
    fun sender own sends isJob => nowhere (.inr (.inr ⟨sender, own, sends, isJob⟩))
  have letters : next.store.lettersOf letter.jobId = 0 := by
    have unchanged := Effect.lettersOf_other (state.effect label) state.store letter.jobId
      (by simp [commits])
    rw [same]
    exact unchanged.trans unlisted
  have failed : next.store.statusOf letter.jobId = some .failed := by
    have stored := (posted.stored.finishes (by rw [commits]; rfl : _ = some letter.jobId)).1
    rw [Store.hasSubmission_eq] at stored
    obtain ⟨record, found⟩ := Option.isSome_iff_exists.mp stored
    have written : next.store.recordOf letter.jobId =
        (state.store.commitDeadLetter letter).recordOf letter.jobId := by
      rw [same, commits]
      rfl
    rw [Store.statusOf_eq, written, Store.recordOf_commitDeadLetter]
    simp [found]
  -- The process that has committed is the only one with a letter of the job.
  obtain ⟨sender, isSender, sends⟩ := Sends.committed stepped kept commits
  have only : ∀ other own, Sends next other own → own.jobId = letter.jobId → other = sender := by
    intro other own sends' isJob
    rcases Sends.before stepped sends' with ⟨earlier, _⟩ | ⟨isOther, _⟩
    · exact absurd isJob (unsent other own earlier)
    · exact Option.some.inj (isOther.symm.trans isSender)
  have dead : next.store.hasDeadLetterResult letter.jobId = true := by
    rw [same, commits]
    exact Store.hasDeadLetterResult_commitDeadLetter _ letter
  refine ⟨posted.stored.step stepped, ?_, ?_, ?_, ?_, fun _ => failed⟩
  · exact iff_of_true dead (.inr (.inr ⟨sender, letter, sends, rfl⟩))
  · rw [letters]
    exact (Nat.zero_add _).le.trans (Bool.toNat_le _)
  · exact fun _ _ _ _ => ⟨letters, by simpa using (not_or.mp nowhere).1⟩
  · intro first second own own' sends' sends'' isJob isJob'
    rw [only first own sends' isJob, only second own' sends'' isJob']

/-- A push takes the letter of its job into the list. -/
theorem Posted.send (posted : Posted state removed jobId)
    (keeps : keepsLetters state label = true) (stepped : state.step label = some next)
    {letter : DLQPayload} (pushes : state.effect label = .sendLetter letter)
    (isJob : letter.jobId = jobId) : Posted next removed jobId := by
  subst isJob
  obtain ⟨⟨now, lock, same, _⟩, _⟩ := Platform.step_effect stepped
  obtain ⟨sender, isSender, sends⟩ : ∃ sender, label.writer? = some sender ∧
      Sends state sender letter := by
    rcases Platform.effect_sendLetter pushes with
      ⟨worker, outcome, rfl, running⟩ | ⟨lockId, outcome, cursor, owner, rest, rfl, recovers⟩
    · exact ⟨.worker worker, rfl, .worker running⟩
    · exact ⟨.scan lockId, rfl, .scan recovers⟩
  -- Until now the letter was only on its way, with this process.
  obtain ⟨unlisted, unremoved⟩ := posted.away sender letter sends rfl
  have letters : next.store.lettersOf letter.jobId = 1 := by
    have pushed := Effect.lettersOf_sendLetter state.store (rfl : letter.jobId = letter.jobId)
    rw [unlisted] at pushed
    rw [same, pushes]
    exact pushed
  -- No other process has a letter of the job, and none commits one in this step.
  have nobody : ∀ other own, Sends next other own → own.jobId ≠ letter.jobId := by
    intro other own sends' isJob
    rcases Sends.before stepped sends' with ⟨earlier, notOther⟩ | ⟨_, commits⟩
    · obtain rfl := posted.alone sender other letter own sends earlier rfl isJob
      exact notOther isSender
    · simp [pushes] at commits
  obtain ⟨dead, failed⟩ := posted.dead_stays keeps stepped
    (posted.placed.mpr (.inr (.inr ⟨sender, letter, sends, rfl⟩)))
  refine ⟨posted.stored.step stepped, ?_, ?_, ?_, ?_, fun _ => failed⟩
  · exact iff_of_true dead (.inr (.inl (by omega)))
  · simp [letters, unremoved]
  · exact fun other own sends' isJob => absurd isJob (nobody other own sends')
  · exact fun other _ own _ sends' _ isJob => absurd isJob (nobody other own sends')

/-- Every step that keeps the letters keeps each of them in one place. -/
theorem Posted.step (posted : Posted state removed jobId)
    (keeps : keepsLetters state label = true) (stepped : state.step label = some next) :
    Posted next removed jobId := by
  by_cases commits : ∃ letter, state.effect label = .commitDeadLetter letter ∧ letter.jobId = jobId
  · obtain ⟨letter, commits, isJob⟩ := commits
    exact posted.commit keeps stepped commits isJob
  by_cases pushes : ∃ letter, state.effect label = .sendLetter letter ∧ letter.jobId = jobId
  · obtain ⟨letter, pushes, isJob⟩ := pushes
    exact posted.send keeps stepped pushes isJob
  -- All other steps leave the job, its letters and their senders alone.
  obtain ⟨⟨now, lock, same, _⟩, _⟩ := Platform.step_effect stepped
  have kept : losesLetter state label = false := by
    simp only [keepsLetters, Bool.and_eq_true, Bool.not_eq_true'] at keeps
    exact keeps.1
  have letters : next.store.lettersOf jobId = state.store.lettersOf jobId := by
    have unchanged := Effect.lettersOf_other (state.effect label) state.store jobId
      fun letter made isJob => pushes ⟨letter, made, isJob⟩
    rw [same]
    exact unchanged
  -- The job is as dead as before, and the same processes are sending.
  have dead : next.store.hasDeadLetterResult jobId = true ↔
      state.store.hasDeadLetterResult jobId = true := by
    refine ⟨fun later => ?_, fun earlier => (posted.dead_stays keeps stepped earlier).1⟩
    rcases dead_before stepped later with earlier | made
    · exact earlier
    · exact absurd made commits
  have senders : ∀ sender letter, letter.jobId = jobId →
      (Sends next sender letter ↔ Sends state sender letter) := by
    intro sender letter isJob
    constructor
    · intro sends
      rcases Sends.before stepped sends with ⟨earlier, _⟩ | ⟨_, made⟩
      · exact earlier
      · exact absurd ⟨letter, made, isJob⟩ commits
    · intro sends
      rcases Sends.after stepped kept sends with ⟨later, _⟩ | ⟨_, made⟩
      · exact later
      · exact absurd ⟨letter, made, isJob⟩ pushes
  -- Each part of the account speaks of these three only.
  refine ⟨posted.stored.step stepped, ?_, ?_, ?_, ?_, ?_⟩
  · rw [dead, letters, posted.placed]
    refine or_congr_right (or_congr_right ⟨?_, ?_⟩)
    · intro sending
      obtain ⟨sender, letter, sends, isJob⟩ := sending
      exact ⟨sender, letter, (senders sender letter isJob).mpr sends, isJob⟩
    · intro sending
      obtain ⟨sender, letter, sends, isJob⟩ := sending
      exact ⟨sender, letter, (senders sender letter isJob).mp sends, isJob⟩
  · rw [letters]
    exact posted.once
  · intro sender letter sends isJob
    rw [letters]
    exact posted.away sender letter ((senders sender letter isJob).mp sends) isJob
  · intro sender other letter letter' sends sends' isJob isJob'
    exact posted.alone sender other letter letter' ((senders _ _ isJob).mp sends)
      ((senders _ _ isJob').mp sends') isJob isJob'
  · exact fun later => (posted.dead_stays keeps stepped (dead.mp later)).2

/-- An LREM of a listed letter takes one letter of its job away. -/
theorem Store.lettersOf_removeLetter {store : Store} {letter : DLQPayload}
    (listed : letter ∈ store.deadLetter) (jobId : JobId) :
    store.lettersOf jobId =
      (store.removeLetter letter).lettersOf jobId + if letter.jobId = jobId then 1 else 0 := by
  -- The list is that letter and the rest, in some order.
  have whole := (List.perm_cons_erase listed).countP_eq fun own => own.jobId = jobId
  rw [List.countP_cons] at whole
  simpa [Store.lettersOf, Store.removeLetter] using whole

/-- A DELETE request takes the letter of its job out of the list. -/
theorem Posted.remove (posted : Posted state removed jobId) {letter : DLQPayload}
    (listed : letter ∈ state.store.deadLetter) :
    Posted { state with store := state.store.removeLetter letter }
      (Function.update removed letter.jobId true) jobId := by
  have senders : ∀ sender own, Sends { state with store := state.store.removeLetter letter } sender own ↔
      Sends state sender own := by
    intro sender own
    constructor <;> intro sends <;> cases sends with
    | worker running => exact .worker running
    | scan recovers => exact .scan recovers
  have counted := Store.lettersOf_removeLetter listed jobId
  have stored : Stored { state with store := state.store.removeLetter letter } :=
    ⟨posted.stored.inserted, posted.stored.workers, posted.stored.scans⟩
  by_cases isJob : letter.jobId = jobId
  · -- It was the only one, and none is on its way.
    subst isJob
    have once := posted.once
    have gone : (state.store.removeLetter letter).lettersOf letter.jobId = 0 := by
      simp only [if_true] at counted
      omega
    have nobody : ∀ sender own, Sends state sender own → own.jobId ≠ letter.jobId := by
      intro sender own sends same
      have unlisted := (posted.away sender own sends same).1
      simp only [if_true] at counted
      omega
    have dead : state.store.hasDeadLetterResult letter.jobId = true :=
      posted.placed.mpr (.inr (.inl (by simp only [if_true] at counted; omega)))
    refine ⟨stored, iff_of_true dead (.inl (by simp)), by simp [gone], ?_, ?_, fun _ => posted.failed dead⟩
    · exact fun sender own sends same => absurd same (nobody sender own ((senders _ _).mp sends))
    · exact fun sender _ own _ sends _ same => absurd same (nobody sender own ((senders _ _).mp sends))
  -- The letters of other jobs are left alone.
  · have letters : (state.store.removeLetter letter).lettersOf jobId = state.store.lettersOf jobId := by
      simpa [isJob] using counted.symm
    have unremoved : Function.update removed letter.jobId true jobId = removed jobId :=
      Function.update_of_ne (Ne.symm isJob) _ _
    refine ⟨stored, ?_, ?_, ?_, ?_, posted.failed⟩
    · rw [unremoved, letters]
      simp only [senders]
      exact posted.placed
    · rw [unremoved, letters]
      exact posted.once
    · intro sender own sends same
      rw [unremoved, letters]
      exact posted.away sender own ((senders _ _).mp sends) same
    · intro sender other own own' sends sends'
      exact posted.alone sender other own own' ((senders _ _).mp sends) ((senders _ _).mp sends')

/-! ## The guarantee -/

/--
The dead-letter list agrees with the tables in every run that keeps its letters.

A dead-lettered job has exactly one letter unless a DELETE request has removed it,
and a job with a letter is FAILED with a dead-letter result.
-/
theorem dead_letters_agree {trace : List ConsoleLabel} {state : Console} {removed : JobId → Bool}
    (run : dismissingConsole.Runs (fun reached label => reached.1.keepsLetters label = true)
      (Console.initial, fun _ => false) trace (state, removed)) {jobId : JobId}
    (settled : ¬ SendingToDLQ state.platform jobId) :
    LettersAgree state.platform removed jobId := by
  -- The letter of a job is in one place after every step.
  have posted := run.preserves (fun reached => Posted reached.1.platform reached.2 jobId)
    (Posted.initial jobId) ?_
  · exact posted.agree settled
  · rintro ⟨before, gone⟩ label ⟨after, later⟩ posted keeps stepped
    obtain ⟨moved, rfl⟩ := Machine.tracking_step.mp stepped
    rcases Console.step_cases moved with ⟨own, rfl, platformMoved⟩ | ⟨none_, _, same⟩ |
      ⟨letter, removes, _, listed, same⟩
    · exact posted.step keeps platformMoved
    · have kept : after.platform = before.platform := same
      have unchanged : Console.trackRemoved before label gone = gone := by
        simp [Console.trackRemoved, none_]
      simpa only [kept, unchanged] using posted
    · have removed : after.platform =
        { before.platform with store := before.platform.store.removeLetter letter } := same
      have grown : Console.trackRemoved before label gone =
          Function.update gone letter.jobId true := by simp [Console.trackRemoved, removes]
      simpa only [removed, grown] using posted.remove listed

/-! ## Runs of one worker -/

/-- The label starts no process but this worker. -/
def ConsoleLabel.startsOnly (worker : WorkerId) : ConsoleLabel → Bool
  | .platform (.scanStart _) => false
  | .platform (.workerStart other) => other = worker
  | _ => true

/-- Only processes that were started can be inside `sendToDLQ`. -/
theorem settled_of_started {allowed : Console × (JobId → Bool) → ConsoleLabel → Prop}
    {trace : List ConsoleLabel} {reached : Console × (JobId → Bool)} {worker : WorkerId}
    {point : WorkerPoint} {jobId : JobId}
    (run : dismissingConsole.Runs allowed (Console.initial, fun _ => false) trace reached)
    (running : reached.1.platform.workers worker = .running point)
    (elsewhere : point.sendsToDLQ? = none)
    (only : trace.all fun label => label.startsOnly worker) :
    ¬ SendingToDLQ reached.1.platform jobId := by
  -- The other workers are still absent, and no scan has begun.
  have dormant := run.preserves_trace (fun trace reached =>
    (trace.all fun label => label.startsOnly worker) = true →
    (∀ other, other ≠ worker → reached.1.platform.workers other = .absent) ∧
    ∀ lockId, reached.1.platform.scans lockId = .idle ∨
      reached.1.platform.scans lockId = .finished)
    (by simp [Console.initial, Platform.initial]) ?_
  -- At the end, nobody else is there to be sending.
  · obtain ⟨absent, scans⟩ := dormant only
    intro sending
    rcases sending with ⟨other, at_, runs, sends⟩ | ⟨lockId, at_, dead, rest, recovers, _⟩
    · by_cases same : other = worker
      · subst same
        rw [running] at runs
        obtain rfl := WorkerState.running.inj runs
        simp [elsewhere] at sends
      · simp [absent other same] at runs
    · rcases scans lockId with idle | finished
      · simp [idle] at recovers
      · simp [finished] at recovers
  · rintro trace ⟨before, _⟩ label ⟨after, _⟩ _ ih _ stepped only
    obtain ⟨earlier, last⟩ : (trace.all fun label => label.startsOnly worker) = true ∧
        label.startsOnly worker = true := by simpa [List.all_append] using only
    obtain ⟨absent, scans⟩ := ih earlier
    obtain ⟨moved, _⟩ := Machine.tracking_step.mp stepped
    -- Requests move no process.
    rcases Console.step_cases moved with ⟨own, rfl, platformMoved⟩ | ⟨_, _, same⟩ |
      ⟨letter, _, _, _, same⟩
    · refine ⟨fun other different => ?_, fun lockId => ?_⟩
      · refine Platform.step_absent platformMoved (absent other different) ?_
        intro same
        subst same
        exact different (by simpa [ConsoleLabel.startsOnly] using last)
      · refine Platform.step_unstarted platformMoved (scans lockId) ?_
        intro same
        subst same
        simp [ConsoleLabel.startsOnly] at last
    · have kept : after.platform = before.platform := same
      simpa only [kept] using ⟨absent, scans⟩
    · have kept : after.platform =
        { before.platform with store := before.platform.store.removeLetter letter } := same
      simpa only [kept] using ⟨absent, scans⟩

/-- A worker takes the job up, and its sandbox fails to launch. -/
def failingAttempt (worker : WorkerId) : List Label :=
  workerCalls worker 2 ++ [.launch worker, .sandbox worker none]

/-- A job whose sandbox never launches, up to the push of its letter. -/
def exhausting (jobId : JobId) (worker : WorkerId) : List Label :=
  submission jobId ++ [.workerStart worker] ++
    (List.replicate 3 (failingAttempt worker ++ workerCalls worker 3)).flatten ++
    failingAttempt worker ++ workerCalls worker 6

/-- The guarantee for a job that a worker dead-letters. -/
theorem dead_letters_agree_example : ∃ reached,
    dismissingConsole.Runs (fun reached label => reached.1.keepsLetters label = true)
      (Console.initial, fun _ => false)
      ((exhausting "job" "w" ++ workerCalls "w" 4).map .platform) reached ∧
    LettersAgree reached.1.platform reached.2 "job" ∧
    reached.1.platform.store.hasDeadLetterResult "job" = true := by
  -- The run is executed, and ends with the worker back at the head of its loop.
  obtain ⟨reached, run, read⟩ := Machine.runs_of_guardedRun dismissingConsole
    (fun reached label => reached.1.keepsLetters label = true) (Console.initial, fun _ => false)
    ((exhausting "job" "w" ++ workerCalls "w" 4).map .platform)
    (fun reached => (reached.1.platform.workers "w",
      reached.1.platform.store.hasDeadLetterResult "job")) (.running .pop, true) (by decide)
  obtain ⟨pops, dead⟩ := Prod.mk.inj read
  exact ⟨reached, run,
    dead_letters_agree run (settled_of_started run pops rfl (by decide)), dead⟩

/-- The letter of a dead-lettered job is lost when its LPUSH rejects after the commit. -/
theorem dead_letters_lost : ∃ reached,
    dismissingConsole.Runs (fun _ _ => True) (Console.initial, fun _ => false)
      ((exhausting "job" "w" ++ [Label.worker "w" (.rejects false)]).map .platform) reached ∧
    ¬ SendingToDLQ reached.1.platform "job" ∧ ¬ LettersAgree reached.1.platform reached.2 "job" := by
  -- The error is logged, and the worker goes back to the head of its loop.
  obtain ⟨reached, run, read⟩ := Machine.runs_of_guardedRun dismissingConsole
    (fun _ _ => True) (Console.initial, fun _ => false)
    ((exhausting "job" "w" ++ [Label.worker "w" (.rejects false)]).map .platform)
    (fun reached => (reached.1.platform.workers "w",
      reached.1.platform.store.hasDeadLetterResult "job", reached.2 "job",
      reached.1.platform.store.lettersOf "job")) (.running .pop, true, false, 0) (by decide)
  simp only [Prod.mk.injEq] at read
  obtain ⟨pops, dead, unremoved, lost⟩ := read
  refine ⟨reached, run, settled_of_started run pops rfl (by decide), fun agree => ?_⟩
  have letter := agree.letter dead unremoved
  omega

end CodeExecution

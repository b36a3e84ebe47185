import CodeExecution.Proofs.Authorship
import CodeExecution.Proofs.Executors
import CodeExecution.Proofs.Payloads
import CodeExecution.Proofs.Refusals

/-! The startup recovery beside live workers: what keeps the jobs that they have claimed out of reach. -/

namespace CodeExecution

variable {state next : Platform} {label : Label} {jobId : JobId} {worker : WorkerId}
  {point : WorkerPoint}

/-! ## Who has a job, and who could get it -/

/-- The job whose row a worker will write next: it has claimed the job, or is retrying it. -/
def WorkerPoint.inCharge? : WorkerPoint → Option JobId
  | .launch job | .executing job | .persist _ job _ | .requeue .update job | .exhausted job =>
    some job.jobId
  | .deadLetter .rollback _ => none
  | .deadLetter _ letter => some letter.jobId
  | .pop | .claim _ | .statusCheck _ | .repush _ | .discard _ | .acknowledge _ | .complete _ _ _
  | .requeue _ _ | .deadLetterPush _ | .deadLetterComplete _ _ _ => none

/-- The job that a worker is about to claim, or to put back on the pending list. -/
def WorkerPoint.reaches? : WorkerPoint → Option JobId
  | .claim job | .statusCheck job | .repush job | .requeue .push job => some job.jobId
  | _ => none

/-- A failed call makes the worker retry a job that it has not claimed, or has committed already. -/
def WorkerPoint.overreaches : WorkerPoint → Bool
  | .claim _ | .statusCheck _ | .repush _ | .discard _ | .acknowledge _ | .complete _ _ _ => true
  | _ => false

/-- Nobody could claim the job: no copy of it is pending, on its way there, or with a worker. -/
structure OutOfReach (state : Platform) (jobId : JobId) : Prop where
  unqueued : jobId ∉ jobsIn state.store.pending
  unheld : ∀ worker point, state.workers worker = .running point → point.reaches? ≠ some jobId
  unsent : ∀ key payload, state.posts key = .enqueue payload → payload.jobId ≠ jobId
  unread : ∀ row ∈ state.startup.carried, row.id ≠ jobId

/-- No job has two live workers in charge, and one that is PENDING all the same is out of reach. -/
structure SoleCharge (state : Platform) : Prop where
  sole : ∀ first second point point' jobId, state.workers first = .running point →
    state.workers second = .running point' → point.inCharge? = some jobId →
    point'.inCharge? = some jobId → first = second
  apart : ∀ worker point jobId, state.workers worker = .running point →
    point.inCharge? = some jobId → state.store.statusOf jobId = some .pending →
    OutOfReach state jobId

/-- Everything but scans goes on, and no rejection makes a worker retry a job not in its charge. -/
def besideRecovery (state : Platform) : Label → Bool
  | .scanStart _ | .scan _ _ | .detect _ _ _ => false
  | .worker worker outcome =>
    match state.workers worker with
    | .running point => outcome = .resolves || !point.overreaches
    | .absent | .crashed => true
  | _ => true

/--
The startup recovery spares the jobs of live workers.

Where its bulk update resets such a job, the job is out of reach, and its bulk read finds none of them.
-/
def sparing (state : Platform) (label : Label) : Prop :=
  ∀ worker point jobId, state.workers worker = .running point → point.inCharge? = some jobId →
    match label with
    | .startup _ => state.startup = .resetRunning → state.store.statusOf jobId = some .running →
      OutOfReach state jobId
    | .startupSelect _ => state.store.statusOf jobId ≠ some .pending
    | _ => True

/-- A worker that is engaged in a job is in charge of it. -/
theorem WorkerPoint.inCharge_of_engaged (engaged : point.engaged? = some jobId) :
    point.inCharge? = some jobId := by
  unfold WorkerPoint.engaged? at engaged
  split at engaged
  all_goals first | exact engaged | simp at engaged

/-- A worker in charge has the payload in its variables. -/
theorem WorkerPoint.inCharge_carried (charge : point.inCharge? = some jobId) :
    ∃ payload, point.carried? = some payload ∧ payload.jobId = jobId := by
  unfold WorkerPoint.inCharge? at charge
  split at charge
  all_goals first
    | (simp at charge; done)
    | exact ⟨_, rfl, Option.some.inj charge⟩

/-- The retry path starts in charge. -/
@[simp] theorem requeueWithBackoff_inCharge (job : QueuePayload) :
    (requeueWithBackoff job).inCharge? = some job.jobId := by
  unfold requeueWithBackoff
  split <;> rfl

/-- The retry path starts with a write. -/
@[simp] theorem requeueWithBackoff_reaches (job : QueuePayload) :
    (requeueWithBackoff job).reaches? = none := by
  unfold requeueWithBackoff
  split <;> rfl

/-! ## Calls of a worker -/

/-- A call that resolves leaves a worker in charge, or has just claimed the job. -/
theorem WorkerPoint.inCharge_resolve {before : WorkerPoint} {store after : Store}
    (resolved : before.resolve worker store = some (point, after))
    (charge : point.inCharge? = some jobId) :
    before.inCharge? = some jobId ∨ (before.reaches? = some jobId ∧
      store.statusOf jobId = some .pending ∧ after.statusOf jobId = some .running) := by
  -- The claim is the one way in, and the calls of the other paths keep to one job.
  cases WorkerPoint.resolve_cases resolved with
  | @claim job claimable =>
    obtain rfl : job.jobId = jobId := by simpa [WorkerPoint.inCharge?] using charge
    have waiting : store.statusOf job.jobId = some .pending := by
      rw [Store.claimable_length] at claimable
      by_contra other
      simp [other] at claimable
    refine .inr ⟨rfl, waiting, ?_⟩
    rw [Store.statusOf_eq] at waiting ⊢
    obtain ⟨⟨status, retryCount⟩, found, isPending⟩ := Option.map_eq_some_iff.mp waiting
    obtain rfl : status = .pending := isPending
    simp [found]
  | rollback =>
    rw [requeueWithBackoff_inCharge] at charge
    exact .inl charge
  | _ => first | exact .inl charge | simp [WorkerPoint.inCharge?] at charge

/-- A call that rejects leaves a worker in charge of what it was in charge of. -/
theorem WorkerPoint.inCharge_handler {before : WorkerPoint} (handled : before.handler = some point)
    (claimed : before.overreaches = false) (charge : point.inCharge? = some jobId) :
    before.inCharge? = some jobId := by
  unfold WorkerPoint.handler at handled
  split at handled
  all_goals try obtain rfl := Option.some.inj handled
  -- A handler that would give a job up is excluded, and the others keep what they have.
  all_goals first
    | (simp [WorkerPoint.overreaches] at claimed; done)
    | (rw [requeueWithBackoff_inCharge] at charge; exact charge)
    | exact charge
    | (simp at handled; done)
    | simp [WorkerPoint.inCharge?] at charge

/-- A worker comes within reach of a job by the pop, or by the retry of a job in its charge. -/
theorem WorkerPoint.reaches_resolve {before : WorkerPoint} {store after : Store}
    (resolved : before.resolve worker store = some (point, after))
    (reaches : point.reaches? = some jobId) :
    before.reaches? = some jobId ∨ jobId ∈ jobsIn store.pending ∨
      ∃ job, before = .requeue .update job ∧ job.jobId = jobId := by
  -- Only the pop and the UPDATE of a retry put an unclaimed copy into the hands of a worker.
  cases WorkerPoint.resolve_cases resolved with
  | @pop job last =>
    obtain rfl : job.jobId = jobId := by simpa [WorkerPoint.reaches?] using reaches
    exact .inr (.inl (mem_jobsIn.mpr ⟨job, List.mem_of_getLast? last, rfl⟩))
  | @requeueUpdate job => exact .inr (.inr ⟨job, rfl, Option.some.inj reaches⟩)
  | rollback => simp at reaches
  | _ => first | exact .inl reaches | simp [WorkerPoint.reaches?] at reaches

/-- No exception leads there. -/
theorem WorkerPoint.reaches_handler {before : WorkerPoint} (handled : before.handler = some point) :
    point.reaches? = none := by
  -- A rejected call leads into a retry, whose UPDATE comes first.
  unfold WorkerPoint.handler at handled
  split at handled
  all_goals try obtain rfl := Option.some.inj handled
  all_goals first
    | exact requeueWithBackoff_reaches _
    | rfl
    | simp at handled

/-! ## Steps of the platform -/

/-- A worker is in charge of a job by an earlier step, or has just claimed it. -/
theorem Platform.step_inCharge (beside : besideRecovery state label = true)
    (stepped : state.step label = some next) (running : next.workers worker = .running point)
    (charge : point.inCharge? = some jobId) :
    (∃ before, state.workers worker = .running before ∧ before.inCharge? = some jobId ∧
      ∀ job, before = .requeue .update job → ∀ outcome, label ≠ .worker worker outcome) ∨
    (∃ outcome before, label = .worker worker outcome ∧ state.workers worker = .running before ∧
      before.reaches? = some jobId ∧ state.store.statusOf jobId = some .pending ∧
      next.store.statusOf jobId = some .running) := by
  rcases Platform.step_worker stepped running with
    ⟨before, unmoved⟩ | ⟨outcome, before, after, rfl, runs, went, rfl⟩ |
    ⟨job, rfl, runs, rfl, rfl⟩ | ⟨result, before, rfl, runs, settled, rfl⟩ | ⟨rfl, _, rfl, rfl⟩
  · exact .inl ⟨point, before, charge, fun _ _ => unmoved⟩
  · -- Behind its UPDATE a worker is no longer in charge.
    have moved : ∀ job, before ≠ .requeue .update job := by
      rintro job rfl
      rcases awaitCall_cases went with ⟨_, resolved⟩ | ⟨_, _, handled, same⟩ |
        ⟨_, _, _, _, handled, same⟩
      · cases WorkerPoint.resolve_cases resolved with
        | requeueUpdate => simp [WorkerPoint.inCharge?] at charge
      all_goals
        obtain rfl := Option.some.inj handled
        obtain ⟨rfl, _⟩ := Prod.mk.inj same
        simp [WorkerPoint.inCharge?] at charge
    -- Among the calls that reject, only those in charge lead into a retry.
    have claimed : outcome = .resolves ∨ before.overreaches = false := by
      simpa [besideRecovery, runs] using beside
    rcases awaitCall_cases went with ⟨rfl, resolved⟩ | ⟨rfl, _, handled, same⟩ |
      ⟨rfl, _, _, _, handled, same⟩
    · rcases WorkerPoint.inCharge_resolve resolved charge with was | claims
      · exact .inl ⟨before, runs, was, fun job isUpdate => absurd isUpdate (moved job)⟩
      · exact .inr ⟨_, before, rfl, runs, claims⟩
    all_goals
      obtain ⟨rfl, _⟩ := Prod.mk.inj same
      exact .inl ⟨before, runs, WorkerPoint.inCharge_handler handled (by simpa using claimed) charge,
        fun job isUpdate => absurd isUpdate (moved job)⟩
  · exact .inl ⟨_, runs, charge, by simp⟩
  -- A sandbox that settles leaves the worker in charge.
  · cases before with
    | executing job =>
      refine .inl ⟨_, runs, ?_, by simp⟩
      cases result with
      | some result =>
        obtain rfl := Option.some.inj settled
        exact charge
      | none =>
        obtain rfl := Option.some.inj settled
        rw [requeueWithBackoff_inCharge] at charge
        exact charge
    | _ => simp [WorkerPoint.sandboxSettled] at settled
  · simp [WorkerPoint.inCharge?] at charge

/-- A stored row becomes PENDING by the bulk update, or by the worker that retries the job. -/
theorem Platform.step_waiting (beside : besideRecovery state label = true)
    (stepped : state.step label = some next) (stored : state.store.hasSubmission jobId = true)
    (waiting : next.store.statusOf jobId = some .pending) :
    state.store.statusOf jobId = some .pending ∨
    (∃ outcome, label = .startup outcome ∧ state.startup = .resetRunning ∧
      state.store.statusOf jobId = some .running) ∨
    ∃ worker outcome job, label = .worker worker outcome ∧
      state.workers worker = .running (.requeue .update job) ∧ job.jobId = jobId := by
  rw [Store.statusOf_eq, Platform.step_recordOf_apply stepped] at waiting
  by_cases resets : state.effect label = .resetRunning
  -- The bulk update makes RUNNING rows PENDING.
  · obtain ⟨outcome, rfl, at_⟩ := Platform.effect_resetRunning resets
    rw [resets, Effect.apply, Store.recordOf_resetRunning] at waiting
    rw [Store.statusOf_eq]
    obtain ⟨⟨status, retryCount⟩, found⟩ := Option.isSome_iff_exists.mp
      (Store.hasSubmission_eq state.store jobId ▸ stored)
    rw [found] at waiting ⊢
    cases status <;> simp at waiting ⊢
    exact at_
  · rw [Effect.recordOf_apply resets (Platform.step_effect stepped).2] at waiting
    split at waiting
    · next written phase write =>
      split at waiting
      · next same =>
        subst same
        -- A claim writes RUNNING, a close writes a terminal status, and scans do not act.
        have fresh := (Platform.step_effect stepped).2
        obtain ⟨⟨status, retryCount⟩, found⟩ := Option.isSome_iff_exists.mp
          (Store.hasSubmission_eq state.store jobId ▸ stored)
        cases phase with
        | submit =>
          cases made : state.effect label with
          | submit payload =>
            rw [made] at write
            obtain ⟨rfl, _⟩ := Prod.mk.inj (Option.some.inj write)
            simp [fresh payload made] at stored
          | _ => simp [made, Effect.write?] at write
        | claim =>
          rw [found] at waiting
          cases status <;> simp [Phase.apply] at waiting
        | close final =>
          rw [found] at waiting
          obtain rfl : final = .pending := by simpa [Phase.apply] using waiting
          exact absurd rfl (Platform.effect_writes write).progress.2
        | retry retryCount =>
          cases Platform.effect_writes write with
          | requeue running => exact .inr (.inr ⟨_, _, _, rfl, running, rfl⟩)
          | recoverRequeue => simp [besideRecovery] at beside
      · exact .inl (Store.statusOf_eq state.store jobId ▸ waiting)
    · exact .inl (Store.statusOf_eq state.store jobId ▸ waiting)

/-- What is pushed comes from a process that was within reach of the job. -/
theorem OutOfReach.not_pushed (out : OutOfReach state jobId)
    (beside : besideRecovery state label = true) {job : QueuePayload}
    (made : state.effect label = .push (.payload job)) : job.jobId ≠ jobId := by
  -- Four calls push: one of a handler, two of a worker, and one at startup.
  rintro rfl
  rcases Platform.effect_source made (by simp) with ⟨key, _, _, source⟩ |
    ⟨worker, _, point, _, running, source⟩ | ⟨_, _, rfl, _⟩ | ⟨_, _, source⟩
  · cases at_ : state.posts key with
    | enqueue payload =>
      rw [at_] at source
      obtain rfl := Entry.payload.inj (Effect.push.inj source)
      exact out.unsent key payload at_ rfl
    | _ => simp [at_, PostPoint.effect] at source
  · unfold WorkerPoint.effect at source
    repeat' split at source
    all_goals simp at source
    all_goals
      subst source
      exact out.unheld worker _ running rfl
  · simp [besideRecovery] at beside
  · cases at_ : state.startup with
    | rehydrate row rest =>
      rw [at_] at source
      obtain rfl := Entry.payload.inj (Effect.push.inj source)
      exact out.unread row (by simp [at_, StartupPoint.carried]) rfl
    | _ => simp [at_, StartupPoint.effect] at source

/-- A row that the startup recovery is to push was to be pushed before, or has just been read as PENDING. -/
theorem Platform.step_unpushed (stepped : state.step label = some next) {row : SubmissionRow}
    (member : row ∈ next.startup.carried) : row ∈ state.startup.carried ∨
      (∃ rows, label = .startupSelect rows ∧ state.store.statusOf row.id = some .pending) := by
  cases Platform.step_cases stepped with
  | startupBegin => simp [StartupPoint.carried] at member
  | startup went =>
    -- A call takes rows away from what is left, and a rejection leaves none.
    rcases awaitCall_cases went with ⟨_, resolved⟩ | ⟨_, _, handled, rfl⟩ | ⟨_, _, _, _, handled, rfl⟩
    · cases at_ : state.startup with
      | rehydrate first rest =>
        rw [at_] at resolved
        obtain rfl := Option.some.inj resolved
        left
        cases rest with
        | nil => simp [StartupPoint.rehydrateAll, StartupPoint.carried] at member
        | cons second rest => exact List.mem_cons_of_mem _ member
      | checkDepth =>
        rw [at_] at resolved
        obtain rfl := Option.some.inj resolved
        simp only [Platform.withStartup_startup] at member
        split at member <;> simp [StartupPoint.carried] at member
      | resetRunning =>
        rw [at_] at resolved
        obtain rfl := Option.some.inj resolved
        simp [StartupPoint.carried] at member
      | _ => simp [at_, StartupPoint.resolve] at resolved
    all_goals
      unfold StartupPoint.handler at handled
      split at handled
      all_goals first
        | (simp at handled; done)
        | (obtain rfl := Option.some.inj handled; simp [StartupPoint.carried] at member)
  | @startupSelect rows at_ ordered =>
    refine .inr ⟨rows, rfl, ?_⟩
    -- The rows to push are those of the SELECT.
    have read : row ∈ rows := by
      cases rows with
      | nil => simp [StartupPoint.rehydrateAll, StartupPoint.carried] at member
      | cons first rest => exact member
    obtain ⟨found, waiting⟩ := KeyedTable.mem_select_iff.mp (ordered.1.mem_iff.mp read)
    simpa [Store.statusOf, found] using waiting
  | _ => exact .inl member

/-- A job with a worker in charge stays out of reach, as long as the bulk read does not find it. -/
theorem OutOfReach.step (out : OutOfReach state jobId) (beside : besideRecovery state label = true)
    (stored : state.store.hasSubmission jobId = true)
    (unread : ∀ rows, label = .startupSelect rows → state.store.statusOf jobId ≠ some .pending)
    (unretried : ∀ worker outcome job, label = .worker worker outcome →
      state.workers worker = .running (.requeue .update job) → job.jobId ≠ jobId)
    (stepped : state.step label = some next) : OutOfReach next jobId where
  unqueued := by
    intro queued
    obtain ⟨job, member, rfl⟩ := mem_jobsIn.mp queued
    obtain ⟨⟨now, lock, same, _⟩, _⟩ := Platform.step_effect stepped
    rw [same] at member
    -- A copy that arrives in the list was pushed, and nobody was about to.
    rcases Effect.pending_arrives member with was | pushes
    · exact out.unqueued (mem_jobsIn.mpr ⟨job, was, rfl⟩)
    · exact out.not_pushed beside pushes rfl
  unheld := by
    intro worker point running reaches
    -- A worker gets hold of a copy from the list, or by a retry.
    rcases Platform.step_worker stepped running with
      ⟨before, _⟩ | ⟨outcome, before, after, rfl, runs, went, rfl⟩ |
      ⟨_, _, _, rfl, _⟩ | ⟨result, before, rfl, runs, settled, rfl⟩ | ⟨_, _, rfl, _⟩
    · exact out.unheld worker point before reaches
    · rcases awaitCall_cases went with ⟨_, resolved⟩ | ⟨_, _, handled, same⟩ |
        ⟨_, _, _, _, handled, same⟩
      · rcases WorkerPoint.reaches_resolve resolved reaches with was | queued | ⟨job, rfl, same⟩
        · exact out.unheld worker before runs was
        · exact out.unqueued queued
        · exact unretried worker outcome job rfl runs same
      all_goals
        obtain ⟨rfl, _⟩ := Prod.mk.inj same
        simp [WorkerPoint.reaches_handler handled] at reaches
    · simp [WorkerPoint.reaches?] at reaches
    · cases before with
      | executing job =>
        cases result with
        | some result =>
          obtain rfl := Option.some.inj settled
          simp [WorkerPoint.reaches?] at reaches
        | none =>
          obtain rfl := Option.some.inj settled
          simp at reaches
      | _ => simp [WorkerPoint.sandboxSettled] at settled
    · simp [WorkerPoint.reaches?] at reaches
  unsent := by
    intro key payload pushes
    -- A handler pushes what it has inserted, and the job has its row already.
    rcases Platform.step_post stepped key with
      ⟨same, _⟩ | ⟨_, _, _, _, _, rfl⟩ | ⟨outcome, after, _, went, rfl⟩ | ⟨_, rfl⟩
    · exact out.unsent key payload (same ▸ pushes)
    · simp [receivePost] at pushes
    · obtain ⟨point, store⟩ := after
      rcases PostPoint.call_cases went with ⟨_, resolved⟩ | ⟨_, _, rfl⟩ | rfl
      · obtain rfl : point = .enqueue payload := by simpa using pushes
        generalize state.posts key = before at resolved
        cases resolved with
        | insert free =>
          rintro rfl
          simp [stored] at free
      · simp at pushes
      · simp at pushes
    · simp at pushes
  unread := by
    intro row member
    -- The recovery pushes what it has read as PENDING.
    rcases Platform.step_unpushed stepped member with was | ⟨rows, isRead, waiting⟩
    · exact out.unread row was
    · rintro rfl
      exact unread rows isRead waiting

/-- Every step that spares the jobs in charge keeps each of them with one live worker. -/
theorem SoleCharge.step (charge : SoleCharge state)
    (stored : ∀ worker point jobId, state.workers worker = .running point →
      point.inCharge? = some jobId → state.store.hasSubmission jobId = true)
    (beside : besideRecovery state label = true) (spared : sparing state label)
    (stepped : state.step label = some next) : SoleCharge next where
  sole := by
    intro first second point point' jobId running running' own own'
    rcases Platform.step_inCharge beside stepped running own with
      ⟨before, runs, was, _⟩ | ⟨_, before, isFirst, runs, reaches, waits, _⟩
    · rcases Platform.step_inCharge beside stepped running' own' with
        ⟨before', runs', was', _⟩ | ⟨_, before', _, runs', reaches, waits, _⟩
      · exact charge.sole first second before before' jobId runs runs' was was'
      · -- A row that is claimed was PENDING, so the job would have been out of reach.
        exact absurd reaches ((charge.apart first before jobId runs was waits).unheld second before' runs')
    · rcases Platform.step_inCharge beside stepped running' own' with
        ⟨before', runs', was', _⟩ | ⟨_, _, isSecond, _, _, _, _⟩
      · exact absurd reaches ((charge.apart second before' jobId runs' was' waits).unheld first before runs)
      · rw [isFirst] at isSecond
        exact (Label.worker.inj isSecond).1
  apart := by
    intro worker point jobId running own waiting
    rcases Platform.step_inCharge beside stepped running own with
      ⟨before, runs, was, unmoved⟩ | ⟨_, _, _, _, _, _, claimed⟩
    · have kept := stored worker before jobId runs was
      -- Only the worker in charge could retry the job, and it would be in charge no longer.
      have unretried : ∀ mover outcome job, label = .worker mover outcome →
          state.workers mover = .running (.requeue .update job) → job.jobId ≠ jobId := by
        rintro mover outcome job rfl retries rfl
        obtain rfl := charge.sole mover worker _ _ job.jobId retries runs rfl was
        obtain rfl : .requeue .update job = before := by simpa [retries] using runs
        exact unmoved job rfl outcome rfl
      have unread : ∀ rows, label = .startupSelect rows →
          state.store.statusOf jobId ≠ some .pending := by
        rintro rows rfl
        exact spared worker before jobId runs was
      rcases Platform.step_waiting beside stepped kept waiting with
        waits | ⟨outcome, rfl, at_, isRunning⟩ | ⟨mover, outcome, job, isLabel, retries, same⟩
      · exact (charge.apart worker before jobId runs was waits).step beside kept unread unretried
          stepped
      · exact (spared worker before jobId runs was at_ isRunning).step beside kept unread unretried
          stepped
      · exact absurd same (unretried mover outcome job isLabel retries)
    · simp [claimed] at waiting

/-! ## What this is for -/

/-- Another worker could claim the job now: its row is PENDING, and an element of it is within reach. -/
def Claimable (state : Platform) (jobId : JobId) : Prop :=
  state.store.statusOf jobId = some .pending ∧ (jobId ∈ jobsIn state.store.pending ∨
    ∃ worker job, state.workers worker = .running (.claim job) ∧ job.jobId = jobId)

/-- A job out of reach is not claimable. -/
theorem OutOfReach.not_claimable (out : OutOfReach state jobId) : ¬ Claimable state jobId := by
  rintro ⟨_, queued | ⟨worker, job, claims, rfl⟩⟩
  · exact out.unqueued queued
  · exact out.unheld worker _ claims rfl

/-- A worker in charge relies on an open job. -/
theorem WorkerPoint.inCharge_reliance (charge : point.inCharge? = some jobId) :
    point.reliance = some (jobId, .active) := by
  -- From the claim on a worker relies on the open row, up to the write that gives it up.
  cases point with
  | launch job | executing job | persist _ job _ | exhausted job =>
    obtain rfl := Option.some.inj charge
    rfl
  | requeue call job =>
    cases call with
    | update => obtain rfl := Option.some.inj charge; rfl
    | push | remove => simp [WorkerPoint.inCharge?] at charge
  | deadLetter call letter =>
    cases call with
    | rollback => simp [WorkerPoint.inCharge?] at charge
    | connect | begin | insertResult | updateStatus | commit =>
      obtain rfl := Option.some.inj charge
      rfl
  | _ => simp [WorkerPoint.inCharge?] at charge

/-- A worker within reach of a job relies on it, and is not in charge. -/
theorem WorkerPoint.reaches_reliance (reaches : point.reaches? = some jobId) :
    (∃ reliance, point.reliance = some (jobId, reliance)) ∧ point.inCharge? = none := by
  unfold WorkerPoint.reaches? at reaches
  split at reaches
  all_goals first
    | (simp at reaches; done)
    | (obtain rfl := Option.some.inj reaches; exact ⟨⟨_, rfl⟩, rfl⟩)

/-- In an orderly state a job with a worker in charge is open, and out of everybody else's reach. -/
theorem Orderly.outOfReach (orderly : Orderly state) (unread : state.startup.carried = [])
    (running : state.workers worker = .running point) (charge : point.inCharge? = some jobId) :
    OutOfReach state jobId := by
  -- An open job has one holder.
  have staked : Stake state (.worker worker) jobId .active :=
    .working running (WorkerPoint.inCharge_reliance charge)
  have sole := orderly.sound.sole (orderly.sound.relied _ _ _ staked) staked
  refine ⟨fun queued => ?_, fun other at_ runs reaches => ?_, fun key payload pushes => ?_, by simp [unread]⟩
  · obtain ⟨job, member, rfl⟩ := mem_jobsIn.mp queued
    simpa using sole _ _ (.queued member)
  · obtain ⟨⟨_, relies⟩, idle⟩ := WorkerPoint.reaches_reliance reaches
    obtain rfl : other = worker := by simpa using sole _ _ (.working runs relies)
    obtain rfl : point = at_ := by simpa [running] using runs
    simp [idle] at charge
  · have facts := orderly.posts key
    rw [pushes] at facts
    rintro rfl
    obtain rfl : payload.jobId = key := facts.1
    simpa using sole .handler (.waiting 0) (.handler (by rw [pushes]; rfl))

/-- In an orderly state every job has one worker in charge at most. -/
theorem Orderly.soleCharge (orderly : Orderly state) (unread : state.startup.carried = []) :
    SoleCharge state where
  sole := by
    intro first second point point' jobId running running' charge charge'
    -- Both workers have a stake in the job, and stakes are exclusive.
    have staked : Stake state (.worker first) jobId .active :=
      .working running (WorkerPoint.inCharge_reliance charge)
    have staked' : Stake state (.worker second) jobId .active :=
      .working running' (WorkerPoint.inCharge_reliance charge')
    simpa using orderly.sound.exclusive jobId (orderly.sound.relied _ _ _ staked) _ _ _ _ staked staked'
  apart := fun _ _ _ running charge _ => orderly.outOfReach unread running charge

end CodeExecution

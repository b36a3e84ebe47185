import CodeExecution.Attempts
import CodeExecution.Proofs.CrashStop
import CodeExecution.Proofs.ListMoves

/-! Crash-stop runs move each job through its attempts, and never lose the one element it has. -/

namespace CodeExecution

variable {state next : Platform} {label : Label} {jobId : JobId} {retryCount : Nat}

/-! ## Where a job is -/

/-- The payload a live worker has taken, and whether its sandbox has been started. -/
def WorkerPoint.taken? : WorkerPoint → Option (QueuePayload × Bool)
  | .claim job | .launch job => some (job, false)
  | .executing job | .persist _ job _ => some (job, true)
  | _ => none

/-- The handler has not pushed the payload yet. -/
def PostPoint.unsent : PostPoint → Bool
  | .idle | .insert _ | .enqueue _ => true
  | .depth _ | .markFailed _ | .insertFailure _ | .answered _ | .crashed => false

/-- The job has a letter in the dead-letter list, or one on its way there. -/
def Lettered (state : Platform) (jobId : JobId) : Prop :=
  (∃ letter ∈ state.store.deadLetter, letter.jobId = jobId) ∨
  ∃ lockId letter cursor worker rest, letter.jobId = jobId ∧
    state.scans lockId = .recover (.deadLetterPush letter cursor) worker rest

/-- What the platform looks like where a job stands at an attempt. -/
def Located (state : Platform) (jobId : JobId) : Attempt → Prop
  | .unsent => (state.posts jobId).unsent = true
  | .waiting retryCount => ∃ job, .payload job ∈ state.store.pending ∧ job.jobId = jobId ∧
      job.retryCount = retryCount
  | .taken retryCount started => ∃ worker point job, state.workers worker = .running point ∧
      point.taken? = some (job, started) ∧ job.jobId = jobId ∧ job.retryCount = retryCount
  -- No recovery has handed the element on, so the job is still open.
  | .orphaned retryCount => ∃ worker job, state.workers worker = .crashed ∧
      .payload job ∈ state.store.processing worker ∧ ¬ Spent state worker jobId ∧
      (state.store.recordOf jobId).IsOpen ∧ job.jobId = jobId ∧ job.retryCount = retryCount
  | .ended => (state.store.recordOf jobId).IsClosed ∧ ¬ Lettered state jobId
  -- No live worker has an element left whose crash would count.
  | .buried => (state.store.recordOf jobId).IsClosed ∧
      ∀ worker point, state.workers worker = .running point →
        jobId ∉ jobsIn (state.store.processing worker)

/-- A worker that has taken a job has the element in its list, and a stake in the open job. -/
theorem WorkerPoint.taken_facts {point : WorkerPoint} {job : QueuePayload} {started : Bool}
    (taken : point.taken? = some (job, started)) : point.listed? = some job ∧
      (point.reliance = some (job.jobId, .waiting job.retryCount) ∨
        point.reliance = some (job.jobId, .active)) := by
  -- Only the claim relies on more than an open job.
  unfold WorkerPoint.taken? at taken
  split at taken
  all_goals first
    | (obtain ⟨rfl, rfl⟩ := Prod.mk.inj (Option.some.inj taken); exact ⟨rfl, .inl rfl⟩)
    | (obtain ⟨rfl, rfl⟩ := Prod.mk.inj (Option.some.inj taken); exact ⟨rfl, .inr rfl⟩)
    | simp at taken

/-- A job that a worker has taken is open. -/
theorem Orderly.taken_open (orderly : Orderly state) {worker : WorkerId} {point : WorkerPoint}
    (running : state.workers worker = .running point) {job : QueuePayload} {started : Bool}
    (taken : point.taken? = some (job, started)) : (state.store.recordOf job.jobId).IsOpen ∧
      ∃ reliance, Stake state (.worker worker) job.jobId reliance := by
  -- A PENDING row is open too.
  rcases (WorkerPoint.taken_facts taken).2 with relies | relies
  · exact ⟨JobRecord.isOpen_pending (orderly.sound.relied _ _ _ (.working running relies)), _,
      .working running relies⟩
  · exact ⟨orderly.sound.relied _ _ _ (.working running relies), _, .working running relies⟩

/-- A pending payload belongs to an open job. -/
theorem Orderly.queued_open (orderly : Orderly state) {job : QueuePayload}
    (queued : .payload job ∈ state.store.pending) : (state.store.recordOf job.jobId).IsOpen :=
  JobRecord.isOpen_pending (orderly.sound.relied _ _ _ (.queued queued))

/-- On routine paths, only recoveries spend elements. -/
theorem Routine.spent_iff (routine : Routine state) {worker : WorkerId} :
    Spent state worker jobId ↔ ∃ lockId point rest,
      state.scans lockId = .recover point worker rest ∧ jobId ∈ jobsIn point.visited := by
  -- The retry path alone has a point of its own for this.
  constructor
  · intro spent
    rcases spent with ⟨point, running, spends⟩ | recovering
    · have isRoutine := routine.workers worker point running
      unfold WorkerPoint.spentJob? at spends
      split at spends
      · simp [WorkerPoint.routine] at isRoutine
      · simp at spends
    · exact recovering
  · exact .inr

/-- An element of a live worker's list is a stake in its job. -/
theorem Orderly.listed_stake (orderly : Orderly state) (routine : Routine state)
    {worker : WorkerId} {point : WorkerPoint} (running : state.workers worker = .running point)
    (listed : jobId ∈ jobsIn (state.store.processing worker)) :
    Stake state (.worker worker) jobId .stored := by
  -- Recoveries act for crashed workers, so nobody has spent the element.
  obtain ⟨job, member, rfl⟩ := mem_jobsIn.mp listed
  refine .listed member fun spent => ?_
  obtain ⟨lockId, point, rest, recovers, _⟩ := routine.spent_iff.mp spent
  have crashed := (orderly.scans lockId _ _ _ recovers).crashed
  simp [running] at crashed

/-! ## What is noticed -/

/-- Nothing that counts for the job is noticed at the step. -/
def Quiet (state : Platform) (label : Label) (jobId : JobId) : Prop :=
  startsOf jobId (notices state label) = 0 ∧ crashesOf jobId (notices state label) = 0

/-- Only sandbox starts and the crashes of a job's holders count. -/
theorem Quiet.of_bystander
    (launches : ∀ worker job, label = .launch worker →
      state.workers worker = .running (.launch job) → job.jobId ≠ jobId)
    (crashes : ∀ worker, label = .workerCrash worker →
      jobId ∉ jobsIn (state.store.processing worker)) : Quiet state label jobId := by
  -- Every other label is noticed by nobody.
  cases label with
  | launch worker =>
    simp only [Quiet, notices]
    split
    · next job running =>
      have other := launches worker job rfl running
      simp [startsOf, crashesOf, other]
    · exact ⟨rfl, rfl⟩
  | workerCrash worker =>
    refine ⟨startsOf_crash _ _ _, ?_⟩
    rw [notices, crashesOf_crash, if_neg (crashes worker rfl)]
  | _ => exact ⟨rfl, rfl⟩

/-- While somebody holds an open job, only that worker's own start or crash counts. -/
theorem Orderly.quiet_elsewhere (orderly : Orderly state) (routine : Routine state)
    (stepped : platform.step state label = some next) {holder : Holder} {reliance : Reliance}
    (staked : Stake state holder jobId reliance) (isOpen : (state.store.recordOf jobId).IsOpen)
    (launches : ∀ worker, label = .launch worker → holder ≠ .worker worker)
    (crashes : ∀ worker, label = .workerCrash worker → holder ≠ .worker worker) :
    Quiet state label jobId := by
  -- Whoever starts the sandbox, or crashes with an element, has a stake of its own.
  have sole := orderly.sound.sole isOpen staked
  refine .of_bystander ?_ ?_
  · intro worker job same running isLabel
    subst same
    subst isLabel
    exact launches worker rfl (sole _ _ (.working running rfl)).symm
  · intro worker same listed
    subst same
    have moved : state.step (.workerCrash worker) = some next := stepped
    cases Platform.step_cases moved with
    | workerCrash running =>
      exact crashes worker rfl (sole _ _ (orderly.listed_stake routine running listed)).symm

/-! ## Letters and limits -/

/-- The retry limit as the branch of a recovery has tested it. -/
def RecoverPoint.withinLimit : RecoverPoint → Prop
  | .reset cursor | .push cursor => cursor.job.retryCount + 1 ≤ maxRetryCount
  | .deadLetter _ _ cursor | .deadLetterPush _ cursor => maxRetryCount < cursor.job.retryCount + 1
  | .list | .check _ | .delete _ => True

/-- The branches of all recoveries were chosen by the retry limit. -/
def WithinLimit (state : Platform) : Prop :=
  ∀ lockId point worker rest, state.scans lockId = .recover point worker rest → point.withinLimit

/-- A recovery that moves on to the next element has chosen no branch for it. -/
theorem RecoverPoint.visit_withinLimit (visited todo : List Entry) :
    (RecoverPoint.visit visited todo).withinLimit := by
  rcases visit_cases visited todo with ⟨cursor, at_⟩ | ⟨all, at_⟩ <;> rw [at_] <;> trivial

/-- The status check chooses the branch, and every later call stays on it. -/
theorem RecoverPoint.resolve_withinLimit {point after : RecoverPoint} {worker : WorkerId}
    {store later : Store} (resolved : point.resolve worker store = some (some after, later))
    (limited : point.withinLimit) : after.withinLimit := by
  -- Behind the last call of a branch the loop has chosen none yet.
  cases RecoverPoint.resolve_cases resolved with
  | list | skip | push | sendLetter => exact visit_withinLimit _ _
  | exhausts _ spent => exact spent
  | retries _ within => exact within
  | reset | connect | begin | updateStatus | insertResult | commit => exact limited

/-- Every step keeps the recoveries on the branches they have chosen. -/
theorem WithinLimit.step (limited : WithinLimit state)
    (stepped : platform.step state label = some next) : WithinLimit next := by
  -- The scan that moved came from a recovery on the same branch, or has chosen none yet.
  intro lockId point worker rest recovers
  rcases Platform.step_scan stepped lockId with
    ⟨same, _⟩ | ⟨_, _, rfl⟩ | ⟨outcome, after, _, went, rfl⟩ | ⟨found, alive, _, _, rfl⟩ | ⟨_, rfl⟩
  · exact limited lockId point worker rest (same ▸ recovers)
  · simp at recovers
  · obtain ⟨first, later⟩ := after
    obtain rfl : first = .recover point worker rest := by simpa using recovers
    rcases ScanPoint.call_recover went with
      ⟨was, before, _, resolved⟩ | ⟨call, letter, cursor, before, rfl⟩ | ⟨rfl, _⟩
    · exact RecoverPoint.resolve_withinLimit resolved (limited lockId was worker rest before)
    · have earlier := limited lockId _ worker rest before
      exact earlier
    · trivial
  · obtain ⟨rfl, _⟩ := ScanPoint.recoverAll_recover (by simpa using recovers)
    trivial
  · simp at recovers

/-- A crash-stop step sends a job's first letter only where a recovery commits the job as FAILED. -/
theorem Lettered.step (routine : Routine state) (setting : crashStop state label = true)
    (stepped : platform.step state label = some next) (lettered : Lettered next jobId) :
    Lettered state jobId ∨ ∃ lockId letter cursor worker rest, label = .scan lockId .resolves ∧
      letter.jobId = jobId ∧
      state.scans lockId = .recover (.deadLetter .commit letter cursor) worker rest := by
  -- The letter is on its way before it is in the list, and workers send none on routine paths.
  rcases lettered with ⟨letter, member, rfl⟩ | ⟨lockId, letter, cursor, worker, rest, rfl, pushes⟩
  · left
    rcases Platform.step_letters stepped member with
      earlier | ⟨pusher, running⟩ | ⟨lockId, cursor, owner, rest, pushes⟩
    · exact .inl ⟨letter, earlier, rfl⟩
    · simpa [WorkerPoint.routine] using routine.workers pusher _ running
    · exact .inr ⟨lockId, letter, cursor, owner, rest, rfl, pushes⟩
  · rcases Platform.step_scan stepped lockId with
      ⟨same, _⟩ | ⟨_, _, rfl⟩ | ⟨outcome, after, rfl, went, rfl⟩ | ⟨found, alive, _, _, rfl⟩ | ⟨_, rfl⟩
    · exact .inl (.inr ⟨lockId, letter, cursor, worker, rest, rfl, same ▸ pushes⟩)
    · simp at pushes
    · obtain rfl : outcome = .resolves := by simpa [crashStop, launchFaults] using setting
      obtain ⟨first, second⟩ := after
      obtain rfl : first = .recover (.deadLetterPush letter cursor) worker rest := by
        simpa using pushes
      rcases ScanPoint.call_recover went with
        ⟨was, before, _, resolved⟩ | ⟨_, _, _, _, impossible⟩ | ⟨impossible, _⟩
      · obtain rfl := RecoverPoint.resolve_deadLetterPush resolved
        exact .inr ⟨lockId, letter, cursor, worker, rest, rfl, rfl, before⟩
      · simp at impossible
      · simp at impossible
    · exact absurd (ScanPoint.recoverAll_recover (by simpa using pushes)).1 (by simp)
    · simp at pushes

/-! ## What one step does to an attempt -/

/-- The step keeps the job at its attempt, or moves it by an event that counts the same. -/
def Advances (state next : Platform) (label : Label) (jobId : JobId) (attempt : Attempt) : Prop :=
  (Located next jobId attempt ∧ Quiet state label jobId) ∨
  ∃ event after, attempts.step attempt event = some after ∧ Located next jobId after ∧
    startsOf jobId (notices state label) = event.starts ∧
    crashesOf jobId (notices state label) = event.crashes

/-- A crash-stop step resolves all its calls, and is no bulk update. -/
theorem crashStop_resolves (setting : crashStop state label = true) :
    (∀ key outcome, label = .gateway key outcome → outcome = .resolves) ∧
    (∀ worker outcome, label = .worker worker outcome → outcome = .resolves) ∧
    (∀ lockId outcome, label = .scan lockId outcome → outcome = .resolves) ∧
    ∀ outcome, label ≠ .startup outcome := by
  -- Each kind of call is tested by the setting.
  refine ⟨?_, ?_, ?_, ?_⟩
  · intro key outcome same
    subst same
    simpa [crashStop, launchFaults] using setting
  · intro worker outcome same
    subst same
    simpa [crashStop, launchFaults] using setting
  · intro lockId outcome same
    subst same
    simpa [crashStop, launchFaults] using setting
  · intro outcome same
    subst same
    simp [crashStop, launchFaults, supervised] at setting

/-- A job that has not been sent has no row, or its handler is about to push it. -/
theorem Orderly.unsent_record (orderly : Orderly state)
    (unsent : (state.posts jobId).unsent = true) : state.store.recordOf jobId = none ∨
      (Stake state .handler jobId (.waiting 0) ∧ (state.store.recordOf jobId).IsOpen) := by
  -- The row is inserted right before the push.
  have facts := orderly.posts jobId
  cases at_ : state.posts jobId with
  | idle => rw [at_] at facts; exact .inl facts
  | insert payload => rw [at_] at facts; exact .inl facts.2.2
  | enqueue payload =>
    have staked : Stake state .handler jobId (.waiting 0) :=
      .handler (by simp [at_, PostPoint.reliance])
    exact .inr ⟨staked, JobRecord.isOpen_pending (orderly.sound.relied _ _ _ staked)⟩
  | depth payload | markFailed payload | insertFailure payload | answered code | crashed =>
    simp [at_, PostPoint.unsent] at unsent

/-- Nothing is noticed of a job that has not been sent. -/
theorem Orderly.quiet_unsent (orderly : Orderly state) (routine : Routine state)
    (stepped : platform.step state label = some next)
    (unsent : (state.posts jobId).unsent = true) : Quiet state label jobId := by
  rcases orderly.unsent_record unsent with absent | ⟨staked, isOpen⟩
  · -- Without a row, no worker relies on the job or has an element of it.
    refine .of_bystander ?_ ?_
    · intro worker job _ running same
      subst same
      obtain ⟨_, _, found, _⟩ : (state.store.recordOf job.jobId).IsOpen :=
        orderly.sound.relied _ _ _ (.working running rfl)
      simp [absent] at found
    · intro worker _ listed
      obtain ⟨job, member, rfl⟩ := mem_jobsIn.mp listed
      obtain ⟨columns, found⟩ := orderly.listedStored worker job member
      simp [absent] at found
  · exact orderly.quiet_elsewhere routine stepped staked isOpen (by simp) (by simp)

/-- A job that has not been sent stays so until its handler pushes the payload, with no retry counted. -/
theorem Located.unsent_step (orderly : Orderly state) (routine : Routine state)
    (setting : crashStop state label = true) (stepped : platform.step state label = some next)
    (located : Located state jobId .unsent) : Advances state next label jobId .unsent := by
  -- Only the handler of the job moves it on.
  have quiet := orderly.quiet_unsent routine stepped located
  rcases Platform.step_post stepped jobId with
    ⟨same, _⟩ | ⟨_, _, _, rfl, _, rfl⟩ | ⟨outcome, after, rfl, went, rfl⟩ | ⟨rfl, _⟩
  · exact .inl ⟨by simpa [Located, same] using located, quiet⟩
  · exact .inl ⟨by simp [Located, receivePost, PostPoint.unsent], quiet⟩
  · obtain rfl := (crashStop_resolves setting).1 _ _ rfl
    have facts := orderly.posts jobId
    generalize at_ : state.posts jobId = point at went facts
    obtain ⟨following, later⟩ := after
    cases PostPoint.resolve_cases went with
    | insert => exact .inl ⟨by simp [Located, PostPoint.unsent], quiet⟩
    | @enqueue payload =>
      obtain ⟨isOwn, fresh⟩ : payload.jobId = jobId ∧ payload.retryCount = 0 := facts
      exact .inr ⟨.send, .waiting 0, rfl,
        ⟨payload, by simp [Store.pushPending], isOwn, fresh⟩, rfl, rfl⟩
    | depth | markFailed | insertFailure => simp [Located, at_, PostPoint.unsent] at located
  · simp [crashStop, launchFaults] at setting

/-- A waiting job stays pending until a worker pops it. -/
theorem Located.waiting_step (orderly : Orderly state) (routine : Routine state)
    (setting : crashStop state label = true) (stepped : platform.step state label = some next)
    (located : Located state jobId (.waiting retryCount)) :
    Advances state next label jobId (.waiting retryCount) := by
  -- The pending list is the job's only holder.
  obtain ⟨job, queued, rfl, rfl⟩ := located
  have quiet := orderly.quiet_elsewhere routine stepped (.queued queued)
    (orderly.queued_open queued) (by simp) (by simp)
  rcases Platform.step_pending stepped queued with stays | ⟨popper, outcome, rfl, claims⟩
  · exact .inl ⟨⟨job, stays, rfl, rfl⟩, quiet⟩
  · obtain rfl := (crashStop_resolves setting).2.1 _ _ rfl
    exact .inr ⟨.take, .taken job.retryCount false, rfl,
      ⟨popper, .claim job, job, claims rfl job rfl, rfl, rfl, rfl⟩, rfl, rfl⟩

/-- A live worker's calls keep the job it has taken, until the commit closes the job. -/
theorem Orderly.taken_resolve (orderly : Orderly state) (routine : Routine state)
    {worker : WorkerId} {point : WorkerPoint} (running : state.workers worker = .running point)
    {job : QueuePayload} {started : Bool} (taken : point.taken? = some (job, started))
    {after : WorkerPoint × Store} (resolved : point.resolve worker state.store = some after) :
    after.1.taken? = some (job, started) ∨
      (started = true ∧ (after.2.recordOf job.jobId).IsClosed) := by
  -- Only the claim and the statements of the transaction are made for a job that is taken.
  have isRoutine := routine.workers worker point running
  obtain ⟨next, later⟩ := after
  cases WorkerPoint.resolve_cases resolved with
  | claim => exact .inl taken
  | @unclaimed own unclaimable =>
    -- The claim matches, so the branch behind a rejected claim is not taken.
    have matched := orderly.worker_claims running
    omega
  | connect | begin | insertResult | updateStatus => exact .inl taken
  | rollback => simp [WorkerPoint.routine] at isRoutine
  | @commit own result =>
    obtain ⟨rfl, rfl⟩ : own = job ∧ true = started := by simpa [WorkerPoint.taken?] using taken
    obtain ⟨status, counted, found, _⟩ : (state.store.recordOf own.jobId).IsOpen :=
      orderly.sound.relied _ _ _ (.working running rfl)
    refine .inr ⟨rfl, (finalOutcome result).1, counted, ?_, finalOutcome_terminal result⟩
    rw [Store.recordOf_commitResult]
    simp [found]
  | _ => simp [WorkerPoint.taken?] at taken

/-- The crash of its worker leaves the element of a taken job behind, and counts for the job. -/
theorem Located.taken_crash (orderly : Orderly state)
    {worker : WorkerId} {point : WorkerPoint} (running : state.workers worker = .running point)
    {job : QueuePayload} {started : Bool} (taken : point.taken? = some (job, started)) :
    Advances state { state with workers := Function.update state.workers worker .crashed }
      (.workerCrash worker) job.jobId (.taken job.retryCount started) := by
  -- No recovery has acted for the worker while it was running.
  have member := orderly.ownListed worker point job running (WorkerPoint.taken_facts taken).1
  have isOpen := (orderly.taken_open running taken).1
  refine .inr ⟨.crash, .orphaned job.retryCount, by cases started <;> rfl,
    ⟨worker, job, by simp, member, ?_, isOpen, rfl, rfl⟩, startsOf_crash _ _ _, ?_⟩
  · intro spent
    rcases spent with ⟨other, alive, _⟩ | ⟨lockId, other, rest, recovers, _⟩
    · simp at alive
    · have crashed := (orderly.scans lockId other worker rest recovers).crashed
      simp [running] at crashed
  · rw [notices, crashesOf_crash, if_pos (mem_jobsIn.mpr ⟨job, member, rfl⟩)]
    rfl

/-- A taken job stays with its worker until the commit, or until the worker crashes. -/
theorem Located.taken_step {started : Bool} (orderly : Orderly state) (routine : Routine state)
    (setting : crashStop state label = true) (stepped : platform.step state label = some next)
    (located : Located state jobId (.taken retryCount started)) (unlettered : ¬ Lettered state jobId) :
    Advances state next label jobId (.taken retryCount started) := by
  -- The worker that has taken the job is its only holder.
  obtain ⟨worker, point, job, running, taken, rfl, rfl⟩ := located
  obtain ⟨isOpen, reliance, staked⟩ := orderly.taken_open running taken
  rcases Platform.step_running stepped running with ⟨later, alive⟩ | ⟨rfl, rfl⟩
  · rcases Platform.step_worker stepped alive with
      ⟨before, _⟩ | ⟨outcome, before, store, rfl, runs, went, rfl⟩ | ⟨own, rfl, runs, rfl, rfl⟩ |
      ⟨result, before, rfl, runs, settled, rfl⟩ | ⟨_, absent, _⟩
    · -- Another process has moved.
      obtain rfl : point = later := by simpa [running] using before
      refine .inl ⟨⟨worker, point, job, alive, taken, rfl, rfl⟩, ?_⟩
      refine orderly.quiet_elsewhere routine stepped staked isOpen ?_ ?_
      · intro mover isLabel same
        subst isLabel
        obtain rfl : worker = mover := by simpa using same
        simp only [platform, Platform.step, running] at stepped
        split at stepped
        · next own at_ =>
          obtain rfl := Option.some.inj stepped
          obtain rfl : point = .launch own := by simpa using at_
          simp at alive
        · simp at stepped
      · intro mover isLabel same
        subst isLabel
        obtain rfl : worker = mover := by simpa using same
        simp only [platform, Platform.step, running] at stepped
        obtain rfl := Option.some.inj stepped
        simp at alive
    · obtain rfl := (crashStop_resolves setting).2.1 _ _ rfl
      obtain rfl : point = before := by simpa [running] using runs
      rcases orderly.taken_resolve routine running taken went with still | ⟨rfl, closed⟩
      · exact .inl ⟨⟨worker, later, job, alive, still, rfl, rfl⟩, rfl, rfl⟩
      · refine .inr ⟨.finish, .ended, rfl, ⟨closed, fun lettered => ?_⟩, rfl, rfl⟩
        rcases lettered.step routine setting stepped with earlier | ⟨_, _, _, _, _, other, _⟩
        · exact unlettered earlier
        · simp at other
    · obtain rfl : point = .launch own := by simpa [running] using runs
      obtain ⟨rfl, rfl⟩ : own = job ∧ false = started := by simpa [WorkerPoint.taken?] using taken
      refine .inr ⟨.start, .taken own.retryCount true, rfl,
        ⟨worker, .executing own, own, alive, rfl, rfl, rfl⟩, ?_, ?_⟩
      · simp [notices, running, startsOf, AttemptEvent.starts]
      · simp [notices, running, crashesOf, AttemptEvent.crashes]
    · obtain rfl : point = before := by simpa [running] using runs
      obtain ⟨result, rfl⟩ := Option.isSome_iff_exists.mp setting
      cases point with
      | executing own =>
        obtain rfl := Option.some.inj settled
        exact .inl ⟨⟨worker, _, job, alive, taken, rfl, rfl⟩, rfl, rfl⟩
      | _ => simp [WorkerPoint.sandboxSettled] at settled
    · simp [running] at absent
  · exact taken_crash orderly running taken

/-- A job that is over stays over, and later crashes do not count against it. -/
theorem Located.over_step (orderly : Orderly state) (routine : Routine state)
    (setting : crashStop state label = true) (stepped : platform.step state label = some next)
    (located : Located state jobId .ended) : Advances state next label jobId .ended := by
  -- A closed job stays closed, and only a crash with a copy of it can still be counted.
  obtain ⟨closed, unlettered⟩ := located
  have clean : platform.Runs cleanlySupervised state [label] next :=
    .snoc .nil (routine.cleanlySupervised setting) stepped
  have same := orderly.keeps_closed clean closed
  have located' : Located next jobId .ended := by
    refine ⟨same ▸ closed, fun lettered => ?_⟩
    rcases lettered.step routine setting stepped with
      earlier | ⟨lockId, letter, cursor, worker, rest, _, rfl, commits⟩
    · exact unlettered earlier
    · exact closed.not_open (orderly.sound.relied _ _ _ (.recovering commits rfl))
  have idle : ∀ worker job, label = .launch worker →
      state.workers worker = .running (.launch job) → job.jobId ≠ jobId := by
    intro worker job _ running same
    subst same
    exact closed.not_open (orderly.sound.relied _ _ _ (.working running rfl))
  by_cases holds : ∃ worker, label = .workerCrash worker ∧
      jobId ∈ jobsIn (state.store.processing worker)
  · obtain ⟨worker, rfl, listed⟩ := holds
    refine .inr ⟨.crash, .ended, rfl, located', startsOf_crash _ _ _, ?_⟩
    rw [notices, crashesOf_crash, if_pos listed]
    rfl
  · exact .inl ⟨located', .of_bystander idle fun worker crashes listed =>
      holds ⟨worker, crashes, listed⟩⟩

/-- A buried job stays buried: no live worker gets an element of it again. -/
theorem Located.buried_step (orderly : Orderly state) (routine : Routine state)
    (setting : crashStop state label = true) (stepped : platform.step state label = some next)
    (located : Located state jobId .buried) : Advances state next label jobId .buried := by
  -- No worker can get an element of a closed job any more.
  obtain ⟨closed, unlisted⟩ := located
  have clean : platform.Runs cleanlySupervised state [label] next :=
    .snoc .nil (routine.cleanlySupervised setting) stepped
  have same := orderly.keeps_closed clean closed
  refine .inl ⟨⟨same ▸ closed, ?_⟩, .of_bystander ?_ ?_⟩
  · intro worker point running listed
    obtain ⟨job, member, rfl⟩ := mem_jobsIn.mp listed
    rcases Platform.step_arrivals stepped member with earlier | ⟨_, queued⟩
    · cases was : state.workers worker with
      | absent => simp [orderly.absentEmpty worker was] at earlier
      | running before => exact unlisted worker before was (mem_jobsIn.mpr ⟨job, earlier, rfl⟩)
      | crashed =>
        have still := Platform.step_crashed stepped was
        simp [running] at still
    · exact closed.not_open (orderly.queued_open queued)
  · intro worker job _ running same
    subst same
    exact closed.not_open (orderly.sound.relied _ _ _ (.working running rfl))
  · intro worker same listed
    subst same
    have moved : state.step (.workerCrash worker) = some next := stepped
    cases Platform.step_cases moved with
    | workerCrash running => exact unlisted worker _ running listed

/-! ## Orphaned elements -/

/-- The element a recovery is at is the only one of its open job in the dead worker's list. -/
theorem Orderly.current_element (orderly : Orderly state) {lockId : LockId} {point : RecoverPoint}
    {worker : WorkerId} {rest : List WorkerId} {cursor : Cursor}
    (recovers : state.scans lockId = .recover point worker rest)
    (snapshot : point.snapshot? = some (cursor.visited ++ .payload cursor.job :: cursor.todo))
    {job : QueuePayload} (member : .payload job ∈ state.store.processing worker)
    (isOpen : (state.store.recordOf job.jobId).IsOpen) (same : cursor.job.jobId = job.jobId) :
    cursor.job = job := by
  -- The list holds an open job once at most.
  have whole := (orderly.scans lockId _ _ _ recovers).snapshot _ snapshot
  exact payload_unique (orderly.listedOnce worker job.jobId isOpen) member (by simp [whole]) same

/-- An orphaned element is spent by the push of its next copy, and by nothing else. -/
theorem Located.orphaned_spent (orderly : Orderly state) (limited : WithinLimit state)
    (setting : crashStop state label = true) (stepped : platform.step state label = some next)
    {worker : WorkerId} {job : QueuePayload}
    (member : .payload job ∈ state.store.processing worker)
    (unspent : ¬ Spent state worker job.jobId) (isOpen : (state.store.recordOf job.jobId).IsOpen)
    {lockId : LockId} {point : RecoverPoint} {rest : List WorkerId}
    (recovers : next.scans lockId = .recover point worker rest)
    (visited : job.jobId ∈ jobsIn point.visited) :
    Advances state next label job.jobId (.orphaned job.retryCount) := by
  rcases Platform.step_scan stepped lockId with
    ⟨same, _⟩ | ⟨_, _, rfl⟩ | ⟨outcome, after, rfl, went, rfl⟩ | ⟨found, alive, _, _, rfl⟩ | ⟨_, rfl⟩
  · exact absurd (.inr ⟨lockId, point, rest, same ▸ recovers, visited⟩) unspent
  · simp at recovers
  · obtain rfl := (crashStop_resolves setting).2.2.1 _ _ rfl
    obtain ⟨first, store⟩ := after
    obtain rfl : first = .recover point worker rest := by simpa using recovers
    have now : job.jobId ∈ jobsIn ((ScanPoint.recover point worker rest).visitedFor worker) := by
      simpa [ScanPoint.visitedFor] using visited
    -- An element is visited by a skip, a push or a letter, and the job is still open.
    rcases ScanPoint.resolve_visited went now with
      earlier | ⟨cursor, others, isCurrent, ⟨_, terminal⟩ | pushes | ⟨letter, pushes⟩⟩
    · cases at_ : state.scans lockId with
      | recover before dead others =>
        rw [at_, ScanPoint.visitedFor] at earlier
        split at earlier
        · next isOwner =>
          exact absurd (.inr ⟨lockId, before, others, isOwner ▸ at_, earlier⟩) unspent
        · simp at earlier
      | _ => simp [at_, ScanPoint.visitedFor] at earlier
    · exact absurd isOpen (closed_of_jobClosed terminal).not_open
    · -- The payload of the next attempt is pending now.
      have isJob := orderly.current_element pushes rfl member isOpen isCurrent
      have retriesLeft : job.retryCount + 1 ≤ maxRetryCount :=
        isJob ▸ limited lockId _ _ _ pushes
      have replied : (ScanPoint.recover (.push cursor) worker others).resolve lockId state.store =
          some (.recover point worker rest, store) := pushes ▸ went
      obtain ⟨_, rfl⟩ := Prod.mk.inj (Option.some.inj replied)
      refine .inr ⟨.requeue, .waiting (job.retryCount + 1), if_pos retriesLeft,
        ⟨job.withRetry (job.retryCount + 1), ?_, rfl, rfl⟩, rfl, rfl⟩
      simp [Store.pushPending, isJob]
    · have closed : (state.store.recordOf letter.jobId).IsClosed :=
        orderly.sound.relied _ _ _ (.recovering pushes rfl)
      have matches_ : letter.jobId = cursor.job.jobId :=
        (orderly.scans lockId _ _ _ pushes).letterMatches
      exact absurd isOpen (isCurrent ▸ matches_ ▸ closed).not_open
  · obtain ⟨rfl, _⟩ := ScanPoint.recoverAll_recover (by simpa using recovers)
    simp [RecoverPoint.visited] at visited
  · simp at recovers

/-- An orphaned job is closed by the dead-letter transaction of its recovery, and by nothing else. -/
theorem Located.orphaned_closed (orderly : Orderly state) (routine : Routine state)
    (limited : WithinLimit state) (setting : crashStop state label = true)
    (stepped : platform.step state label = some next) {worker : WorkerId} {job : QueuePayload}
    (crashed : state.workers worker = .crashed)
    (member : .payload job ∈ state.store.processing worker)
    (unspent : ¬ Spent state worker job.jobId) (isOpen : (state.store.recordOf job.jobId).IsOpen)
    (closes : ¬ (next.store.recordOf job.jobId).IsOpen) :
    Advances state next label job.jobId (.orphaned job.retryCount) := by
  -- The row was written, and only a holder of the job writes it.
  have staked : Stake state (.worker worker) job.jobId .stored := .listed member unspent
  have sole := orderly.sound.sole isOpen staked
  obtain ⟨⟨status, counted⟩, found⟩ := orderly.listedStored worker job member
  rcases Platform.step_recordOf stepped
    (fun _ outcome => (crashStop_resolves setting).2.2.2 outcome) job.jobId with
    kept | ⟨phase, writes, written⟩
  · exact absurd (kept ▸ isOpen) closes
  · obtain ⟨target, isTarget⟩ : ∃ target, target = job.jobId := ⟨_, rfl⟩
    have others : ∀ holder reliance, Stake state holder target reliance → holder = .worker worker :=
      isTarget ▸ sole
    rw [← isTarget] at writes
    cases writes with
    | submit inserts => simp [← isTarget, orderly.insert_fresh inserts] at found
    | markFailed gives => simpa using others .handler .failable (orderly.markFailed_stake gives)
    | claim running | commit running | requeue running | deadLetter running =>
      obtain rfl := Holder.worker.inj (others _ _ (.working running rfl))
      simp [crashed] at running
    | recoverRequeue recovers =>
      rw [written, found] at closes
      exact absurd (JobRecord.isOpen_pending rfl) closes
    | @recoverDeadLetter lockId outcome letter cursor dead rest recovers =>
      obtain rfl := Holder.worker.inj (others _ _ (.recovering recovers rfl))
      obtain rfl := (crashStop_resolves setting).2.2.1 _ _ rfl
      have matches_ : letter.jobId = cursor.job.jobId :=
        (orderly.scans lockId _ _ _ recovers).letterMatches
      have isCurrent := orderly.current_element recovers rfl member isOpen
        (matches_.symm.trans isTarget)
      have exhausted : maxRetryCount < job.retryCount + 1 :=
        isCurrent ▸ limited lockId _ _ _ recovers
      have closed : (next.store.recordOf job.jobId).IsClosed := by
        refine ⟨.failed, counted, ?_, rfl⟩
        rw [written, found]
        simp [Phase.apply]
      refine .inr ⟨.bury, .buried, if_pos exhausted, ⟨closed, ?_⟩, rfl, rfl⟩
      -- Any live worker with an element of the job would be another holder.
      intro other point running listed
      have alive : state.workers other = .running point := by
        obtain ⟨_, _, rfl⟩ := Option.map_eq_some_iff.mp stepped
        exact running
      obtain ⟨held, member', sameJob⟩ := mem_jobsIn.mp listed
      have moved : state.step (.scan lockId .resolves) = some next := stepped
      rcases Platform.step_arrivals moved member' with earlier | ⟨_, queued⟩
      · have also := orderly.listed_stake routine alive (mem_jobsIn.mpr ⟨held, earlier, sameJob⟩)
        obtain rfl := Holder.worker.inj (sole _ _ also)
        simp [crashed] at alive
      · have also : Stake state .queue job.jobId (.waiting held.retryCount) :=
          sameJob ▸ .queued queued
        simpa using sole _ _ also

/-- An orphaned job waits for a recovery, which requeues or buries it. -/
theorem Located.orphaned_step (orderly : Orderly state) (routine : Routine state)
    (limited : WithinLimit state) (setting : crashStop state label = true)
    (stepped : platform.step state label = some next)
    (located : Located state jobId (.orphaned retryCount)) :
    Advances state next label jobId (.orphaned retryCount) := by
  obtain ⟨worker, job, crashed, member, unspent, isOpen, rfl, rfl⟩ := located
  have staked : Stake state (.worker worker) job.jobId .stored := .listed member unspent
  have quiet : Quiet state label job.jobId := by
    refine orderly.quiet_elsewhere routine stepped staked isOpen ?_ ?_ <;>
    · intro mover isLabel same
      subst isLabel
      obtain rfl : worker = mover := by simpa using same
      simp [platform, Platform.step, crashed] at stepped
  have crashed' := Platform.step_crashed stepped crashed
  by_cases isOpen' : (next.store.recordOf job.jobId).IsOpen
  · by_cases spent' : Spent next worker job.jobId
    · rcases spent' with ⟨point, running, _⟩ | ⟨lockId, point, rest, recovers, visited⟩
      · simp [crashed'] at running
      · exact orphaned_spent orderly limited setting stepped member unspent isOpen recovers visited
    · rcases Platform.step_processing stepped member with
        stays | ⟨_, point, _, _, running, _⟩ | ⟨lockId, _, visited, rest, _, recovers⟩
      · exact .inl ⟨⟨worker, job, crashed', stays, spent', isOpen', rfl, rfl⟩, quiet⟩
      · simp [crashed] at running
      · -- A recovery deletes the list only when it has visited every element.
        have whole : state.store.processing worker = visited :=
          (orderly.scans lockId _ _ _ recovers).snapshot _ rfl
        exact absurd (.inr ⟨lockId, _, rest, recovers, mem_jobsIn.mpr ⟨job, whole ▸ member, rfl⟩⟩)
          unspent
  · exact orphaned_closed orderly routine limited setting stepped crashed member unspent isOpen
      isOpen'

/-! ## Runs -/

/-- In every crash-stop run, jobs with letters are closed. -/
theorem Lettered.closed {trace : List Label} (run : CrashStopRuns .initial trace state)
    (lettered : Lettered state jobId) : (state.store.recordOf jobId).IsClosed := by
  -- The job is closed before its letter is pushed, and stays so.
  have listed : ∀ letter ∈ state.store.deadLetter, (state.store.recordOf letter.jobId).IsClosed := by
    refine run.preserves_trace (fun _ reached => ∀ letter ∈ reached.store.deadLetter,
      (reached.store.recordOf letter.jobId).IsClosed) ?_ ?_
    · simp [Platform.initial, Store.empty]
    · intro _ reached label after earlier closed setting stepped letter member
      have orderly := Orderly.reached (CrashStopRuns.clean earlier)
      have routine := Routine.reached earlier
      have before : (reached.store.recordOf letter.jobId).IsClosed := by
        rcases Platform.step_letters stepped member with
          there | ⟨pusher, running⟩ | ⟨lockId, cursor, owner, rest, pushes⟩
        · exact closed letter there
        · simpa [WorkerPoint.routine] using routine.workers pusher _ running
        · exact orderly.sound.relied _ _ _ (.recovering pushes rfl)
      have single : platform.Runs cleanlySupervised reached [label] after :=
        .snoc .nil (routine.cleanlySupervised setting) stepped
      rw [orderly.keeps_closed single before]
      exact before
  rcases lettered with ⟨letter, member, rfl⟩ | ⟨lockId, letter, cursor, worker, rest, rfl, pushes⟩
  · exact listed letter member
  · exact (Orderly.reached (CrashStopRuns.clean run)).sound.relied _ _ _ (.recovering pushes rfl)

/-- Every crash-stop run keeps its recoveries on the branches that the retry limit has chosen. -/
theorem WithinLimit.reached {trace : List Label} (run : CrashStopRuns .initial trace state) :
    WithinLimit state := by
  -- No scan is in a recovery at first.
  refine run.preserves WithinLimit ?_ fun _ _ _ limited _ stepped => limited.step stepped
  intro lockId point worker rest recovers
  simp [Platform.initial] at recovers

/-- A step that follows a crash-stop run moves each job by one event, or not at all. -/
theorem Located.step {trace : List Label} (run : CrashStopRuns .initial trace state)
    (setting : crashStop state label = true) (stepped : platform.step state label = some next)
    {attempt : Attempt} (located : Located state jobId attempt) :
    Advances state next label jobId attempt := by
  have orderly := Orderly.reached (CrashStopRuns.clean run)
  have routine := Routine.reached run
  -- There is one step lemma for each place a job can be at.
  cases attempt with
  | unsent => exact located.unsent_step orderly routine setting stepped
  | waiting retryCount => exact located.waiting_step orderly routine setting stepped
  | taken retryCount started =>
    refine located.taken_step orderly routine setting stepped fun lettered => ?_
    obtain ⟨worker, point, job, running, taken, rfl, rfl⟩ := located
    exact (lettered.closed run).not_open (orderly.taken_open running taken).1
  | orphaned retryCount =>
    exact located.orphaned_step orderly routine (WithinLimit.reached run) setting stepped
  | ended => exact located.over_step orderly routine setting stepped
  | buried => exact located.buried_step orderly routine setting stepped

/--
Seen from one job, a crash-stop run is a run of its attempts.

The events count exactly the sandbox starts and the crashes that are noticed along the run.
-/
theorem platform_refines_attempts {trace : List Label} (run : CrashStopRuns .initial trace state)
    (jobId : JobId) : ∃ events attempt, attempts.Runs (fun _ _ => True) .unsent events attempt ∧
      Located state jobId attempt ∧
      startsIn events = startsOf jobId (platform.observe notices .initial trace) ∧
      crashesIn events = crashesOf jobId (platform.observe notices .initial trace) := by
  -- The abstract run grows with each event, and waits where the job stays at its attempt.
  refine run.preserves_trace (fun earlier reached => ∃ events attempt,
    attempts.Runs (fun _ _ => True) .unsent events attempt ∧ Located reached jobId attempt ∧
    startsIn events = startsOf jobId (platform.observe notices .initial earlier) ∧
    crashesIn events = crashesOf jobId (platform.observe notices .initial earlier)) ?_ ?_
  · exact ⟨[], .unsent, .nil, rfl, rfl, rfl⟩
  · rintro earlier reached label after before ⟨events, attempt, lived, located, starts, crashes⟩
      setting stepped
    rw [Machine.observe_snoc before stepped, startsOf_append, crashesOf_append]
    rcases located.step before setting stepped with
      ⟨stays, noStart, noCrash⟩ | ⟨event, moved, advanced, stays, oneStart, oneCrash⟩
    · exact ⟨events, attempt, lived, stays, by omega, by omega⟩
    · refine ⟨events ++ [event], moved, .snoc lived trivial advanced, stays, ?_, ?_⟩
      · rw [oneStart, ← starts]
        simp [startsIn]
      · rw [oneCrash, ← crashes]
        simp [crashesIn]

/-- In a crash-stop run, a job with a letter is buried. -/
theorem Located.buried_of_lettered {trace : List Label} (run : CrashStopRuns .initial trace state)
    {attempt : Attempt} (located : Located state jobId attempt) (lettered : Lettered state jobId) :
    attempt = .buried := by
  -- The job is closed, and every other place but one belongs to an open job.
  have orderly := Orderly.reached (CrashStopRuns.clean run)
  have closed := lettered.closed run
  cases attempt with
  | unsent =>
    rcases orderly.unsent_record located with absent | ⟨_, isOpen⟩
    · obtain ⟨_, _, found, _⟩ := closed
      simp [absent] at found
    · exact absurd isOpen closed.not_open
  | waiting retryCount =>
    obtain ⟨job, queued, rfl, _⟩ := located
    exact absurd (orderly.queued_open queued) closed.not_open
  | taken retryCount started =>
    obtain ⟨worker, point, job, running, taken, rfl, _⟩ := located
    exact absurd (orderly.taken_open running taken).1 closed.not_open
  | orphaned retryCount =>
    obtain ⟨_, _, _, _, _, isOpen, _⟩ := located
    exact absurd isOpen closed.not_open
  | ended => exact absurd lettered located.2
  | buried => rfl

end CodeExecution

import CodeExecution.Proofs.ListMoves
import CodeExecution.Proofs.ScanSteps
import CodeExecution.Recoveries

/-! Scans one after another over a dead worker's list: what a later scan may still do to an element. -/

namespace CodeExecution

variable {state next : Platform} {label : Label} {dead : WorkerId} {entries : List Entry}
  {history : List RecoveryNotice}

/-! ## The lock -/

/-- Only acquiring and releasing move the lock key. -/
theorem Effect.lock_cases (effect : Effect) (store : Store) :
    (effect.apply store).reaperLock = store.reaperLock ∨
    ∃ lockId, (effect = .acquireLock lockId ∧ (effect.apply store).reaperLock = some lockId) ∨
      (effect = .releaseLock lockId ∧ store.reaperLock = some lockId ∧
        (effect.apply store).reaperLock = none) := by
  -- The release script compares before it deletes.
  have tables := fun onTables : effect.onTables = true => Effect.apply_tables onTables store
  cases effect with
  | acquireLock lockId => exact .inr ⟨lockId, .inl ⟨rfl, rfl⟩⟩
  | releaseLock lockId =>
    simp only [Effect.apply, Store.releaseLock]
    split
    · next owned => exact .inr ⟨lockId, .inr ⟨rfl, owned, rfl⟩⟩
    · exact .inl rfl
  | submit _ | claim _ | markFailed _ | requeueRow _ _ | resetRunning | insertFailure _
  | commitResult _ _ | commitDeadLetter _ =>
    obtain ⟨_, _, written⟩ := tables rfl
    exact .inl (by rw [written])
  | stream call jobId chunk => cases call <;> exact .inl rfl
  | _ => exact .inl rfl

/-- Only scans and the expiry move the lock, and they move it to its owner or away from its owner. -/
theorem Platform.step_lock (stepped : state.step label = some next) :
    next.store.reaperLock = state.store.reaperLock ∨ label = .lockExpires ∨
    ∃ lockId outcome, label = .scan lockId outcome ∧
      ((state.scans lockId = .acquire ∧ state.store.reaperLock = none ∧
          next.store.reaperLock = some lockId) ∨
        (state.scans lockId = .release ∧ state.store.reaperLock = some lockId ∧
          next.store.reaperLock = none)) := by
  -- The lock key changes by an effect, or by its expiry.
  obtain ⟨⟨now, lock, same, unexpired⟩, _⟩ := Platform.step_effect stepped
  by_cases expires : label = .lockExpires
  · exact .inr (.inl expires)
  · have after : next.store.reaperLock = lock := by rw [same]
    rw [after, unexpired expires]
    rcases (state.effect label).lock_cases state.store with
      kept | ⟨lockId, ⟨acquires, taken⟩ | ⟨releases, owned, freed⟩⟩
    · exact .inl kept
    · obtain ⟨outcome, isLabel, ⟨_, at_, free⟩ | ⟨releases, _⟩⟩ :=
        Platform.effect_lock acquires (.inl rfl)
      · exact .inr (.inr ⟨lockId, outcome, isLabel, .inl ⟨at_, free, taken⟩⟩)
      · simp at releases
    · obtain ⟨outcome, isLabel, ⟨acquires, _⟩ | ⟨_, at_⟩⟩ :=
        Platform.effect_lock releases (.inr rfl)
      · simp at acquires
      · exact .inr (.inr ⟨lockId, outcome, isLabel, .inr ⟨at_, owned, freed⟩⟩)

/-- A scan is in its critical section after a call only if it was before, or has just taken the lock. -/
theorem ScanPoint.call_critical {point : ScanPoint} {lockId : LockId} {store : Store}
    {outcome : CallOutcome} {after : ScanPoint × Store}
    (went : awaitCall outcome (point.resolve lockId store) point.handler store = some after)
    (critical : after.1.critical = true) :
    (point.critical = true ∧ point ≠ .release) ∨
      (point = .acquire ∧ after.2.reaperLock = some lockId) := by
  -- The calls on the lock are the first and the last of a scan, and their exceptions end it.
  obtain ⟨next, later⟩ := after
  have outside : ScanPoint.finished.critical = false := rfl
  rcases awaitCall_cases went with ⟨_, resolved⟩ | ⟨_, _, handled, same⟩ |
    ⟨_, _, _, _, handled, same⟩
  · cases ScanPoint.resolve_cases resolved with
    | acquires => exact .inr ⟨rfl, rfl⟩
    | rollback | recover => exact .inl ⟨rfl, by simp⟩
    | yields | release => simp [outside] at critical
  all_goals
    obtain ⟨rfl, _⟩ := Prod.mk.inj same
    cases point with
    | recover _ _ _ | detect => exact .inl ⟨rfl, by simp⟩
    | acquire | release =>
      obtain rfl := Option.some.inj handled
      simp [outside] at critical
    | idle | finished => simp [ScanPoint.handler] at handled

/-- As long as no lock expires under its owner, owners stay alone. -/
theorem Locked.step (locked : Locked state) (ordered : sequential state label = true)
    (stepped : platform.step state label = some next) : Locked next := by
  intro lockId critical
  -- While this scan has been critical, nobody else could move the lock.
  have kept : (state.scans lockId).critical = true → state.scans lockId ≠ .release →
      next.store.reaperLock = some lockId := by
    intro was working
    have owned := locked lockId was
    rcases Platform.step_lock stepped with
      same | expires | ⟨other, outcome, _, ⟨_, free, _⟩ | ⟨at_, others, _⟩⟩
    · rw [same]; exact owned
    · subst expires
      simp [locked.uncritical ordered lockId] at was
    · simp [owned] at free
    · rw [owned] at others
      obtain rfl : lockId = other := Option.some.inj others
      exact absurd at_ working
  rcases Platform.step_scan stepped lockId with
    ⟨same, stays⟩ | ⟨_, _, rfl⟩ | ⟨outcome, after, rfl, went, rfl⟩ | ⟨_, _, _, at_, _⟩ | ⟨_, rfl⟩
  · rw [same] at critical
    have owned := locked lockId critical
    rcases Platform.step_lock stepped with
      unmoved | expires | ⟨other, outcome, isOther, ⟨_, free, _⟩ | ⟨_, others, _⟩⟩
    · rw [unmoved]; exact owned
    · subst expires
      simp [locked.uncritical ordered lockId] at critical
    · simp [owned] at free
    · rw [owned] at others
      obtain rfl : lockId = other := Option.some.inj others
      exact absurd isOther (stays outcome)
  · simp [ScanPoint.critical] at critical
  · rcases ScanPoint.call_critical went (by simpa using critical) with ⟨was, working⟩ | ⟨_, taken⟩
    · exact kept was working
    · exact taken
  · exact kept (by simp [at_, ScanPoint.critical]) (by simp [at_])
  · simp [ScanPoint.critical] at critical

/-! ## The dead worker's list -/

/-- The list of a crashed worker stays as it is, until a recovery deletes it. -/
theorem Platform.step_deadList (stepped : state.step label = some next)
    (crashed : state.workers dead = .crashed) :
    next.store.processing dead = state.store.processing dead ∨ next.store.processing dead = [] := by
  -- Whatever else changes a processing list is a call of its owner.
  obtain ⟨⟨now, lock, same, _⟩, _⟩ := Platform.step_effect stepped
  have after : next.store.processing dead = ((state.effect label).apply state.store).processing dead := by
    rw [same]
  rw [after]
  rcases (state.effect label).processing_cases state.store dead with
    kept | ⟨entry, pops, _⟩ | ⟨job, removes, _⟩ | ⟨_, emptied⟩
  · exact .inl kept
  · obtain ⟨_, _, running, _⟩ := Platform.effect_pop pops
    simp [crashed] at running
  · obtain ⟨_, _, _, running, _⟩ := Platform.effect_remove removes
    simp [crashed] at running
  · exact .inr emptied

/-- A recovery keeps what it has read, and reads nothing but the list. -/
theorem RecoverPoint.resolve_snapshot {was point : RecoverPoint} {worker : WorkerId}
    {store later : Store} (resolved : was.resolve worker store = some (some point, later))
    {read : List Entry} (keeps : point.snapshot? = some read) :
    was.snapshot? = some read ∨ (was = .list ∧ read = store.processing worker) := by
  -- An iteration passes its cursor on, and its end only moves the boundary within it.
  cases RecoverPoint.resolve_cases resolved with
  | list => exact .inr ⟨rfl, by simpa [eq_comm] using keeps⟩
  | skip | push | sendLetter => exact .inl ((Cursor.advance_snapshot _).symm.trans keeps)
  | exhausts | retries | reset | connect | begin | updateStatus | insertResult | commit =>
    exact .inl keeps

/-- The iteration in which a recovery is requeueing the job. -/
def RecoverPoint.requeueing? : RecoverPoint → Option Cursor
  | .reset cursor | .push cursor => some cursor
  | .list | .check _ | .deadLetter _ _ _ | .deadLetterPush _ _ | .delete _ => none

/-- A recovery requeues a job that its check has just found open, reset first and pushed next. -/
theorem RecoverPoint.resolve_requeueing {was point : RecoverPoint} {worker : WorkerId}
    {store later : Store} (resolved : was.resolve worker store = some (some point, later))
    {cursor : Cursor} (requeues : point.requeueing? = some cursor) :
    (was = .check cursor ∧ isTerminalStatus (store.statusOf cursor.job.jobId) = false) ∨
      was = .reset cursor := by
  -- The loop visits its next element at the check.
  have visits : ∀ visited todo, (RecoverPoint.visit visited todo).requeueing? = none := by
    intro visited todo
    rcases visit_cases visited todo with ⟨cursor, at_⟩ | ⟨all, at_⟩ <;> rw [at_] <;> rfl
  cases RecoverPoint.resolve_cases resolved with
  | @retries own isOpen =>
    obtain rfl : own = cursor := by simpa [RecoverPoint.requeueing?] using requeues
    exact .inl ⟨rfl, isOpen⟩
  | @reset own =>
    obtain rfl : own = cursor := by simpa [RecoverPoint.requeueing?] using requeues
    exact .inr rfl
  | list | skip | push | sendLetter => simp [Cursor.advance, visits] at requeues
  | exhausts | connect | begin | updateStatus | insertResult | commit =>
    simp [RecoverPoint.requeueing?] at requeues

/-! ## Repeated scans -/

/-- What holds while scans recover one dead worker's list one after another. -/
structure Resumed (dead : WorkerId) (entries : List Entry)
    (recorded : Platform × List RecoveryNotice) : Prop where
  crashed : recorded.1.workers dead = .crashed
  /-- The list is the original one until it is deleted. -/
  listed : recorded.1.store.processing dead = entries ∨ recorded.1.store.processing dead = []
  locked : Locked recorded.1
  /-- Whatever a recovery of the list has read is the original list, or nothing. -/
  snapshot : ∀ lockId point rest, recorded.1.scans lockId = .recover point dead rest →
    ∀ read, point.snapshot? = some read → read = entries ∨ read = []
  /-- A recovery requeues no element that has been requeued before. -/
  fresh : ∀ lockId point rest cursor, recorded.1.scans lockId = .recover point dead rest →
    point.requeueing? = some cursor →
    ∀ notice ∈ recorded.2, cursor.requeuedBy lockId dead notice = false
  once : ∀ position, requeuesAt dead position recorded.2 ≤ 1
  /-- No scan resets the row of a job that an earlier scan has requeued. -/
  settled : recorded.2.Pairwise fun earlier later => earlier.worker = dead →
    earlier.act = .requeued → later.worker = dead → later.act = .reset →
    earlier.job.jobId = later.job.jobId → earlier.lockId = later.lockId
  /-- Positions are positions of the original list. -/
  placed : ∀ notice ∈ recorded.2, notice.worker = dead →
    entries[notice.position]? = some (.payload notice.job)

/-- A scan that is not at the last element it has read is in its critical section. -/
theorem ScanPoint.recover_critical {point : ScanPoint} {at_ : RecoverPoint} {worker : WorkerId}
    {rest : List WorkerId} (recovers : point = .recover at_ worker rest) :
    point.critical = true := by
  rw [recovers]
  rfl

/-- A step keeps what recoveries of the list have read. -/
theorem Resumed.snapshot_step {recorded : Platform × List RecoveryNotice}
    (resumed : Resumed dead entries recorded) (stepped : platform.step recorded.1 label = some next)
    {lockId : LockId} {point : RecoverPoint} {rest : List WorkerId}
    (recovers : next.scans lockId = .recover point dead rest) {read : List Entry}
    (keeps : point.snapshot? = some read) : read = entries ∨ read = [] := by
  -- What this scan has read is kept by its calls, and read anew by its LRANGE only.
  rcases Platform.step_scan stepped lockId with
    ⟨same, _⟩ | ⟨_, _, rfl⟩ | ⟨outcome, after, rfl, went, rfl⟩ | ⟨found, alive, _, _, rfl⟩ | ⟨_, rfl⟩
  · exact resumed.snapshot lockId point rest (same ▸ recovers) read keeps
  · simp at recovers
  · obtain ⟨first, later⟩ := after
    obtain rfl : first = .recover point dead rest := by simpa using recovers
    rcases ScanPoint.call_recover went with
      ⟨was, before, _, resolved⟩ | ⟨call, letter, cursor, before, rfl⟩ | ⟨rfl, _⟩
    · rcases RecoverPoint.resolve_snapshot resolved keeps with had | ⟨_, rfl⟩
      · exact resumed.snapshot lockId was rest before read had
      · exact resumed.listed
    · exact resumed.snapshot lockId _ rest before read keeps
    · simp [RecoverPoint.snapshot?] at keeps
  · obtain ⟨rfl, _⟩ := ScanPoint.recoverAll_recover (by simpa using recovers)
    simp [RecoverPoint.snapshot?] at keeps
  · simp at recovers

/-- A scan that requeues an element after a step has the element to itself, and finds it fresh. -/
theorem Resumed.fresh_step {recorded : Platform × List RecoveryNotice}
    (resumed : Resumed dead entries recorded) (finished : resumesFinished dead recorded label = true)
    (stepped : platform.step recorded.1 label = some next) {lockId : LockId} {point : RecoverPoint}
    {rest : List WorkerId} {cursor : Cursor}
    (recovers : next.scans lockId = .recover point dead rest)
    (requeues : point.requeueing? = some cursor) :
    ∀ notice ∈ recorded.2 ++ recoveries recorded.1 label,
      cursor.requeuedBy lockId dead notice = false := by
  rcases Platform.step_scan stepped lockId with
    ⟨same, stays⟩ | ⟨_, _, rfl⟩ | ⟨outcome, after, rfl, went, rfl⟩ | ⟨found, alive, _, _, rfl⟩ |
    ⟨_, rfl⟩
  · -- While this scan owns the lock, no other scan acts.
    rw [same] at recovers
    intro notice member
    rcases List.mem_append.mp member with earlier | noticed
    · exact resumed.fresh lockId point rest cursor recovers requeues notice earlier
    · obtain ⟨other, outcome, at_, worker, others, own, act, rfl, acts, _, _⟩ :=
        mem_recoveries noticed
      obtain rfl : lockId = other := resumed.locked.alone (ScanPoint.recover_critical recovers)
        (ScanPoint.recover_critical acts)
      exact absurd rfl (stays outcome)
  · simp at recovers
  · obtain ⟨first, later⟩ := after
    obtain rfl : first = .recover point dead rest := by simpa using recovers
    rcases ScanPoint.call_recover went with
      ⟨was, before, rfl, resolved⟩ | ⟨_, _, _, _, rfl⟩ | ⟨rfl, _⟩
    · intro notice member
      rcases RecoverPoint.resolve_requeueing resolved requeues with ⟨rfl, notTerminal⟩ | rfl
      · -- The check has found the job open, so the element was not requeued before.
        have unnoticed : recoveries recorded.1 (.scan lockId .resolves) = [] := by
          simp [recoveries, before, RecoverPoint.act?, notTerminal]
        rw [unnoticed, List.append_nil] at member
        have isOpen : jobClosed recorded.1 cursor.job.jobId = false := notTerminal
        have unmatched := finished
        simp only [resumesFinished, before, isOpen, Bool.or_false, ne_eq, decide_not,
          decide_true, Bool.not_true, Bool.false_or, List.all_eq_true] at unmatched
        simpa using unmatched notice member
      · rcases List.mem_append.mp member with earlier | noticed
        · exact resumed.fresh lockId _ rest cursor before rfl notice earlier
        · obtain rfl : notice = cursor.notice lockId dead .reset := by
            simpa [recoveries, before, RecoverPoint.act?, CallOutcome.shows] using noticed
          simp [Cursor.notice, Cursor.requeuedBy]
    · simp [RecoverPoint.requeueing?] at requeues
    · simp [RecoverPoint.requeueing?] at requeues
  · obtain ⟨rfl, _⟩ := ScanPoint.recoverAll_recover (by simpa using recovers)
    simp [RecoverPoint.requeueing?] at requeues
  · simp at recovers

/-- An act belongs to an iteration that the recovery is at. -/
theorem RecoverPoint.act_facts {point : RecoverPoint} {store : Store} {cursor : Cursor}
    {act : RecoveryAct} (acts : point.act? store = some (cursor, act)) :
    point.snapshot? = some (cursor.visited ++ .payload cursor.job :: cursor.todo) ∧
      ((act = .reset ∨ act = .requeued) → point.requeueing? = some cursor) := by
  -- Each act is made at a point of the iteration that the cursor describes.
  cases point with
  | check own =>
    simp only [RecoverPoint.act?] at acts
    split at acts
    · obtain ⟨rfl, rfl⟩ := Prod.mk.inj (Option.some.inj acts)
      exact ⟨rfl, by simp⟩
    · simp at acts
  | reset own | push own =>
    obtain ⟨rfl, rfl⟩ := Prod.mk.inj (Option.some.inj acts)
    exact ⟨rfl, fun _ => rfl⟩
  | deadLetterPush letter own =>
    obtain ⟨rfl, rfl⟩ := Prod.mk.inj (Option.some.inj acts)
    exact ⟨rfl, by simp⟩
  | list | deadLetter _ _ _ | delete _ => simp [RecoverPoint.act?] at acts

/-- What a step notices of the dead worker's list is about the element at its position. -/
theorem Resumed.noticed {recorded : Platform × List RecoveryNotice}
    (resumed : Resumed dead entries recorded) {notice : RecoveryNotice}
    (member : notice ∈ recoveries recorded.1 label) (isDead : notice.worker = dead) :
    entries[notice.position]? = some (.payload notice.job) ∧
      ((notice.act = .reset ∨ notice.act = .requeued) → ∀ earlier ∈ recorded.2,
        earlier.worker = dead → earlier.act = .requeued → earlier.position ≠ notice.position ∧
          (earlier.job.jobId = notice.job.jobId → earlier.lockId = notice.lockId)) := by
  obtain ⟨lockId, outcome, point, worker, rest, cursor, act, rfl, recovers, acts, rfl⟩ :=
    mem_recoveries member
  obtain rfl : worker = dead := isDead
  obtain ⟨read, requeues⟩ := RecoverPoint.act_facts acts
  constructor
  · -- The element is the one that the iteration has read.
    rcases resumed.snapshot lockId point rest recovers _ read with whole | none
    · simp [Cursor.notice, ← whole]
    · simp at none
  · intro isRequeue earlier before wasDead wasRequeue
    have fresh := resumed.fresh lockId point rest cursor recovers (requeues isRequeue) earlier before
    simp only [Cursor.requeuedBy, wasDead, wasRequeue] at fresh
    simpa [Cursor.notice] using fresh

/-- Nothing is counted at a position that was never requeued. -/
theorem requeuesAt_eq_zero {position : Nat} (never : ∀ notice ∈ history, notice.worker = dead →
    notice.act = .requeued → notice.position ≠ position) : requeuesAt dead position history = 0 := by
  -- No notice satisfies the counted condition.
  unfold requeuesAt
  rw [List.countP_eq_zero]
  intro notice member matched
  obtain ⟨⟨isDead, isHere⟩, isRequeue⟩ : (notice.worker = dead ∧
      notice.position = position) ∧ notice.act = .requeued := by simpa using matched
  exact never notice member isDead isRequeue isHere

/-- A requeue is counted at a position that has none yet. -/
theorem Resumed.once_step {recorded : Platform × List RecoveryNotice}
    (resumed : Resumed dead entries recorded) (position : Nat) :
    requeuesAt dead position (recorded.2 ++ recoveries recorded.1 label) ≤ 1 := by
  -- A step that adds to the count finds it at zero.
  have atMost := resumed.once position
  have grown : requeuesAt dead position (recorded.2 ++ recoveries recorded.1 label) =
      requeuesAt dead position recorded.2 +
        requeuesAt dead position (recoveries recorded.1 label) := List.countP_append ..
  have single : requeuesAt dead position (recoveries recorded.1 label) ≤ 1 := by
    refine le_trans List.countP_le_length ?_
    rcases recoveries_cases recorded.1 label with none | ⟨notice, one⟩
    · simp [none]
    · simp [one]
  by_cases requeued : ∃ notice ∈ recoveries recorded.1 label, notice.worker = dead ∧
      notice.act = .requeued ∧ notice.position = position
  · obtain ⟨notice, member, isDead, isRequeue, isHere⟩ := requeued
    have before : requeuesAt dead position recorded.2 = 0 := by
      refine requeuesAt_eq_zero fun earlier was wasDead wasRequeue wasHere => ?_
      have fresh := (resumed.noticed member isDead).2 (.inr isRequeue)
      exact (fresh earlier was wasDead wasRequeue).1 (wasHere.trans isHere.symm)
    omega
  · have unmoved : requeuesAt dead position (recoveries recorded.1 label) = 0 :=
      requeuesAt_eq_zero fun notice member isDead isRequeue isHere =>
        requeued ⟨notice, member, isDead, isRequeue, isHere⟩
    omega

/-- Scans that come one after another, and find finished jobs where they requeued before, stay resumed. -/
theorem Resumed.step {recorded after : Platform × List RecoveryNotice}
    (resumed : Resumed dead entries recorded) (ordered : sequential recorded.1 label = true)
    (finished : resumesFinished dead recorded label = true)
    (stepped : recordedPlatform.step recorded label = some after) : Resumed dead entries after := by
  -- The notices of the step are compared with the earlier ones.
  obtain ⟨next, later⟩ := after
  obtain ⟨moved, grown⟩ := Machine.recording_step.mp stepped
  obtain rfl : later = recorded.2 ++ recoveries recorded.1 label := grown
  refine ⟨Platform.step_crashed moved resumed.crashed, ?_, resumed.locked.step ordered moved,
    fun lockId point rest recovers read keeps => resumed.snapshot_step moved recovers keeps,
    fun lockId point rest cursor recovers requeues =>
      resumed.fresh_step finished moved recovers requeues, resumed.once_step, ?_, ?_⟩
  · rcases Platform.step_deadList moved resumed.crashed with same | gone
    · show next.store.processing dead = entries ∨ next.store.processing dead = []
      rw [same]
      exact resumed.listed
    · exact .inr gone
  · refine List.pairwise_append.mpr ⟨resumed.settled, ?_, ?_⟩
    · rcases recoveries_cases recorded.1 label with none | ⟨notice, one⟩
      · rw [none]; exact .nil
      · rw [one]; exact List.pairwise_singleton _ _
    · intro earlier before notice member wasDead wasRequeue isDead isReset
      exact ((resumed.noticed member isDead).2 (.inl isReset) earlier before wasDead wasRequeue).2
  · intro notice member isDead
    rcases List.mem_append.mp member with earlier | noticed
    · exact resumed.placed notice earlier isDead
    · exact (resumed.noticed noticed isDead).1

end CodeExecution

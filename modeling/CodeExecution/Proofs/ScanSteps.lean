import CodeExecution.Proofs.Stakes

/-! Every call of a scan keeps the platform orderly. -/

namespace CodeExecution

/-! ## The loop over the elements -/

/-- Between two iterations the loop stands at a status check, or at the final DEL. -/
theorem RecoverPoint.visit_cases (visited todo : List Entry) :
    (∃ cursor, RecoverPoint.visit visited todo = .check cursor) ∨
      ∃ all, RecoverPoint.visit visited todo = .delete all := by
  -- The induction passes over the elements that cannot be parsed.
  induction todo generalizing visited with
  | nil => exact .inr ⟨visited, rfl⟩
  | cons first rest ih =>
    cases first with
    | payload job => exact .inl ⟨⟨visited, job, rest⟩, rfl⟩
    | malformed text => exact ih _

/-- Between two iterations the loop relies on no job. -/
@[simp] theorem RecoverPoint.visit_reliance (visited todo : List Entry) :
    (RecoverPoint.visit visited todo).reliance = none := by
  rcases visit_cases visited todo with ⟨cursor, at_⟩ | ⟨all, at_⟩ <;> rw [at_] <;> rfl

/-- The loop keeps all elements it has read. -/
@[simp] theorem RecoverPoint.visit_snapshot (visited todo : List Entry) :
    (RecoverPoint.visit visited todo).snapshot? = some (visited ++ todo) := by
  -- An element that is passed over changes sides.
  induction todo generalizing visited with
  | nil => simp [RecoverPoint.visit, RecoverPoint.snapshot?]
  | cons first rest ih =>
    cases first with
    | payload job => rfl
    | malformed text => simp [RecoverPoint.visit, ih]

/-- The loop passes over unparsable elements only, so no job is visited on the way. -/
@[simp] theorem RecoverPoint.jobsIn_visit (visited todo : List Entry) :
    jobsIn (RecoverPoint.visit visited todo).visited = jobsIn visited := by
  -- An unparsable element names no job.
  induction todo generalizing visited with
  | nil => rfl
  | cons first rest ih =>
    cases first with
    | payload job => rfl
    | malformed text => simp [RecoverPoint.visit, ih]

/-- Between two iterations there is no letter. -/
theorem RecoverPoint.visit_letterMatches (visited todo : List Entry) :
    (RecoverPoint.visit visited todo).letterMatches := by
  rcases visit_cases visited todo with ⟨cursor, at_⟩ | ⟨all, at_⟩ <;> rw [at_] <;> trivial

/-- Between two iterations no transaction has been rolled back. -/
@[simp] theorem RecoverPoint.visit_rolledBack (visited todo : List Entry) :
    (RecoverPoint.visit visited todo).rolledBack? = none := by
  rcases visit_cases visited todo with ⟨cursor, at_⟩ | ⟨all, at_⟩ <;> rw [at_] <;> rfl

/-- The end of an iteration keeps all elements the recovery has read. -/
@[simp] theorem Cursor.advance_snapshot (cursor : Cursor) :
    cursor.advance.snapshot? = some (cursor.visited ++ .payload cursor.job :: cursor.todo) := by
  -- The current element moves to the visited ones.
  simp [Cursor.advance, Cursor.visitedNext]

/-- The end of an iteration adds the current job to the visited ones. -/
@[simp] theorem Cursor.jobsIn_advance (cursor : Cursor) :
    jobsIn cursor.advance.visited = jobsIn cursor.visited ++ [cursor.job.jobId] := by
  -- Elements that are passed over name no job.
  simp [Cursor.advance, Cursor.visitedNext]

/-- Where a recovery stands after a call of its scan, and where it came from. -/
theorem ScanPoint.call_recover {before : ScanPoint} {lockId : LockId} {store later : Store}
    {outcome : CallOutcome} {point : RecoverPoint} {worker : WorkerId} {rest : List WorkerId}
    (went : awaitCall outcome (before.resolve lockId store) before.handler store =
      some (.recover point worker rest, later)) :
    (∃ was, before = .recover was worker rest ∧ outcome = .resolves ∧
      was.resolve worker store = some (some point, later)) ∨
    (∃ call letter cursor, before = .recover (.deadLetter call letter cursor) worker rest ∧
      point = .deadLetter .rollback letter cursor) ∨
    (point = .list ∧ ∃ visited other, before = .recover (.delete visited) other (worker :: rest)) := by
  -- A handler stays in the recovery only for the ROLLBACK.
  have failed : before.handler = some (.recover point worker rest) →
      ∃ call letter cursor, before = .recover (.deadLetter call letter cursor) worker rest ∧
        point = .deadLetter .rollback letter cursor := by
    intro handled
    cases before with
    | idle | finished | acquire | release | detect => simp [ScanPoint.handler] at handled
    | recover at_ dead others =>
      cases at_ with
      | deadLetter call letter cursor =>
        cases call with
        | connect | rollback => simp [ScanPoint.handler] at handled
        | _ =>
          obtain ⟨rfl, rfl, rfl⟩ : RecoverPoint.deadLetter .rollback letter cursor = point ∧
              dead = worker ∧ others = rest := by simpa [ScanPoint.handler] using handled
          exact ⟨_, letter, cursor, rfl, rfl⟩
      | _ => simp [ScanPoint.handler] at handled
  rcases awaitCall_cases went with ⟨rfl, resolved⟩ | ⟨_, _, handled, same⟩ |
    ⟨_, _, _, _, handled, same⟩
  · generalize isNext : ScanPoint.recover point worker rest = next at resolved
    cases ScanPoint.resolve_cases resolved with
    | acquires | yields | rollback | release => simp at isNext
    | @recover at_ dead others continued _ replied =>
      cases continued with
      | some after =>
        obtain ⟨rfl, rfl, rfl⟩ : point = after ∧ worker = dead ∧ rest = others := by
          simpa [ScanPoint.recoverNext] using isNext
        exact .inl ⟨at_, rfl, rfl, replied⟩
      | none =>
        -- Only the final DEL ends a recovery, and the next one starts with its LRANGE.
        obtain ⟨rfl, rfl⟩ := ScanPoint.recoverAll_recover isNext.symm
        cases RecoverPoint.resolve_cases replied with
        | delete => exact .inr (.inr ⟨rfl, _, dead, rfl⟩)
  · obtain ⟨rfl, _⟩ := Prod.mk.inj same
    exact .inr (.inl (failed handled))
  · obtain ⟨rfl, _⟩ := Prod.mk.inj same
    exact .inr (.inl (failed handled))

/-- A recovery is about to push a letter only after it has committed the job as FAILED. -/
theorem RecoverPoint.resolve_deadLetterPush {was : RecoverPoint} {letter : DLQPayload}
    {cursor : Cursor} {worker : WorkerId} {store later : Store}
    (resolved : was.resolve worker store = some (some (.deadLetterPush letter cursor), later)) :
    was = .deadLetter .commit letter cursor := by
  -- The loop visits its next element at another point.
  have visits : ∀ visited todo,
      RecoverPoint.visit visited todo ≠ .deadLetterPush letter cursor := by
    intro visited todo
    rcases visit_cases visited todo with ⟨cursor, at_⟩ | ⟨all, at_⟩ <;> simp [at_]
  generalize isNext : some (RecoverPoint.deadLetterPush letter cursor) = next at resolved
  cases RecoverPoint.resolve_cases resolved with
  | commit =>
    obtain ⟨rfl, rfl⟩ := RecoverPoint.deadLetterPush.inj (Option.some.inj isNext)
    rfl
  | list | skip | push | sendLetter => exact absurd (Option.some.inj isNext).symm (visits _ _)
  | _ => simp at isNext

variable {state : Platform} {lockId : LockId} {after : ScanPoint × Store}

/-! ## One scan at a time -/

/-- While a scan is in its critical section, no other scan is. -/
theorem Orderly.alone (orderly : Orderly state) (critical : (state.scans lockId).critical = true)
    (other : LockId) (different : other ≠ lockId) : (state.scans other).critical = false := by
  -- Both would own the lock.
  by_contra also
  exact different (orderly.locked.alone (by simpa using also) critical)

/-- The elements of a worker's list that a scan has finished with. -/
def ScanPoint.visitedFor (owner : WorkerId) : ScanPoint → List Entry
  | .recover point worker _ => if worker = owner then point.visited else []
  | .idle | .acquire | .detect | .release | .finished => []

/-- A scan visits an element once its job is over, pushed again, or dead-lettered. -/
theorem ScanPoint.resolve_visited {point : ScanPoint} {store : Store}
    (resolved : point.resolve lockId store = some after) {owner : WorkerId} {jobId : JobId}
    (now : jobId ∈ jobsIn (after.1.visitedFor owner)) :
    jobId ∈ jobsIn (point.visitedFor owner) ∨ ∃ cursor rest, cursor.job.jobId = jobId ∧
      ((point = .recover (.check cursor) owner rest ∧
          isTerminalStatus (store.statusOf jobId) = true) ∨
        point = .recover (.push cursor) owner rest ∨
        ∃ letter, point = .recover (.deadLetterPush letter cursor) owner rest) := by
  -- The other calls leave the visited elements as they are, or forget them.
  obtain ⟨next, later⟩ := after
  cases ScanPoint.resolve_cases resolved with
  | acquires | yields | rollback | release => simp [ScanPoint.visitedFor] at now
  | @recover point worker rest next _ replied =>
    have unchanged : ∀ next : RecoverPoint, jobsIn next.visited = jobsIn point.visited →
        jobId ∈ jobsIn ((ScanPoint.recover next worker rest).visitedFor owner) →
        jobId ∈ jobsIn ((ScanPoint.recover point worker rest).visitedFor owner) := by
      intro next same was
      simp only [ScanPoint.visitedFor] at was ⊢
      split at was
      · rwa [if_pos ‹_›, ← same]
      · simp at was
    -- The end of an iteration adds its own job.
    have advanced : ∀ cursor : Cursor, point.visited = cursor.visited →
        jobId ∈ jobsIn ((ScanPoint.recover cursor.advance worker rest).visitedFor owner) →
        jobId ∈ jobsIn ((ScanPoint.recover point worker rest).visitedFor owner) ∨
          (cursor.job.jobId = jobId ∧ worker = owner) := by
      intro cursor same was
      simp only [ScanPoint.visitedFor] at was ⊢
      split at was
      · next isOwner =>
        rw [Cursor.jobsIn_advance, List.mem_append, List.mem_singleton] at was
        rw [if_pos isOwner, same]
        exact was.imp_right fun equal => ⟨equal.symm, isOwner⟩
      · simp at was
    cases RecoverPoint.resolve_cases replied with
    | list => exact .inl (unchanged _ (RecoverPoint.jobsIn_visit _ _) now)
    -- Three calls end an iteration.
    | @skip cursor terminal =>
      rcases advanced cursor rfl now with earlier | ⟨rfl, rfl⟩
      · exact .inl earlier
      · exact .inr ⟨cursor, rest, rfl, .inl ⟨rfl, terminal⟩⟩
    | @push cursor =>
      rcases advanced cursor rfl now with earlier | ⟨rfl, rfl⟩
      · exact .inl earlier
      · exact .inr ⟨cursor, rest, rfl, .inr (.inl rfl)⟩
    | @sendLetter letter cursor =>
      rcases advanced cursor rfl now with earlier | ⟨rfl, rfl⟩
      · exact .inl earlier
      · exact .inr ⟨cursor, rest, rfl, .inr (.inr ⟨letter, rfl⟩)⟩
    | exhausts | retries | reset | connect | begin | updateStatus | insertResult | commit =>
      exact .inl (unchanged _ rfl now)
    | delete =>
      cases rest <;> simp [ScanPoint.recoverNext, ScanPoint.recoverAll, ScanPoint.visitedFor,
        RecoverPoint.visited] at now

/-- With one scan at work, its visited elements are the only spent ones besides the workers' own. -/
theorem spent_iff (alone : ∀ other, other ≠ lockId → (state.scans other).critical = false)
    {owner : WorkerId} {jobId : JobId} : Spent state owner jobId ↔
      (∃ point, state.workers owner = .running point ∧ point.spentJob? = some jobId) ∨
      jobId ∈ jobsIn ((state.scans lockId).visitedFor owner) := by
  -- A recovery is critical, so it is the recovery of this scan.
  constructor
  · intro spent
    rcases spent with own | ⟨other, point, rest, recovers, member⟩
    · exact .inl own
    · obtain rfl : other = lockId := by
        by_contra different
        simpa [recovers, ScanPoint.critical] using alone other different
      exact .inr (by simpa [recovers, ScanPoint.visitedFor] using member)
  · intro spent
    rcases spent with own | member
    · exact .inl own
    · cases at_ : state.scans lockId with
      | recover point worker rest =>
        simp only [at_, ScanPoint.visitedFor] at member
        split at member
        · next same => exact .inr ⟨lockId, point, rest, same ▸ at_, member⟩
        · simp at member
      | _ => simp [at_, ScanPoint.visitedFor] at member

/-- Where a stake comes from after the only scan at work has moved. -/
theorem stake_withScan (alone : ∀ other, other ≠ lockId → (state.scans other).critical = false)
    {holder : Holder} {jobId : JobId} {reliance : Reliance}
    (staked : Stake (state.withScan lockId after) holder jobId reliance) :
    (Stake state holder jobId reliance ∧
      (holder = .handler ∨ ∃ owner point, holder = .worker owner ∧
        state.workers owner = .running point)) ∨
    (∃ job, holder = .queue ∧ jobId = job.jobId ∧ reliance = .waiting job.retryCount ∧
      .payload job ∈ after.2.pending) ∨
    (∃ owner job, holder = .worker owner ∧ jobId = job.jobId ∧ reliance = .stored ∧
      .payload job ∈ after.2.processing owner ∧
      job.jobId ∉ jobsIn (after.1.visitedFor owner) ∧
      ∀ point, state.workers owner = .running point → point.spentJob? ≠ some job.jobId) ∨
    (∃ point worker rest, after.1 = .recover point worker rest ∧ holder = .worker worker ∧
      point.reliance = some (jobId, reliance)) := by
  -- Other scans do not recover anything, so a recovery is the one of this scan.
  have alone' : ∀ other, other ≠ lockId →
      ((state.withScan lockId after).scans other).critical = false := by
    intro other different
    simpa [different] using alone other different
  cases staked with
  | handler relies => exact .inl ⟨.handler relies, .inl rfl⟩
  | @queued job member => exact .inr (.inl ⟨job, rfl, rfl, rfl, member⟩)
  | @listed owner job member unspent =>
    rw [spent_iff alone'] at unspent
    refine .inr (.inr (.inl ⟨owner, job, rfl, rfl, rfl, member, ?_, ?_⟩))
    · intro visited
      exact unspent (.inr (by simpa using visited))
    · intro point running spends
      exact unspent (.inl ⟨point, running, spends⟩)
  | @working owner point _ _ running relies =>
    exact .inl ⟨.working running relies, .inr ⟨owner, point, rfl, running⟩⟩
  | @recovering other point worker rest _ _ recovers relies =>
    obtain rfl : other = lockId := by
      by_contra different
      simpa [recovers, ScanPoint.critical] using alone' other different
    exact .inr (.inr (.inr ⟨point, worker, rest, by simpa using recovers, rfl, relies⟩))

/-- The parts of orderliness that do not concern custody, after the only scan at work has moved. -/
theorem Orderly.withScan (orderly : Orderly state)
    (alone : ∀ other, other ≠ lockId → (state.scans other).critical = false)
    (sound : Custody.Sound JobRecord.IsOpen Reliance.Holds
      (Stake (state.withScan lockId after)) after.2.recordOf)
    (rows : ∀ jobId, after.2.recordOf jobId = none ↔ state.store.recordOf jobId = none)
    (queued : ∀ jobId, (after.2.recordOf jobId).IsOpen →
      (jobsIn after.2.pending).count jobId ≤ 1)
    (opened : ∀ jobId, (after.2.recordOf jobId).IsOpen → (state.store.recordOf jobId).IsOpen)
    (thinner : ∀ owner, Thinner (after.2.processing owner) (state.store.processing owner))
    (owned : ∀ owner, state.workers owner ≠ .crashed →
      after.2.processing owner = state.store.processing owner)
    (locked : after.1.critical = true → after.2.reaperLock = some lockId)
    (facts : ∀ point worker rest, after.1 = .recover point worker rest →
      point.Facts (state.withScan lockId after) worker rest) :
    Orderly (state.withScan lockId after) where
  sound := sound
  queuedOnce := queued
  listedOnce := fun worker jobId isOpen =>
    Nat.le_trans ((thinner worker).counts jobId) (orderly.listedOnce worker jobId (opened jobId isOpen))
  listedStored := by
    -- A row that was there is still there.
    intro worker job member
    have before := orderly.listedStored worker job ((thinner worker).payloads job member)
    exact JobRecord.stored_of_kept before (rows job.jobId).mp
  ownListed := by
    intro worker point job running isListed
    have same := owned worker (by simpa using fun crashed => by simp [crashed] at running)
    simpa [same] using orderly.ownListed worker point job running isListed
  absentEmpty := by
    intro worker absent
    have same := owned worker (by simpa using fun crashed => by simp [crashed] at absent)
    simpa [same] using orderly.absentEmpty worker absent
  posts := by
    -- Scans never insert rows.
    intro jobId
    exact (orderly.posts jobId).of_rows (rows jobId)
  scans := by
    intro other point worker rest recovers
    by_cases same : other = lockId
    · subst same
      exact facts point worker rest (by simpa using recovers)
    · have idle := alone other same
      simp [show state.scans other = _ by simpa [same] using recovers, ScanPoint.critical] at idle
  locked := by
    intro other critical
    by_cases same : other = lockId
    · subst same
      exact locked (by simpa using critical)
    · simp [same, alone other same] at critical

/-! ## The kinds of moves a scan makes -/

/-- A move that changes no row and adds no payload to a list. -/
theorem Orderly.scan_quiet (orderly : Orderly state)
    (alone : ∀ other, other ≠ lockId → (state.scans other).critical = false)
    (records : after.2.recordOf = state.store.recordOf)
    (pending : after.2.pending = state.store.pending)
    (thinner : ∀ owner, Thinner (after.2.processing owner) (state.store.processing owner))
    (owned : ∀ owner, state.workers owner ≠ .crashed →
      after.2.processing owner = state.store.processing owner)
    (locked : after.1.critical = true → after.2.reaperLock = some lockId)
    (relies : ∀ point worker rest jobId reliance, after.1 = .recover point worker rest →
      point.reliance = some (jobId, reliance) → reliance.Holds (state.store.recordOf jobId) ∧
        ((state.store.recordOf jobId).IsOpen → ∃ earlier, Stake state (.worker worker) jobId earlier))
    (visited : ∀ owner job, .payload job ∈ after.2.processing owner →
      job.jobId ∈ jobsIn ((state.scans lockId).visitedFor owner) →
      (state.store.recordOf job.jobId).IsOpen → job.jobId ∈ jobsIn (after.1.visitedFor owner))
    (facts : ∀ point worker rest, after.1 = .recover point worker rest →
      point.Facts (state.withScan lockId after) worker rest) :
    Orderly (state.withScan lockId after) := by
  -- An element that is no longer spent belongs to a job that is over.
  refine orderly.withScan alone ?_ (by simp [records])
    (by simpa [records, pending] using orderly.queuedOnce) (by simp [records]) thinner owned locked
    facts
  rw [records]
  refine orderly.sound.retain (fun _ => id) (fun _ _ => id) ?_
  intro holder jobId reliance staked
  rcases stake_withScan alone staked with
    ⟨earlier, _⟩ | ⟨job, rfl, rfl, rfl, queued⟩ | ⟨owner, job, rfl, rfl, rfl, listed, unspent, own⟩ |
    ⟨point, worker, rest, recovers, rfl, relied⟩
  · exact .inl earlier
  · exact .inl (.queued (by simpa [pending] using queued))
  · have before := (thinner owner).payloads job listed
    refine .inr ⟨orderly.listedStored owner job before, fun isOpen => ⟨.stored, .listed before ?_⟩⟩
    rw [spent_iff alone]
    intro spent
    rcases spent with ⟨point, running, spends⟩ | earlier
    · exact own point running spends
    · exact unspent (visited owner job listed earlier isOpen)
  · exact .inr (relies point worker rest jobId reliance recovers relied)

/-- A move that rewrites the row of the open job that the recovery holds. -/
theorem Orderly.scan_write (orderly : Orderly state) {point : RecoverPoint} {worker : WorkerId}
    {rest : List WorkerId} (recovers : state.scans lockId = .recover point worker rest)
    {jobId : JobId} {reliance : Reliance} (relied : point.reliance = some (jobId, reliance))
    (isOpen : (state.store.recordOf jobId).IsOpen)
    (records : ∀ other, other ≠ jobId → after.2.recordOf other = state.store.recordOf other)
    (stored : ∃ columns, after.2.recordOf jobId = some columns)
    (pending : after.2.pending = state.store.pending)
    (processing : after.2.processing = state.store.processing)
    (locked : after.2.reaperLock = state.store.reaperLock)
    (relies : ∀ next dead others at_ reliance, after.1 = .recover next dead others →
      next.reliance = some (at_, reliance) →
      dead = worker ∧ at_ = jobId ∧ reliance.Holds (after.2.recordOf jobId))
    (visited : ∀ at_, at_ ∈ jobsIn point.visited → (state.store.recordOf at_).IsOpen →
      at_ ∈ jobsIn (after.1.visitedFor worker))
    (facts : ∀ next dead others, after.1 = .recover next dead others →
      next.Facts (state.withScan lockId after) dead others) :
    Orderly (state.withScan lockId after) := by
  -- The recovery holds the job before and after, and nobody else does.
  have critical : (state.scans lockId).critical = true := by simp [recovers, ScanPoint.critical]
  have alone := orderly.alone critical
  have sole := orderly.sound.sole isOpen (.recovering recovers relied)
  have crashed := (orderly.scans lockId _ _ _ recovers).crashed
  have opened := opened_of_written isOpen records
  refine orderly.withScan alone ?_ (rows_of_written isOpen stored records) ?_ opened
    (fun owner => by simpa [processing] using .refl _) (by simp [processing])
    (fun _ => by rw [locked]; exact orderly.locked lockId critical) facts
  · refine orderly.sound.handover jobId _ (.worker worker) sole records ?_
    intro holder at_ reliance' staked
    rcases stake_withScan alone staked with
      ⟨earlier, alive⟩ | ⟨job, rfl, rfl, rfl, queued⟩ |
      ⟨owner, job, rfl, rfl, rfl, listed, unspent, own⟩ |
      ⟨next, dead, others, recovers', rfl, relied'⟩
    · exact .inl ⟨earlier, .inr (Holder.ne_crashed crashed alive)⟩
    · exact .inl ⟨.queued (by simpa [pending] using queued), .inr (by simp)⟩
    · have before : .payload job ∈ state.store.processing owner := by
        simpa [processing] using listed
      by_cases same : job.jobId = jobId ∧ owner = worker
      · exact .inr (.inl ⟨same.1, by rw [same.2], same.1 ▸ stored⟩)
      · by_cases earlier : Spent state owner job.jobId
        · -- The element was spent and is not any more, so its job is over.
          rw [spent_iff alone] at earlier
          rcases earlier with ⟨running, runs, spends⟩ | was
          · exact absurd spends (own running runs)
          · simp only [recovers, ScanPoint.visitedFor] at was
            split at was
            · next isOwner =>
              subst isOwner
              have different : job.jobId ≠ jobId := fun equal => same ⟨equal, rfl⟩
              refine .inr (.inr ⟨?_, fun isOpen' => unspent ?_⟩)
              · rw [records _ different]
                exact orderly.listedStored worker job before
              · exact visited _ was (opened _ isOpen')
            · simp at was
        · refine .inl ⟨.listed before earlier, ?_⟩
          by_cases equal : job.jobId = jobId
          · exact .inr (by simpa using fun isOwner => same ⟨equal, isOwner⟩)
          · exact .inl equal
    · obtain ⟨rfl, rfl, held⟩ := relies next dead others at_ reliance' recovers' relied'
      exact .inr (.inl ⟨rfl, rfl, held⟩)
  · intro other isOpen'
    simpa [pending] using orderly.queuedOnce other (opened other isOpen')

/-- The LPUSH of a recovery hands the job to the pending list, and spends the old element. -/
theorem Orderly.scan_push (orderly : Orderly state) {cursor : Cursor} {worker : WorkerId}
    {rest : List WorkerId} (recovers : state.scans lockId = .recover (.push cursor) worker rest) :
    Orderly (state.withScan lockId (.recover cursor.advance worker rest,
      state.store.pushPending (.payload (cursor.job.withRetry (cursor.job.retryCount + 1))))) := by
  -- The recovery alone holds the job, so no copy of it is queued.
  have critical : (state.scans lockId).critical = true := by simp [recovers, ScanPoint.critical]
  have alone := orderly.alone critical
  have facts := orderly.scans lockId _ _ _ recovers
  have held : Stake state (.worker worker) cursor.job.jobId (.waiting (cursor.job.retryCount + 1)) :=
    .recovering recovers rfl
  have waiting := orderly.sound.relied _ _ _ held
  have isOpen := JobRecord.isOpen_pending waiting
  have sole := orderly.sound.sole isOpen held
  have unqueued := orderly.unqueued isOpen held (by simp)
  refine orderly.withScan alone ?_ (fun _ => Iff.rfl) (orderly.queuedOnce_push unqueued)
    (fun _ => id) (fun _ => .refl _) (fun _ _ => rfl) (fun _ => orderly.locked lockId critical) ?_
  · refine orderly.sound.handover cursor.job.jobId _ .queue sole
      (fun _ _ => rfl) ?_
    intro holder at_ reliance staked
    rcases stake_withScan alone staked with
      ⟨earlier, alive⟩ | ⟨job, rfl, rfl, rfl, queued⟩ |
      ⟨owner, job, rfl, rfl, rfl, listed, unspent, own⟩ |
      ⟨next, dead, others, recovers', rfl, relied'⟩
    · exact .inl ⟨earlier, .inr (Holder.ne_crashed facts.crashed alive)⟩
    · rcases List.mem_cons.mp queued with pushed | earlier
      · obtain rfl : job = cursor.job.withRetry (cursor.job.retryCount + 1) := by
          simpa using pushed
        exact .inr (.inl ⟨rfl, rfl, waiting⟩)
      · exact .inl ⟨.queued earlier, .inr (by simp)⟩
    · -- The visited elements now include the one that was just handed on.
      have visited : ∀ jobId, jobId ∈ jobsIn cursor.visited ∨ jobId = cursor.job.jobId →
          jobId ∈ jobsIn ((ScanPoint.recover cursor.advance worker rest).visitedFor worker) := by
        intro jobId visited
        simpa [ScanPoint.visitedFor] using visited
      refine .inl ⟨.listed listed ?_, ?_⟩
      · rw [spent_iff alone]
        intro spent
        rcases spent with ⟨point, running, spends⟩ | was
        · exact own point running spends
        · simp only [recovers, ScanPoint.visitedFor] at was
          split at was
          · next isOwner => subst isOwner; exact unspent (visited _ (.inl was))
          · simp at was
      · by_cases isOwner : owner = worker
        · subst isOwner
          exact .inl fun same => unspent (visited _ (.inr same))
        · exact .inr (by simpa using isOwner)
    · obtain ⟨rfl, rfl, rfl⟩ : cursor.advance = next ∧ worker = dead ∧ rest = others := by
        simpa using recovers'
      simp [Cursor.advance] at relied'
  · intro next dead others recovers'
    obtain ⟨rfl, rfl, rfl⟩ : cursor.advance = next ∧ worker = dead ∧ rest = others := by
      simpa using recovers'
    exact {
      crashed := facts.crashed
      restCrashed := facts.restCrashed
      snapshot := fun entries snapshot => facts.snapshot entries (by
        rw [← snapshot, Cursor.advance_snapshot, RecoverPoint.snapshot?])
      letterMatches := RecoverPoint.visit_letterMatches _ _
      rolledBack := by simp [Cursor.advance] }

/-- A move within a recovery that leaves all jobs alone. -/
theorem Orderly.scan_stay (orderly : Orderly state) {point next : RecoverPoint} {worker : WorkerId}
    {rest : List WorkerId} (recovers : state.scans lockId = .recover point worker rest)
    {store : Store} (aside : store.SameJobs state.store)
    (relies : ∀ jobId reliance, next.reliance = some (jobId, reliance) →
      reliance.Holds (state.store.recordOf jobId) ∧
        ((state.store.recordOf jobId).IsOpen → ∃ earlier, Stake state (.worker worker) jobId earlier))
    (visited : ∀ jobId ∈ jobsIn point.visited, jobId ∈ jobsIn next.visited)
    (snapshot : ∀ entries, next.snapshot? = some entries → state.store.processing worker = entries)
    (letterMatches : next.letterMatches)
    (rolledBack : ∀ entries, next.rolledBack? = some entries →
      ∀ jobId ∈ jobsIn entries, (state.store.recordOf jobId).IsClosed) :
    Orderly (state.withScan lockId (.recover next worker rest, store)) := by
  -- The spent elements stay spent, and the lists stay as they are.
  have critical : (state.scans lockId).critical = true := by simp [recovers, ScanPoint.critical]
  have facts := orderly.scans lockId _ _ _ recovers
  have ending : ∀ at_ dead others, ScanPoint.recover next worker rest = .recover at_ dead others →
      next = at_ ∧ worker = dead ∧ rest = others := by
    intro at_ dead others same
    simpa using same
  refine orderly.scan_quiet (orderly.alone critical) aside.recordOf_eq aside.pending
    (fun owner => by simpa [aside.processing] using .refl _) (by simp [aside.processing])
    (fun _ => by rw [aside.reaperLock]; exact orderly.locked lockId critical) ?_ ?_ ?_
  · intro at_ dead others jobId reliance same relied
    obtain ⟨rfl, rfl, rfl⟩ := ending _ _ _ same
    exact relies jobId reliance relied
  · intro owner job _ was _
    simp only [recovers, ScanPoint.visitedFor] at was ⊢
    split at was
    · next isOwner => simpa [isOwner] using visited _ was
    · simp at was
  · intro at_ dead others same
    obtain ⟨rfl, rfl, rfl⟩ := ending _ _ _ same
    exact {
      crashed := facts.crashed
      restCrashed := facts.restCrashed
      snapshot := fun entries read => by simpa [aside.processing] using snapshot entries read
      letterMatches := letterMatches
      rolledBack := fun entries left jobId member => by
        simpa [aside.recordOf_eq] using rolledBack entries left jobId member }

/-- A scan leaves its critical work, where the jobs it has handed on are over. -/
theorem Orderly.scan_abandons (orderly : Orderly state)
    (critical : (state.scans lockId).critical = true) {store : Store}
    (aside : store.SameJobs state.store)
    (ended : ∀ owner, ∀ jobId ∈ jobsIn ((state.scans lockId).visitedFor owner),
      (state.store.recordOf jobId).IsClosed) :
    Orderly (state.withScan lockId (.release, store)) := by
  -- Elements that were spent name jobs that are over, and nothing else is left behind.
  refine orderly.scan_quiet (orderly.alone critical) aside.recordOf_eq aside.pending
    (fun owner => by simpa [aside.processing] using .refl _) (by simp [aside.processing])
    (fun _ => by rw [aside.reaperLock]; exact orderly.locked lockId critical) (by simp) ?_ (by simp)
  intro owner job _ was isOpen
  exact absurd isOpen (ended owner _ was).not_open

/-- The same for a recovery, whose visited elements belong to its dead worker. -/
theorem Orderly.recovery_abandons (orderly : Orderly state) {point : RecoverPoint}
    {worker : WorkerId} {rest : List WorkerId}
    (recovers : state.scans lockId = .recover point worker rest) {store : Store}
    (aside : store.SameJobs state.store)
    (ended : ∀ jobId ∈ jobsIn point.visited, (state.store.recordOf jobId).IsClosed) :
    Orderly (state.withScan lockId (.release, store)) := by
  -- For other workers the scan has visited nothing.
  refine orderly.scan_abandons (by simp [recovers, ScanPoint.critical]) aside ?_
  intro owner jobId was
  simp only [recovers, ScanPoint.visitedFor] at was
  split at was
  · exact ended jobId was
  · simp at was

/-- A move of a scan that is outside its critical section before and after. -/
theorem Orderly.scan_outside (orderly : Orderly state) {next : ScanPoint}
    (before : (state.scans lockId).critical = false) (now : next.critical = false) :
    Orderly (state.withScan lockId (next, state.store)) := by
  -- Recoveries are critical, so this scan had none and gets none.
  have same : ∀ other point worker rest,
      (state.withScan lockId (next, state.store)).scans other = .recover point worker rest ↔
        state.scans other = .recover point worker rest := by
    intro other point worker rest
    by_cases isThis : other = lockId
    · subst isThis
      simp only [Platform.withScan_scans, Function.update_self]
      constructor
      · intro recovers
        simp [recovers, ScanPoint.critical] at now
      · intro recovers
        simp [recovers, ScanPoint.critical] at before
    · simp [isThis]
  refine orderly.of_same rfl rfl rfl rfl rfl same ?_
  intro other critical
  by_cases isThis : other = lockId
  · subst isThis
    simp [now] at critical
  · exact orderly.locked other (by simpa [isThis] using critical)

/-! ## Every call of a scan -/

/-- A job that is still open when the loop reaches it has not been visited before. -/
theorem Orderly.scan_unvisited (orderly : Orderly state) {cursor : Cursor} {worker : WorkerId}
    {rest : List WorkerId} (recovers : state.scans lockId = .recover (.check cursor) worker rest)
    (isOpen : (state.store.recordOf cursor.job.jobId).IsOpen) :
    Stake state (.worker worker) cursor.job.jobId .stored := by
  -- The list holds an open job once, and that is the current element.
  have critical : (state.scans lockId).critical = true := by simp [recovers, ScanPoint.critical]
  have facts := orderly.scans lockId _ _ _ recovers
  have whole : state.store.processing worker =
      cursor.visited ++ .payload cursor.job :: cursor.todo := facts.snapshot _ rfl
  have once := orderly.listedOnce worker cursor.job.jobId isOpen
  rw [whole, jobsIn_append, List.count_append, jobsIn_payload, List.count_cons_self] at once
  have fresh : cursor.job.jobId ∉ jobsIn cursor.visited := List.count_eq_zero.mp (by omega)
  refine .listed (by simp [whole]) ?_
  rw [spent_iff (orderly.alone critical)]
  intro spent
  rcases spent with ⟨point, running, _⟩ | was
  · simp [facts.crashed] at running
  · exact fresh (by simpa [recovers, ScanPoint.visitedFor, RecoverPoint.visited] using was)

/-- The end of an iteration adds its element to the visited ones, and changes nothing else. -/
theorem Orderly.scan_advance (orderly : Orderly state) {point : RecoverPoint} {cursor : Cursor}
    {worker : WorkerId} {rest : List WorkerId}
    (recovers : state.scans lockId = .recover point worker rest)
    (visited : point.visited = cursor.visited)
    (read : point.snapshot? = some (cursor.visited ++ .payload cursor.job :: cursor.todo))
    {store : Store} (aside : store.SameJobs state.store) :
    Orderly (state.withScan lockId (.recover cursor.advance worker rest, store)) := by
  -- The next point is the check of another element, or the DEL, and relies on nothing.
  have facts := orderly.scans lockId _ _ _ recovers
  refine orderly.scan_stay recovers aside (by simp [Cursor.advance]) ?_ ?_
    (RecoverPoint.visit_letterMatches _ _) (by simp [Cursor.advance])
  · intro jobId was
    rw [visited] at was
    simpa using .inl was
  · intro entries kept
    rw [Cursor.advance_snapshot, ← read] at kept
    exact facts.snapshot entries kept

/-- The status check takes up an open job. -/
theorem Orderly.scan_takeUp (orderly : Orderly state) {cursor : Cursor} {worker : WorkerId}
    {rest : List WorkerId} (recovers : state.scans lockId = .recover (.check cursor) worker rest)
    (notTerminal : isTerminalStatus (state.store.statusOf cursor.job.jobId) = false)
    {next : RecoverPoint} (relies : next.reliance = some (cursor.job.jobId, .active))
    (visited : next.visited = cursor.visited)
    (read : next.snapshot? = some (cursor.visited ++ .payload cursor.job :: cursor.todo))
    (letterMatches : next.letterMatches) (statement : next.rolledBack? = none) :
    Orderly (state.withScan lockId (.recover next worker rest, state.store)) := by
  -- The current element is in the dead list, so its job has a row.
  have facts := orderly.scans lockId _ _ _ recovers
  have whole : state.store.processing worker =
      cursor.visited ++ .payload cursor.job :: cursor.todo := facts.snapshot _ rfl
  -- The row is there and not terminal, so the recovery takes the job over from its element.
  have isOpen : (state.store.recordOf cursor.job.jobId).IsOpen := by
    obtain ⟨⟨status, retryCount⟩, found⟩ := orderly.listedStored worker cursor.job (by simp [whole])
    refine ⟨status, retryCount, found, ?_⟩
    simpa [isTerminalStatus, Store.statusOf_eq, found] using notTerminal
  have staked := orderly.scan_unvisited recovers isOpen
  refine orderly.scan_stay recovers (.refl _) ?_ ?_ ?_ letterMatches (by simp [statement])
  · intro jobId reliance relied
    obtain ⟨rfl, rfl⟩ : cursor.job.jobId = jobId ∧ .active = reliance := by
      simpa [relies] using relied
    exact ⟨isOpen, fun _ => ⟨_, staked⟩⟩
  · intro jobId was
    rw [visited]
    exact was
  · intro entries kept
    exact whole.trans (Option.some.inj (read.symm.trans kept))

/-- The reset of a row keeps the recovery in charge of its job, or leaves the job to its element. -/
theorem Orderly.scan_reset (orderly : Orderly state) {cursor : Cursor} {worker : WorkerId}
    {rest : List WorkerId} (recovers : state.scans lockId = .recover (.reset cursor) worker rest)
    {next : ScanPoint} (moved : next = .recover (.push cursor) worker rest ∨
      (next = .release ∧
        ∀ jobId ∈ jobsIn cursor.visited, (state.store.recordOf jobId).IsClosed)) :
    Orderly (state.withScan lockId
      (next, state.store.requeueRow cursor.job.jobId (cursor.job.retryCount + 1))) := by
  -- The recovery alone holds the job, so nobody relies on the old columns.
  have facts := orderly.scans lockId _ _ _ recovers
  have isOpen : (state.store.recordOf cursor.job.jobId).IsOpen :=
    orderly.sound.relied _ _ _ (.recovering recovers rfl)
  have ⟨status, retryCount, found, _⟩ := isOpen
  have requeued : (state.store.requeueRow cursor.job.jobId (cursor.job.retryCount + 1)).recordOf
      cursor.job.jobId = some (.pending, cursor.job.retryCount + 1) := by simp [found]
  have ending : ∀ at_ dead others, next = .recover at_ dead others →
      at_ = .push cursor ∧ dead = worker ∧ others = rest := by
    intro at_ dead others same
    rcases moved with rfl | ⟨rfl, _⟩
    · obtain ⟨rfl, rfl, rfl⟩ : .push cursor = at_ ∧ worker = dead ∧ rest = others := by
        simpa using same
      exact ⟨rfl, rfl, rfl⟩
    · simp at same
  refine orderly.scan_write recovers rfl isOpen ?_ ⟨_, requeued⟩ rfl rfl rfl ?_ ?_ ?_
  · intro other different
    simp [different]
  · intro at_ dead others jobId reliance same relied
    obtain ⟨rfl, rfl, rfl⟩ := ending at_ dead others same
    obtain ⟨rfl, rfl⟩ : cursor.job.jobId = jobId ∧
        .waiting (cursor.job.retryCount + 1) = reliance := by
      simpa [RecoverPoint.reliance] using relied
    exact ⟨rfl, rfl, requeued⟩
  · intro jobId was stillOpen
    rcases moved with rfl | ⟨rfl, ended⟩
    · simpa [ScanPoint.visitedFor, RecoverPoint.visited] using was
    · exact absurd stillOpen (ended jobId was).not_open
  · intro at_ dead others same
    obtain ⟨rfl, rfl, rfl⟩ := ending at_ dead others same
    exact ⟨facts.crashed, facts.restCrashed, facts.snapshot, trivial,
      by simp [RecoverPoint.rolledBack?]⟩

/-- The dead-letter transaction closes the job the recovery holds. -/
theorem Orderly.scan_deadLetter (orderly : Orderly state) {letter : DLQPayload} {cursor : Cursor}
    {worker : WorkerId} {rest : List WorkerId}
    (recovers : state.scans lockId = .recover (.deadLetter .commit letter cursor) worker rest)
    {next : RecoverPoint} (moved : next = .deadLetterPush letter cursor ∨
      (next = .deadLetter .rollback letter cursor ∧
        ∀ jobId ∈ jobsIn cursor.visited, (state.store.recordOf jobId).IsClosed)) :
    Orderly (state.withScan lockId
      (.recover next worker rest, state.store.commitDeadLetter letter)) := by
  -- Afterwards the job is FAILED, and that is all the recovery may rely on.
  have facts := orderly.scans lockId _ _ _ recovers
  have isOpen : (state.store.recordOf letter.jobId).IsOpen :=
    orderly.sound.relied _ _ _ (.recovering recovers rfl)
  have ⟨status, retryCount, found, _⟩ := isOpen
  obtain ⟨results, written⟩ := state.store.commitDeadLetter_eq letter
  have records : ∀ other, (state.store.commitDeadLetter letter).recordOf other =
      if other = letter.jobId then some (.failed, retryCount) else state.store.recordOf other := by
    intro other
    rw [written, Store.recordOf_setStatus]
    show (state.store.recordOf other).map _ = _
    by_cases same : other = letter.jobId
    · subst same; simp [found]
    · simp [same]
  have ending : ∀ at_ dead others, ScanPoint.recover next worker rest = .recover at_ dead others →
      next = at_ ∧ worker = dead ∧ rest = others := by
    intro at_ dead others same
    simpa using same
  have visited : next.visited = cursor.visited := by rcases moved with rfl | ⟨rfl, _⟩ <;> rfl
  -- Only the record of the letter's job has changed.
  refine orderly.scan_write recovers rfl isOpen ?_ ⟨(.failed, retryCount), by simp [records]⟩
    (by rw [written]; rfl) (by rw [written]; rfl) (by rw [written]; rfl) ?_ ?_ ?_
  · intro other different
    simp [records, different]
  · intro at_ dead others jobId reliance same relied
    obtain ⟨rfl, rfl, rfl⟩ := ending at_ dead others same
    rcases moved with rfl | ⟨rfl, _⟩
    · obtain ⟨rfl, rfl⟩ : letter.jobId = jobId ∧ .closed = reliance := by
        simpa [RecoverPoint.reliance] using relied
      exact ⟨rfl, rfl, .failed, retryCount, by simp [records], rfl⟩
    · simp [RecoverPoint.reliance] at relied
  · intro jobId was _
    have earlier : jobId ∈ jobsIn cursor.visited := was
    simpa [ScanPoint.visitedFor, visited] using earlier
  · intro at_ dead others same
    obtain ⟨rfl, rfl, rfl⟩ := ending at_ dead others same
    have processing : (state.store.commitDeadLetter letter).processing = state.store.processing := by
      rw [written]; rfl
    refine ⟨facts.crashed, facts.restCrashed, ?_, ?_, ?_⟩
    · intro entries read
      show (state.store.commitDeadLetter letter).processing worker = entries
      rw [processing]
      refine facts.snapshot entries ?_
      rcases moved with rfl | ⟨rfl, _⟩ <;> exact read
    · rcases moved with rfl | ⟨rfl, _⟩ <;> exact facts.letterMatches
    · intro entries left jobId member
      -- After a rollback, the visited jobs were over before.
      rcases moved with rfl | ⟨rfl, ended⟩
      · simp [RecoverPoint.rolledBack?] at left
      · obtain rfl : cursor.visited = entries := by simpa [RecoverPoint.rolledBack?] using left
        have closed := ended jobId member
        have different : jobId ≠ letter.jobId := fun same => closed.not_open (same ▸ isOpen)
        simpa [records, different] using closed

/-- The final DEL removes a list whose elements have all been visited. -/
theorem Orderly.scan_delete (orderly : Orderly state) {visited : List Entry} {worker : WorkerId}
    {rest : List WorkerId} (recovers : state.scans lockId = .recover (.delete visited) worker rest)
    {next : ScanPoint} (moved : next = .recoverAll rest ∨ next = .release) :
    Orderly (state.withScan lockId (next, state.store.deleteProcessing worker)) := by
  -- What follows is the next dead worker, or the release of the lock.
  have critical : (state.scans lockId).critical = true := by simp [recovers, ScanPoint.critical]
  have facts := orderly.scans lockId _ _ _ recovers
  have ending : next = .release ∨ ∃ dead others, rest = dead :: others ∧
      next = .recover .list dead others := by
    rcases moved with rfl | rfl
    · cases rest with
      | nil => exact .inl rfl
      | cons dead others => exact .inr ⟨dead, others, rfl, rfl⟩
    · exact .inl rfl
  refine orderly.scan_quiet (orderly.alone critical) rfl rfl ?_ ?_
    (fun _ => orderly.locked lockId critical) ?_ ?_ ?_
  · intro owner
    by_cases isOwner : owner = worker
    · subst isOwner
      simpa [Store.deleteProcessing] using Thinner.of_sublist (List.nil_sublist _)
    · simpa [Store.deleteProcessing, isOwner] using Thinner.refl _
  · intro owner alive
    have different : owner ≠ worker := fun same => alive (same ▸ facts.crashed)
    simp [Store.deleteProcessing, different]
  · intro at_ dead others jobId reliance same relied
    rcases ending with rfl | ⟨dead', others', rfl, rfl⟩
    · simp at same
    · obtain ⟨rfl, rfl, rfl⟩ : .list = at_ ∧ dead' = dead ∧ others' = others := by simpa using same
      simp [RecoverPoint.reliance] at relied
  · intro owner job listed was _
    simp only [recovers, ScanPoint.visitedFor] at was
    split at was
    · next isOwner => simp [Store.deleteProcessing, isOwner] at listed
    · simp at was
  · intro at_ dead others same
    rcases ending with rfl | ⟨dead', others', rfl, rfl⟩
    · simp at same
    · obtain ⟨rfl, rfl, rfl⟩ : .list = at_ ∧ dead' = dead ∧ others' = others := by simpa using same
      exact ⟨facts.restCrashed _ (by simp), fun other member => facts.restCrashed other (by simp [member]),
        by simp [RecoverPoint.snapshot?], trivial, by simp [RecoverPoint.rolledBack?]⟩

/-- A call of a recovery that resolves keeps the platform orderly. -/
theorem Orderly.recovery_resolves (orderly : Orderly state) {point : RecoverPoint}
    {worker : WorkerId} {rest : List WorkerId}
    (recovers : state.scans lockId = .recover point worker rest)
    {next : Option RecoverPoint} {store : Store}
    (resolved : point.resolve worker state.store = some (next, store)) :
    Orderly (state.withScan lockId (.recoverNext worker rest next, store)) := by
  -- The cases follow the recovery's program, one call each.
  have facts := orderly.scans lockId _ _ _ recovers
  cases RecoverPoint.resolve_cases resolved with
  | list =>
    refine orderly.scan_stay recovers (.refl _) (by simp) ?_ ?_
      (RecoverPoint.visit_letterMatches _ _) (by simp)
    · simp [RecoverPoint.visited]
    · intro entries read
      simpa using read
  | skip => exact orderly.scan_advance recovers rfl rfl (.refl _)
  | exhausts isOpen => exact orderly.scan_takeUp recovers isOpen rfl rfl rfl rfl rfl
  | retries isOpen => exact orderly.scan_takeUp recovers isOpen rfl rfl rfl trivial rfl
  | reset => exact orderly.scan_reset recovers (.inl rfl)
  | push => exact orderly.scan_push recovers
  | connect | begin | updateStatus | insertResult =>
    -- The transaction is still open, and so is the job.
    refine orderly.scan_stay recovers (.refl _) (fun jobId reliance relied => ?_) (fun _ => id)
      facts.snapshot facts.letterMatches (by simp [RecoverPoint.rolledBack?])
    have staked := Stake.recovering recovers relied
    exact ⟨orderly.sound.relied _ _ _ staked, fun _ => ⟨_, staked⟩⟩
  | commit => exact orderly.scan_deadLetter recovers (.inl rfl)
  | @sendLetter letter =>
    exact orderly.scan_advance recovers rfl rfl (state.store.pushDeadLetter_sameJobs letter)
  | delete => exact orderly.scan_delete recovers (.inl rfl)

/-- The release of the lock ends the critical section. -/
theorem Orderly.scan_release (orderly : Orderly state) (at_ : state.scans lockId = .release)
    {store : Store} (released : store = state.store ∨ store = state.store.releaseLock lockId) :
    Orderly (state.withScan lockId (.finished, store)) := by
  -- A scan that releases its lock has nothing visited.
  have critical : (state.scans lockId).critical = true := by simp [at_, ScanPoint.critical]
  have same : store.recordOf = state.store.recordOf ∧ store.pending = state.store.pending ∧
      store.processing = state.store.processing := by
    rcases released with rfl | rfl
    · exact ⟨rfl, rfl, rfl⟩
    · unfold Store.releaseLock
      split <;> exact ⟨rfl, rfl, rfl⟩
  obtain ⟨records, pending, processing⟩ := same
  exact orderly.scan_quiet (orderly.alone critical) records pending
    (fun owner => by simpa [processing] using .refl _) (by simp [processing])
    (by simp [ScanPoint.critical]) (by simp) (by simp [at_, ScanPoint.visitedFor]) (by simp)

/-- A free lock means that no scan is at work, so the one that takes it is alone. -/
theorem Orderly.scan_acquire (orderly : Orderly state) (free : state.store.reaperLock = none)
    (at_ : state.scans lockId = .acquire) {next : ScanPoint}
    (moved : next = .detect ∨ next = .finished) :
    Orderly (state.withScan lockId (next, state.store.acquireLock lockId)) := by
  -- A scan at work would own the lock.
  have alone : ∀ other, other ≠ lockId → (state.scans other).critical = false := by
    intro other _
    by_contra critical
    have owner := orderly.locked other (by simpa using critical)
    simp [free] at owner
  have idle : ∀ point worker rest, next ≠ .recover point worker rest := by
    rcases moved with rfl | rfl <;> simp
  exact orderly.scan_quiet alone rfl rfl (fun _ => .refl _) (fun _ _ => rfl) (fun _ => rfl)
    (fun point worker rest _ _ same => absurd same (idle point worker rest))
    (by simp [at_, ScanPoint.visitedFor]) fun point worker rest same =>
      absurd same (idle point worker rest)

/-- A scan is told of dead workers that have all crashed. -/
theorem Orderly.scan_detect (orderly : Orderly state) (at_ : state.scans lockId = .detect)
    {processingWorkerIds aliveWorkerIds : List WorkerId}
    (truthful : truthfulDetection state processingWorkerIds aliveWorkerIds = true) :
    Orderly (state.withScan lockId
      (.recoverAll (deadWorkerIds processingWorkerIds aliveWorkerIds), state.store)) := by
  -- Nothing is visited yet, whichever worker comes first.
  have critical : (state.scans lockId).critical = true := by simp [at_, ScanPoint.critical]
  have crashed : ∀ worker ∈ deadWorkerIds processingWorkerIds aliveWorkerIds,
      state.workers worker = .crashed := by
    intro worker member
    simpa using List.all_eq_true.mp truthful worker member
  generalize deadWorkerIds processingWorkerIds aliveWorkerIds = dead at crashed
  refine orderly.scan_quiet (orderly.alone critical) rfl rfl (fun _ => .refl _) (fun _ _ => rfl)
    (fun _ => orderly.locked lockId critical) ?_ (by simp [at_, ScanPoint.visitedFor]) ?_
  · intro point worker rest jobId reliance same relied
    obtain ⟨rfl, _⟩ := ScanPoint.recoverAll_recover same
    simp [RecoverPoint.reliance] at relied
  · intro point worker rest same
    obtain ⟨rfl, rfl⟩ := ScanPoint.recoverAll_recover same
    exact ⟨crashed worker (by simp), fun other member => crashed other (by simp [member]),
      by simp [RecoverPoint.snapshot?], trivial, by simp [RecoverPoint.rolledBack?]⟩

/-- A call of a scan that resolves keeps the platform orderly. -/
theorem Orderly.scan_resolves (orderly : Orderly state)
    (resolved : (state.scans lockId).resolve lockId state.store = some after) :
    Orderly (state.withScan lockId after) := by
  -- Before and after the recoveries there are only the calls on the lock.
  obtain ⟨next, store⟩ := after
  generalize at_ : state.scans lockId = point at resolved
  cases ScanPoint.resolve_cases resolved with
  | acquires free => exact orderly.scan_acquire free at_ (.inl rfl)
  | yields => exact orderly.scan_outside (by simp [at_, ScanPoint.critical]) rfl
  | rollback =>
    have facts := orderly.scans lockId _ _ _ at_
    exact orderly.recovery_abandons at_ (.refl _) (facts.rolledBack _ rfl)
  | recover replied => exact orderly.recovery_resolves at_ replied
  | release => exact orderly.scan_release at_ (.inr rfl)

/-- A call of a scan that rejects keeps the platform orderly, where this is clean. -/
theorem Orderly.scan_rejects (orderly : Orderly state)
    (clean : cleanFailure state (.scan lockId (.rejects false)) = true) {next : ScanPoint}
    (handled : (state.scans lockId).handler = some next) :
    Orderly (state.withScan lockId (next, state.store)) := by
  -- An exception ends the scan, and only a failed statement is rolled back first.
  simp only [cleanFailure] at clean
  generalize at_ : state.scans lockId = point at handled clean
  cases point with
  | idle | finished => simp [ScanPoint.handler] at handled
  | acquire =>
    obtain rfl := Option.some.inj handled
    exact orderly.scan_outside (by simp [at_, ScanPoint.critical]) rfl
  | detect =>
    obtain rfl := Option.some.inj handled
    exact orderly.scan_abandons (by simp [at_, ScanPoint.critical]) (.refl _)
      (by simp [at_, ScanPoint.visitedFor])
  | release =>
    obtain rfl := Option.some.inj handled
    exact orderly.scan_release at_ (.inl rfl)
  | recover point worker rest =>
    have facts := orderly.scans lockId _ _ _ at_
    cases point with
    | list =>
      obtain rfl := Option.some.inj handled
      exact orderly.recovery_abandons at_ (.refl _) (by simp [RecoverPoint.visited])
    | check cursor | reset cursor | deadLetterPush letter cursor =>
      obtain rfl := Option.some.inj handled
      exact orderly.recovery_abandons at_ (.refl _) fun _ was => closed_of_allClosed clean was
    | push cursor =>
      obtain rfl := Option.some.inj handled
      have ended : allClosed state cursor.visited = true := by simpa using clean
      exact orderly.recovery_abandons at_ (.refl _) fun _ was => closed_of_allClosed ended was
    | delete visited =>
      obtain rfl := Option.some.inj handled
      have ended : allClosed state visited = true := by simpa using clean
      exact orderly.recovery_abandons at_ (.refl _) fun _ was => closed_of_allClosed ended was
    -- A statement that fails is followed by its ROLLBACK, and the others end the scan.
    | deadLetter call letter cursor =>
      have ended : ∀ jobId ∈ jobsIn cursor.visited,
          (state.store.recordOf jobId).IsClosed :=
        fun _ was => closed_of_allClosed clean was
      cases call with
      | connect | rollback =>
        obtain rfl := Option.some.inj handled
        exact orderly.recovery_abandons at_ (.refl _) ended
      | begin | insertResult | updateStatus | commit =>
        obtain rfl := Option.some.inj handled
        refine orderly.scan_stay at_ (.refl _) (by simp [RecoverPoint.reliance]) (fun _ => id)
          facts.snapshot facts.letterMatches ?_
        intro entries left
        obtain rfl : cursor.visited = entries := by simpa [RecoverPoint.rolledBack?] using left
        exact ended

/-- A call of a scan whose reply is lost keeps the platform orderly, where this is clean. -/
theorem Orderly.scan_loses (orderly : Orderly state)
    (clean : cleanFailure state (.scan lockId (.rejects true)) = true)
    (resolved : (state.scans lockId).resolve lockId state.store = some after) {next : ScanPoint}
    (handled : (state.scans lockId).handler = some next) :
    Orderly (state.withScan lockId (next, after.2)) := by
  -- Where the call has no effect, it might as well have been rejected before it arrived.
  have unaffected : after.2 = state.store →
      cleanFailure state (.scan lockId (.rejects false)) = true →
      Orderly (state.withScan lockId (next, after.2)) := by
    intro same clean'
    rw [same]
    exact orderly.scan_rejects clean' handled
  simp only [cleanFailure] at clean unaffected
  obtain ⟨later, store⟩ := after
  generalize at_ : state.scans lockId = point at resolved handled clean unaffected
  cases ScanPoint.resolve_cases resolved with
  | acquires free =>
    obtain rfl := Option.some.inj handled
    exact orderly.scan_acquire free at_ (.inr rfl)
  | yields => exact unaffected rfl rfl
  | release =>
    obtain rfl := Option.some.inj handled
    exact orderly.scan_release at_ (.inr rfl)
  | rollback => exact unaffected rfl clean
  | recover replied =>
    cases RecoverPoint.resolve_cases replied with
    | list => exact unaffected rfl rfl
    | skip | exhausts | retries | connect | begin | updateStatus | insertResult =>
      exact unaffected rfl clean
    | reset =>
      obtain rfl := Option.some.inj handled
      exact orderly.scan_reset at_ (.inr ⟨rfl, fun _ was => closed_of_allClosed clean was⟩)
    | push => simp at clean
    | commit =>
      obtain rfl := Option.some.inj handled
      exact orderly.scan_deadLetter at_ (.inr ⟨rfl, fun _ was => closed_of_allClosed clean was⟩)
    | @sendLetter letter =>
      obtain rfl := Option.some.inj handled
      exact orderly.recovery_abandons at_ (state.store.pushDeadLetter_sameJobs letter)
        fun _ was => closed_of_allClosed clean was
    | delete =>
      obtain rfl := Option.some.inj handled
      exact orderly.scan_delete at_ (.inr rfl)

/-- Any call of a scan keeps the platform orderly, unless it fails in an unclean way. -/
theorem Orderly.scan_call (orderly : Orderly state) {outcome : CallOutcome}
    (clean : cleanFailure state (.scan lockId outcome) = true)
    (went : awaitCall outcome ((state.scans lockId).resolve lockId state.store)
      (state.scans lockId).handler state.store = some after) :
    Orderly (state.withScan lockId after) := by
  -- The call resolves, rejects without effect, or rejects after its effect.
  rcases awaitCall_cases went with ⟨rfl, resolved⟩ | ⟨rfl, next, handled, rfl⟩ |
    ⟨rfl, reply, next, resolved, handled, rfl⟩
  · exact orderly.scan_resolves resolved
  · exact orderly.scan_rejects clean handled
  · exact orderly.scan_loses clean resolved handled

end CodeExecution

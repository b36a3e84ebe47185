import CodeExecution.Guarantees.Recovery

/-! What the recovery of a dead worker makes of every element of its list. -/

namespace CodeExecution

/-! ## What becomes of an element -/

/-- What a recovery has made of one element. -/
inductive Handling where
  /-- Its next copy has been pushed. -/
  | requeued
  /-- Its letter, with this time of failure, has been pushed. -/
  | deadLettered (failedAt : Timestamp)
  /-- Its job was over. -/
  | passedOver
  /-- It could not be parsed. -/
  | skipped
  deriving DecidableEq, Repr

/-- Elements in the order of the loop, each with what was made of it. -/
abbrev Handled := List (Entry × Handling)

/-- The copy that an element leaves in the pending list. -/
def requeuedPayload? : Entry × Handling → Option Entry
  | (.payload job, .requeued) => some (.payload (job.withRetry (job.retryCount + 1)))
  | _ => none

/-- The letter that an element leaves in the dead-letter list. -/
def sentLetter? (worker : WorkerId) : Entry × Handling → Option DLQPayload
  | (.payload job, .deadLettered failedAt) =>
    some (deadLetterPayload job (deadWorkerReason worker) failedAt)
  | _ => none

/-- The job whose rows are written for an element. -/
def rewrittenJob? : Entry × Handling → Option JobId
  | (.payload job, .requeued) | (.payload job, .deadLettered _) => some job.jobId
  | _ => none

/-- A job with a letter among these elements. -/
def Handled.Ends (handled : Handled) (jobId : JobId) : Prop :=
  ∃ job failedAt, (.payload job, .deadLettered failedAt) ∈ handled ∧ job.jobId = jobId

/-- The ways in which an element can have been handled, given those before it. -/
inductive Justified (start : Store) (earlier : Handled) : Entry → Handling → Prop where
  | requeued {job : QueuePayload} (within : job.retryCount + 1 ≤ maxRetryCount) :
      Justified start earlier (.payload job) .requeued
  | deadLettered {job : QueuePayload} (failedAt : Timestamp)
      (spent : maxRetryCount < job.retryCount + 1) :
      Justified start earlier (.payload job) (.deadLettered failedAt)
  /-- The job was over at the start, or since the letter of an earlier copy. -/
  | passedOver {job : QueuePayload}
      (ended : isTerminalStatus (start.statusOf job.jobId) = true ∨ earlier.Ends job.jobId) :
      Justified start earlier (.payload job) .passedOver
  | skipped (text : String) : Justified start earlier (.malformed text) .skipped

/-- Each element was handled for a reason that those before it give. -/
def Handled.AllJustified (start : Store) (handled : Handled) : Prop :=
  ∀ earlier entry handling later, handled = earlier ++ (entry, handling) :: later →
    Justified start earlier entry handling

/-- The tables once these elements are handled. -/
structure TablesAfter (start store : Store) (handled : Handled) : Prop where
  /-- Rows of other jobs are as they were. -/
  rows : ∀ jobId, jobId ∉ handled.filterMap rewrittenJob? →
    store.submissions.lookup jobId = start.submissions.lookup jobId ∧
      store.results.lookup jobId = start.results.lookup jobId
  /-- A job that is over was so at the start, or has a letter. -/
  ended : ∀ jobId, isTerminalStatus (store.statusOf jobId) = true →
    isTerminalStatus (start.statusOf jobId) = true ∨ handled.Ends jobId

/-- Streams, channels and the lock are those of another store. -/
def Store.SameStreams (store start : Store) : Prop :=
  store.streams = start.streams ∧ store.published = start.published ∧
    store.expiring = start.expiring ∧ store.reaperLock = start.reaperLock

/-- The lists once these elements are handled: the pushed elements stand before the old ones. -/
structure ListsAfter (worker : WorkerId) (start store : Store) (handled : Handled) : Prop where
  pending : store.pending = (handled.filterMap requeuedPayload?).reverse ++ start.pending
  deadLetter :
    store.deadLetter = (handled.filterMap (sentLetter? worker)).reverse ++ start.deadLetter
  streams : store.SameStreams start

/-- What a recovery has made of a dead worker's list. -/
structure Recovered (worker : WorkerId) (start store : Store) (handled : Handled) : Prop where
  /-- Every element of the list has been handled, in its order. -/
  elements : handled.map Prod.fst = start.processing worker
  justified : handled.AllJustified start
  tables : TablesAfter start store handled
  lists : ListsAfter worker start store handled
  /-- The list is deleted, and no other one is touched. -/
  processing : store.processing = Function.update start.processing worker []

/-- Some list of jobs still has this element. -/
def Store.Stores (store : Store) (entry : Entry) : Prop :=
  entry ∈ store.pending ∨ ∃ worker, entry ∈ store.processing worker

/-! ## One more element -/

/-- An UPDATE leaves the rows that do not meet its condition. -/
theorem Store.lookup_updateSubmissions_other {store : Store} {condition : SubmissionRow → Bool}
    {change : SubmissionRow → SubmissionRow} {jobId : JobId}
    (other : ∀ row : SubmissionRow, row.id = jobId → condition row = false) :
    (store.updateSubmissions condition change).submissions.lookup jobId =
      store.submissions.lookup jobId := by
  -- The row that is read under a key carries that key.
  rw [updateSubmissions, KeyedTable.lookup_updateWhere]
  cases found : store.submissions.lookup jobId with
  | none => rfl
  | some row => simp [other row (KeyedTable.key_of_lookup found)]

variable {worker : WorkerId} {start store : Store} {handled : Handled}

/-- Nothing is handled at the start. -/
theorem TablesAfter.refl : TablesAfter start start [] where
  rows _ _ := ⟨rfl, rfl⟩
  ended _ ended := .inl ended

/-- A letter stays among the elements that are handled. -/
theorem Handled.Ends.more {jobId : JobId} (ends : handled.Ends jobId) (later : Handled) :
    Handled.Ends (handled ++ later) jobId := by
  obtain ⟨job, failedAt, member, same⟩ := ends
  exact ⟨job, failedAt, List.mem_append_left _ member, same⟩

/-- One more element leaves room for more writes. -/
theorem TablesAfter.more {element : Entry × Handling} (tables : TablesAfter start store handled) :
    TablesAfter start store (handled ++ [element]) where
  rows jobId other := by
    refine tables.rows jobId fun member => other ?_
    rw [List.filterMap_append]
    exact List.mem_append_left _ member
  ended jobId ended := (tables.ended jobId ended).imp_right fun ends => ends.more [element]

/-- The UPDATE of a requeued element opens its job. -/
theorem TablesAfter.requeue {job : QueuePayload} (tables : TablesAfter start store handled)
    (retryCount : Nat) : TablesAfter start (store.requeueRow job.jobId retryCount)
      (handled ++ [(.payload job, .requeued)]) where
  rows jobId other := by
    -- A job that is not rewritten is another one.
    have different : jobId ≠ job.jobId := by
      rintro rfl
      exact other (by simp [rewrittenJob?])
    obtain ⟨row, result⟩ := tables.more.rows jobId other
    refine ⟨?_, result⟩
    rw [← row, Store.requeueRow, Store.lookup_updateSubmissions_other]
    exact fun row same => by simpa [same] using different
  ended jobId ended := by
    rw [Store.statusOf_eq, Store.recordOf_requeueRow] at ended
    refine tables.more.ended jobId ?_
    rw [Store.statusOf_eq]
    by_cases same : jobId = job.jobId
    · -- PENDING is not terminal.
      subst same
      cases found : store.recordOf job.jobId <;> simp [found, isTerminalStatus] at ended
      exact absurd ended (by decide)
    · simpa [same] using ended

/-- The transaction of a dead-lettered element ends its job. -/
theorem TablesAfter.deadLetter {job : QueuePayload} {letter : DLQPayload}
    (tables : TablesAfter start store handled) (about : letter.jobId = job.jobId)
    (failedAt : Timestamp) : TablesAfter start (store.commitDeadLetter letter)
      (handled ++ [(.payload job, .deadLettered failedAt)]) where
  rows jobId other := by
    -- The transaction writes the rows of one job.
    have different : jobId ≠ letter.jobId := by
      rintro rfl
      exact other (by simp [rewrittenJob?, about])
    obtain ⟨row, result⟩ := tables.more.rows jobId other
    rw [← row, ← result]
    constructor
    · obtain ⟨results, written⟩ := store.commitDeadLetter_eq letter
      rw [written, Store.setStatus, Store.lookup_updateSubmissions_other]
      exact fun row same => by simpa [same] using different
    · exact (store.results_upsertResult _ _ jobId).trans (if_neg different)
  ended jobId ended := by
    -- This job has its letter now, and the others are as they were.
    by_cases same : jobId = job.jobId
    · exact .inr ⟨job, failedAt, by simp, same.symm⟩
    · rw [Store.statusOf_eq, Store.recordOf_commitDeadLetter, Store.recordOf_setStatus] at ended
      refine tables.more.ended jobId ?_
      rw [Store.statusOf_eq]
      simpa [about, same] using ended

/-- An iteration leaves a copy, a letter or nothing. -/
theorem ListsAfter.concat {after : Store} {element : Entry × Handling}
    (lists : ListsAfter worker start store handled)
    (pending : after.pending = (requeuedPayload? element).toList ++ store.pending)
    (deadLetter : after.deadLetter = (sentLetter? worker element).toList ++ store.deadLetter)
    (streams : after.SameStreams store) : ListsAfter worker start after (handled ++ [element]) where
  pending := by
    -- LPUSH puts the new element before those of the earlier iterations.
    rw [pending, lists.pending, List.filterMap_append, List.reverse_append, List.append_assoc]
    cases made : requeuedPayload? element <;> simp [made]
  deadLetter := by
    rw [deadLetter, lists.deadLetter, List.filterMap_append, List.reverse_append, List.append_assoc]
    cases made : sentLetter? worker element <;> simp [made]
  streams := by
    obtain ⟨streams, published, expiring, lock⟩ := streams
    obtain ⟨streams', published', expiring', lock'⟩ := lists.streams
    exact ⟨streams.trans streams', published.trans published', expiring.trans expiring',
      lock.trans lock'⟩

/-- The last element is justified by those before it. -/
theorem Handled.AllJustified.concat {entry : Entry} {handling : Handling}
    (all : handled.AllJustified start) (last : Justified start handled entry handling) :
    (handled ++ [(entry, handling)]).AllJustified start := by
  -- An element of the longer list is the last one, or one of the shorter list.
  intro earlier other made later split
  rcases List.eq_nil_or_concat later with rfl | ⟨shorter, final, rfl⟩
  · obtain ⟨rfl, same⟩ := List.append_inj' split rfl
    obtain ⟨rfl, rfl⟩ : entry = other ∧ handling = made := by simpa using same
    exact last
  · rw [List.concat_eq_append, ← List.cons_append, ← List.append_assoc] at split
    exact all earlier other made shorter (List.append_inj' split rfl).1

/-! ## The loop -/

/-- What the loop has decided on for the current element. -/
def RecoverPoint.chosen? : RecoverPoint → Option (Entry × Handling)
  | .reset cursor | .push cursor => some (.payload cursor.job, .requeued)
  | .deadLetter _ letter cursor | .deadLetterPush letter cursor =>
    some (.payload cursor.job, .deadLettered letter.failedAt)
  | .list | .check _ | .delete _ => none

/-- The current element, once the tables have been written for it. -/
def RecoverPoint.written : RecoverPoint → Handled
  | .push cursor => [(.payload cursor.job, .requeued)]
  | .deadLetterPush letter cursor => [(.payload cursor.job, .deadLettered letter.failedAt)]
  | .list | .check _ | .reset _ | .deadLetter _ _ _ | .delete _ => []

/-- The letter of the current element is the one the reaper writes, and no statement has failed. -/
def RecoverPoint.LetterOf (worker : WorkerId) : RecoverPoint → Prop
  | .deadLetter call letter cursor => call ≠ .rollback ∧
    letter = deadLetterPayload cursor.job (deadWorkerReason worker) letter.failedAt
  | .deadLetterPush letter cursor =>
    letter = deadLetterPayload cursor.job (deadWorkerReason worker) letter.failedAt
  | .list | .check _ | .reset _ | .push _ | .delete _ => True

/-- How far a recovery has come from one store, and what it has made of it. -/
structure Progress (worker : WorkerId) (start store : Store) (point : RecoverPoint)
    (handled : Handled) : Prop where
  visited : handled.map Prod.fst = point.visited
  read : point = .list ∨ point.snapshot? = some (start.processing worker)
  justified : handled.AllJustified start
  chosen : ∀ element ∈ point.chosen?, Justified start handled element.1 element.2
  letter : point.LetterOf worker
  tables : TablesAfter start store (handled ++ point.written)
  lists : ListsAfter worker start store handled
  processing : store.processing = start.processing

/-- The loop goes on to its next status check or to the DEL, past what cannot be parsed. -/
theorem Progress.visit {todo : List Entry} (justified : handled.AllJustified start)
    (tables : TablesAfter start store handled) (lists : ListsAfter worker start store handled)
    (processing : store.processing = start.processing)
    (read : handled.map Prod.fst ++ todo = start.processing worker) :
    ∃ handled', Progress worker start store (.visit (handled.map Prod.fst) todo) handled' := by
  -- The induction is on the elements that the loop has not reached.
  induction todo generalizing handled with
  | nil =>
    rw [List.append_nil] at read
    exact ⟨handled, rfl, .inr (congrArg some read), justified,
      by simp [RecoverPoint.chosen?, RecoverPoint.visit], trivial,
      by simpa [RecoverPoint.written, RecoverPoint.visit] using tables, lists, processing⟩
  | cons entry rest ih =>
    cases entry with
    | payload job =>
      exact ⟨handled, rfl, .inr (congrArg some read), justified,
        by simp [RecoverPoint.chosen?, RecoverPoint.visit], trivial,
        by simpa [RecoverPoint.written, RecoverPoint.visit] using tables, lists, processing⟩
    | malformed text =>
      -- Nothing is written for this element.
      have next := ih (justified.concat (.skipped text)) tables.more
        (lists.concat rfl rfl ⟨rfl, rfl, rfl, rfl⟩) (by simpa using read)
      simpa [RecoverPoint.visit] using next

/-- The end of an iteration adds the current element to the handled ones. -/
theorem Progress.advance {cursor : Cursor} {handling : Handling}
    (visited : handled.map Prod.fst = cursor.visited)
    (read : cursor.visited ++ Entry.payload cursor.job :: cursor.todo = start.processing worker)
    (justified : handled.AllJustified start)
    (last : Justified start handled (.payload cursor.job) handling)
    (tables : TablesAfter start store (handled ++ [(.payload cursor.job, handling)]))
    (lists : ListsAfter worker start store (handled ++ [(.payload cursor.job, handling)]))
    (processing : store.processing = start.processing) :
    ∃ handled', Progress worker start store cursor.advance handled' := by
  -- The current element is the next visited one.
  have shown : (handled ++ [(Entry.payload cursor.job, handling)]).map Prod.fst =
      cursor.visitedNext := by
    rw [List.map_append, visited]
    rfl
  have reads : (handled ++ [(Entry.payload cursor.job, handling)]).map Prod.fst ++ cursor.todo =
      start.processing worker := by
    rw [shown, ← read]
    simp [Cursor.visitedNext]
  have next := Progress.visit (justified.concat last) tables lists processing reads
  rwa [shown] at next

/-- The clock is read for letters alone. -/
theorem Progress.clock {point : RecoverPoint} (progress : Progress worker start store point handled)
    (now : Timestamp) : Progress worker start { store with now } point handled where
  -- No part of the progress reads the clock.
  visited := progress.visited
  read := progress.read
  justified := progress.justified
  chosen := progress.chosen
  letter := progress.letter
  tables := ⟨progress.tables.rows, progress.tables.ended⟩
  lists := ⟨progress.lists.pending, progress.lists.deadLetter, progress.lists.streams⟩
  processing := progress.processing

/-- So the clock leaves the account as it is. -/
theorem Recovered.clock (recovered : Recovered worker start store handled) (now : Timestamp) :
    Recovered worker start { store with now } handled where
  elements := recovered.elements
  justified := recovered.justified
  tables := ⟨recovered.tables.rows, recovered.tables.ended⟩
  lists := ⟨recovered.lists.pending, recovered.lists.deadLetter, recovered.lists.streams⟩
  processing := recovered.processing

/-- A resolved call keeps the account, or is the DEL that ends it. -/
theorem Progress.resolves {point : RecoverPoint} {next : Option RecoverPoint} {after : Store}
    (progress : Progress worker start store point handled)
    (resolved : point.resolve worker store = some (next, after)) :
    (∃ point handled, next = some point ∧ Progress worker start after point handled) ∨
      (next = none ∧ Recovered worker start after handled) := by
  obtain ⟨visited, read, justified, chosen, letter, tables, lists, processing⟩ := progress
  -- Beyond the LRANGE, the elements that were read are those of the list.
  have kept : ∀ {entries}, point ≠ .list → point.snapshot? = some entries →
      entries = start.processing worker := by
    intro entries begun snapshot
    have same := read.resolve_left begun
    rw [snapshot] at same
    exact Option.some.inj same
  cases RecoverPoint.resolve_cases resolved with
  | list =>
    obtain rfl := List.map_eq_nil_iff.mp visited
    obtain ⟨handled, onward⟩ := Progress.visit justified tables lists processing
      (congrFun processing worker)
    exact .inl ⟨_, handled, rfl, onward⟩
  -- An element is passed over, and nothing is written.
  | @skip cursor terminal =>
    rw [RecoverPoint.written, List.append_nil] at tables
    obtain ⟨handled, onward⟩ := Progress.advance visited (kept nofun rfl) justified
      (.passedOver (tables.ended _ terminal)) tables.more
      (lists.concat rfl rfl ⟨rfl, rfl, rfl, rfl⟩) processing
    exact .inl ⟨_, handled, rfl, onward⟩
  -- The check decides what becomes of an open job, by its count.
  | @exhausts cursor isOpen spent =>
    refine .inl ⟨_, handled, rfl, visited, .inr (congrArg some (kept nofun rfl)), justified, ?_,
      ⟨nofun, rfl⟩, tables, lists, processing⟩
    rintro _ ⟨⟩
    exact .deadLettered _ spent
  | @retries cursor isOpen within =>
    refine .inl ⟨_, handled, rfl, visited, .inr (congrArg some (kept nofun rfl)), justified, ?_,
      trivial, tables, lists, processing⟩
    rintro _ ⟨⟩
    exact .requeued within
  | reset =>
    rw [RecoverPoint.written, List.append_nil] at tables
    exact .inl ⟨_, handled, rfl, visited, .inr (congrArg some (kept nofun rfl)), justified, chosen,
      trivial, tables.requeue _, ⟨lists.pending, lists.deadLetter, lists.streams⟩, processing⟩
  -- The push completes a retry, and the letter a dead end.
  | @push cursor =>
    obtain ⟨handled, onward⟩ : ∃ handled, Progress worker start
        (store.pushPending (.payload (cursor.job.withRetry (cursor.job.retryCount + 1))))
        cursor.advance handled :=
      Progress.advance visited (kept nofun rfl) justified (chosen _ rfl) ⟨tables.rows, tables.ended⟩
        (lists.concat rfl rfl ⟨rfl, rfl, rfl, rfl⟩) processing
    exact .inl ⟨_, handled, rfl, onward⟩
  | connect | begin | updateStatus | insertResult stored =>
    exact .inl ⟨_, handled, rfl, visited, .inr (congrArg some (kept nofun rfl)), justified, chosen,
      ⟨nofun, letter.2⟩, tables, lists, processing⟩
  | @commit letter' cursor =>
    rw [RecoverPoint.written, List.append_nil] at tables
    have about : letter'.jobId = cursor.job.jobId := congrArg DLQPayload.jobId letter.2
    obtain ⟨results, written⟩ := store.commitDeadLetter_eq letter'
    refine .inl ⟨_, handled, rfl, visited, .inr (congrArg some (kept nofun rfl)), justified, chosen,
      letter.2, tables.deadLetter about _, ?_, ?_⟩
    · rw [written]
      exact ⟨lists.pending, lists.deadLetter, lists.streams⟩
    · rw [written]
      exact processing
  | @sendLetter letter' cursor =>
    obtain ⟨handled, onward⟩ : ∃ handled, Progress worker start (store.pushDeadLetter letter')
        cursor.advance handled :=
      Progress.advance visited (kept nofun rfl) justified (chosen _ rfl) ⟨tables.rows, tables.ended⟩
        (lists.concat rfl (by rw [sentLetter?, ← letter]; rfl) ⟨rfl, rfl, rfl, rfl⟩) processing
    exact .inl ⟨_, handled, rfl, onward⟩
  -- The DEL comes behind the last element.
  | delete =>
    rw [RecoverPoint.written, List.append_nil] at tables
    refine .inr ⟨rfl, visited.trans (kept nofun rfl), justified, ⟨tables.rows, tables.ended⟩,
      ⟨lists.pending, lists.deadLetter, lists.streams⟩, ?_⟩
    rw [Store.deleteProcessing, processing]

/-! ## The recovery on its own -/

/-- Only this recovery acts, and none of its calls rejects. -/
def recoveryAlone (lockId : LockId) (worker : WorkerId) (rest : List WorkerId) (state : Platform) :
    Label → Bool
  | .clock _ => true
  | .scan own .resolves =>
    own = lockId && match state.scans lockId with
      | .recover _ dead others => dead = worker && others = rest
      | _ => false
  | _ => false

/-- The call that such a label makes. -/
theorem recoveryAlone_scan {lockId own : LockId} {outcome : CallOutcome} {rest : List WorkerId}
    {state : Platform} (alone : recoveryAlone lockId worker rest state (.scan own outcome) = true) :
    own = lockId ∧ outcome = .resolves ∧
      ∃ point, state.scans lockId = .recover point worker rest := by
  -- The label is allowed in the middle of this recovery only, and no call of it rejects.
  cases outcome with
  | resolves =>
    simp only [recoveryAlone, Bool.and_eq_true, decide_eq_true_eq] at alone
    obtain ⟨rfl, stands⟩ := alone
    split at stands
    · next point dead others at_ =>
      obtain ⟨rfl, rfl⟩ : dead = worker ∧ others = rest := by simpa using stands
      exact ⟨rfl, rfl, point, at_⟩
    · simp at stands
  | rejects _ => simp [recoveryAlone] at alone

/-- The recoveries that are still to come are fewer. -/
theorem ScanPoint.recoverAll_ne (point : RecoverPoint) (worker : WorkerId) (rest : List WorkerId) :
    ScanPoint.recoverAll rest ≠ .recover point worker rest := by
  -- A list is longer than its own tail.
  intro same
  have longer := congrArg List.length (recoverAll_recover same).2
  simp at longer

/-- What a recovery that returns on its own has made of the list. -/
theorem recovery_accounts {lockId : LockId} {rest : List WorkerId} {state next : Platform}
    {trace : List Label} (begins : state.scans lockId = .recover .list worker rest)
    (run : platform.Runs (fun state label => recoveryAlone lockId worker rest state label = true)
      state trace next)
    (returned : next.scans lockId = .recoverAll rest) :
    ∃ handled, Recovered worker state.store next.store handled := by
  -- The account is kept up to the DEL, and is complete from there on.
  have account := run.preserves (fun reached =>
    (∃ point handled, reached.scans lockId = .recover point worker rest ∧
      Progress worker state.store reached.store point handled) ∨
    (reached.scans lockId = .recoverAll rest ∧
      ∃ handled, Recovered worker state.store reached.store handled)) ?_ ?_
  · rcases account with ⟨point, _, stands, _⟩ | ⟨_, recovered⟩
    · rw [returned] at stands
      exact absurd stands (ScanPoint.recoverAll_ne point worker rest)
    · exact recovered
  · exact .inl ⟨_, [], begins, rfl, .inl rfl, by simp [Handled.AllJustified],
      by simp [RecoverPoint.chosen?], trivial, .refl,
      ⟨rfl, rfl, rfl, rfl, rfl, rfl⟩, rfl⟩
  -- Only the clock and the calls of the scan itself go on beside the recovery.
  · intro reached label after account alone stepped
    cases Platform.step_cases stepped with
    | clock now =>
      rcases account with ⟨point, handled, stands, progress⟩ | ⟨stands, handled, recovered⟩
      · exact .inl ⟨point, handled, stands, progress.clock now⟩
      · exact .inr ⟨stands, handled, recovered.clock now⟩
    | @scan own outcome after went =>
      obtain ⟨rfl, rfl, point, stands⟩ := recoveryAlone_scan alone
      have resolved : (reached.scans own).resolve own reached.store = some after := went
      rcases account with ⟨_, handled, stands', progress⟩ | ⟨finished, _⟩
      · obtain ⟨rfl, -⟩ := ScanPoint.recover.inj (stands.symm.trans stands')
        rw [stands] at resolved
        obtain ⟨next, later⟩ := after
        cases ScanPoint.resolve_cases resolved with
        | rollback => exact absurd rfl progress.letter.1
        | recover replied =>
          rcases progress.resolves replied with ⟨following, handled, rfl, onward⟩ | ⟨rfl, recovered⟩
          · exact .inl ⟨following, handled, by simp [ScanPoint.recoverNext], onward⟩
          · exact .inr ⟨by simp [ScanPoint.recoverNext], handled, recovered⟩
      · rw [finished] at stands
        exact absurd stands (ScanPoint.recoverAll_ne point worker rest)
    | _ => simp [recoveryAlone] at alone

/-! ## What is lost -/

/-- Every element has been handled in one of the three ways, or is still stored. -/
def Conserved (worker : WorkerId) (start store : Store) : Prop :=
  ∃ handled, Recovered worker start store handled ∧
    ∀ element ∈ handled, element.2 ≠ .skipped ∨ store.Stores element.1

/-- An element that cannot be parsed is passed over. -/
theorem Handled.AllJustified.malformed {text : String} {handling : Handling}
    (all : handled.AllJustified start) (member : (.malformed text, handling) ∈ handled) :
    handling = .skipped := by
  obtain ⟨earlier, later, split⟩ := List.append_of_mem member
  cases all _ _ _ _ split
  rfl

/-- The recovery pushes payloads, so it stores no other element that was not stored before. -/
theorem Recovered.stores_malformed {text : String}
    (recovered : Recovered worker start store handled) :
    store.Stores (.malformed text) ↔ .malformed text ∈ start.pending ∨
      ∃ other, other ≠ worker ∧ .malformed text ∈ start.processing other := by
  -- What is pushed can be parsed, and the list itself is gone.
  have copies : Entry.malformed text ∉ handled.filterMap requeuedPayload? := by
    intro member
    obtain ⟨element, _, made⟩ := List.mem_filterMap.mp member
    unfold requeuedPayload? at made
    split at made <;> simp at made
  rw [Store.Stores, recovered.lists.pending, recovered.processing, List.mem_append,
    List.mem_reverse]
  refine or_congr (or_iff_right copies) (exists_congr fun other => ?_)
  by_cases same : other = worker
  · subst same
    simp
  · simp [same]

/-- Where no element is lost, those that cannot be parsed are stored elsewhere from the start. -/
theorem Conserved.elsewhere {text : String} (conserved : Conserved worker start store)
    (member : .malformed text ∈ start.processing worker) : .malformed text ∈ start.pending ∨
      ∃ other, other ≠ worker ∧ .malformed text ∈ start.processing other := by
  obtain ⟨handled, recovered, complete⟩ := conserved
  rw [← recovered.elements] at member
  obtain ⟨⟨_, handling⟩, inside, rfl⟩ := List.mem_map.mp member
  -- It has been skipped, so only its being stored is left.
  obtain rfl := recovered.justified.malformed inside
  exact recovered.stores_malformed.mp ((complete _ inside).resolve_left fun read => read rfl)

/--
A recovery that returns loses no element, exactly where unparsable ones are stored elsewhere.

Nobody else acts meanwhile, whatever the tables and the lists were.
-/
theorem recovery_conserves {lockId : LockId} {rest : List WorkerId} {state next : Platform}
    {trace : List Label} (begins : state.scans lockId = .recover .list worker rest)
    (run : platform.Runs (fun state label => recoveryAlone lockId worker rest state label = true)
      state trace next)
    (returned : next.scans lockId = .recoverAll rest) :
    Conserved worker state.store next.store ↔
      ∀ text, .malformed text ∈ state.store.processing worker →
        .malformed text ∈ state.store.pending ∨
          ∃ other, other ≠ worker ∧ .malformed text ∈ state.store.processing other := by
  -- Only a skipped entry is not handled, and the DEL leaves it where else it is.
  constructor
  · intro conserved text member
    exact conserved.elsewhere member
  · intro elsewhere
    obtain ⟨handled, recovered⟩ := recovery_accounts begins run returned
    refine ⟨handled, recovered, fun element inside => ?_⟩
    obtain ⟨entry, handling⟩ := element
    have member : entry ∈ state.store.processing worker := by
      rw [← recovered.elements]
      exact List.mem_map_of_mem inside
    obtain ⟨earlier, later, split⟩ := List.append_of_mem inside
    cases recovered.justified _ _ _ _ split with
    | skipped text => exact .inr (recovered.stores_malformed.mpr (elsewhere text member))
    | requeued | deadLettered | passedOver => exact .inl nofun

/-- A monitor that is about to recover a dead worker's list. -/
def recoveringState (entries : List Entry) : Platform :=
  { Platform.initial with
    store := { Store.empty.insertSubmission (submissionRow (submittedPayload "job")) with
      processing := fun worker => if worker = "w1" then entries else [] }
    scans := fun _ => .recover .list "w1" [] }

/-- One copy is requeued, one dead-lettered, and a third one passed over since its job is over. -/
theorem recovery_conserves_example : ∃ next,
    platform.Runs (fun state label => recoveryAlone "s" "w1" [] state label = true)
      (recoveringState [.payload (submittedPayload "job"),
        .payload ((submittedPayload "job").withRetry 3), .payload (submittedPayload "job")])
      (scanCalls "s" 13) next ∧
    next.store.pending.length = 1 ∧ next.store.deadLetter.length = 1 ∧
    Conserved "w1" (recoveringState [.payload (submittedPayload "job"),
        .payload ((submittedPayload "job").withRetry 3), .payload (submittedPayload "job")]).store
      next.store := by
  -- One copy is requeued, one is dead-lettered, and the last is passed over.
  have executed : (platform.guardedRun
      (fun state label => recoveryAlone "s" "w1" [] state label = true)
      (recoveringState [.payload (submittedPayload "job"),
        .payload ((submittedPayload "job").withRetry 3), .payload (submittedPayload "job")])
      (scanCalls "s" 13)).map (fun state => (state.scans "s", state.store.pending.length,
        state.store.deadLetter.length)) = some (.release, 1, 1) := by decide
  obtain ⟨next, run, shown⟩ := Machine.runs_of_guardedRun platform _ _ _ _ _ executed
  obtain ⟨released, pending, letters⟩ : next.scans "s" = .release ∧ next.store.pending.length = 1 ∧
      next.store.deadLetter.length = 1 := by simpa using shown
  refine ⟨next, run, pending, letters, (recovery_conserves rfl run released).mpr ?_⟩
  intro text member
  simp [recoveringState] at member

/-- An element that cannot be parsed is deleted with the list, and is stored nowhere. -/
theorem recovery_loses_malformed : ∃ next,
    platform.Runs (fun state label => recoveryAlone "s" "w1" [] state label = true)
      (recoveringState [.malformed "\x7b"]) (scanCalls "s" 2) next ∧
    next.scans "s" = .recoverAll [] ∧
    ¬ next.store.Stores (.malformed "\x7b") ∧
    ¬ Conserved "w1" (recoveringState [.malformed "\x7b"]).store next.store := by
  have executed : (platform.guardedRun
      (fun state label => recoveryAlone "s" "w1" [] state label = true)
      (recoveringState [.malformed "\x7b"]) (scanCalls "s" 2)).map (fun state => state.scans "s") =
      some .release := by decide
  obtain ⟨next, run, released⟩ := Machine.runs_of_guardedRun platform _ _ _ _ _ executed
  -- The entry is in no other list, so nothing has it behind the DEL.
  have nowhere : ¬ (.malformed "\x7b" ∈ (recoveringState [.malformed "\x7b"]).store.pending ∨
      ∃ other, other ≠ "w1" ∧
        .malformed "\x7b" ∈ (recoveringState [.malformed "\x7b"]).store.processing other) := by
    rintro (pending | ⟨other, different, listed⟩)
    · exact absurd pending (List.not_mem_nil)
    · simp [recoveringState, different] at listed
  obtain ⟨handled, recovered⟩ := recovery_accounts rfl run released
  refine ⟨next, run, released, fun stored => nowhere (recovered.stores_malformed.mp stored),
    fun conserved => nowhere (conserved.elsewhere ?_)⟩
  simp [recoveringState]

end CodeExecution

import CodeExecution.Proofs.ListMoves
import CodeExecution.Proofs.ScanSteps
import CodeExecution.Recoveries

/-! The recovery of one list, from its LRANGE to its DEL, beside everything else that happens. -/

namespace CodeExecution

variable {state next : Platform} {label : Label} {lockId : LockId} {worker : WorkerId}
  {rest : List WorkerId} {entries : List Entry} {history : List RecoveryNotice}

/-- The element behind a list is at the position of its length. -/
theorem getElem_concat {α : Type*} (items : List α) (last item : α) (position : Nat) :
    (items ++ [last])[position]? = some item ↔
      items[position]? = some item ∨ (items.length = position ∧ last = item) := by
  rw [List.getElem?_append]
  -- A position inside the list is told apart from the one behind it.
  split
  · next inside => simp [Nat.ne_of_gt inside]
  · next outside =>
    simp [List.getElem?_eq_none (Nat.le_of_not_lt outside), List.getElem?_singleton]
    omega

/-- Passing over elements that cannot be parsed visits no payload. -/
@[simp] theorem RecoverPoint.getElem_visit_visited (visited todo : List Entry) (position : Nat)
    (job : QueuePayload) : (RecoverPoint.visit visited todo).visited[position]? = some (.payload job) ↔
      visited[position]? = some (.payload job) := by
  -- The induction follows the loop.
  induction todo generalizing visited with
  | nil => rfl
  | cons first rest ih =>
    cases first with
    | payload other => rfl
    | malformed text =>
      rw [RecoverPoint.visit, ih, getElem_concat]
      simp

/-- The end of an iteration visits the payload of the iteration. -/
theorem Cursor.getElem_advance_visited (cursor : Cursor) (position : Nat) (job : QueuePayload) :
    cursor.advance.visited[position]? = some (.payload job) ↔
      cursor.visited[position]? = some (.payload job) ∨
        (cursor.visited.length = position ∧ cursor.job = job) := by
  rw [Cursor.advance, RecoverPoint.getElem_visit_visited, Cursor.visitedNext, getElem_concat]
  simp

/-- An iteration ends with the skip, the requeue or the letter of its payload. -/
def RecoverPoint.finishes (store : Store) (point : RecoverPoint) (position : Nat) : Prop :=
  ∃ cursor act, point.act? store = some (cursor, act) ∧ act ≠ .reset ∧
    cursor.visited.length = position

/-- The positions of the payloads that a recovery has finished with. -/
def RecoverPoint.done (point : RecoverPoint) (position : Nat) : Prop :=
  ∃ job, point.visited[position]? = some (.payload job)

/-- The end of an iteration adds its position to them. -/
theorem Cursor.done_advance (cursor : Cursor) (position : Nat) : cursor.advance.done position ↔
    (∃ job, cursor.visited[position]? = some (.payload job)) ∨ cursor.visited.length = position := by
  simp [RecoverPoint.done, Cursor.getElem_advance_visited, exists_or]

/-- A resolved call keeps what was read, and visits just the payload whose iteration it ends. -/
theorem RecoverPoint.resolve_visits {was point : RecoverPoint} {store later : Store}
    (resolved : was.resolve worker store = some (some point, later)) (unread : was ≠ .list) :
    point.snapshot? = was.snapshot? ∧ ∀ position, point.done position ↔
      was.done position ∨ was.finishes store position := by
  -- Three calls end an iteration: the skip, the requeue's push, and the letter's push.
  cases RecoverPoint.resolve_cases resolved with
  | list => exact absurd rfl unread
  | @skip cursor terminal =>
    refine ⟨Cursor.advance_snapshot cursor, fun position => ?_⟩
    rw [Cursor.done_advance]
    simp [RecoverPoint.done, RecoverPoint.visited, RecoverPoint.finishes, RecoverPoint.act?, terminal]
  | @push cursor | @sendLetter _ cursor =>
    refine ⟨Cursor.advance_snapshot cursor, fun position => ?_⟩
    rw [Cursor.done_advance]
    simp [RecoverPoint.done, RecoverPoint.visited, RecoverPoint.finishes, RecoverPoint.act?]
  | exhausts isOpen | retries isOpen =>
    exact ⟨rfl, by simp [RecoverPoint.done, RecoverPoint.visited, RecoverPoint.finishes,
      RecoverPoint.act?, isOpen]⟩
  | reset | connect | begin | updateStatus | insertResult | commit =>
    exact ⟨rfl, by simp [RecoverPoint.done, RecoverPoint.visited, RecoverPoint.finishes,
      RecoverPoint.act?]⟩

/-- A scan that has left the recovery of a list, with only these dead workers to come. -/
def ScanPoint.beyond (rest : List WorkerId) : ScanPoint → Prop
  | .release | .finished => True
  | .recover _ _ others => others.length < rest.length
  | .idle | .acquire | .detect => False

/-- A call within a recovery leads to another point of a recovery, or to the release. -/
theorem ScanPoint.call_within {point : RecoverPoint} {store : Store} {outcome : CallOutcome}
    {after : ScanPoint × Store}
    (went : awaitCall outcome (ScanPoint.resolve lockId store (.recover point worker rest))
      (ScanPoint.recover point worker rest).handler store = some after) :
    after.1 = .release ∨ ∃ next owner others, after.1 = .recover next owner others := by
  -- A rejected call ends the scan, but for the ROLLBACK, which comes first in a transaction.
  have failed : ∀ {next}, (ScanPoint.recover point worker rest).handler = some next →
      next = .release ∨ ∃ next_ owner others, next = .recover next_ owner others := by
    intro next handled
    cases point with
    | deadLetter call letter cursor =>
      cases call with
      | connect | rollback => exact .inl (Option.some.inj handled).symm
      | _ => exact .inr ⟨_, _, _, (Option.some.inj handled).symm⟩
    | _ => exact .inl (Option.some.inj handled).symm
  -- A DEL leads to the next list, or to the release behind the last one.
  rcases awaitCall_cases went with ⟨_, resolved⟩ | ⟨_, _, handled, rfl⟩ |
    ⟨_, _, _, _, handled, rfl⟩
  · obtain ⟨reached, later⟩ := after
    cases ScanPoint.resolve_cases resolved with
    | rollback => exact .inl rfl
    | @recover _ _ _ continued =>
      cases continued with
      | some next => exact .inr ⟨next, worker, rest, rfl⟩
      | none =>
        cases rest with
        | nil => exact .inl rfl
        | cons first more => exact .inr ⟨.list, first, more, rfl⟩
  · exact failed handled
  · exact failed handled

/-- A scan that has left the recovery of a list does not come back to it. -/
theorem ScanPoint.call_beyond {point : ScanPoint} {store : Store} {outcome : CallOutcome}
    {after : ScanPoint × Store}
    (went : awaitCall outcome (point.resolve lockId store) point.handler store = some after)
    (beyond : point.beyond rest) : after.1.beyond rest := by
  obtain ⟨reached, later⟩ := after
  cases point with
  | idle | acquire | detect => exact absurd beyond id
  | finished =>
    rcases outcome with _ | _ | _ <;> simp [awaitCall, ScanPoint.resolve, ScanPoint.handler] at went
  | release =>
    rcases awaitCall_cases went with ⟨_, resolved⟩ | ⟨_, _, handled, same⟩ |
      ⟨_, _, _, _, handled, same⟩
    · obtain ⟨rfl, _⟩ := Prod.mk.inj (Option.some.inj resolved)
      trivial
    · obtain rfl := Option.some.inj handled
      rw [same]; trivial
    · obtain rfl := Option.some.inj handled
      rw [same]; trivial
  | recover point owner others =>
    rcases ScanPoint.call_within went with rfl | ⟨next, owner', others', rfl⟩
    · trivial
    · -- The workers to come only get fewer.
      have fewer : others.length < rest.length := beyond
      show others'.length < rest.length
      rcases ScanPoint.call_recover went with ⟨_, same, _, _⟩ | ⟨_, _, _, same, _⟩ | ⟨_, _, _, same⟩
      · obtain ⟨_, _, rfl⟩ := ScanPoint.recover.inj same
        exact fewer
      · obtain ⟨_, _, rfl⟩ := ScanPoint.recover.inj same
        exact fewer
      · obtain ⟨_, _, rfl⟩ := ScanPoint.recover.inj same
        rw [List.length_cons] at fewer
        omega

/-- The recovery of a list: still going on with what it has read and done, or over for good. -/
def RecoveryOf (lockId : LockId) (worker : WorkerId) (rest : List WorkerId) (entries : List Entry)
    (recorded : Platform × List RecoveryNotice) : Prop :=
  (∃ point, recorded.1.scans lockId = .recover point worker rest ∧
    point.snapshot? = some entries ∧
    ∀ position, recoveredAt recorded.2 worker position ↔ point.done position) ∨
  (recorded.1.scans lockId).beyond rest

/-- Notices that are added are counted beside the earlier ones. -/
theorem recoveredAt_append (earlier later : List RecoveryNotice) (position : Nat) :
    recoveredAt (earlier ++ later) worker position ↔
      recoveredAt earlier worker position ∨ recoveredAt later worker position := by
  simp only [recoveredAt, List.mem_append, or_and_right, exists_or]

/-- A step of anybody else is no act of a recovery. -/
theorem recoveries_beside (beside : besideWorkers lockId label = true)
    (apart : ∀ outcome, label ≠ .scan lockId outcome) : recoveries state label = [] := by
  -- The only scan that acts is this one.
  cases label with
  | scan other outcome =>
    obtain rfl : other = lockId := by simpa [besideWorkers] using beside
    exact absurd rfl (apart outcome)
  | _ => rfl

/-- A resolved call of a recovery is noticed exactly when it ends an iteration. -/
theorem recoveredAt_recoveries {point : RecoverPoint}
    (recovers : state.scans lockId = .recover point worker rest) (position : Nat) :
    recoveredAt (recoveries state (.scan lockId .resolves)) worker position ↔
      point.finishes state.store position := by
  -- The notice of the step is the act of the point.
  simp only [recoveries, recovers, CallOutcome.shows, if_true, recoveredAt, RecoverPoint.finishes]
  cases acts : point.act? state.store with
  | none => simp
  | some found => obtain ⟨cursor, act⟩ := found; simp [Cursor.notice, and_comm]

/-- A recovery goes on, or is over. -/
theorem RecoveryOf.step {recorded after : Platform × List RecoveryNotice}
    (recovery : RecoveryOf lockId worker rest entries recorded)
    (beside : besideWorkers lockId label = true)
    (stepped : recordedPlatform.step recorded label = some after) :
    RecoveryOf lockId worker rest entries after := by
  obtain ⟨next, history⟩ := after
  -- A scan that recovers cannot begin anew, so it moves by its own calls, or dies.
  obtain ⟨moved, grown⟩ := Machine.recording_step.mp stepped
  obtain rfl : history = recorded.2 ++ recoveries recorded.1 label := grown
  rcases Platform.step_scan moved lockId with
    ⟨same, apart⟩ | ⟨_, at_, _⟩ | ⟨outcome, after, rfl, went, rfl⟩ | ⟨_, _, _, at_, _⟩ | ⟨_, rfl⟩
  · -- Nobody else acts for this scan.
    rcases recovery with ⟨point, recovers, read, visits⟩ | beyond
    · refine .inl ⟨point, same.trans recovers, read, ?_⟩
      rw [recoveries_beside beside apart, List.append_nil]
      exact visits
    · right
      rw [same]
      exact beyond
  · rcases recovery with ⟨point, recovers, _⟩ | beyond
    · simp [at_] at recovers
    · simp [at_, ScanPoint.beyond] at beyond
  · rcases recovery with ⟨point, recovers, read, visits⟩ | beyond
    · rw [recovers] at went
      obtain ⟨reached, later⟩ := after
      rcases ScanPoint.call_within went with rfl | ⟨now, owner, others, rfl⟩
      · right
        simp [ScanPoint.beyond]
      · rcases ScanPoint.call_recover went with
          ⟨was, same, rfl, resolved⟩ | ⟨call, letter, cursor, same, rfl⟩ | ⟨_, visited, dead, same⟩
        · obtain ⟨rfl, rfl, rfl⟩ := ScanPoint.recover.inj same
          have unread : point ≠ .list := fun start => by simp [start, RecoverPoint.snapshot?] at read
          obtain ⟨keeps, grows⟩ := RecoverPoint.resolve_visits resolved unread
          refine .inl ⟨now, by simp, keeps.trans read, fun position => ?_⟩
          rw [recoveredAt_append, recoveredAt_recoveries recovers, visits, grows]
        · obtain ⟨rfl, rfl, rfl⟩ := ScanPoint.recover.inj same
          refine .inl ⟨.deadLetter .rollback letter cursor, by simp, read, ?_⟩
          have unnoticed : recoveries recorded.1 (.scan lockId outcome) = [] := by
            simp [recoveries, recovers, RecoverPoint.act?]
          rw [unnoticed, List.append_nil]
          exact visits
        · obtain ⟨_, _, rfl⟩ := ScanPoint.recover.inj same
          right
          simp [ScanPoint.beyond]
    · right
      rw [Platform.withScan_scans, Function.update_self]
      exact ScanPoint.call_beyond went beyond
  · rcases recovery with ⟨point, recovers, _⟩ | beyond
    · simp [at_] at recovers
    · simp [at_, ScanPoint.beyond] at beyond
  · right
    simp [ScanPoint.beyond]

/-! ## The elements of the list -/

/-- The elements are those of the list, and the ones that were read are those that stood there. -/
structure Tracked (worker : WorkerId) (entries : List Entry) (store : Store) (elements : List Element) :
    Prop where
  listed : elements.map Element.entry = store.processing worker
  read : ∀ element ∈ elements, ∀ position ∈ element.position?,
    entries[position]? = some element.entry

/-- At first they are the ones that were read. -/
theorem Tracked.initial {store : Store} : Tracked worker (store.processing worker) store
    (elementsRead (store.processing worker)) where
  -- Every element is at the position it was read at.
  listed := by
    refine List.ext_getElem? fun position => ?_
    cases at_ : (store.processing worker)[position]? <;> simp [elementsRead, at_]
  read := by
    intro element member position isRead
    obtain ⟨index, inside, rfl⟩ := List.mem_mapIdx.mp member
    obtain rfl := Option.some.inj isRead
    simp [inside]

/-- They have all been read. -/
theorem read_elementsRead {entries : List Entry} :
    ∀ element ∈ elementsRead entries, element.position?.isSome = true := by
  intro element member
  obtain ⟨_, _, rfl⟩ := List.mem_mapIdx.mp member
  rfl

/-- An unfinished job has an element that has come since and was not pushed back. -/
theorem mem_unfinished {elements : List Element} {job : QueuePayload} :
    job ∈ unfinished elements ↔ ∃ element ∈ elements, element.position? = none ∧
      element.pushedBack = false ∧ element.entry = .payload job := by
  constructor
  · intro member
    obtain ⟨element, listed, chosen⟩ := List.mem_filterMap.mp member
    split at chosen
    · next entry unread =>
      split at chosen
      · simp at chosen
      · next kept =>
        obtain rfl := Option.some.inj chosen
        exact ⟨element, listed, unread, Bool.not_eq_true _ ▸ kept, entry⟩
    · simp at chosen
  · rintro ⟨element, listed, unread, kept, entry⟩
    refine List.mem_filterMap.mpr ⟨element, listed, ?_⟩
    simp [unread, kept, entry]

/-- Being pushed back changes neither an element nor where it was read. -/
theorem mem_markPushedBack {entry : Entry} {elements : List Element} {element : Element}
    (member : element ∈ markPushedBack entry elements) :
    ∃ was ∈ elements, was.entry = element.entry ∧ was.position? = element.position? := by
  -- The induction is on the elements, of which the first with the text is marked.
  induction elements with
  | nil => simp [markPushedBack] at member
  | cons first others ih =>
    rw [markPushedBack] at member
    split at member
    · rcases List.mem_cons.mp member with rfl | later
      · exact ⟨first, by simp, rfl, rfl⟩
      · exact ⟨element, by simp [later], rfl, rfl⟩
    · rcases List.mem_cons.mp member with rfl | later
      · exact ⟨element, by simp, rfl, rfl⟩
      · obtain ⟨was, before, same⟩ := ih later
        exact ⟨was, List.mem_cons_of_mem _ before, same⟩

/-- Nor does it change the list. -/
theorem map_markPushedBack (entry : Entry) (elements : List Element) :
    (markPushedBack entry elements).map Element.entry = elements.map Element.entry := by
  -- The induction is on the elements; a mark keeps the entry.
  induction elements with
  | nil => rfl
  | cons first others ih =>
    rw [markPushedBack]
    split
    · rfl
    · simp [ih]

/-- LREM removes the first element with its text. -/
theorem map_eraseP_entry (entry : Entry) (elements : List Element) :
    (elements.eraseP fun element => element.entry = entry).map Element.entry =
      (elements.map Element.entry).erase entry := by
  induction elements with
  | nil => rfl
  | cons first others ih =>
    by_cases same : first.entry = entry <;> simp [same, ih]

/-- The elements of a list that has been left alone are still those of the list. -/
theorem Tracked.kept {before after : Store} {elements : List Element}
    (tracked : Tracked worker entries before elements)
    (kept : after.processing worker = before.processing worker) : Tracked worker entries after elements :=
  ⟨tracked.listed.trans kept.symm, tracked.read⟩

/-- So they are when one of them is marked as pushed back. -/
theorem Tracked.marked {store : Store} {elements : List Element}
    (tracked : Tracked worker entries store elements) (entry : Entry) :
    Tracked worker entries store (markPushedBack entry elements) := by
  refine ⟨by rw [map_markPushedBack, tracked.listed], fun element member position isRead => ?_⟩
  obtain ⟨was, before, same, position'⟩ := mem_markPushedBack member
  rw [← same]
  exact tracked.read was before position (position' ▸ isRead)

/-- Only a pop brings an element that was not read. -/
theorem trackElements_read {elements : List Element} (nothing : popsNothing worker state label)
    (read : ∀ element ∈ elements, element.position?.isSome = true) :
    ∀ element ∈ trackElements worker state label elements, element.position?.isSome = true := by
  intro element member
  unfold trackElements at member
  split at member
  · next owner entry pops =>
    split at member
    · next own => exact absurd (own ▸ pops) (nothing entry)
    · exact read element member
  · split at member
    · exact read element (List.mem_of_mem_eraseP member)
    · exact read element member
  · split at member
    · simp at member
    · exact read element member
  · -- A mark leaves the position as it is.
    split at member
    · obtain ⟨was, before, _, same⟩ := mem_markPushedBack member
      rw [← same]
      exact read was before
    · exact read element member

/-- The elements follow the list. -/
theorem Tracked.step {elements : List Element} (tracked : Tracked worker entries state.store elements)
    (stepped : platform.step state label = some next) :
    Tracked worker entries next.store (trackElements worker state label elements) := by
  obtain ⟨⟨_, _, same, _⟩, _⟩ := Platform.step_effect stepped
  have processing : next.store.processing worker =
      ((state.effect label).apply state.store).processing worker := by rw [same]
  unfold trackElements
  -- Only a command of the worker's own list touches it, and a push may be of one of its elements.
  cases made : state.effect label with
  | pop owner entry =>
    rw [made] at processing
    by_cases own : owner = worker
    · subst own
      refine ⟨?_, ?_⟩
      · simpa [Effect.apply, Store.moveToProcessing, tracked.listed] using processing.symm
      · simpa using tracked.read
    · have kept : next.store.processing worker = state.store.processing worker := by
        simpa [Effect.apply, Store.moveToProcessing, Ne.symm own] using processing
      simpa [own] using tracked.kept kept
  | remove owner job =>
    rw [made] at processing
    by_cases own : owner = worker
    · subst own
      have erased : next.store.processing owner = (state.store.processing owner).erase (.payload job) := by
        simpa [Effect.apply, Store.removeProcessing] using processing
      simp only [if_true]
      refine ⟨?_, fun element member => tracked.read element (List.mem_of_mem_eraseP member)⟩
      rw [map_eraseP_entry, tracked.listed, erased]
    · have kept : next.store.processing worker = state.store.processing worker := by
        simpa [Effect.apply, Store.removeProcessing, Ne.symm own] using processing
      simpa [own] using tracked.kept kept
  | delete owner =>
    rw [made] at processing
    by_cases own : owner = worker
    · subst own
      have emptied : next.store.processing owner = [] := by
        simpa [Effect.apply, Store.deleteProcessing] using processing
      simp only [if_true]
      exact ⟨by simp [emptied], by simp⟩
    · have kept : next.store.processing worker = state.store.processing worker := by
        simpa [Effect.apply, Store.deleteProcessing, Ne.symm own] using processing
      simpa [own] using tracked.kept kept
  | push _ | sendLetter _ =>
    rw [made] at processing
    dsimp only
    split
    · exact (tracked.kept processing).marked _
    · exact tracked.kept processing
  | _ =>
    -- The other commands touch no list.
    rw [made, (Effect.apply_lists rfl).2.1] at processing
    dsimp only
    split
    · exact (tracked.kept processing).marked _
    · exact tracked.kept processing

end CodeExecution

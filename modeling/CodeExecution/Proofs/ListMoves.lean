import CodeExecution.Effects

/-! What each step can do to the elements of the job lists: where they come from and where they go. -/

namespace CodeExecution

variable {store : Store} {entry : Entry} {effect : Effect}

/-! ## Effects on the lists -/

/-- The effects that are commands on a job list. -/
def Effect.onLists : Effect → Bool
  | .pop _ _ | .push _ | .remove _ _ | .delete _ | .sendLetter _ => true
  | _ => false

/-- All other effects leave the three kinds of lists alone. -/
theorem Effect.apply_lists (other : effect.onLists = false) :
    (effect.apply store).pending = store.pending ∧
      (effect.apply store).processing = store.processing ∧
      (effect.apply store).deadLetter = store.deadLetter := by
  -- Tables, streams and the lock are kept under other keys.
  have tables := fun onTables : effect.onTables = true => Effect.apply_tables onTables store
  cases effect with
  | pop _ _ | push _ | remove _ _ | delete _ | sendLetter _ => simp [Effect.onLists] at other
  | submit _ | claim _ | markFailed _ | requeueRow _ _ | resetRunning | insertFailure _
  | commitResult _ _ | commitDeadLetter _ =>
    obtain ⟨_, _, written⟩ := tables rfl
    rw [written]
    exact ⟨rfl, rfl, rfl⟩
  | stream call jobId chunk => cases call <;> exact ⟨rfl, rfl, rfl⟩
  | releaseLock lockId =>
    simp only [Effect.apply, Store.releaseLock]
    split <;> exact ⟨rfl, rfl, rfl⟩
  | _ => exact ⟨rfl, rfl, rfl⟩

/-- A pop takes the last pending element, and no other effect takes any. -/
theorem Effect.pending_stays (effect : Effect) (member : entry ∈ store.pending) :
    entry ∈ (effect.apply store).pending ∨ ∃ worker popped, effect = .pop worker popped := by
  -- Only a BRPOPLPUSH takes from the pending list.
  cases effect with
  | pop worker popped => exact .inr ⟨worker, popped, rfl⟩
  | push pushed => exact .inl (List.mem_cons_of_mem _ member)
  | remove _ _ | delete _ | sendLetter _ => exact .inl member
  | _ => exact .inl (by rw [(Effect.apply_lists rfl).1]; exact member)

/-- A processing list changes by a pop into it, a removal from it, or its deletion. -/
theorem Effect.processing_cases (effect : Effect) (store : Store) (owner : WorkerId) :
    (effect.apply store).processing owner = store.processing owner ∨
    (∃ entry, effect = .pop owner entry ∧
      (effect.apply store).processing owner = entry :: store.processing owner) ∨
    (∃ job, effect = .remove owner job ∧
      (effect.apply store).processing owner = (store.processing owner).erase (.payload job)) ∨
    (effect = .delete owner ∧ (effect.apply store).processing owner = []) := by
  -- Each of the three commands names one list.
  cases effect with
  | pop worker entry =>
    by_cases isOwner : owner = worker
    · subst isOwner
      exact .inr (.inl ⟨entry, rfl, by simp [Effect.apply, Store.moveToProcessing]⟩)
    · exact .inl (by simp [Effect.apply, Store.moveToProcessing, isOwner])
  | remove worker job =>
    by_cases isOwner : owner = worker
    · subst isOwner
      exact .inr (.inr (.inl ⟨job, rfl, by simp [Effect.apply, Store.removeProcessing]⟩))
    · exact .inl (by simp [Effect.apply, Store.removeProcessing, isOwner])
  | delete worker =>
    by_cases isOwner : owner = worker
    · subst isOwner
      exact .inr (.inr (.inr ⟨rfl, by simp [Effect.apply, Store.deleteProcessing]⟩))
    · exact .inl (by simp [Effect.apply, Store.deleteProcessing, isOwner])
  | push _ | sendLetter _ => exact .inl rfl
  | _ => exact .inl (by rw [(Effect.apply_lists rfl).2.1])

/-- Elements leave a processing list when they are removed, or with the whole list. -/
theorem Effect.processing_stays (effect : Effect) {owner : WorkerId}
    (member : entry ∈ store.processing owner) :
    entry ∈ (effect.apply store).processing owner ∨
      (∃ job, entry = .payload job ∧ effect = .remove owner job) ∨ effect = .delete owner := by
  rcases effect.processing_cases store owner with
    same | ⟨popped, _, grown⟩ | ⟨job, removes, erased⟩ | ⟨deletes, _⟩
  · exact .inl (by rw [same]; exact member)
  · exact .inl (by rw [grown]; exact List.mem_cons_of_mem _ member)
  · -- An LREM removes elements that are equal to its argument.
    by_cases isElement : entry = .payload job
    · exact .inr (.inl ⟨job, isElement, removes⟩)
    · exact .inl (by rw [erased]; exact (List.mem_erase_of_ne isElement).mpr member)
  · exact .inr (.inr deletes)

/-- Elements come to a processing list by a pop into it. -/
theorem Effect.processing_arrives {owner : WorkerId}
    (member : entry ∈ (effect.apply store).processing owner) :
    entry ∈ store.processing owner ∨ effect = .pop owner entry := by
  -- An LREM only makes the list shorter.
  rcases effect.processing_cases store owner with
    same | ⟨popped, pops, grown⟩ | ⟨job, _, erased⟩ | ⟨_, emptied⟩
  · exact .inl (by rw [same] at member; exact member)
  · rw [grown] at member
    rcases List.mem_cons.mp member with rfl | earlier
    · exact .inr pops
    · exact .inl earlier
  · exact .inl (by rw [erased] at member; exact List.erase_subset member)
  · rw [emptied] at member
    simp at member

/-- Letters come to the dead-letter list one by one. -/
theorem Effect.letter_arrives {letter : DLQPayload}
    (member : letter ∈ (effect.apply store).deadLetter) :
    letter ∈ store.deadLetter ∨ effect = .sendLetter letter := by
  -- Only the LPUSH of a letter changes the list of them.
  cases effect with
  | sendLetter sent =>
    rcases List.mem_cons.mp member with rfl | earlier
    · exact .inr rfl
    · exact .inl earlier
  | pop _ _ | push _ | remove _ _ | delete _ => exact .inl member
  | _ => exact .inl (by rw [(Effect.apply_lists rfl).2.2] at member; exact member)

/-! ## Steps of the platform -/

variable {state next : Platform} {label : Label}

/-- A pending element stays, or a worker pops it, and claims it next if the call resolves. -/
theorem Platform.step_pending (stepped : state.step label = some next)
    (member : entry ∈ state.store.pending) :
    entry ∈ next.store.pending ∨ ∃ popper outcome, label = .worker popper outcome ∧
      (outcome = .resolves → ∀ job, entry = .payload job →
        next.workers popper = .running (.claim job)) := by
  -- What a pop takes is the last element.
  obtain ⟨⟨now, lock, same, _⟩, _⟩ := Platform.step_effect stepped
  rcases (state.effect label).pending_stays member with stays | ⟨popper, popped, pops⟩
  · exact .inl (by rw [same]; exact stays)
  · obtain ⟨outcome, rfl, running, last⟩ := Platform.effect_pop pops
    obtain ⟨front, whole⟩ := List.getLast?_eq_some_iff.mp last
    rw [whole, List.mem_append, List.mem_singleton] at member
    rcases member with stays | rfl
    · left
      rw [same, pops]
      simpa [Effect.apply, Store.moveToProcessing, whole] using stays
    · refine .inr ⟨popper, outcome, rfl, ?_⟩
      rintro rfl job rfl
      obtain rfl : _ = next := by
        simpa [Platform.step, running, awaitCall, WorkerPoint.resolve, last] using stepped
      simp

/-- An element of a processing list stays, or its owner removes it, or a recovery deletes the list. -/
theorem Platform.step_processing (stepped : state.step label = some next) {owner : WorkerId}
    (member : entry ∈ state.store.processing owner) :
    entry ∈ next.store.processing owner ∨
    (∃ outcome point job, label = .worker owner outcome ∧ state.workers owner = .running point ∧
      entry = .payload job ∧ point.removes? = some job) ∨
    ∃ lockId outcome visited rest, label = .scan lockId outcome ∧
      state.scans lockId = .recover (.delete visited) owner rest := by
  -- The effect tells the process, and so where that process stands.
  obtain ⟨⟨now, lock, same, _⟩, _⟩ := Platform.step_effect stepped
  rcases (state.effect label).processing_stays member with
    stays | ⟨job, rfl, removes⟩ | deletes
  · exact .inl (by rw [same]; exact stays)
  · obtain ⟨outcome, point, isLabel, running, removed⟩ := Platform.effect_remove removes
    exact .inr (.inl ⟨outcome, point, job, isLabel, running, rfl, removed⟩)
  · exact .inr (.inr (Platform.effect_delete deletes))

/-- An element of a processing list was there before, or its owner has just popped it. -/
theorem Platform.step_arrivals (stepped : state.step label = some next) {owner : WorkerId}
    (member : entry ∈ next.store.processing owner) :
    entry ∈ state.store.processing owner ∨
      (state.workers owner = .running .pop ∧ entry ∈ state.store.pending) := by
  -- What a worker pops stood last in the pending list.
  obtain ⟨⟨now, lock, same, _⟩, _⟩ := Platform.step_effect stepped
  rw [same] at member
  rcases Effect.processing_arrives member with earlier | pops
  · exact .inl earlier
  · obtain ⟨_, _, running, last⟩ := Platform.effect_pop pops
    exact .inr ⟨running, List.mem_of_getLast? last⟩

/-- A letter was there before, or a worker or a recovery has just pushed it. -/
theorem Platform.step_letters (stepped : state.step label = some next) {letter : DLQPayload}
    (member : letter ∈ next.store.deadLetter) : letter ∈ state.store.deadLetter ∨
      (∃ sender, state.workers sender = .running (.deadLetterPush letter)) ∨
      ∃ lockId cursor owner rest,
        state.scans lockId = .recover (.deadLetterPush letter cursor) owner rest := by
  -- The effect tells the process, and so where that process stands.
  obtain ⟨⟨now, lock, same, _⟩, _⟩ := Platform.step_effect stepped
  rw [same] at member
  rcases Effect.letter_arrives member with earlier | sends
  · exact .inl earlier
  · rcases Platform.effect_sendLetter sends with
      ⟨sender, _, _, running⟩ | ⟨lockId, _, cursor, owner, rest, _, recovers⟩
    · exact .inr (.inl ⟨sender, running⟩)
    · exact .inr (.inr ⟨lockId, cursor, owner, rest, recovers⟩)

end CodeExecution

import CodeExecution.Proofs.ListMoves
import CodeExecution.Proofs.WorkerSteps

/-! The elements of a live worker's processing list, call by call through its loop. -/

namespace CodeExecution

/-- The element of the job in hand, as long as the worker has not removed it. -/
def WorkerPoint.inHand (point : WorkerPoint) : List Entry :=
  point.listed?.toList.map .payload

/--
The call goes wrong in a way that sends the loop back to its head with an element left behind.

Either an element is popped that the worker never gets to know, or the retry path gives up.
-/
def WorkerPoint.parks (worker : WorkerId) (store : Store) (outcome : CallOutcome) :
    WorkerPoint → Bool
  | .pop =>
    match outcome, store.pending.getLast? with
    | .resolves, some (.malformed _) => true
    -- The reply is lost, but not the move.
    | .rejects true, some _ => true
    | _, _ => false
  | .requeue .update _ | .requeue .push _ =>
    outcome ≠ .resolves && store.processing worker ≠ []
  | .requeue .remove _ | .exhausted _ =>
    outcome = .rejects false && store.processing worker ≠ []
  | _ => false

/-- A failure at these points is only logged. -/
def WorkerPoint.givesUp : WorkerPoint → Bool
  | .requeue _ _ | .exhausted _ => true
  | _ => false

variable {worker : WorkerId} {store : Store} {point : WorkerPoint} {outcome : CallOutcome}

/-- Every other failure is followed by the retry path, and parks nothing. -/
theorem WorkerPoint.parks_of_not_givesUp (retries : point.givesUp = false) (started : point ≠ .pop) :
    point.parks worker store outcome = false := by
  -- The other points go on to the retry path.
  cases point with
  | pop => exact absurd rfl started
  | requeue call job | exhausted job => simp [WorkerPoint.givesUp] at retries
  | _ => rfl

/-- A call past the pop that resolves parks nothing. -/
theorem WorkerPoint.parks_resolves (started : point ≠ .pop) :
    point.parks worker store .resolves = false := by
  -- Only a pop leaves an element behind when it resolves.
  cases point with
  | pop => exact absurd rfl started
  | requeue call job => cases call <;> rfl
  | _ => rfl

/-- A call of the retry path that fails without effect parks what is listed. -/
theorem WorkerPoint.parks_rejects_false (gives : point.givesUp = true) :
    point.parks worker store (.rejects false) = true ↔ store.processing worker ≠ [] := by
  -- Nothing has been removed when the call rejects.
  cases point with
  | requeue call job => cases call <;> simp [WorkerPoint.parks]
  | exhausted job => simp [WorkerPoint.parks]
  | _ => simp [WorkerPoint.givesUp] at gives

/-- One that only loses its reply does so where it is no removal. -/
theorem WorkerPoint.parks_rejects_true (gives : point.givesUp = true) :
    point.parks worker store (.rejects true) = true ↔
      point.removes? = none ∧ store.processing worker ≠ [] := by
  -- An LREM that takes effect removes the element all the same.
  cases point with
  | requeue call job => cases call <;> simp [WorkerPoint.parks, WorkerPoint.removes?]
  | exhausted job => simp [WorkerPoint.parks, WorkerPoint.removes?]
  | _ => simp [WorkerPoint.givesUp] at gives

/-- The retry path starts with the element still listed. -/
@[simp] theorem requeueWithBackoff_inHand (job : QueuePayload) :
    (requeueWithBackoff job).inHand = [.payload job] := by
  simp only [WorkerPoint.inHand, requeueWithBackoff_listed]
  rfl

/-- What remains of a list with one element, once this element is removed. -/
theorem erase_inHand {entries : List Entry} {job : QueuePayload}
    (held : entries.Sublist [.payload job]) : entries.erase (.payload job) = [] := by
  -- There is nothing else in the list.
  rcases List.sublist_singleton.mp held with rfl | rfl <;> simp

/-- A call that takes effect leaves the list as it was, pops into it, or empties it. -/
theorem WorkerPoint.resolve_processing {after : WorkerPoint × Store}
    (resolved : point.resolve worker store = some after)
    (held : (store.processing worker).Sublist point.inHand) :
    (point = .pop ∧ ∃ entry, store.pending.getLast? = some entry ∧
      after.2.processing worker = [entry]) ∨
    (point.removes?.isSome = true ∧ after.2.processing worker = []) ∨
    (point.removes? = none ∧ (point = .pop → store.pending.getLast? = none) ∧
      after.2.processing worker = store.processing worker) := by
  -- The effect of the call names the list, if it is about a list at all.
  have written := WorkerPoint.resolve_effect resolved
  rw [written]
  cases point with
  | pop =>
    have empty : store.processing worker = [] := List.sublist_nil.mp held
    cases last : store.pending.getLast? with
    | none => exact .inr (.inr ⟨rfl, fun _ => rfl, by simp [WorkerPoint.effect, last, Effect.apply]⟩)
    | some entry =>
      exact .inl ⟨rfl, entry, rfl, by
        simp [WorkerPoint.effect, last, Effect.apply, Store.moveToProcessing, empty]⟩
  | discard job | acknowledge job | exhausted job =>
    exact .inr (.inl ⟨rfl, by
      simp [WorkerPoint.effect, Effect.apply, Store.removeProcessing, erase_inHand held]⟩)
  | requeue call job =>
    cases call with
    | remove =>
      exact .inr (.inl ⟨rfl, by
        simp [WorkerPoint.effect, Effect.apply, Store.removeProcessing, erase_inHand held]⟩)
    | update | push => exact .inr (.inr ⟨rfl, by simp, rfl⟩)
  | persist call job result =>
    cases call with
    | commit =>
      have tables : (Effect.commitResult job.jobId result).onLists = false := rfl
      exact .inr (.inr ⟨rfl, by simp, by rw [WorkerPoint.effect, (Effect.apply_lists tables).2.1]⟩)
    | _ => exact .inr (.inr ⟨rfl, by simp, rfl⟩)
  | deadLetter call letter =>
    cases call with
    | commit =>
      have tables : (Effect.commitDeadLetter letter).onLists = false := rfl
      exact .inr (.inr ⟨rfl, by simp, by rw [WorkerPoint.effect, (Effect.apply_lists tables).2.1]⟩)
    | _ => exact .inr (.inr ⟨rfl, by simp, rfl⟩)
  | complete call chunk job | deadLetterComplete call chunk job =>
    cases call <;> exact .inr (.inr ⟨rfl, by simp, rfl⟩)
  | _ => exact .inr (.inr ⟨rfl, by simp, rfl⟩)

/-- A resolved call keeps the element of the job in hand, until it is removed. -/
theorem WorkerPoint.resolve_listed {after : WorkerPoint × Store}
    (resolved : point.resolve worker store = some after) (kept : point.removes? = none)
    (started : point ≠ .pop) : after.1.inHand = point.inHand := by
  -- The points between the claim and a removal are about the same payload.
  obtain ⟨next, later⟩ := after
  cases WorkerPoint.resolve_cases resolved with
  | timeout | pop | unparsed => exact absurd rfl started
  | discard | acknowledge | exhausted | requeueRemove => simp [WorkerPoint.removes?] at kept
  | rollback => exact requeueWithBackoff_inHand _
  | _ => rfl

/-- A failed call leads to the retry path of the job in hand, or gives up at the head of the loop. -/
theorem WorkerPoint.handler_inHand {after : WorkerPoint} (handled : point.handler = some after) :
    (point.givesUp = false ∧ point.inHand.Sublist after.inHand) ∨
      (point.givesUp = true ∧ after = .pop) := by
  -- Only the retry path has no handler of its own.
  have retry : ∀ job, ([.payload job] : List Entry).Sublist (requeueWithBackoff job).inHand :=
    fun job => by rw [requeueWithBackoff_inHand]
  cases point with
  | requeue call job | exhausted job => exact .inr ⟨rfl, (Option.some.inj handled).symm⟩
  | claim job | statusCheck job | repush job | discard job | acknowledge job =>
    obtain rfl := Option.some.inj handled
    exact .inl ⟨rfl, retry job⟩
  | persist call job result =>
    cases call with
    | connect | rollback => obtain rfl := Option.some.inj handled; exact .inl ⟨rfl, retry job⟩
    | _ => obtain rfl := Option.some.inj handled; exact .inl ⟨rfl, .refl _⟩
  | launch job | executing job => simp [WorkerPoint.handler] at handled
  | pop | complete _ _ _ | deadLetter _ _ | deadLetterPush _ | deadLetterComplete _ _ _ =>
    -- Nothing is in hand at these points.
    exact .inl ⟨rfl, List.nil_sublist _⟩

/-- A call parks an element at the head of the loop, or leaves no element but the one in hand. -/
theorem WorkerPoint.call_inHand {after : WorkerPoint × Store}
    (went : awaitCall outcome (point.resolve worker store) point.handler store = some after)
    (held : (store.processing worker).Sublist point.inHand) :
    if point.parks worker store outcome then after.1 = .pop ∧ after.2.processing worker ≠ []
    else (after.2.processing worker).Sublist after.1.inHand := by
  -- What the list holds after the call is compared with what the next point knows of.
  rcases awaitCall_cases went with ⟨rfl, resolved⟩ | ⟨rfl, next, handled, rfl⟩ |
    ⟨rfl, reply, next, resolved, handled, rfl⟩
  · rcases WorkerPoint.resolve_processing resolved held with
      ⟨rfl, entry, last, popped⟩ | ⟨removes, emptied⟩ | ⟨kept, idle, same⟩
    · cases entry with
      | payload job =>
        have claims : after.1 = .claim job := by
          simp only [WorkerPoint.resolve, last] at resolved
          rw [← Option.some.inj resolved]
        simp [WorkerPoint.parks, last, popped, claims, WorkerPoint.inHand, WorkerPoint.listed?]
      | malformed text =>
        have loops : after.1 = .pop := by
          simp only [WorkerPoint.resolve, last] at resolved
          rw [← Option.some.inj resolved]
        simp [WorkerPoint.parks, last, popped, loops]
    · have started : point ≠ .pop := by
        intro removed
        subst removed
        simp [WorkerPoint.removes?] at removes
      simp [WorkerPoint.parks_resolves started, emptied]
    · by_cases started : point = .pop
      · subst started
        obtain rfl : (.pop, store) = after := by
          simpa [WorkerPoint.resolve, idle rfl] using resolved
        simpa [WorkerPoint.parks, idle rfl] using held
      · simpa [WorkerPoint.parks_resolves started, same,
          WorkerPoint.resolve_listed resolved kept started] using held
  · rcases WorkerPoint.handler_inHand handled with ⟨retries, still⟩ | ⟨gives, rfl⟩
    · have parksNot : point.parks worker store (.rejects false) = false := by
        by_cases started : point = .pop
        · subst started; rfl
        · exact WorkerPoint.parks_of_not_givesUp retries started
      simpa [parksNot] using held.trans still
    · by_cases free : store.processing worker = []
      · simp [WorkerPoint.parks_rejects_false gives, free]
      · simp [WorkerPoint.parks_rejects_false gives, free]
  · rcases WorkerPoint.resolve_processing resolved held with
      ⟨rfl, entry, last, popped⟩ | ⟨removes, emptied⟩ | ⟨kept, idle, same⟩
    · -- The reply that is lost would have named the element.
      obtain rfl := Option.some.inj handled
      simp [WorkerPoint.parks, last, popped]
    · have parksNot : point.parks worker store (.rejects true) = false := by
        cases gives : point.givesUp with
        | true =>
          rw [Bool.eq_false_iff, Ne, WorkerPoint.parks_rejects_true gives]
          intro removed
          obtain ⟨kept, _⟩ := removed
          simp [kept] at removes
        | false =>
          refine WorkerPoint.parks_of_not_givesUp gives ?_
          intro removed
          subst removed
          simp [WorkerPoint.removes?] at removes
      simp [parksNot, emptied]
    · rcases WorkerPoint.handler_inHand handled with ⟨retries, still⟩ | ⟨gives, rfl⟩
      · have parksNot : point.parks worker store (.rejects true) = false := by
          by_cases started : point = .pop
          · subst started
            simp [WorkerPoint.parks, idle rfl]
          · exact WorkerPoint.parks_of_not_givesUp retries started
        simpa [parksNot, same] using held.trans still
      · by_cases free : store.processing worker = []
        · simp [WorkerPoint.parks_rejects_true gives, kept, free, same]
        · simp [WorkerPoint.parks_rejects_true gives, kept, free, same]

/-- The sandbox runs the job in hand. -/
theorem WorkerPoint.settled_inHand {after : WorkerPoint} {result : Option SandboxResult}
    (settled : point.sandboxSettled result = some after) : after.inHand = point.inHand := by
  -- It leads to the result transaction, or into the retry path.
  unfold WorkerPoint.sandboxSettled at settled
  split at settled
  · split at settled <;> obtain rfl := Option.some.inj settled
    · rfl
    · exact requeueWithBackoff_inHand _
  · simp at settled

end CodeExecution

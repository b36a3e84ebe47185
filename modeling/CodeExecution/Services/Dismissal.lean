import CodeExecution.Effects

/-! The `DELETE /dlq/:jobId` handler of the API gateway, beside the platform whose letters it removes. -/

namespace CodeExecution

/-- One request, as the connection that it came in on. -/
abbrev RequestId := String

/-- Where one handler stands; each point but the first and the last two is its next awaited call. -/
inductive DismissPoint where
  /-- No such request has been received. -/
  | idle
  /-- `LRANGE jobs:queue:dead-letter 0 -1`. -/
  | list (jobId : JobId)
  /-- `LREM jobs:queue:dead-letter 1` of a matching element, with the elements behind it. -/
  | remove (letter : DLQPayload) (rest : List DLQPayload)
  /-- The reply has been sent. -/
  | answered (code : Nat)
  /-- The gateway process died. -/
  | crashed
  deriving DecidableEq, Repr

/-- The loop over the listed elements, up to the first one of the job. -/
def DismissPoint.search (jobId : JobId) : List DLQPayload → DismissPoint
  -- Nothing was removed.
  | [] => .answered 404
  | letter :: rest => if letter.jobId = jobId then .remove letter rest else DismissPoint.search jobId rest

/-- `LREM jobs:queue:dead-letter 1 letter`. -/
def Store.removeLetter (store : Store) (letter : DLQPayload) : Store :=
  { store with deadLetter := store.deadLetter.erase letter }

/-- The handler's next call when it resolves. -/
def DismissPoint.resolve (store : Store) : DismissPoint → Option (DismissPoint × Store)
  | .list jobId => some (.search jobId store.deadLetter, store)
  | .remove letter _ => some (.answered 200, store.removeLetter letter)
  | .idle | .answered _ | .crashed => none

/-- Where the handler goes on when its next call rejects. -/
def DismissPoint.handler : DismissPoint → Option DismissPoint
  | .list _ => some (.answered 500)
  -- The catch block that is meant for malformed elements goes on with the loop.
  | .remove letter rest => some (.search letter.jobId rest)
  | .idle | .answered _ | .crashed => none

/-- The platform with the handlers that remove letters. -/
structure Console where
  platform : Platform
  dismissals : RequestId → DismissPoint

/-- One thing that happens on the platform or to one of these handlers. -/
inductive ConsoleLabel where
  | platform (label : Label)
  /-- A request arrives. -/
  | dismiss (request : RequestId) (jobId : JobId)
  /-- The next awaited call of a handler. -/
  | dismissal (request : RequestId) (outcome : CallOutcome)
  /-- The process of a handler dies. -/
  | dismissalCrash (request : RequestId)
  deriving DecidableEq

/-- A handler has moved on. -/
def Console.withDismissal (console : Console) (request : RequestId) (after : DismissPoint × Store) :
    Console where
  platform := { console.platform with store := after.2 }
  dismissals := Function.update console.dismissals request after.1

/-- One step, where the label is enabled. -/
def Console.step (console : Console) : ConsoleLabel → Option Console
  | .platform label => (console.platform.step label).map fun next => { console with platform := next }
  | .dismiss request jobId =>
    match console.dismissals request with
    | .idle => some (console.withDismissal request (.list jobId, console.platform.store))
    | _ => none
  | .dismissal request outcome =>
    let point := console.dismissals request
    (awaitCall outcome (point.resolve console.platform.store) point.handler
      console.platform.store).map (console.withDismissal request)
  | .dismissalCrash request =>
    some (console.withDismissal request (.crashed, console.platform.store))

/-- The platform and these handlers as a labelled machine. -/
def console : Machine Console ConsoleLabel where
  step := Console.step

/-- Nothing submitted, and no request received. -/
def Console.initial : Console where
  platform := .initial
  dismissals := fun _ => .idle

/-- The letter that a label removes from the list. -/
def Console.removes? (state : Console) : ConsoleLabel → Option DLQPayload
  | .dismissal request outcome =>
    match state.dismissals request with
    | .remove letter _ =>
      if outcome.applied ∧ letter ∈ state.platform.store.deadLetter then some letter else none
    | _ => none
  | _ => none

/-- A call that resolves removes the letter that it is about, if that is still there. -/
theorem DismissPoint.resolve_store {point : DismissPoint} {store : Store}
    {after : DismissPoint × Store} (resolved : point.resolve store = some after) :
    (∃ letter rest, point = .remove letter rest ∧ after.2 = store.removeLetter letter) ∨
      ((∀ letter rest, point ≠ .remove letter rest) ∧ after.2 = store) := by
  -- The LRANGE writes nothing.
  cases point with
  | list jobId => obtain rfl := Option.some.inj resolved; exact .inr ⟨by simp, rfl⟩
  | remove letter rest => obtain rfl := Option.some.inj resolved; exact .inl ⟨letter, rest, rfl, rfl⟩
  | idle | answered code | crashed => simp [DismissPoint.resolve] at resolved

/-- A step is one of the platform, or it removes a letter at most. -/
theorem Console.step_cases {state next : Console} {label : ConsoleLabel}
    (stepped : state.step label = some next) :
    (∃ own, label = .platform own ∧ state.platform.step own = some next.platform) ∨
    (state.removes? label = none ∧ (∀ own, label ≠ .platform own) ∧
      next.platform = state.platform) ∨
    ∃ letter, state.removes? label = some letter ∧ (∀ own, label ≠ .platform own) ∧
      letter ∈ state.platform.store.deadLetter ∧
      next.platform = { state.platform with store := state.platform.store.removeLetter letter } := by
  cases label with
  | platform own =>
    obtain ⟨after, moved, rfl⟩ := Option.map_eq_some_iff.mp stepped
    exact .inl ⟨own, rfl, moved⟩
  | dismiss request jobId =>
    simp only [step] at stepped
    split at stepped
    · obtain rfl := Option.some.inj stepped
      exact .inr (.inl ⟨rfl, by simp, rfl⟩)
    · simp at stepped
  | dismissalCrash request =>
    obtain rfl := Option.some.inj stepped
    exact .inr (.inl ⟨rfl, by simp, rfl⟩)
  | dismissal request outcome =>
    obtain ⟨after, went, rfl⟩ := Option.map_eq_some_iff.mp stepped
    rcases awaitCall_store went with ⟨applied, reply, resolved, same, _⟩ | ⟨lost, same⟩
    · rcases DismissPoint.resolve_store resolved with
        ⟨letter, rest, removes, removed⟩ | ⟨other, kept⟩
      · by_cases listed : letter ∈ state.platform.store.deadLetter
        · exact .inr (.inr ⟨letter, by simp [removes?, removes, applied, listed], by simp, listed,
            by simp [withDismissal, same, removed]⟩)
        · -- An LREM of an element that is gone removes nothing.
          refine .inr (.inl ⟨by simp [removes?, removes, listed], by simp, ?_⟩)
          simp [withDismissal, same, removed, Store.removeLetter, List.erase_of_not_mem listed]
      · exact .inr (.inl ⟨by simp only [removes?], by simp, by simp [withDismissal, same, kept]⟩)
    · refine .inr (.inl ⟨?_, by simp, by simp [withDismissal, same]⟩)
      simp only [removes?]
      split <;> simp [lost]

end CodeExecution

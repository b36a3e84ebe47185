import CodeExecution.Guarantees.Listing
import CodeExecution.Proofs.ListMoves

/-! Reading through the dead letters page by page, while jobs go on being dead-lettered. -/

namespace CodeExecution

variable {state next : Platform} {label : Label} {trace : List Label}

/-- Letters are only pushed, and they are pushed at the front. -/
theorem Effect.deadLetter_suffix (effect : Effect) (store : Store) :
    store.deadLetter <:+ (effect.apply store).deadLetter := by
  -- One effect is an LPUSH of a letter, and the others leave the list alone.
  cases effect with
  | sendLetter letter => exact List.suffix_cons letter _
  | pop _ _ | push _ | remove _ _ | delete _ => exact List.suffix_rfl
  | _ => rw [(Effect.apply_lists rfl).2.2]

/-- Along every run the letters of before stay, behind those that have come in. -/
theorem letters_grow (run : platform.Runs (fun _ _ => True) state trace next) :
    state.store.deadLetter <:+ next.store.deadLetter := by
  refine run.preserves (fun reached => state.store.deadLetter <:+ reached.store.deadLetter)
    List.suffix_rfl ?_
  intro earlier label later before _ stepped
  obtain ⟨⟨now, lock, same, _⟩, _⟩ := Platform.step_effect stepped
  rw [same]
  exact before.trans ((earlier.effect label).deadLetter_suffix earlier.store)

/--
A client that reads the dead letters page by page, up to the first short page, misses none of them.

Meanwhile the platform goes on with any failures and crashes, and may push further letters, as long as
nobody dismisses any: the letters that were there at first all appear, in their order.
-/
theorem letters_read_through {limit count : Nat} {states : Nat → Platform} {reply : LettersReply}
    (least : 1 ≤ limit) (most : limit ≤ 100)
    (onward : ∀ index < count, ∃ trace,
      platform.Runs (fun _ _ => True) (states index) trace (states (index + 1)))
    (replied : listDeadLetters (states count).store (some (count + 1 : Nat)) (some limit) =
      .ok reply)
    (short : reply.items.length < limit) :
    List.Sublist (states 0).store.deadLetter
      ((List.range (count + 1)).flatMap fun index => lettersOn (states index).store limit (index + 1)) := by
  -- The last page was answered, so its number and those before it may be asked for.
  have shown : lettersOn (states count).store limit (count + 1) = reply.items := by
    unfold lettersOn
    rw [replied]
  have safe : count < maxSafeInteger := by
    by_contra beyond
    unfold listDeadLetters at replied
    rw [parsePositiveInteger_beyond (by omega)] at replied
    exact absurd replied nofun
  have pages : ∀ index ∈ List.range (count + 1), lettersOn (states index).store limit (index + 1) =
      Pages.page limit index (states index).store.deadLetter := by
    intro index member
    have within := List.mem_range.mp member
    exact lettersOn_eq _ least most (by omega)
  rw [List.flatMap_congr pages]
  refine @Pages.sublist_firstPages _ limit (fun index => (states index).store.deadLetter) count ?_ ?_
  · intro index within
    obtain ⟨trace, run⟩ := onward index within
    exact letters_grow run
  · rw [← lettersOn_eq _ least most safe, shown]
    exact short

/-- A dead letter of a job. -/
def exampleLetter (jobId : JobId) : DLQPayload :=
  deadLetterPayload (submittedPayload jobId) exhaustedReason 0

/-- One letter is listed, and a worker is about to push another one. -/
def pushingState : Platform :=
  { Platform.initial with
    store := { Store.empty with deadLetter := [exampleLetter "first"] }
    workers := Function.update (fun _ => .absent) "w"
      (.running (.deadLetterPush (exampleLetter "second"))) }

/-- The guarantee where a letter comes in behind the first page, so that the second page repeats it. -/
theorem letters_read_through_example : ∃ states : Nat → Platform,
    (states 0).store.deadLetter = [exampleLetter "first"] ∧
    (states 1).store.deadLetter = [exampleLetter "second", exampleLetter "first"] ∧
    List.Sublist [exampleLetter "first"]
      ((List.range 3).flatMap fun index => lettersOn (states index).store 1 (index + 1)) := by
  -- The worker pushes its letter, and nothing happens before the third page.
  obtain ⟨pushed, run, lists⟩ := Machine.runs_of_guardedRun platform (fun _ _ => True) pushingState
    [.worker "w" .resolves] (fun state => state.store.deadLetter)
    [exampleLetter "second", exampleLetter "first"] rfl
  let states : Nat → Platform := fun index => if index = 0 then pushingState else pushed
  have onward : ∀ index < 2, ∃ trace,
      platform.Runs (fun _ _ => True) (states index) trace (states (index + 1)) := by
    intro index within
    by_cases first : index = 0
    · subst first
      exact ⟨_, run⟩
    · exact ⟨[], by simp only [states, first, Nat.add_one_ne_zero, if_false]; exact .nil⟩
  have replied : ∃ reply, listDeadLetters (states 2).store (some (2 + 1 : Nat)) (some (1 : Nat)) =
      .ok reply ∧ reply.items.length < 1 := by
    have third : (states 2).store.deadLetter = [exampleLetter "second", exampleLetter "first"] := lists
    refine ⟨_, by unfold listDeadLetters; rfl, ?_⟩
    simp [lrange, third]
  obtain ⟨reply, answered, short⟩ := replied
  exact ⟨states, rfl, lists,
    letters_read_through (Nat.le_refl 1) (by omega) onward answered short⟩

end CodeExecution

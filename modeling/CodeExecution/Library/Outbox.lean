import Mathlib.Data.List.Basic
import Mathlib.Data.List.Sublists

/-! An outbox: items that are handed over in order, each logged and then announced, one at a time. -/

/-- What has been posted, what is still under way, and what has come of the rest. -/
structure Outbox (α : Type*) where
  /-- Everything that was ever posted. -/
  calls : List α
  /-- Items that have not been settled, the next one first. -/
  waiting : List α
  /-- The first of them has been logged, and is to be announced. -/
  announcing : Bool
  log : List α
  channel : List α

namespace Outbox

variable {α : Type*} {box : Outbox α}

/-- Some items are posted. -/
def post (box : Outbox α) (items : List α) : Outbox α :=
  { box with calls := box.calls ++ items, waiting := box.waiting ++ items }

/-- The next item is logged, or is not; it is given up unless the call is known to have worked. -/
def append (box : Outbox α) (applied resolved : Bool) : Outbox α :=
  { box with
    log := box.log ++ if applied then box.waiting.take 1 else []
    announcing := resolved
    waiting := if resolved then box.waiting else box.waiting.drop 1 }

/-- The next item is announced, or is not; in either case it is settled. -/
def announce (box : Outbox α) (applied : Bool) : Outbox α :=
  { box with
    channel := box.channel ++ if applied then box.waiting.take 1 else []
    announcing := false
    waiting := box.waiting.drop 1 }

/-- All items under way are given up. -/
def abandon (box : Outbox α) : Outbox α :=
  { box with waiting := [], announcing := false }

/--
The items are handed over in order.

Those that are settled were posted first, some of them are logged, and some of these are announced.
-/
structure Ordered (box : Outbox α) : Prop where
  handed : ∃ settled logged, box.calls = settled ++ box.waiting ∧ logged.Sublist settled ∧
    box.channel.Sublist logged ∧
    box.log = logged ++ if box.announcing then box.waiting.take 1 else []
  under : box.announcing = true → box.waiting ≠ []

/-- Nothing has been posted. -/
theorem ordered_nil : Ordered (⟨[], [], false, [], []⟩ : Outbox α) where
  handed := ⟨[], [], rfl, .refl _, .refl _, rfl⟩
  under := nofun

/-- What is logged was posted in this order. -/
theorem Ordered.log_sublist (ordered : box.Ordered) : box.log.Sublist box.calls := by
  -- The item that is being announced is the first one under way.
  obtain ⟨settled, logged, calls, kept, -, log⟩ := ordered.handed
  rw [log, calls]
  refine kept.append ?_
  split
  · exact List.take_sublist _ _
  · exact List.nil_sublist _

/-- What is announced was logged in this order. -/
theorem Ordered.channel_sublist (ordered : box.Ordered) : box.channel.Sublist box.log := by
  obtain ⟨settled, logged, -, -, announced, log⟩ := ordered.handed
  rw [log]
  exact announced.trans (List.sublist_append_left _ _)

/-- What is under way was posted. -/
theorem Ordered.waiting_subset (ordered : box.Ordered) : box.waiting ⊆ box.calls := by
  obtain ⟨settled, logged, calls, -⟩ := ordered.handed
  rw [calls]
  exact List.subset_append_right _ _

/-- Items that are posted come after those under way. -/
theorem Ordered.post (ordered : box.Ordered) (items : List α) : (box.post items).Ordered where
  handed := by
    obtain ⟨settled, logged, calls, kept, announced, log⟩ := ordered.handed
    refine ⟨settled, logged, by simp [Outbox.post, calls], kept, announced, ?_⟩
    rw [Outbox.post, log]
    cases announcing : box.announcing with
    | false => rfl
    | true =>
      -- An item that is being announced stays the first one.
      obtain ⟨first, others, waits⟩ := List.exists_cons_of_ne_nil (ordered.under announcing)
      simp [waits]
  under announcing := by
    simp [Outbox.post, ordered.under announcing]

/-- An item that is logged was not logged before. -/
theorem Ordered.append (ordered : box.Ordered) (fresh : box.announcing = false)
    (waits : box.waiting ≠ []) {applied resolved : Bool} (known : resolved = true → applied = true) :
    (box.append applied resolved).Ordered where
  handed := by
    obtain ⟨settled, logged, calls, kept, announced, log⟩ := ordered.handed
    obtain ⟨first, others, isWaiting⟩ := List.exists_cons_of_ne_nil waits
    rw [fresh] at log
    cases resolved with
    | true =>
      -- The item is logged, and waits for its announcement.
      exact ⟨settled, logged, calls, kept, announced, by simp [Outbox.append, log, known rfl]⟩
    | false =>
      -- The item is settled unannounced, and may be logged.
      refine ⟨settled ++ [first], logged ++ if applied then [first] else [], ?_, ?_, ?_, ?_⟩
      · simp [Outbox.append, calls, isWaiting]
      · refine kept.append ?_
        split
        · exact .refl _
        · exact List.nil_sublist _
      · exact announced.trans (List.sublist_append_left _ _)
      · simp [Outbox.append, log, isWaiting]
  under := fun _ => by
    cases resolved <;> simp_all [Outbox.append]

/-- The item that is announced is the last one of the log. -/
theorem Ordered.announce (ordered : box.Ordered) (logged : box.announcing = true) (applied : Bool) :
    (box.announce applied).Ordered where
  handed := by
    obtain ⟨settled, logged', calls, kept, announced, log⟩ := ordered.handed
    obtain ⟨first, others, isWaiting⟩ := List.exists_cons_of_ne_nil (ordered.under logged)
    rw [logged, if_pos rfl, isWaiting, List.take_succ_cons, List.take_zero] at log
    -- The item is settled, and is the next one of the log.
    refine ⟨settled ++ [first], logged' ++ [first], by simp [Outbox.announce, calls, isWaiting],
      kept.append (.refl _), ?_, by simp [Outbox.announce, log]⟩
    refine announced.append ?_
    rw [isWaiting]
    split
    · exact .refl _
    · exact List.nil_sublist _
  under := nofun

/-- What is given up counts as settled. -/
theorem Ordered.abandon (ordered : box.Ordered) : box.abandon.Ordered where
  handed := ⟨box.calls, box.log, by simp [Outbox.abandon], ordered.log_sublist,
    ordered.channel_sublist, by simp [Outbox.abandon]⟩
  under := nofun

end Outbox

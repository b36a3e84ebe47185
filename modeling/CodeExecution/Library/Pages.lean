import Mathlib.Algebra.Order.Group.Nat
import Mathlib.Data.List.Nodup

/-! Pages of rows that are sorted by a key, where each page sorts them anew and ties are free. -/

namespace Pages

variable {α κ : Type*} [LinearOrder κ] {key : α → κ} {rows order : List α} {cut limit : Nat}

/-- The orders in which rows may be returned: larger keys first, and equal keys in any way. -/
def Sorted (key : α → κ) (rows order : List α) : Prop :=
  order.Perm rows ∧ order.Pairwise fun earlier later => key later ≤ key earlier

/-- One page of an order, with pages counted from zero. -/
def page (limit index : Nat) (order : List α) : List α :=
  (order.drop (index * limit)).take limit

/-- The first pages, each of which may come from another order. -/
def firstPages (limit count : Nat) (orders : Nat → List α) : List α :=
  (List.range count).flatMap fun index => page limit index (orders index)

/-- How many pages a number of rows takes. -/
def pageCount (limit count : Nat) : Nat := (count + limit - 1) / limit

/-- No rows of one key are on both sides of a cut. -/
def Clean (key : α → κ) (rows : List α) (cut : Nat) : Prop :=
  ∀ value, ¬ (rows.countP (fun row => value < key row) < cut ∧
    cut < rows.countP (fun row => value ≤ key row))

/-! ## Sorted rows -/

/-- Rows can be sorted. -/
theorem exists_sorted (key : α → κ) (rows : List α) : ∃ order, Sorted key rows order := by
  refine ⟨rows.mergeSort fun earlier later => key later ≤ key earlier, List.mergeSort_perm _ _, ?_⟩
  -- The merge sort takes an order that is transitive and total.
  have trans : ∀ first second third : α, decide (key second ≤ key first) = true →
      decide (key third ≤ key second) = true → decide (key third ≤ key first) = true :=
    fun first second third before after =>
      decide_eq_true (le_trans (of_decide_eq_true after) (of_decide_eq_true before))
  have total : ∀ first second : α,
      (decide (key second ≤ key first) || decide (key first ≤ key second)) = true :=
    fun first second => by simpa using le_total (key second) (key first)
  have sorted := List.pairwise_mergeSort trans total rows
  exact sorted.imp of_decide_eq_true

/-- The rows that meet a condition on large keys are the first ones. -/
theorem Sorted.front (sorted : Sorted key rows order) {large : α → Bool}
    (upward : ∀ row other, key row ≤ key other → large row = true → large other = true) :
    order.take (rows.countP large) = order.filter large ∧
      order.drop (rows.countP large) = order.filter fun row => !large row := by
  rw [← sorted.1.countP_eq]
  have descending := sorted.2
  clear sorted
  -- The induction is on the order: behind a row that is not large, no row is.
  induction order with
  | nil => exact ⟨rfl, rfl⟩
  | cons first rest ih =>
    obtain ⟨below, descending⟩ := List.pairwise_cons.mp descending
    by_cases isLarge : large first = true
    · obtain ⟨front, back⟩ := ih descending
      rw [List.countP_cons_of_pos isLarge, List.filter_cons_of_pos isLarge,
        List.filter_cons_of_neg (by simpa using isLarge), List.take_succ_cons, List.drop_succ_cons]
      exact ⟨by rw [front], back⟩
    · have small : ∀ row ∈ first :: rest, large row = false := by
        intro row member
        rw [← Bool.not_eq_true]
        rcases List.mem_cons.mp member with rfl | later
        · exact isLarge
        · exact fun isLarge' => isLarge (upward row first (below row later) isLarge')
      have none : (first :: rest).countP large = 0 :=
        List.countP_eq_zero.mpr fun row member => by simp [small row member]
      rw [none, List.take_zero, List.drop_zero]
      refine ⟨(List.filter_eq_nil_iff.mpr fun row member => ?_).symm,
        (List.filter_eq_self.mpr fun row member => ?_).symm⟩
      · simp [small row member]
      · simp [small row member]

/-- The rows in front of a clean cut are those from some key on. -/
theorem Sorted.threshold (sorted : Sorted key rows order) (clean : Clean key rows cut)
    (some : 0 < cut) (inside : cut ≤ rows.length) :
    ∃ value, rows.countP (fun row => value ≤ key row) = cut := by
  -- The key of the last row in front of the cut is that key.
  have length : order.length = rows.length := sorted.1.length_eq
  obtain ⟨front, last, back, split, size⟩ :
      ∃ front last back, order = front ++ last :: back ∧ front.length + 1 = cut := by
    have bound : cut - 1 < order.length := by omega
    refine ⟨order.take (cut - 1), order[cut - 1], order.drop cut, ?_, ?_⟩
    · have next : order.drop (cut - 1) = order[cut - 1] :: order.drop cut := by
        rw [List.drop_eq_getElem_cons bound, Nat.sub_add_cancel some]
      rw [← next, List.take_append_drop]
    · rw [List.length_take]
      omega
  have descending := sorted.2
  rw [split, List.pairwise_append, List.pairwise_cons] at descending
  obtain ⟨-, ⟨below, -⟩, above⟩ := descending
  refine ⟨key last, le_antisymm (not_lt.mp fun more => clean (key last) ⟨?_, more⟩) ?_⟩
  · -- No row from the last one on has a larger key.
    have none : (last :: back).countP (fun row => key last < key row) = 0 := by
      refine List.countP_eq_zero.mpr fun row member => ?_
      rcases List.mem_cons.mp member with rfl | later
      · simp
      · simpa using below row later
    rw [← sorted.1.countP_eq, split, List.countP_append, none, Nat.add_zero]
    exact lt_of_le_of_lt List.countP_le_length (by omega)
  · have all : front.countP (fun row => key last ≤ key row) = front.length :=
      List.countP_eq_length.mpr fun row member =>
        decide_eq_true (above row member last List.mem_cons_self)
    rw [← sorted.1.countP_eq, split, List.countP_append, all, List.countP_cons_of_pos (by simp)]
    omega

/-- All orders have the same rows in front of a clean cut. -/
theorem Sorted.take_perm {other : List α} (sorted : Sorted key rows order)
    (sorted' : Sorted key rows other) (clean : Clean key rows cut) :
    (order.take cut).Perm (other.take cut) := by
  rcases Nat.eq_zero_or_pos cut with rfl | some
  · rw [List.take_zero, List.take_zero]
  · by_cases inside : cut ≤ rows.length
    · -- They are the rows from one key on.
      obtain ⟨value, rfl⟩ := sorted.threshold clean some inside
      have upward : ∀ row other : α, key row ≤ key other →
          decide (value ≤ key row) = true → decide (value ≤ key other) = true := by
        intro row other below large
        exact decide_eq_true (le_trans (of_decide_eq_true large) below)
      rw [(sorted.front upward).1, (sorted'.front upward).1]
      exact (sorted.1.trans sorted'.1.symm).filter _
    · have long := not_le.mp inside
      rw [List.take_of_length_le (by rw [sorted.1.length_eq]; omega),
        List.take_of_length_le (by rw [sorted'.1.length_eq]; omega)]
      exact sorted.1.trans sorted'.1.symm

/-- Rows between the last one above a key and the last one at least as large have this key. -/
theorem Sorted.keyed (sorted : Sorted key rows order) {value : κ} {position : Nat}
    (low : rows.countP (fun row => value < key row) ≤ position)
    (high : position < rows.countP fun row => value ≤ key row) (inside : position < order.length) :
    key order[position] = value := by
  apply le_antisymm
  · -- The greater keys all stand before the position.
    have behind : order[position] ∈ order.drop (rows.countP fun row => value < key row) := by
      rw [List.mem_drop_iff_getElem]
      exact ⟨position - rows.countP fun row => value < key row, by omega, by congr 1; omega⟩
    rw [(sorted.front fun row other below large => decide_eq_true
      (lt_of_lt_of_le (of_decide_eq_true large) below)).2] at behind
    simpa using (List.mem_filter.mp behind).2
  · -- The smaller keys all stand behind it.
    have before : order[position] ∈ order.take (rows.countP fun row => value ≤ key row) := by
      rw [List.mem_take_iff_getElem]
      exact ⟨position, by omega, rfl⟩
    rw [(sorted.front fun row other below large => decide_eq_true
      (le_trans (of_decide_eq_true large) below)).1] at before
    simpa using (List.mem_filter.mp before).2

/-- Where rows of one key are on both sides of a cut, two of them may change places across it. -/
theorem Sorted.tied (sorted : Sorted key rows order) (tied : ¬ Clean key rows (cut + 1)) :
    ∃ front before after back, order = front ++ before :: after :: back ∧ front.length = cut ∧
      Sorted key rows (front ++ after :: before :: back) := by
  obtain ⟨value, less, more⟩ : ∃ value, rows.countP (fun row => value < key row) < cut + 1 ∧
      cut + 1 < rows.countP (fun row => value ≤ key row) := by
    simpa only [Clean, not_forall, not_not] using tied
  have bound : cut + 1 < order.length := by
    rw [sorted.1.length_eq]
    exact lt_of_lt_of_le more List.countP_le_length
  -- The two rows around the cut have the key that is on both sides.
  have here := sorted.keyed (Nat.lt_succ_iff.mp less) (Nat.lt_of_succ_lt more) (Nat.lt_of_succ_lt bound)
  have there := sorted.keyed (le_of_lt less) more bound
  have split : order = order.take cut ++ order[cut] :: order[cut + 1] :: order.drop (cut + 2) := by
    rw [← List.drop_eq_getElem_cons bound, ← List.drop_eq_getElem_cons (by omega),
      List.take_append_drop]
  refine ⟨order.take cut, order[cut], order[cut + 1], order.drop (cut + 2), split, ?_, ?_, ?_⟩
  · rw [List.length_take]
    omega
  · refine List.Perm.trans ?_ sorted.1
    conv_rhs => rw [split]
    exact (List.Perm.swap _ _ _).append_left _
  · have descending := sorted.2
    rw [split] at descending
    generalize order.take cut = front, order.drop (cut + 2) = back, order[cut] = before,
      order[cut + 1] = after at descending here there
    simp only [List.pairwise_append, List.pairwise_cons, List.mem_cons] at descending ⊢
    obtain ⟨inFront, ⟨below, below', inBack⟩, above⟩ := descending
    refine ⟨inFront, ⟨?_, fun row member => below row (.inr member), inBack⟩, ?_⟩
    · rintro row (rfl | member)
      · exact le_of_eq (here.trans there.symm)
      · exact below' row member
    · rintro row member other (rfl | rfl | later)
      · exact above row member _ (.inr (.inl rfl))
      · exact above row member _ (.inl rfl)
      · exact above row member other (.inr (.inr later))

/-! ## Pages -/

/-- A page beyond the last row is empty. -/
theorem page_beyond {index : Nat} (beyond : order.length ≤ index * limit) :
    page limit index order = [] := by
  rw [page, List.drop_of_length_le beyond, List.take_nil]

/-- A row is on one page at most of each order, and the pages are consecutive. -/
theorem take_succ_page (limit index : Nat) (order : List α) :
    order.take ((index + 1) * limit) = order.take (index * limit) ++ page limit index order := by
  rw [Nat.succ_mul, page, List.take_add]

/-- One more page comes behind the others. -/
theorem firstPages_succ (limit count : Nat) (orders : Nat → List α) :
    firstPages limit (count + 1) orders =
      firstPages limit count orders ++ page limit count (orders count) := by
  rw [firstPages, List.range_succ, List.flatMap_append, List.flatMap_singleton, firstPages]

/-- Where every boundary is clean, the first pages have the first rows of any order. -/
theorem firstPages_perm {orders : Nat → List α} (sorted : Sorted key rows order)
    (each : ∀ index, Sorted key rows (orders index)) (count : Nat)
    (clean : ∀ index, Clean key rows (index * limit)) :
    (firstPages limit count orders).Perm (order.take (count * limit)) := by
  -- The induction is on the number of pages.
  induction count with
  | zero => simp [firstPages]
  | succ count ih =>
    -- Up to this page its own order has the same rows as any other.
    have before : (firstPages limit count orders).Perm ((orders count).take (count * limit)) :=
      ih.trans (sorted.take_perm (each count) (clean count))
    have whole := (each count).take_perm sorted (clean (count + 1))
    rw [take_succ_page] at whole
    rw [firstPages_succ]
    exact (before.append_right _).trans whole

/-- The first pages of one order are its first rows. -/
theorem firstPages_take (limit count : Nat) (order : List α) :
    firstPages limit count (fun _ => order) = order.take (count * limit) := by
  -- The induction is on the number of pages.
  induction count with
  | zero => simp [firstPages]
  | succ count ih =>
    rw [firstPages_succ, ih, take_succ_page]

/-- Where a boundary is not clean, one row may be on the two pages around it. -/
theorem repeats_of_tied {index count : Nat} (positive : 0 < limit)
    (tied : ¬ Clean key rows ((index + 1) * limit)) (inside : index + 1 < count) :
    ∃ orders, (∀ index, Sorted key rows (orders index)) ∧ ¬ (firstPages limit count orders).Nodup := by
  obtain ⟨order, sorted⟩ := exists_sorted key rows
  obtain ⟨cut, same⟩ : ∃ cut, (index + 1) * limit = cut + 1 :=
    ⟨(index + 1) * limit - 1, (Nat.sub_add_cancel (Nat.mul_pos (Nat.succ_pos _) positive)).symm⟩
  rw [same] at tied
  obtain ⟨front, before, after, back, split, size, swapped⟩ := sorted.tied tied
  -- The page in front of the boundary comes from the order with the two rows exchanged.
  refine ⟨fun at_ => if at_ = index then front ++ after :: before :: back else order, fun at_ => ?_,
    fun distinct => ?_⟩
  · dsimp only
    split
    · exact swapped
    · exact sorted
  · rw [firstPages, List.nodup_flatMap] at distinct
    have disjoint := List.pairwise_iff_getElem.mp distinct.2 index (index + 1)
      (by rw [List.length_range]; omega) (by rw [List.length_range]; omega) (Nat.lt_succ_self _)
    simp only [List.getElem_range, Function.onFun, if_true, Nat.succ_ne_self, if_false] at disjoint
    refine disjoint (a := after) ?_ ?_
    · have ends : (front ++ after :: before :: back).take ((index + 1) * limit) = front ++ [after] := by
        rw [same, ← size, List.take_length_add_append]
        rfl
      have start : index * limit ≤ front.length := by
        rw [Nat.succ_mul] at same
        omega
      have filled : ((front ++ after :: before :: back).take (index * limit)).length = index * limit := by
        rw [List.length_take, List.length_append]
        exact Nat.min_eq_left (by omega)
      have behind := congrArg (List.drop (index * limit)) (ends.symm.trans (take_succ_page _ _ _))
      rw [List.drop_append_of_le_length start, List.drop_left' filled] at behind
      rw [← behind]
      exact List.mem_append_right _ (List.mem_singleton_self _)
    · obtain ⟨less, rfl⟩ : ∃ less, limit = less + 1 := ⟨limit - 1, (Nat.sub_add_cancel positive).symm⟩
      rw [page, same, split, ← size, List.drop_length_add_append]
      simp

/-! ## Pages of a list that grows at its front -/

/-- A list that only grows at its front ends with what it was. -/
theorem suffix_of_grows {lists : Nat → List α} {count : Nat}
    (grows : ∀ index < count, lists index <:+ lists (index + 1)) : lists 0 <:+ lists count := by
  induction count with
  | zero => exact List.suffix_rfl
  | succ count ih => exact (ih fun index within => grows index (by omega)).trans (grows count (by omega))

/-- What the pages show of the first list, where elements may come in between them. -/
theorem take_sublist_firstPages {lists : Nat → List α} {count : Nat}
    (grows : ∀ index < count, lists index <:+ lists (index + 1)) :
    List.Sublist ((lists 0).take ((count + 1) * limit - ((lists count).length - (lists 0).length)))
      (firstPages limit (count + 1) lists) := by
  -- The induction is on the number of pages, and what has come in shifts each page to the right.
  induction count with
  | zero => simp [firstPages, page]
  | succ count ih =>
    have covered := ih fun index within => grows index (by omega)
    have more := (grows count (by omega)).length_le
    obtain ⟨front, whole⟩ := suffix_of_grows grows
    have size : (lists (count + 1)).length - (lists 0).length = front.length := by
      rw [← whole, List.length_append]
      omega
    have next : (count + 1 + 1) * limit = (count + 1) * limit + limit := Nat.succ_mul ..
    rw [firstPages_succ, size, next]
    by_cases behind : front.length ≤ (count + 1) * limit
    · -- The page begins where the others have ended, or before.
      have rest : page limit (count + 1) (lists (count + 1)) =
          ((lists 0).drop ((count + 1) * limit - front.length)).take limit := by
        rw [page, ← whole, List.drop_append, List.drop_of_length_le behind, List.nil_append]
      have shift : (count + 1) * limit + limit - front.length =
          (count + 1) * limit - front.length + limit := by omega
      rw [rest, shift, List.take_add]
      refine List.Sublist.append (List.Sublist.trans ?_ covered) (List.Sublist.refl _)
      exact (List.take_prefix_take_left (by omega)).sublist
    · -- So much has come in that the page may show none of the first list.
      refine List.Sublist.trans ?_ (List.sublist_append_right _ _)
      have rest : page limit (count + 1) (lists (count + 1)) =
          (front.drop ((count + 1) * limit)).take limit ++
            (lists 0).take ((count + 1) * limit + limit - front.length) := by
        have shift : limit - (front.length - (count + 1) * limit) =
            (count + 1) * limit + limit - front.length := by omega
        rw [page, ← whole, List.drop_append_of_le_length (by omega), List.take_append,
          List.length_drop, shift]
      rw [rest]
      exact List.sublist_append_right _ _

/-- Pages up to the first short one show a whole list, where elements only come in at its front. -/
theorem sublist_firstPages {lists : Nat → List α} {count : Nat}
    (grows : ∀ index < count, lists index <:+ lists (index + 1))
    (short : (page limit count (lists count)).length < limit) :
    List.Sublist (lists 0) (firstPages limit (count + 1) lists) := by
  have shown := @take_sublist_firstPages _ limit _ _ grows
  -- A short page ends with its list, and so with the first list.
  have ends : (lists count).length < (count + 1) * limit := by
    rw [page, List.length_take, List.length_drop] at short
    rw [Nat.succ_mul]
    omega
  have least := (suffix_of_grows grows).length_le
  rwa [List.take_of_length_le (by omega)] at shown

end Pages

import Mathlib.Algebra.GroupWithZero.Nat
import Mathlib.Data.Finset.Card
import Mathlib.Data.List.AList

/-! Maps from keys to finite sets, which have a set as long as there is an element for it. -/

/-- A finite set under each of finitely many keys. -/
abbrev SetMap (κ α : Type*) := AList fun _ : κ => Finset α

namespace SetMap

variable {κ α : Type*} [DecidableEq κ]

/-- The elements under a key. -/
def members (map : SetMap κ α) (key : κ) : Finset α := (map.lookup key).getD ∅

/-- No key has an empty set. -/
def Filled (map : SetMap κ α) : Prop := ∀ key set, map.lookup key = some set → set ≠ ∅

/-- The number of elements under all keys. -/
def size (map : SetMap κ α) : Nat := (map.entries.map fun entry => entry.2.card).sum

/-- The map without keys. -/
theorem filled_empty : Filled (∅ : SetMap κ α) := by
  intro key set found
  rw [AList.lookup_empty] at found
  simp at found

/-- The set of a key is one part of the size, and the other keys are the rest. -/
theorem size_eq (map : SetMap κ α) (key : κ) :
    map.size = (map.members key).card + size (map.erase key) := by
  by_cases member : key ∈ map.entries.keys
  · -- The set stands somewhere between the others.
    obtain ⟨set, front, back, -, whole, rest⟩ := List.exists_of_kerase member
    have found : map.lookup key = some set := by
      rw [← Option.mem_def, AList.mem_lookup_iff, whole]
      simp
    have erased : (map.erase key).entries = front ++ back := rest
    simp only [size, members, found, Option.getD_some, whole, erased, List.map_append, List.map_cons,
      List.sum_append, List.sum_cons]
    omega
  · have absent : map.lookup key = none := AList.lookup_eq_none.mpr member
    have same : (map.erase key).entries = map.entries := List.kerase_of_notMem_keys member
    rw [size, size, members, absent, same, Option.getD_none, Finset.card_empty, Nat.zero_add]

/-- A set that is put under a key takes the place of the other one. -/
theorem size_insert (map : SetMap κ α) (key : κ) (set : Finset α) :
    size (map.insert key set) = set.card + size (map.erase key) := rfl

variable [DecidableEq α]

/-- Put an element under a key, which gets a set where it has none. -/
def add (map : SetMap κ α) (key : κ) (element : α) : SetMap κ α :=
  map.insert key (insert element (map.members key))

/-- Take an element away from a key, which loses its set together with the last element. -/
def remove (map : SetMap κ α) (key : κ) (element : α) : SetMap κ α :=
  match map.lookup key with
  | some set => if set.erase element = ∅ then map.erase key else map.insert key (set.erase element)
  | none => map

/-- A removal leaves the other keys alone. -/
theorem lookup_remove_ne {map : SetMap κ α} {key other : κ} (different : other ≠ key) (element : α) :
    (map.remove key element).lookup other = map.lookup other := by
  -- The key is erased, or its set replaced, or there is none.
  unfold remove
  split
  · split
    · exact AList.lookup_erase_ne different
    · exact AList.lookup_insert_ne different
  · rfl

/-- Under its own key it leaves the other elements, if there are any. -/
theorem lookup_remove (map : SetMap κ α) (key : κ) (element : α) :
    (map.remove key element).lookup key =
      if (map.members key).erase element = ∅ then none
      else some ((map.members key).erase element) := by
  -- A key without a set stays without one, since nothing can be taken away from it.
  unfold remove members
  cases found : map.lookup key with
  | none => rw [Option.getD_none, Finset.erase_empty, if_pos rfl, found]
  | some set =>
    dsimp only
    rw [Option.getD_some]
    split
    · exact AList.lookup_erase key map
    · exact AList.lookup_insert map

/-! ## Elements -/

/-- An element is added under its own key only. -/
theorem members_add (map : SetMap κ α) (key : κ) (element : α) (other : κ) :
    (map.add key element).members other =
      if other = key then insert element (map.members key) else map.members other := by
  unfold members add
  split
  · next same => rw [same, AList.lookup_insert, Option.getD_some, members]
  · next different => rw [AList.lookup_insert_ne different]

/-- So it is removed. -/
theorem members_remove (map : SetMap κ α) (key : κ) (element : α) (other : κ) :
    (map.remove key element).members other =
      if other = key then (map.members key).erase element else map.members other := by
  by_cases same : other = key
  · -- A key without a set has no elements either.
    rw [if_pos same, same, members, lookup_remove]
    split
    · next last => rw [last, Option.getD_none]
    · rw [Option.getD_some]
  · rw [if_neg same, members, lookup_remove_ne same, members]

/-! ## Sets -/

/-- A set is created with its first element. -/
theorem Filled.add {map : SetMap κ α} (filled : map.Filled) (key : κ) (element : α) :
    (map.add key element).Filled := by
  -- The set under this key has the new element at least.
  intro other set found
  by_cases same : other = key
  · rw [same, SetMap.add, AList.lookup_insert] at found
    rw [← Option.some.inj found]
    exact Finset.insert_ne_empty _ _
  · rw [SetMap.add, AList.lookup_insert_ne same] at found
    exact filled other set found

/-- A set is dropped with its last element. -/
theorem Filled.remove {map : SetMap κ α} (filled : map.Filled) (key : κ) (element : α) :
    (map.remove key element).Filled := by
  -- The other keys keep their sets, and this one keeps its own only if something is left.
  intro other set found
  by_cases same : other = key
  · rw [same, lookup_remove] at found
    split at found
    · simp at found
    · next some => rwa [← Option.some.inj found]
  · rw [lookup_remove_ne same] at found
    exact filled other set found

/-! ## Sizes -/

/-- A new element makes the map larger by one. -/
theorem size_add {map : SetMap κ α} {key : κ} {element : α} (fresh : element ∉ map.members key) :
    (map.add key element).size = map.size + 1 := by
  rw [add, size_insert, Finset.card_insert_of_notMem fresh, map.size_eq key]
  omega

/-- An element that is taken away makes it smaller by one. -/
theorem size_remove {map : SetMap κ α} {key : κ} {element : α} (member : element ∈ map.members key) :
    (map.remove key element).size + 1 = map.size := by
  -- What becomes of the set is the only difference.
  rw [map.size_eq key]
  have card := Finset.card_erase_add_one member
  unfold remove
  cases found : map.lookup key with
  | none =>
    rw [members, found] at member
    simp at member
  | some set =>
    have whole : map.members key = set := by rw [members, found, Option.getD_some]
    rw [whole] at card ⊢
    dsimp only
    split
    · next last =>
      rw [last, Finset.card_empty] at card
      omega
    · rw [size_insert]
      omega

end SetMap

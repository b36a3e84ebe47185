import Mathlib.Data.List.Nodup

/-! Relational tables with a primary key: insertion, conditional updates, and reads by key. -/

/-- Rows in insertion order, no two of them with the same key. -/
structure KeyedTable {ρ κ : Type*} (key : ρ → κ) where
  /-- The stored rows. -/
  rows : List ρ
  /-- The key is unique, so a read by key can find one row at most. -/
  keysNodup : (rows.map key).Nodup

namespace KeyedTable

variable {ρ κ : Type*} {key : ρ → κ}

/-- The table without rows. -/
def empty (key : ρ → κ) : KeyedTable key :=
  -- No rows have no repeated key.
  ⟨[], List.nodup_nil⟩

section Operations

variable [DecidableEq κ]

/-- The row stored under a key. -/
def lookup (table : KeyedTable key) (at_ : κ) : Option ρ :=
  -- Uniqueness of the key makes the first match the only one.
  table.rows.find? fun row => key row = at_

/-- Add a row, keeping the table as it is where the key is taken. -/
def insert (table : KeyedTable key) (row : ρ) : KeyedTable key :=
  if taken : key row ∈ table.rows.map key then table
  else ⟨table.rows ++ [row], by
    -- The only key that could repeat is the new one, and it is not taken.
    simpa [List.nodup_append, table.keysNodup] using taken⟩

/-- Rewrite every row that meets a condition, leaving all keys alone. -/
def updateWhere (table : KeyedTable key) (condition : ρ → Bool) (change : ρ → ρ)
    (keeps : ∀ row, key (change row) = key row) : KeyedTable key where
  rows := table.rows.map fun row => if condition row then change row else row
  keysNodup := by
    -- Neither branch changes a key, so the list of keys is the old one.
    have same : (fun row => key (if condition row then change row else row)) = key := by
      funext row
      split <;> simp [keeps]
    simpa [List.map_map, Function.comp_def, same] using table.keysNodup

/-- The rows that meet a condition, in insertion order. -/
def select (table : KeyedTable key) (condition : ρ → Bool) : List ρ :=
  -- A read leaves the table unchanged.
  table.rows.filter condition

/-- A row is stored exactly when its own key reads it back. -/
theorem mem_rows_iff {table : KeyedTable key} {row : ρ} :
    row ∈ table.rows ↔ table.lookup (key row) = some row := by
  -- The search could only stop earlier at another row with the same key.
  obtain ⟨rows, nodup⟩ := table
  simp only [lookup]
  induction rows with
  | nil => simp
  | cons first rest ih =>
    simp only [List.map_cons, List.nodup_cons] at nodup
    by_cases same : key first = key row
    · have absent : row ∉ rest := fun member =>
        nodup.1 (same ▸ List.mem_map_of_mem (f := key) member)
      simp [same, absent, eq_comm]
    · have other : row ≠ first := fun equal => same (by rw [equal])
      simpa [same, other] using ih nodup.2

/-- A read by key returns a row with that key. -/
theorem key_of_lookup {table : KeyedTable key} {at_ : κ} {row : ρ}
    (found : table.lookup at_ = some row) : key row = at_ := by
  -- The search tests exactly this equation.
  simpa using List.find?_some found

/-- Selected rows are the stored rows that meet the condition. -/
theorem mem_select_iff {table : KeyedTable key} {condition : ρ → Bool} {row : ρ} :
    row ∈ table.select condition ↔ table.lookup (key row) = some row ∧ condition row := by
  -- Selection filters the stored rows.
  simp [select, mem_rows_iff]

/-- Selecting by key finds the row that the key reads, if there is one. -/
theorem select_key (table : KeyedTable key) (at_ : κ) :
    table.select (fun row => key row = at_) = (table.lookup at_).toList := by
  -- Behind the first match there is no other.
  obtain ⟨rows, nodup⟩ := table
  simp only [select, lookup]
  induction rows with
  | nil => rfl
  | cons first rest ih =>
    simp only [List.map_cons, List.nodup_cons] at nodup
    by_cases same : key first = at_
    · have none_left : ∀ row ∈ rest, ¬ key row = at_ := fun row member equal =>
        nodup.1 (same.trans equal.symm ▸ List.mem_map_of_mem (f := key) member)
      simpa [same] using none_left
    · simpa [same] using ih nodup.2

/-- The empty table has no row under any key. -/
@[simp] theorem lookup_empty (at_ : κ) : (empty key).lookup at_ = none := by
  -- There is nothing to search.
  rfl

/-- Reading after a conditional update applies the update to the row that was there. -/
@[simp] theorem lookup_updateWhere (table : KeyedTable key) (condition : ρ → Bool)
    (change : ρ → ρ) (keeps : ∀ row, key (change row) = key row) (at_ : κ) :
    (table.updateWhere condition change keeps).lookup at_ =
      (table.lookup at_).map fun row => if condition row then change row else row := by
  -- The update keeps every key, so the search stops at the same position.
  simp only [lookup, updateWhere, List.find?_map]
  congr 2
  funext row
  simp only [Function.comp_apply]
  split <;> simp [keeps]

/-- Reading after an insertion under a free key finds the new row there and the old rows elsewhere. -/
theorem lookup_insert (table : KeyedTable key) (row : ρ) (at_ : κ)
    (free : table.lookup (key row) = none) :
    (table.insert row).lookup at_ = if key row = at_ then some row else table.lookup at_ := by
  -- A free key is not among the stored keys, so the row is appended.
  have absent : key row ∉ table.rows.map key := by
    intro taken
    obtain ⟨stored, member, same⟩ := List.mem_map.mp taken
    have found := mem_rows_iff.mp member
    rw [same, free] at found
    simp at found
  simp only [insert, dif_neg absent, lookup, List.find?_append]
  by_cases same : key row = at_
  · subst same
    have unmatched : table.rows.find? (fun stored => key stored = key row) = none := free
    simp [unmatched]
  · simp [same]

end Operations

/-- Selecting after a conditional update finds the rows whose update meets the condition. -/
theorem select_updateWhere (table : KeyedTable key) (condition selected : ρ → Bool)
    (change : ρ → ρ) (keeps : ∀ row, key (change row) = key row) :
    (table.updateWhere condition change keeps).select selected =
      (table.select fun row => selected (if condition row then change row else row)).map
        fun row => if condition row then change row else row := by
  -- The update maps the rows where they stand.
  simp only [select, updateWhere, List.filter_map]
  rfl

end KeyedTable

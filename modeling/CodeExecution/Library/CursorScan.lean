import Mathlib.Data.Set.Basic

/-! Iterations over a set of keys that changes meanwhile, whose pages are asked for one by one. -/

/-- An iteration: the keys it has returned, and those that there were. -/
structure CursorScan (κ : Type*) where
  found : List κ
  /-- Keys that have been there ever since it began. -/
  always : Set κ
  /-- Keys that have been there at some time since. -/
  ever : Set κ

namespace CursorScan

variable {κ : Type*} {scan : CursorScan κ} {present : Set κ} {page : List κ} {last : Bool} {key : κ}

/-- The iteration begins with the keys that there are. -/
def start (present : Set κ) : CursorScan κ where
  found := []
  always := present
  ever := present

/-- The set of keys has changed. -/
def watch (scan : CursorScan κ) (present : Set κ) : CursorScan κ :=
  -- What goes is no longer `always` there, and what comes is `ever` there from now on.
  { scan with always := scan.always ∩ present, ever := scan.ever ∪ present }

/-- A page is added to those before it. -/
def add (scan : CursorScan κ) (page : List κ) : CursorScan κ :=
  { scan with found := scan.found ++ page }

/--
What an iteration promises: it returns no key that was never there, and in the end all that always were.

Keys that come or go meanwhile may be returned or not, and any key more than once.
-/
def Returns (scan : CursorScan κ) (page : List κ) (last : Bool) : Prop :=
  (∀ key ∈ page, key ∈ scan.ever) ∧ (last = true → ∀ key ∈ scan.always, key ∈ scan.found ++ page)

/-- Every key that has been returned was there at some time. -/
def Sound (scan : CursorScan κ) : Prop := ∀ key ∈ scan.found, key ∈ scan.ever

theorem sound_start : (start present).Sound := by
  simp [Sound, start]

theorem Sound.watch (sound : scan.Sound) : (scan.watch present).Sound :=
  fun key member => .inl (sound key member)

/-- A page of the promised kind keeps this. -/
theorem Sound.add (sound : scan.Sound) (returns : scan.Returns page last) : (scan.add page).Sound := by
  -- A key was returned before, or is of this page.
  intro key member
  rcases List.mem_append.mp member with before | now
  · exact sound key before
  · exact returns.1 key now

end CursorScan

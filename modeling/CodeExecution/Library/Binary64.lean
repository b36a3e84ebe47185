import Mathlib.Algebra.Order.Group.Nat
import Mathlib.Data.Nat.Log
import Mathlib.Tactic.Ring

/-! Natural numbers as binary64 values: rounding to nearest, with ties to even. -/

namespace Binary64

/-- What a natural number is rounded to. -/
inductive Rounded where
  | finite (value : Nat)
  | infinity
  deriving DecidableEq, Repr

/-- The exponent of the unit in the last place of a number that has more than 53 bits. -/
def exponent (number : Nat) : Nat := number.log2 - 52

/-- The significand of such a number, rounded to nearest and to even where two are nearest. -/
def significand (number : Nat) : Nat :=
  let unit := 2 ^ exponent number
  let rest := number % unit
  if unit < 2 * rest ∨ (2 * rest = unit ∧ number / unit % 2 = 1) then number / unit + 1
  else number / unit

/-- The nearest value, or infinity from half a unit below `2 ^ 1024` on. -/
def round (number : Nat) : Rounded :=
  if number < 2 ^ 53 then .finite number
  else
    let value := significand number * 2 ^ exponent number
    if value < 2 ^ 1024 then .finite value else .infinity

/-- The value is finite and below the bound. -/
def Rounded.Below (bound : Nat) : Rounded → Prop
  | .finite value => value < bound
  | .infinity => False

instance (bound : Nat) (rounded : Rounded) : Decidable (rounded.Below bound) :=
  match rounded with
  | .finite value => inferInstanceAs (Decidable (value < bound))
  | .infinity => inferInstanceAs (Decidable False)

/-- A significand is a quotient or the number after it. -/
theorem significand_cases (number : Nat) :
    significand number = number / 2 ^ exponent number ∨
      significand number = number / 2 ^ exponent number + 1 := by
  -- Rounding keeps the quotient, or adds one to it.
  unfold significand
  dsimp only
  split
  · exact .inr rfl
  · exact .inl rfl

/-- Below a power of two, only the last half unit is rounded up to it. -/
theorem significand_lt_iff {number half : Nat} (size : 2 ^ exponent number = 2 * half)
    (below : number < 2 ^ 53 * (2 * half)) :
    significand number < 2 ^ 53 ↔ number < 2 ^ 53 * (2 * half) - half := by
  have some : 0 < 2 * half := by
    rw [← size]
    exact Nat.two_pow_pos _
  have parts := Nat.div_add_mod number (2 * half)
  have rest := Nat.mod_lt number some
  have quotient : number / (2 * half) < 2 ^ 53 := Nat.div_lt_of_lt_mul (mul_comm (2 ^ 53) _ ▸ below)
  unfold significand
  dsimp only
  rw [size]
  -- Only the greatest quotient, which is odd, can be rounded up to the power of two.
  rcases Nat.lt_or_ge (number / (2 * half)) (2 ^ 53 - 1) with less | greatest
  · have room : 2 * half * (number / (2 * half) + 1) ≤ 2 * half * (2 ^ 53 - 1) :=
      Nat.mul_le_mul_left _ (by omega)
    rw [mul_add] at room
    split <;> omega
  · have odd : number / (2 * half) = 2 ^ 53 - 1 := by omega
    rw [odd] at parts ⊢
    split <;> omega

/-- A number with more than 53 bits lies between two powers of two. -/
theorem exponent_bounds {number : Nat} (large : 2 ^ 53 ≤ number) :
    0 < exponent number ∧ 2 ^ 52 * 2 ^ exponent number ≤ number ∧
      number < 2 ^ 53 * 2 ^ exponent number := by
  -- The exponent leaves 53 bits of the number.
  have some : number ≠ 0 := by omega
  have bits : 53 ≤ number.log2 := (Nat.le_log2 some).mpr large
  refine ⟨by unfold exponent; omega, ?_, ?_⟩
  · rw [← pow_add, show 52 + exponent number = number.log2 by unfold exponent; omega]
    exact Nat.log2_self_le some
  · rw [← pow_add, show 53 + exponent number = number.log2 + 1 by unfold exponent; omega]
    exact Nat.lt_log2_self

/-- The infinite values are the large ones. -/
theorem below_iff {value bound limit : Nat} (small : bound ≤ limit) :
    (if value < limit then Rounded.finite value else .infinity).Below bound ↔ value < bound := by
  split
  · exact Iff.rfl
  · next huge => exact iff_of_false id (by omega)

/-- A number is rounded to a value below a power of two unless it lies in the last half unit. -/
theorem round_below_iff (number : Nat) {power : Nat} (large : 54 ≤ power) (small : power ≤ 1024) :
    (round number).Below (2 ^ power) ↔ number < 2 ^ power - 2 ^ (power - 54) := by
  -- The power is a multiple of the half unit below it.
  obtain ⟨extra, rfl⟩ : ∃ extra, power = 54 + extra := ⟨power - 54, by omega⟩
  have whole : 2 ^ (54 + extra) = 2 ^ 53 * (2 * 2 ^ extra) := by ring
  have half : 0 < 2 ^ extra := Nat.two_pow_pos extra
  rw [show 54 + extra - 54 = extra by omega]
  unfold round
  split
  · next short =>
    simp only [Rounded.Below]
    omega
  · next long =>
    obtain ⟨some, low, high⟩ := exponent_bounds (not_lt.mp long)
    have unit : 0 < 2 ^ exponent number := Nat.two_pow_pos _
    rw [below_iff (Nat.pow_le_pow_right (by decide) small), whole]
    have significandBounds : 2 ^ 52 ≤ number / 2 ^ exponent number ∧
        number / 2 ^ exponent number < 2 ^ 53 :=
      ⟨(Nat.le_div_iff_mul_le unit).mpr low, Nat.div_lt_of_lt_mul (mul_comm (2 ^ 53) _ ▸ high)⟩
    rcases lt_trichotomy (exponent number) (extra + 1) with fewer | same | more
    · -- The value is at most the next smaller power of two.
      have smaller : 2 ^ exponent number ≤ 2 ^ extra := Nat.pow_le_pow_right (by decide) (by omega)
      have value : significand number * 2 ^ exponent number ≤ 2 ^ 53 * 2 ^ extra := by
        refine Nat.mul_le_mul ?_ smaller
        rcases significand_cases number with same | same <;> omega
      omega
    · have size : 2 ^ exponent number = 2 * 2 ^ extra := by rw [same, pow_succ, mul_comm]
      rw [← significand_lt_iff size (size ▸ high), size]
      exact Nat.mul_lt_mul_right (by omega)
    · -- Already the number itself is not below the power of two.
      have larger : 2 ^ (extra + 2) ≤ 2 ^ exponent number := Nat.pow_le_pow_right (by decide) more
      have value : 2 ^ 52 * 2 ^ (extra + 2) ≤ significand number * 2 ^ exponent number := by
        refine Nat.mul_le_mul ?_ larger
        rcases significand_cases number with same | same <;> omega
      have four : 2 ^ (extra + 2) = 4 * 2 ^ extra := by ring
      omega

/-- Finite values have at most 1024 bits, and are at most twice what is rounded to them. -/
theorem round_finite {number value : Nat} (rounds : round number = .finite value) :
    (∀ power, 1024 ≤ power → value < 2 ^ power) ∧ value ≤ 2 * number := by
  have two : 0 < 2 := by decide
  unfold round at rounds
  split at rounds
  · next short =>
    obtain rfl := Rounded.finite.inj rounds
    refine ⟨fun power large => lt_of_lt_of_le short (Nat.pow_le_pow_right two ?_), by omega⟩
    exact le_trans (by decide) large
  · next long =>
    dsimp only at rounds
    split at rounds
    · next below =>
      obtain rfl := Rounded.finite.inj rounds
      -- Rounding up adds one unit, and the number has at least one.
      obtain ⟨-, low, -⟩ := exponent_bounds (not_lt.mp long)
      have unit : 2 ^ exponent number ≤ number := le_trans (Nat.le_mul_of_pos_left _ (by decide)) low
      have quotient := Nat.div_mul_le_self number (2 ^ exponent number)
      have value : significand number * 2 ^ exponent number ≤
          (number / 2 ^ exponent number + 1) * 2 ^ exponent number := by
        refine Nat.mul_le_mul_right _ ?_
        rcases significand_cases number with same | same <;> omega
      rw [add_mul, one_mul] at value
      refine ⟨fun power large => ?_, by omega⟩
      obtain ⟨extra, rfl⟩ := Nat.exists_eq_add_of_le large
      rw [pow_add]
      exact lt_of_lt_of_le below (Nat.le_mul_of_pos_right _ (Nat.two_pow_pos extra))
    · exact absurd rounds nofun

end Binary64

import Mathlib.Data.Nat.Find

/-! Instants since 1970 as ISO texts in UTC, and that different instants have different texts. -/

namespace IsoDate

/-- The days before a year's first one, counted from the beginning of 1970. -/
def dayFromYear (year : Nat) : Nat :=
  365 * (year - 1970) + (year - 1969) / 4 - (year - 1901) / 100 + (year - 1601) / 400

/-- The year that a day belongs to: the last one that has begun. -/
def yearOf (day : Nat) : Nat :=
  1970 + Nat.findGreatest (fun years => dayFromYear (1970 + years) ≤ day) (day / 365)

/-- The leap years of the Gregorian calendar. -/
def isLeap (year : Nat) : Bool := year % 4 = 0 ∧ (year % 100 ≠ 0 ∨ year % 400 = 0)

/-- The days of a year before a month, where months are counted from zero. -/
def dayFromMonth (leap : Bool) (month : Nat) : Nat :=
  [0, 31, 59, 90, 120, 151, 181, 212, 243, 273, 304, 334].getD month 0 +
    if leap ∧ 2 ≤ month then 1 else 0

/-- The month that a day of a year belongs to. -/
def monthOf (leap : Bool) (dayInYear : Nat) : Nat :=
  Nat.findGreatest (fun month => dayFromMonth leap month ≤ dayInYear) 11

/-- A number in decimal, filled up with zeros. -/
def padded (width number : Nat) : List Char :=
  List.replicate (width - (Nat.toDigits 10 number).length) '0' ++ Nat.toDigits 10 number

/-- A year beyond four digits has six and a sign. -/
def yearText (year : Nat) : List Char :=
  if year ≤ 9999 then padded 4 year else '+' :: padded 6 year

/-- The date of a day. -/
def dateText (day : Nat) : List Char :=
  let year := yearOf day
  let dayInYear := day - dayFromYear year
  let month := monthOf (isLeap year) dayInYear
  yearText year ++ '-' :: (padded 2 (month + 1) ++
    '-' :: padded 2 (dayInYear - dayFromMonth (isLeap year) month + 1))

/-- The time of a day, in milliseconds. -/
def timeText (milliseconds : Nat) : List Char :=
  padded 2 (milliseconds / 3600000) ++ ':' :: (padded 2 (milliseconds / 60000 % 60) ++
    ':' :: (padded 2 (milliseconds / 1000 % 60) ++ '.' :: (padded 3 (milliseconds % 1000) ++ ['Z'])))

/-- `Date.prototype.toISOString`. -/
def toISOString (instant : Nat) : List Char :=
  dateText (instant / 86400000) ++ 'T' :: timeText (instant % 86400000)

example : toISOString 1709251199999 = "2024-02-29T23:59:59.999Z".toList := by decide

/-! ## Different instants have different texts -/

/-- A filled up number has digits only. -/
theorem isDigit_of_mem_padded {width number : Nat} {digit : Char} (member : digit ∈ padded width number) :
    digit.isDigit = true := by
  rcases List.mem_append.mp member with zero | own
  · rw [List.eq_of_mem_replicate zero]
    decide
  · exact Nat.isDigit_of_mem_toDigits (by decide) (by decide) own

/-- Leading zeros do not change a number. -/
theorem ofDigitChars_padded (width number : Nat) :
    Nat.ofDigitChars 10 (padded width number) 0 = number := by
  unfold padded
  generalize width - (Nat.toDigits 10 number).length = zeros
  -- The induction is on the zeros.
  induction zeros with
  | zero => exact Nat.ofDigitChars_ten_toDigits
  | succ zeros ih =>
    rw [List.replicate_succ, List.cons_append, Nat.ofDigitChars_cons]
    exact ih

/-- Filled up numbers are told apart, whatever follows the digits. -/
theorem padded_append_inj {width width' number number' : Nat} {separator : Char} {rest rest' : List Char}
    (separates : separator.isDigit = false)
    (same : padded width number ++ separator :: rest = padded width' number' ++ separator :: rest') :
    number = number' ∧ rest = rest' := by
  -- The digits are those in front of the first other character.
  have digits : ∀ width number rest, (padded width number ++ separator :: rest).takeWhile Char.isDigit =
      padded width number := by
    intro width number rest
    rw [List.takeWhile_append_of_pos fun _ => isDigit_of_mem_padded, List.takeWhile_cons,
      if_neg (by simp [separates]), List.append_nil]
  have front := congrArg (List.takeWhile Char.isDigit) same
  rw [digits, digits] at front
  rw [front] at same
  refine ⟨?_, (List.cons.inj (List.append_cancel_left same)).2⟩
  rw [← ofDigitChars_padded width number, front, ofDigitChars_padded]

/-- Years are told apart, whatever follows behind a hyphen. -/
theorem yearText_append_inj {year year' : Nat} {rest rest' : List Char}
    (same : yearText year ++ '-' :: rest = yearText year' ++ '-' :: rest') :
    year = year' ∧ rest = rest' := by
  -- A number does not begin with a sign.
  have unsigned : ∀ number later signed, padded 4 number ++ '-' :: later ≠ '+' :: signed := by
    intro number later signed equal
    cases digits : padded 4 number with
    | nil => simp [digits] at equal
    | cons first others =>
      have digit := isDigit_of_mem_padded (digits ▸ List.mem_cons_self : first ∈ padded 4 number)
      rw [digits] at equal
      rw [(List.cons.inj equal).1] at digit
      exact absurd digit (by decide)
  unfold yearText at same
  split at same <;> split at same
  · exact padded_append_inj (by decide) same
  · exact absurd same (unsigned _ _ _)
  · exact absurd same.symm (unsigned _ _ _)
  · exact padded_append_inj (by decide) (List.cons.inj same).2

/-- A year has begun on each of its days. -/
theorem dayFromYear_yearOf (day : Nat) : dayFromYear (yearOf day) ≤ day := by
  have first : dayFromYear (1970 + 0) ≤ day := Nat.zero_le _
  exact Nat.findGreatest_spec (P := fun years => dayFromYear (1970 + years) ≤ day) (Nat.zero_le _) first

/-- A month has begun on each of its days. -/
theorem dayFromMonth_monthOf (leap : Bool) (dayInYear : Nat) :
    dayFromMonth leap (monthOf leap dayInYear) ≤ dayInYear := by
  have first : dayFromMonth leap 0 ≤ dayInYear := by simp [dayFromMonth]
  exact Nat.findGreatest_spec (P := fun month => dayFromMonth leap month ≤ dayInYear)
    (Nat.zero_le _) first

/-- Days are told apart by their dates. -/
theorem dateText_append_inj {day day' : Nat} {rest rest' : List Char}
    (same : dateText day ++ 'T' :: rest = dateText day' ++ 'T' :: rest') : day = day' ∧ rest = rest' := by
  unfold dateText at same
  simp only [List.append_assoc, List.cons_append] at same
  obtain ⟨year, same⟩ := yearText_append_inj same
  obtain ⟨month, same⟩ := padded_append_inj (by decide) same
  obtain ⟨date, same⟩ := padded_append_inj (by decide) same
  -- Year, month and date add up to the day.
  have begun := dayFromYear_yearOf day
  have begun' := dayFromYear_yearOf day'
  have within := dayFromMonth_monthOf (isLeap (yearOf day)) (day - dayFromYear (yearOf day))
  have within' := dayFromMonth_monthOf (isLeap (yearOf day')) (day' - dayFromYear (yearOf day'))
  rw [← year] at begun' within' month date
  rw [Nat.add_right_cancel month] at date within
  exact ⟨by omega, same⟩

/-- Times of a day are told apart. -/
theorem timeText_injective : Function.Injective timeText := by
  intro first second same
  unfold timeText at same
  obtain ⟨hours, same⟩ := padded_append_inj (by decide) same
  obtain ⟨minutes, same⟩ := padded_append_inj (by decide) same
  obtain ⟨seconds, same⟩ := padded_append_inj (by decide) same
  obtain ⟨milliseconds, _⟩ := padded_append_inj (by decide) same
  omega

/-- Instants are told apart by their texts. -/
theorem toISOString_injective : Function.Injective toISOString := by
  intro first second same
  obtain ⟨days, times⟩ := dateText_append_inj same
  have clocks := timeText_injective times
  omega

end IsoDate

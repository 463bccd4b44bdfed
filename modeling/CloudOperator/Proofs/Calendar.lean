import CloudOperator.Time.Calendar

/-!
# Dates and their numbers

The date of a day number exists (`Date.isValid_ofNumber`), and its number is the given one
(`Date.number_ofNumber`).  Both are read off the two steps by which a date is found: the year
of a day and the index of the day in it (`Date.splitYears_spec`), and the month of that index
and the index in the month (`Date.splitMonths_spec`).
-/

namespace CloudOperator

namespace Date

/-- The days of a year. -/
def daysOfYear (leap : Bool) : Nat :=
  if leap then 366 else 365

theorem sum_monthLengths (leap : Bool) :
  (monthLengths leap).foldr (· + ·) 0 = daysOfYear leap
  := by
  cases leap <;> rfl

theorem length_monthLengths (leap : Bool) :
  (monthLengths leap).length = 12
  := by
  cases leap <;> rfl

/-- The days before the month and the index in the month make up the index in the year, and
the month holds that day. -/
theorem splitMonths_spec {lengths : List Nat} {n : Nat} (inYear : n < lengths.foldr (· + ·) 0) :
  (lengths.take (splitMonths lengths n).1).foldr (· + ·) 0 + (splitMonths lengths n).2 = n ∧
    (splitMonths lengths n).1 < lengths.length ∧
    (splitMonths lengths n).2 < lengths.getD (splitMonths lengths n).1 0
  := by
  induction lengths generalizing n with
  | nil => cases inYear
  | cons length lengths ih =>
    rw [splitMonths]
    split
    · simpa
    · rw [List.foldr_cons] at inYear
      have rest : n - length < lengths.foldr (· + ·) 0 := by omega
      obtain ⟨sum, month, day⟩ := ih rest
      simp only [List.take_succ_cons, List.foldr_cons, List.length_cons, List.getD_cons_succ]
      omega

/-- A day is found in an era, a century, a group of four years and a year; only the last
year of a group has a 366th day, and that of the last group only in the last century. -/
theorem splitYears_cases (n : Int) :
  ∃ (era : Int) (century group year day : Nat),
    splitYears n = (400 * era + (100 * century + 4 * group + year : Nat) + 1, day) ∧
      n = 146097 * era + (36524 * century + 1461 * group + 365 * year + day : Nat) ∧
      century ≤ 3 ∧ group ≤ 24 ∧ year ≤ 3 ∧ day ≤ 365 ∧
      (day = 365 → year = 3 ∧ (group = 24 → century = 3))
  := by
  refine ⟨_, _, _, _, _, rfl, ?_⟩
  have inEra : (n % 146097).toNat < 146097 := by omega
  have split : n = 146097 * (n / 146097) + (n % 146097).toNat := by omega
  generalize (n % 146097).toNat = day at *
  omega

theorem isLeapYear_iff (era : Int) {century group year : Nat} (centuries : century ≤ 3)
    (groups : group ≤ 24) (years : year ≤ 3) :
  isLeapYear (400 * era + (100 * century + 4 * group + year : Nat) + 1) ↔
    year = 3 ∧ (group = 24 → century = 3)
  := by
  simp only [isLeapYear, Bool.and_eq_true, Bool.or_eq_true, decide_eq_true_eq]
  omega

theorem daysBeforeYear_eq (era : Int) {century group year : Nat} (centuries : century ≤ 3)
    (groups : group ≤ 24) (years : year ≤ 3) :
  daysBeforeYear (400 * era + (100 * century + 4 * group + year : Nat) + 1) =
    146097 * era + (36524 * century + 1461 * group + 365 * year : Nat)
  := by
  rw [daysBeforeYear]
  omega

/-- The days before the year and the index in the year make up the number of a day, counted
from the first day of the year 1, and the year holds that day. -/
theorem splitYears_spec (n : Int) :
  daysBeforeYear (splitYears n).1 + (splitYears n).2 = n ∧
    (splitYears n).2 < daysOfYear (isLeapYear (splitYears n).1)
  := by
  obtain ⟨era, century, group, year, day, same, number, centuries, groups, years, days, last⟩ :=
    splitYears_cases n
  rw [same]
  constructor
  · rw [daysBeforeYear_eq era centuries groups years]
    omega
  · rw [daysOfYear]
    split
    · omega
    · have common := mt (isLeapYear_iff era centuries groups years).mpr ‹_›
      have short : day ≠ 365 := fun full => common (last full)
      omega

/-- The month and the index in it of a day of a year. -/
theorem ofNumber_spec (n : Int) :
  ∃ month day,
    ofNumber n = ⟨(splitYears (n - yearOne)).1, month + 1, day + 1⟩ ∧
      ((monthLengths (isLeapYear (splitYears (n - yearOne)).1)).take month).foldr (· + ·) 0 + day
        = (splitYears (n - yearOne)).2 ∧
      month < 12 ∧
      day < (monthLengths (isLeapYear (splitYears (n - yearOne)).1)).getD month 0
  := by
  obtain ⟨-, inYear⟩ := splitYears_spec (n - yearOne)
  rw [← sum_monthLengths] at inYear
  obtain ⟨sum, month, day⟩ := splitMonths_spec inYear
  rw [length_monthLengths] at month
  exact ⟨_, _, by rw [ofNumber], sum, month, day⟩

/-- The date of a number exists. -/
theorem isValid_ofNumber (n : Int) :
  (ofNumber n).IsValid
  := by
  obtain ⟨month, day, same, -, -, inMonth⟩ := ofNumber_spec n
  rw [same]
  exact ⟨Nat.le_add_left 1 month, Nat.le_add_left 1 day, inMonth⟩

/-- The number of the date of a number is that number. -/
theorem number_ofNumber (n : Int) :
  (ofNumber n).number = n
  := by
  obtain ⟨month, day, same, inYear, -, -⟩ := ofNumber_spec n
  obtain ⟨days, -⟩ := splitYears_spec (n - yearOne)
  rw [same, number, daysBeforeMonth]
  simp only [Nat.add_sub_cancel]
  omega

/-- The year of a day bounds its number. -/
theorem year_ofNumber (n : Int) :
  daysBeforeYear (ofNumber n).year ≤ n - yearOne ∧
    n - yearOne < daysBeforeYear (ofNumber n).year + 366
  := by
  obtain ⟨days, inYear⟩ := splitYears_spec (n - yearOne)
  obtain ⟨month, day, same, -⟩ := ofNumber_spec n
  simp only [same]
  rw [daysOfYear] at inYear
  split at inYear
  · omega
  · omega

theorem month_ofNumber (n : Int) :
  (ofNumber n).month ≤ 12
  := by
  obtain ⟨month, day, same, -, inYear, -⟩ := ofNumber_spec n
  rw [same]
  exact inYear

theorem day_ofNumber (n : Int) :
  (ofNumber n).day ≤ 31
  := by
  obtain ⟨month, day, same, -, inYear, inMonth⟩ := ofNumber_spec n
  have longest : ∀ leap, ∀ month < 12, (monthLengths leap).getD month 0 ≤ 31 := by
    decide
  rw [same]
  exact Nat.lt_of_lt_of_le inMonth (longest _ month inYear)

end Date

end CloudOperator

/-!
# The Gregorian calendar

Dates of the proleptic Gregorian calendar and the numbers of their days, counted
from 1 January 1970.  `Date.number` numbers a date and `Date.ofNumber` finds the
date of a number.
-/

namespace CloudOperator

/-- A date, given by its year, its month from 1 to 12 and its day from 1. -/
structure Date where
  year : Int
  month : Nat
  day : Nat
deriving DecidableEq, Repr

namespace Date

/-- Whether the year has a 29 February. -/
def isLeapYear (year : Int) : Bool :=
  year % 4 = 0 && (year % 100 ≠ 0 || year % 400 = 0)

/-- The lengths of the months of a year. -/
def monthLengths (leap : Bool) : List Nat :=
  [31, if leap then 29 else 28, 31, 30, 31, 30, 31, 31, 30, 31, 30, 31]

/-- Whether the month and the day exist in the year. -/
def IsValid (d : Date) : Prop :=
  1 ≤ d.month ∧ 1 ≤ d.day ∧
    d.day ≤ (monthLengths (isLeapYear d.year)).getD (d.month - 1) 0

instance (d : Date) : Decidable d.IsValid :=
  inferInstanceAs (Decidable (_ ∧ _))

/-- Whether the year lies in the calendar, which ends on both sides. -/
def IsInCalendar (d : Date) : Prop :=
  -262143 ≤ d.year ∧ d.year ≤ 262142

instance (d : Date) : Decidable d.IsInCalendar :=
  inferInstanceAs (Decidable (_ ∧ _))

/-- The number of 1 January of the year 1. -/
abbrev yearOne : Int := -719162

/-- The days from 1 January of the year 1 to 1 January of `year`. -/
def daysBeforeYear (year : Int) : Int :=
  365 * (year - 1) + (year - 1) / 4 - (year - 1) / 100 + (year - 1) / 400

/-- The days from the beginning of a year to the beginning of a month. -/
def daysBeforeMonth (leap : Bool) (month : Nat) : Nat :=
  ((monthLengths leap).take (month - 1)).foldr (· + ·) 0

/-- The number of the day. -/
def number (d : Date) : Int :=
  yearOne + daysBeforeYear d.year + daysBeforeMonth (isLeapYear d.year) d.month
    + (d.day - 1 : Nat)

/-- The index of the month and the index of the day in it that a day of the year
falls on, for the given lengths of the months. -/
def splitMonths : List Nat → Nat → Nat × Nat
  | [], n => (0, n)
  | length :: lengths, n =>
    if n < length then (0, n)
    else
      let (month, day) := splitMonths lengths (n - length)
      (month + 1, day)

/-- The year of a day counted from 1 January of the year 1, and the index of the
day in that year.  Four centuries have 146097 days, a century 36524 and four years
1461; the last century and the last year of a group may be a day longer. -/
def splitYears (n : Int) : Int × Nat :=
  let inEra := (n % 146097).toNat
  let century := min 3 (inEra / 36524)
  let inCentury := inEra - 36524 * century
  let group := inCentury / 1461
  let inGroup := inCentury - 1461 * group
  let year := min 3 (inGroup / 365)
  (400 * (n / 146097) + (100 * century + 4 * group + year : Nat) + 1, inGroup - 365 * year)

/-- The date of a day number. -/
def ofNumber (n : Int) : Date :=
  let (year, dayOfYear) := splitYears (n - yearOne)
  let (month, day) := splitMonths (monthLengths (isLeapYear year)) dayOfYear
  ⟨year, month + 1, day + 1⟩

end Date

end CloudOperator

/-! # Calendar dates

Dates of the Gregorian calendar, carried back to year 0.  A date is known by the
number of days from 0000-01-01 to it.
-/
namespace ProcWire

/-- A year is a leap year if four divides it, but of the centuries only every fourth. -/
def isLeapYear (year : Nat) : Bool := year % 4 = 0 && (year % 100 ≠ 0 || year % 400 = 0)

/-- The lengths of the months of a year. -/
def monthLengths (year : Nat) : List Nat :=
  [31, if isLeapYear year then 29 else 28, 31, 30, 31, 30, 31, 31, 30, 31, 30, 31]

/-- A year, a month and a day, none of them checked. -/
structure Date where
  year : Nat
  month : Nat
  day : Nat
  deriving DecidableEq, Repr

namespace Date

/-- Whether the calendar has the date. -/
def isValid (date : Date) : Bool :=
  1 ≤ date.month && date.month ≤ 12 && 1 ≤ date.day &&
    date.day ≤ (monthLengths date.year).getD (date.month - 1) 0

/-- The days from 0000-01-01 to the first day of a year: 365 for each year between and one more
for each leap year among them. -/
def daysBeforeYear (year : Nat) : Nat :=
  365 * year + (year + 3) / 4 + (year + 399) / 400 - (year + 99) / 100

/-- The days from the first day of a year to the first day of a month. -/
def daysBeforeMonth (year month : Nat) : Nat := 
  ((monthLengths year).take (month - 1)).foldl (· + ·) 0

/-- The days from 1970-01-01 to a date, negative for dates before it. -/
def daysSinceEpoch (date : Date) : Int :=
  (daysBeforeYear date.year + daysBeforeMonth date.year date.month + (date.day - 1) : Nat) -
    (daysBeforeYear 1970 : Nat)

/-- Each year is as long as its months together. -/
theorem daysBeforeYear_succ (year : Nat) :
    daysBeforeYear (year + 1) = daysBeforeYear year + daysBeforeMonth year 13 := by
  have fours : (year + 1 + 3) / 4 = (year + 3) / 4 + if year % 4 = 0 then 1 else 0 := by
    split <;> omega
  have hundreds : (year + 1 + 99) / 100 = (year + 99) / 100 + if year % 100 = 0 then 1 else 0 := by
    split <;> omega
  have fourHundreds :
      (year + 1 + 399) / 400 = (year + 399) / 400 + if year % 400 = 0 then 1 else 0 := by
    split <;> omega
  have ample : (year + 99) / 100 ≤ year + 1 := by omega
  have leap : isLeapYear year =
      decide (year % 4 = 0 ∧ (¬ year % 100 = 0 ∨ year % 400 = 0)) := by
    simp [isLeapYear]
  have multiples : (year % 400 = 0 → year % 100 = 0) ∧ (year % 100 = 0 → year % 4 = 0) := by
    omega
  simp only [daysBeforeYear, daysBeforeMonth, monthLengths, leap, fours, hundreds, fourHundreds,
    decide_eq_true_eq, List.take, List.foldl]
  generalize (year + 3) / 4 = a, (year + 99) / 100 = b, (year + 399) / 400 = c at *
  by_cases h4 : year % 4 = 0 <;> by_cases h100 : year % 100 = 0 <;>
    by_cases h400 : year % 400 = 0 <;> simp_all <;> omega

end Date

end ProcWire

/-!
# The Gregorian calendar

Dates of the Gregorian calendar, extended over all years, and their day numbers, counted from
1 January 1970.  `Date.toDay` adds up the years, months and days before a date; `Date.ofDay`
goes back: the year is at most one off the quotient by the mean length of a year, and the months
are then tried from the last.
-/

namespace TrackerBoard

/-- Every fourth year is a leap year, but of the full centuries only every fourth. -/
def isLeapYear (year : Int) : Bool :=
  year % 4 = 0 ∧ (year % 100 ≠ 0 ∨ year % 400 = 0)

/-- The number of days of a month. -/
def monthLength (year : Int) : Nat → Nat
  | 2 => if isLeapYear year then 29 else 28
  | 4 | 6 | 9 | 11 => 30
  | _ => 31

/-- The days of a year before a month. -/
def daysBeforeMonth (year : Int) : Nat → Nat
  | 0 => 0
  | 1 => 0
  | month + 2 => daysBeforeMonth year (month + 1) + monthLength year (month + 1)

/-- The days from the first day of year 0 to that of `year`: 365 a year, and the leap days. -/
def daysBeforeYear (year : Int) : Int :=
  365 * year + (year + 3) / 4 - (year + 99) / 100 + (year + 399) / 400

/-- The days from the first day of year 0 to 1 January 1970. -/
def epochDay : Int := 719528

/-- A date. -/
structure Date where
  year : Int
  month : Nat
  day : Nat
deriving DecidableEq, Repr

namespace Date

/-- Whether the calendar has the date. -/
def isValid (d : Date) : Bool :=
  1 ≤ d.month ∧ d.month ≤ 12 ∧ 1 ≤ d.day ∧ d.day ≤ monthLength d.year d.month

/-- The days from 1 January 1970 to a date. -/
def toDay (d : Date) : Int :=
  daysBeforeYear d.year + daysBeforeMonth d.year d.month + d.day - 1 - epochDay

/-- The year that holds a day, counted from the first day of year 0. -/
def yearOfDay (day : Int) : Int :=
  let year := day * 400 / 146097
  if day < daysBeforeYear year then year - 1
  else if daysBeforeYear (year + 1) ≤ day then year + 1
  else year

/-- The month, not after the given one, that holds a day of a year, and the day of the month. -/
def monthOfDay (year : Int) (day : Nat) : Nat → Nat × Nat
  | 0 => (1, day + 1)
  | month + 1 =>
    if daysBeforeMonth year (month + 1) ≤ day then
      (month + 1, day - daysBeforeMonth year (month + 1) + 1)
    else monthOfDay year day month

/-- The date of a day, counted from 1 January 1970. -/
def ofDay (day : Int) : Date :=
  let year := yearOfDay (day + epochDay)
  let (month, day) := monthOfDay year (day + epochDay - daysBeforeYear year).toNat 12
  ⟨year, month, day⟩

end Date

end TrackerBoard

/-!
# The calendar

Dates of the Gregorian calendar, extended in both directions, and their day
numbers. Day zero is the first of January 1970. Years are counted from March, so
that the leap day is the last of its year, in cycles of 400 years.
-/

namespace ProcessEngine

/-- A date of the Gregorian calendar; the year before year 1 is year 0. -/
structure CalendarDate where
  year : Int
  month : Nat
  day : Nat
deriving DecidableEq, Repr

namespace CalendarDate

/-- Whether a year has a 29th of February. -/
def isLeapYear (year : Int) : Bool :=
  year.emod 4 == 0 && (year.emod 100 != 0 || year.emod 400 == 0)

/-- The number of days of a month. -/
def daysInMonth (year : Int) (month : Nat) : Nat :=
  if month = 2 then if isLeapYear year then 29 else 28
  else if month = 4 ∨ month = 6 ∨ month = 9 ∨ month = 11 then 30
  else 31

/-- Whether the month and the day exist. -/
def exists? (date : CalendarDate) : Bool :=
  1 <= date.month && date.month <= 12 && 1 <= date.day &&
    date.day <= daysInMonth date.year date.month

/-- The number of days from the first of January 1970 to a date. -/
def dayNumber (date : CalendarDate) : Int :=
  let year := if date.month ≤ 2 then date.year - 1 else date.year
  let cycle := year.fdiv 400
  let yearOfCycle := (year - cycle * 400).toNat
  let monthFromMarch := (date.month + 9) % 12
  let dayOfYear := (153 * monthFromMarch + 2) / 5 + date.day - 1
  let dayOfCycle := yearOfCycle * 365 + yearOfCycle / 4 - yearOfCycle / 100 + dayOfYear
  cycle * 146097 + dayOfCycle - 719468

/-- The date with a given day number. -/
def ofDayNumber (number : Int) : CalendarDate :=
  let shifted := number + 719468
  let cycle := shifted.fdiv 146097
  let dayOfCycle := (shifted - cycle * 146097).toNat
  let yearOfCycle :=
    (dayOfCycle - dayOfCycle / 1460 + dayOfCycle / 36524 - dayOfCycle / 146096) / 365
  let dayOfYear := dayOfCycle - (365 * yearOfCycle + yearOfCycle / 4 - yearOfCycle / 100)
  let monthFromMarch := (5 * dayOfYear + 2) / 153
  let day := dayOfYear - (153 * monthFromMarch + 2) / 5 + 1
  let month := if monthFromMarch < 10 then monthFromMarch + 3 else monthFromMarch - 9
  let year := cycle * 400 + yearOfCycle
  ⟨if month ≤ 2 then year + 1 else year, month, day⟩

end CalendarDate

end ProcessEngine

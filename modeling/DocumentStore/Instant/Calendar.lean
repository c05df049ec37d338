/-!
This file converts between the dates of the Gregorian calendar and day numbers.

The calendar extends to all years, and day zero is the first of January 1970.
-/

namespace DocumentStore

structure CalendarDate where
  year : Int
  month : Nat
  day : Nat
  deriving DecidableEq

namespace CalendarDate

def isLeapYear (year : Int) : Bool :=
  year % 4 = 0 && (year % 100 != 0 || year % 400 = 0)

def monthLengths (year : Int) : List Nat :=
  [31, if isLeapYear year then 29 else 28, 31, 30, 31, 30, 31, 31, 30, 31, 30, 31]

def monthLength (year : Int) (month : Nat) : Nat :=
  (monthLengths year).getD (month - 1) 0

/-- A date is valid when the calendar has it. -/
def Valid (date : CalendarDate) : Prop :=
  1 ≤ date.month ∧ date.month ≤ 12 ∧ 1 ≤ date.day ∧ date.day ≤ monthLength date.year date.month

instance (date : CalendarDate) : Decidable date.Valid :=
  inferInstanceAs (Decidable (_ ∧ _))

/-- This is the day number of the first of January. -/
def yearStart (year : Int) : Int :=
  let past := year - 1
  365 * past + past / 4 - past / 100 + past / 400 - 719162

/-- This counts the days in the first months of a year. -/
def daysBefore : List Nat → Nat → Nat
  | [], _ => 0
  | _ :: _, 0 => 0
  | length :: rest, months + 1 => length + daysBefore rest months

def dayNumber (date : CalendarDate) : Int :=
  yearStart date.year + Int.ofNat (daysBefore (monthLengths date.year) (date.month - 1)) +
    Int.ofNat date.day - 1

/-- The years repeat after four centuries, and the last year of a period may be a leap year. -/
def yearOfDay (day : Int) : Int :=
  let sinceYearOne := day + 719162
  let inPeriod := sinceYearOne % 146097
  let century := min (inPeriod / 36524) 3
  let inCentury := inPeriod - 36524 * century
  let inFourYears := inCentury % 1461
  400 * (sinceYearOne / 146097) + 100 * century + 4 * (inCentury / 1461) +
    min (inFourYears / 365) 3 + 1

/-- This splits a day of the year, and both results count from zero. -/
def splitDay : List Nat → Nat → Nat × Nat
  | [], day => (0, day)
  | length :: rest, day =>
    if day < length then (0, day)
    else
      let (month, inMonth) := splitDay rest (day - length)
      (month + 1, inMonth)

def ofDayNumber (day : Int) : CalendarDate :=
  let year := yearOfDay day
  let (month, inMonth) := splitDay (monthLengths year) (day - yearStart year).toNat
  { year, month := month + 1, day := inMonth + 1 }

end CalendarDate

end DocumentStore

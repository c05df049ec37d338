import DocumentStore.Instant.Basic

/-!
This file writes instants as text, in three forms.

The wire form and the literal form end at the limits of the calendar. The display form ends at years
of four digits.
-/

namespace DocumentStore

/-- This writes a number with zeros in front. -/
def padded (width value : Nat) : List Char :=
  (Nat.toDigits 10 value).leftpad width '0'

namespace CalendarDate

/-- A year that does not have four digits carries a sign. -/
def signedYear (year : Int) : List Char :=
  if year < 0 then '-' :: padded 4 year.natAbs
  else if 9999 < year then '+' :: padded 4 year.natAbs
  else padded 4 year.natAbs

def text (date : CalendarDate) : List Char :=
  signedYear date.year ++ '-' :: padded 2 date.month ++ '-' :: padded 2 date.day

end CalendarDate

namespace Instant

/-- The calendar covers these years. -/
def inCalendar (instant : Instant) : Bool :=
  -262143 ≤ instant.date.year && instant.date.year ≤ 262142

def clock (instant : Instant) : List Char :=
  padded 2 instant.hour ++ ':' :: padded 2 instant.minute ++ ':' :: padded 2 instant.second ++
    '.' :: padded 3 instant.millisecond

/-- This is the wire form, which leaves the offset out because it is always zero. -/
def wire (instant : Instant) : List Char :=
  if instant.inCalendar then instant.date.text ++ 'T' :: instant.clock
  else (toString instant.milliseconds.toInt).toList

/-- This is the literal form, which has a blank between date and time. -/
def literal? (instant : Instant) : Option (List Char) :=
  if instant.inCalendar then some (instant.date.text ++ ' ' :: instant.clock) else none

/-- A fraction of a second has at least one digit and no superfluous zeros. -/
def fraction (instant : Instant) : List Char :=
  match (padded 3 instant.millisecond).reverse.dropWhile (· = '0') with
  | [] => ['0']
  | digits => digits.reverse

def displayYear (year : Int) : List Char :=
  if year < 0 then '-' :: padded 4 year.natAbs else padded 4 year.natAbs

/-- This is the display form, which names the offset. -/
def display (instant : Instant) : List Char :=
  if instant.date.year.natAbs ≤ 9999 then
    displayYear instant.date.year ++ '-' :: padded 2 instant.date.month ++
      '-' :: padded 2 instant.date.day ++ ' ' :: Nat.toDigits 10 instant.hour ++
      ':' :: padded 2 instant.minute ++ ':' :: padded 2 instant.second ++
      '.' :: instant.fraction ++ " +00:00:00".toList
  else (toString instant.milliseconds.toInt).toList

end Instant

end DocumentStore

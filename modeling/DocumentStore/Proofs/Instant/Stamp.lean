import DocumentStore.Proofs.Instant.Calendar
import DocumentStore.Proofs.Instant.Shape

/-!
This file defines the ISO form of a date-time on its own. A stamp is the written form of a date-time
in a zone, and its date-time is read from its text.
-/

namespace DocumentStore.IsoText

/-- A shift from universal time is shorter than a day. -/
structure Shift where
  hours : Nat
  colons : Nat
  minutes : Nat
  minutes_le : minutes ≤ 59
  inside : 60 * hours + minutes < 1440

/-- A shift is written as hours, colons and minutes. -/
def Shift.text (shift : Shift) : List Char :=
  padded 2 shift.hours ++ (List.replicate shift.colons ':' ++ padded 2 shift.minutes)

/-- This is the shift in minutes. -/
def Shift.total (shift : Shift) : Nat :=
  60 * shift.hours + shift.minutes

/-- A zone that is not named is universal time too. -/
inductive Zone where
  | unnamed
  | universal
  | east (shift : Shift)
  | west (shift : Shift)

namespace Zone

/-- A zone is written with a letter or with a sign. -/
def text : Zone → List Char
  | unnamed => []
  | universal => ['Z']
  | east shift => '+' :: shift.text
  | west shift => '-' :: shift.text

/-- This is the offset from universal time in minutes. -/
def offset : Zone → Int
  | unnamed => 0
  | universal => 0
  | east shift => shift.total
  | west shift => -shift.total

end Zone

/-- A stamp has a year of four digits, a date of the calendar, a time of day and a fraction of a
second. -/
structure Stamp where
  date : CalendarDate
  year_nonneg : 0 ≤ date.year
  year_le : date.year ≤ 9999
  inCalendar : date.Valid
  hour : Nat
  hour_le : hour ≤ 23
  minute : Nat
  minute_le : minute ≤ 59
  second : Nat
  second_le : second ≤ 60
  fraction : List Char
  fraction_ne_nil : fraction ≠ []
  fraction_digits : ∀ char ∈ fraction, char.isDigit = true
  zone : Zone

/-- A date is written with four digits for the year. -/
def dateText (date : CalendarDate) : List Char :=
  padded 4 date.year.toNat ++ '-' :: (padded 2 date.month ++ '-' :: padded 2 date.day)

namespace Stamp

/-- A stamp is written as date, time and zone. -/
def text (stamp : Stamp) : List Char :=
  dateText stamp.date ++ 'T' :: (padded 2 stamp.hour ++ ':' :: (padded 2 stamp.minute ++
    ':' :: (padded 2 stamp.second ++ '.' :: (stamp.fraction ++ stamp.zone.text))))

/-- These are the milliseconds of universal time since the start of 1970. The second sixty follows
the second fifty-nine, and the fraction is cut off after three digits. -/
def milliseconds (stamp : Stamp) : Int :=
  stamp.date.dayNumber * 86400000 +
    (stamp.hour * 3600000 + stamp.minute * 60000 + stamp.second * 1000 +
      fractionMilliseconds stamp.fraction : Nat) - stamp.zone.offset * 60000

/-- This is the date-time that is read before the zone. -/
def dateTime (stamp : Stamp) : DateTime where
  date := stamp.date
  hour := stamp.hour
  minute := stamp.minute
  second := stamp.second
  millisecond := fractionMilliseconds stamp.fraction

end Stamp

/-- A zone does not start with a digit, so the fraction ends before it. -/
theorem Zone.stopsDigits_text (zone : Zone) : StopsDigits zone.text := by
  intro char first
  cases zone <;> cases first <;> rfl

/-- A written date is read back. -/
theorem takeDate_dateText {date : CalendarDate} (nonneg : 0 ≤ date.year)
    (yearSmall : date.year.toNat < 10 ^ 4) (monthSmall : date.month < 10 ^ 2)
    (daySmall : date.day < 10 ^ 2) (rest : List Char) :
    takeDate (dateText date ++ rest) = some (date, rest) := by
  have takeYear := takeNumber_padded (by decide : 0 < 4) yearSmall
  have takeMonth := takeNumber_padded (by decide : 0 < 2) monthSmall
  have takeDay := takeNumber_padded (by decide : 0 < 2) daySmall
  have year : (date.year.toNat : Int) = date.year := Int.toNat_of_nonneg nonneg
  simp [dateText, takeDate, takeYear, dropChar_self, takeMonth, takeDay, year]

/-- Only written dates are read. -/
theorem eq_dateText_of_takeDate {text rest : List Char} {date : CalendarDate}
    (taken : takeDate text = some (date, rest)) :
    0 ≤ date.year ∧ date.year ≤ 9999 ∧ text = dateText date ++ rest := by
  simp only [takeDate, Option.bind_eq_bind, Option.bind_eq_some_iff, Prod.exists,
    takeNumber_eq_some_iff (by decide : 0 < 4), takeNumber_eq_some_iff (by decide : 0 < 2),
    dropChar_eq_some_iff] at taken
  obtain ⟨year, _, ⟨yearSmall, rfl⟩, _, rfl, month, _, ⟨-, rfl⟩, _, rfl, day, _, ⟨-, rfl⟩,
    same⟩ := taken
  cases same
  refine ⟨Int.natCast_nonneg year, Int.ofNat_le.mpr (Nat.le_of_lt_succ yearSmall), ?_⟩
  simp [dateText]

namespace Stamp

/-- The parts of a stamp are on the calendar and on the clock. -/
theorem valid_dateTime (stamp : Stamp) : stamp.dateTime.Valid :=
  ⟨stamp.inCalendar, stamp.hour_le, stamp.minute_le, stamp.second_le⟩

/-- All numbers fit into their widths. -/
theorem small (stamp : Stamp) : stamp.date.year.toNat < 10 ^ 4 ∧ stamp.date.month < 10 ^ 2 ∧
    stamp.date.day < 10 ^ 2 ∧ stamp.hour < 10 ^ 2 ∧ stamp.minute < 10 ^ 2 ∧
    stamp.second < 10 ^ 2 := by
  obtain ⟨month, day⟩ := stamp.inCalendar.small
  have year := stamp.year_le
  have hour := stamp.hour_le
  have minute := stamp.minute_le
  have second := stamp.second_le
  omega

/-- Date and time are read back from a stamp, and the zone is left. -/
theorem takeDateTime_text (stamp : Stamp) :
    takeDateTime stamp.text = some (stamp.dateTime, stamp.zone.text) := by
  obtain ⟨yearSmall, monthSmall, daySmall, hourSmall, minuteSmall, secondSmall⟩ := stamp.small
  have date := takeDate_dateText stamp.year_nonneg yearSmall monthSmall daySmall
  have hour := takeNumber_padded (by decide : 0 < 2) hourSmall
  have minute := takeNumber_padded (by decide : 0 < 2) minuteSmall
  have second := takeNumber_padded (by decide : 0 < 2) secondSmall
  have fraction := takeFraction_eq_some_iff.mpr ⟨stamp.fraction, stamp.fraction_ne_nil,
    stamp.fraction_digits, stamp.zone.stopsDigits_text, rfl, rfl⟩
  rw [List.cons_append] at fraction
  simp [text, takeDateTime, date, dropChar_self, hour, minute, second, fraction, dateTime]

end Stamp

/-- What is read as a date-time is the text of a stamp, in any zone that follows. -/
theorem exists_stamp_of_takeDateTime {text rest : List Char} {dateTime : DateTime}
    (taken : takeDateTime text = some (dateTime, rest)) (valid : dateTime.Valid) :
    rest <:+ text ∧ ∀ zone : Zone, zone.text = rest →
      ∃ stamp : Stamp, stamp.text = text ∧ stamp.dateTime = dateTime ∧ stamp.zone = zone := by
  simp only [takeDateTime, Option.bind_eq_bind, Option.bind_eq_some_iff, Prod.exists,
    takeNumber_eq_some_iff (by decide : 0 < 2), dropChar_eq_some_iff,
    takeFraction_eq_some_iff] at taken
  obtain ⟨date, _, takenDate, _, rfl, hour, _, ⟨-, rfl⟩, _, rfl, minute, _, ⟨-, rfl⟩, _, rfl,
    second, _, ⟨-, rfl⟩, _, _, ⟨fraction, nonempty, digits, -, rfl, rfl⟩, same⟩ := taken
  obtain ⟨nonneg, le, rfl⟩ := eq_dateText_of_takeDate takenDate
  cases same
  obtain ⟨inCalendar, hourLe, minuteLe, secondLe⟩ := valid
  constructor
  · refine ⟨dateText date ++ 'T' :: padded 2 hour ++ ':' :: padded 2 minute ++
      ':' :: padded 2 second ++ '.' :: fraction, ?_⟩
    simp
  · rintro zone rfl
    exact ⟨⟨date, nonneg, le, inCalendar, hour, hourLe, minute, minuteLe, second, secondLe,
      fraction, nonempty, digits, zone⟩, rfl, rfl, rfl⟩

/-- The text of a zone has the shape of an offset. -/
theorem Zone.offsetShape_text (zone : Zone) : offsetShape zone.text = true := by
  have shaped (shift : Shift) : ∀ char ∈ shift.text,
      (isDecimalDigit char || char = '|' || char = ':') = true := by
    intro char member
    rw [Shift.text, List.mem_append, List.mem_append] at member
    rcases member with hours | colon | minutes
    · simp [isDecimalDigit_of_isDigit (isDigit_of_mem_padded hours)]
    · simp [List.eq_of_mem_replicate colon]
    · simp [isDecimalDigit_of_isDigit (isDigit_of_mem_padded minutes)]
  cases zone with
  | unnamed => rfl
  | universal => rfl
  | east shift | west shift => exact List.all_eq_true.mpr (shaped shift)

/-- The text of a stamp has the shape. -/
theorem Stamp.hasShape_text (stamp : Stamp) : hasShape stamp.text = true := by
  obtain ⟨yearSmall, monthSmall, daySmall, hourSmall, minuteSmall, secondSmall⟩ := stamp.small
  have year := dropDigits_padded (by decide : 0 < 4) yearSmall
  have month := dropDigits_padded (by decide : 0 < 2) monthSmall
  have day := dropDigits_padded (by decide : 0 < 2) daySmall
  have hour := dropDigits_padded (by decide : 0 < 2) hourSmall
  have minute := dropDigits_padded (by decide : 0 < 2) minuteSmall
  have second := dropDigits_padded (by decide : 0 < 2) secondSmall
  have fraction : fractionShape ('.' :: (stamp.fraction ++ stamp.zone.text)) =
      some stamp.zone.text := by
    have digits : ∀ char ∈ stamp.fraction, isDecimalDigit char = true :=
      fun char member => isDecimalDigit_of_isDigit (stamp.fraction_digits char member)
    have stop : stamp.zone.text.dropWhile isDecimalDigit = stamp.zone.text := by
      cases stamp.zone <;> rfl
    have point := dropChar_self '.' (stamp.fraction ++ stamp.zone.text)
    rw [fractionShape, point, Option.bind_eq_bind, Option.bind_some,
      List.dropWhile_append_of_pos digits, stop]
    rfl
  have offset := stamp.zone.offsetShape_text
  simp [hasShape, shape?, text, dateText, year, dropChar_self, month, day, hour, minute, second,
    fraction, offset]

end DocumentStore.IsoText

import DocumentStore.Proofs.Instant.Stamp

/-!
This file shows that exactly the texts of stamps are read, and that all attempts agree on the
instant that a stamp names.
-/

namespace DocumentStore

namespace IsoText

/-- On a text without white space, the separator is a number of colons. -/
def DropsColons (separator? : List Char → Option (List Char)) : Prop :=
  ∀ {text rest}, Unblank text → separator? text = some rest →
    ∃ colons, text = List.replicate colons ':' ++ rest

/-- The strict reader takes one colon. -/
theorem dropsColons_dropChar : DropsColons (dropChar ':') := by
  intro text rest _ dropped
  exact ⟨1, dropChar_eq_some_iff.mp dropped⟩

/-- The lenient reader takes any separators, of which the shape only allows colons. -/
theorem dropsColons_dropWhile : DropsColons fun text => some (text.dropWhile isSeparator) := by
  intro text rest unblank dropped
  have colons : ∀ char ∈ text.takeWhile isSeparator, char = ':' := by
    intro char member
    have visible := unblank char ((List.takeWhile_sublist _).subset member)
    have separates := List.mem_takeWhile_imp member
    rw [isSeparator, visible, Bool.or_false, decide_eq_true_eq] at separates
    exact separates
  refine ⟨(text.takeWhile isSeparator).length, ?_⟩
  rw [← List.eq_replicate_of_mem colons, ← Option.some.inj dropped,
    List.takeWhile_append_dropWhile]

/-- An offset that is read is the text of a shift. -/
theorem exists_shift {separator? : List Char → Option (List Char)}
    (separator : DropsColons separator?) {text : List Char} (unblank : Unblank text) {total : Nat}
    (taken : offsetMinutes? separator? text = some total) :
    ∃ shift : Shift, shift.text = text ∧ shift.total = total := by
  simp only [offsetMinutes?, Option.bind_eq_bind, Option.bind_eq_some_iff, Prod.exists,
    takeNumber_eq_some_iff (by decide : 0 < 2)] at taken
  obtain ⟨hours, behind, ⟨-, rfl⟩, tail, separated, minutes, rest, ⟨-, rfl⟩, taken⟩ := taken
  obtain ⟨colons, rfl⟩ := separator (unblank_append.mp unblank).2 separated
  split at taken
  · next small =>
      simp only [Bool.and_eq_true, List.isEmpty_iff, decide_eq_true_eq] at small
      obtain ⟨⟨rfl, hoursSmall⟩, minutesSmall⟩ := small
      cases taken
      refine ⟨⟨hours, colons, minutes, by omega, by omega⟩, ?_, rfl⟩
      rw [Shift.text, List.append_nil]
  · cases taken

/-- An offset with a sign is the text of a zone. -/
theorem exists_zone_of_signedOffset? {separator? : List Char → Option (List Char)}
    (separator : DropsColons separator?) {text : List Char} (unblank : Unblank text) {offset : Int}
    (taken : signedOffset? separator? text = some offset) :
    ∃ zone : Zone, zone.text = text ∧ zone.offset = offset := by
  unfold signedOffset? at taken
  split at taken
  · obtain ⟨total, found, rfl⟩ := Option.map_eq_some_iff.mp taken
    obtain ⟨shift, rfl, rfl⟩ := exists_shift separator (unblank_cons.mp unblank).2 found
    exact ⟨.east shift, rfl, rfl⟩
  · obtain ⟨total, found, rfl⟩ := Option.map_eq_some_iff.mp taken
    obtain ⟨shift, rfl, rfl⟩ := exists_shift separator (unblank_cons.mp unblank).2 found
    exact ⟨.west shift, rfl, rfl⟩
  · cases taken

/-- What an attempt takes for an offset is the text of a zone. -/
theorem exists_zone {offset? : List Char → Option Int} (attempt : offset? ∈ attempts)
    {text : List Char} (unblank : Unblank text) {offset : Int}
    (taken : offset? text = some offset) :
    ∃ zone : Zone, zone.text = text ∧ zone.offset = offset := by
  simp only [attempts, List.mem_cons, List.not_mem_nil, or_false] at attempt
  rcases attempt with rfl | rfl | rfl
  · unfold strictOffset? at taken
    split at taken
    · cases taken
      exact ⟨.universal, rfl, rfl⟩
    · exact exists_zone_of_signedOffset? dropsColons_dropChar unblank taken
  · exact exists_zone_of_signedOffset? dropsColons_dropWhile unblank taken
  · unfold noOffset? at taken
    split at taken
    · next empty =>
        cases taken
        exact ⟨.unnamed, (List.isEmpty_iff.mp empty).symm, rfl⟩
    · cases taken

/-- A digit separates nothing. -/
theorem isSeparator_of_isDigit {char : Char} (digit : char.isDigit = true) :
    isSeparator char = false := by
  have notColon : char ≠ ':' := by
    rintro rfl
    cases digit
  simp [isSeparator, notColon, isBlank_of_isDecimalDigit (isDecimalDigit_of_isDigit digit)]

/-- The second attempt takes every shift. -/
theorem offsetMinutes?_text (shift : Shift) :
    offsetMinutes? (fun text => some (text.dropWhile isSeparator)) shift.text =
      some shift.total := by
  have within := shift.inside
  have minutesLe := shift.minutes_le
  have hoursSmall : shift.hours < 10 ^ 2 := by omega
  have minutesSmall : shift.minutes < 10 ^ 2 := by omega
  have takeHours := takeNumber_padded (by decide : 0 < 2) hoursSmall
  have takeMinutes := takeNumber_padded (by decide : 0 < 2) minutesSmall []
  have stop : (padded 2 shift.minutes).dropWhile isSeparator = padded 2 shift.minutes := by
    cases digits : padded 2 shift.minutes with
    | nil => rfl
    | cons char rest =>
        have digit : char.isDigit = true :=
          isDigit_of_mem_padded (digits.symm ▸ List.mem_cons_self)
        exact List.dropWhile_cons_of_neg (Bool.eq_false_iff.mp (isSeparator_of_isDigit digit))
  have colons : ∀ char ∈ List.replicate shift.colons ':', isSeparator char = true := by
    intro char member
    rw [List.eq_of_mem_replicate member]
    rfl
  have dropped : (List.replicate shift.colons ':' ++ padded 2 shift.minutes).dropWhile isSeparator =
      padded 2 shift.minutes :=
    (List.dropWhile_append_of_pos colons).trans stop
  rw [List.append_nil] at takeMinutes
  have hoursInDay : shift.hours < 24 := by omega
  have minutesInHour : shift.minutes < 60 := by omega
  simp [offsetMinutes?, Shift.text, takeHours, dropped, takeMinutes, hoursInDay, minutesInHour,
    Shift.total]

/-- The offset of a zone is taken by an attempt. -/
theorem Zone.exists_attempt (zone : Zone) :
    ∃ offset? ∈ attempts, offset? zone.text = some zone.offset := by
  have second : looseOffset? ∈ attempts := List.mem_cons_of_mem _ List.mem_cons_self
  have last : noOffset? ∈ attempts := List.mem_of_getLast? rfl
  cases zone with
  | unnamed => exact ⟨noOffset?, last, rfl⟩
  | universal => exact ⟨strictOffset?, List.mem_cons_self, rfl⟩
  | east shift | west shift =>
      refine ⟨looseOffset?, second, ?_⟩
      simp [looseOffset?, signedOffset?, Zone.text, offsetMinutes?_text, Zone.offset]

/-- The text of a zone tells its offset. -/
theorem Zone.offset_eq_of_text_eq {first second : Zone} (same : first.text = second.text) :
    first.offset = second.offset := by
  -- The second attempt takes every shift, so the text of a shift fixes its total.
  have shifts {one other : Shift} (sameText : one.text = other.text) : one.total = other.total := by
    have taken := offsetMinutes?_text one
    rw [sameText, offsetMinutes?_text other] at taken
    exact (Option.some.inj taken).symm
  cases first <;> cases second <;> try cases same
  · rfl
  · rfl
  · next first second => rw [offset, offset, shifts (List.cons.inj same).2]
  · next first second => rw [offset, offset, shifts (List.cons.inj same).2]

namespace Stamp

theorem milliseconds_eq (stamp : Stamp) :
    stamp.milliseconds = stamp.dateTime.milliseconds - stamp.zone.offset * 60000 :=
  rfl

/-- A text names one instant at most. -/
theorem milliseconds_eq_of_text_eq {first second : Stamp} (same : first.text = second.text) :
    first.milliseconds = second.milliseconds := by
  have taken := first.takeDateTime_text
  rw [same, second.takeDateTime_text, Option.some.injEq, Prod.mk.injEq] at taken
  obtain ⟨sameTime, sameZone⟩ := taken
  rw [milliseconds_eq, milliseconds_eq, sameTime, Zone.offset_eq_of_text_eq sameZone]

end Stamp

/-- A text with the shape of a date-time is only read when it is the text of a stamp. -/
theorem exists_stamp_of_milliseconds? {offset? : List Char → Option Int}
    (attempt : offset? ∈ attempts) {text : List Char} (shaped : hasShape text = true)
    {milliseconds : Int} (read : milliseconds? offset? text = some milliseconds) :
    ∃ stamp : Stamp, stamp.text = text ∧ stamp.milliseconds = milliseconds := by
  simp only [milliseconds?, Option.bind_eq_bind, Option.bind_eq_some_iff, Prod.exists] at read
  obtain ⟨dateTime, rest, taken, offset, found, read⟩ := read
  split at read
  · next valid =>
      obtain ⟨suffix, stamps⟩ := exists_stamp_of_takeDateTime taken valid
      have unblank : Unblank rest :=
        fun char member => unblank_of_hasShape shaped char (suffix.subset member)
      obtain ⟨zone, zoneText, rfl⟩ := exists_zone attempt unblank found
      obtain ⟨stamp, stampText, rfl, rfl⟩ := stamps zone zoneText
      exact ⟨stamp, stampText, Option.some.inj read⟩
  · cases read

/-- The text of a stamp is read by the first attempt that takes its zone. -/
theorem Stamp.firstReading?_text (stamp : Stamp) :
    firstReading? stamp.text = some stamp.milliseconds := by
  obtain ⟨offset?, attempt, taken⟩ := stamp.zone.exists_attempt
  have read : milliseconds? offset? stamp.text = some stamp.milliseconds := by
    simp [milliseconds?, stamp.takeDateTime_text, taken, stamp.valid_dateTime, milliseconds_eq]
  have known : (firstReading? stamp.text).isSome := by
    rw [firstReading?, List.findSome?_isSome_iff]
    exact ⟨offset?, attempt, by rw [read, Option.isSome_some]⟩
  -- An earlier attempt may succeed too, but what it reads is a stamp with the same text.
  obtain ⟨milliseconds, first⟩ := Option.isSome_iff_exists.mp known
  obtain ⟨other, otherAttempt, otherRead⟩ := List.exists_of_findSome?_eq_some first
  obtain ⟨found, sameText, rfl⟩ :=
    exists_stamp_of_milliseconds? otherAttempt stamp.hasShape_text otherRead
  rw [first, milliseconds_eq_of_text_eq sameText]

/-- What any attempt reads is the text of a stamp with this value. -/
theorem exists_stamp_of_firstReading? {text : List Char} (shaped : hasShape text = true)
    {milliseconds : Int} (read : firstReading? text = some milliseconds) :
    ∃ stamp : Stamp, stamp.text = text ∧ stamp.milliseconds = milliseconds := by
  obtain ⟨offset?, attempt, found⟩ := List.exists_of_findSome?_eq_some read
  exact exists_stamp_of_milliseconds? attempt shaped found

/-- The years of four digits lie inside the range of an instant. -/
theorem Stamp.milliseconds_bounds (stamp : Stamp) :
    -9223372036854775808 ≤ stamp.milliseconds ∧ stamp.milliseconds < 9223372036854775808 := by
  obtain ⟨begun, notOver⟩ := stamp.inCalendar.dayNumber_inside
  have firstYear := CalendarDate.yearStart_mono stamp.year_nonneg
  have lastYear := CalendarDate.yearStart_mono (Int.add_le_add_right stamp.year_le 1)
  have firstDay : CalendarDate.yearStart 0 = -719528 := rfl
  have lastDay : CalendarDate.yearStart (9999 + 1) = 2932897 := rfl
  -- An offset is less than a day, too little to leave the integers of 64 bits.
  have offset : -1440 < stamp.zone.offset ∧ stamp.zone.offset < 1440 := by
    cases stamp.zone with
    | unnamed => decide
    | universal => decide
    | east shift | west shift =>
        have inside := shift.inside
        simp only [Zone.offset, Shift.total]
        omega
  have hour := stamp.hour_le
  have minute := stamp.minute_le
  have second := stamp.second_le
  have fraction := fractionMilliseconds_lt stamp.fraction_digits
  rw [milliseconds]
  omega

end IsoText

namespace Instant

open IsoText

/-- The text of a stamp is read as the instant that the stamp names. -/
theorem ofIso?_of_stamp {text : String} {stamp : Stamp} (same : stamp.text = text.toList) :
    ∃ instant, ofIso? text = some instant ∧
      instant.milliseconds.toInt = stamp.milliseconds := by
  obtain ⟨lower, upper⟩ := stamp.milliseconds_bounds
  refine ⟨ofInt stamp.milliseconds, ?_, Int64.toInt_ofInt_of_le lower upper⟩
  rw [ofIso?, ← same, if_pos stamp.hasShape_text, stamp.firstReading?_text, Option.map_some]

/-- Only texts of stamps are read. -/
theorem exists_stamp_of_ofIso? {text : String} {instant : Instant}
    (read : ofIso? text = some instant) : ∃ stamp : Stamp, stamp.text = text.toList := by
  unfold ofIso? at read
  split at read
  · next shaped =>
      obtain ⟨milliseconds, first, -⟩ := Option.map_eq_some_iff.mp read
      obtain ⟨stamp, same, -⟩ := exists_stamp_of_firstReading? shaped first
      exact ⟨stamp, same⟩
  · cases read

/-- All other texts are refused. -/
theorem ofIso?_eq_none_iff {text : String} :
    ofIso? text = none ↔ ¬ ∃ stamp : Stamp, stamp.text = text.toList := by
  constructor
  · rintro unread ⟨stamp, same⟩
    obtain ⟨instant, read, -⟩ := ofIso?_of_stamp same
    rw [unread] at read
    cases read
  · intro noStamp
    cases read : ofIso? text with
    | none => rfl
    | some instant => exact absurd (exists_stamp_of_ofIso? read) noStamp

/-- The texts of stamps are read, and no other texts, also if they have the shape of a date-time.
All attempts that succeed agree on the instant, which counts the days of the calendar and the time
that has passed in universal time. -/
theorem ofIso?_exact (text : String) :
    ((ofIso? text).isSome = true ↔ ∃ stamp : Stamp, stamp.text = text.toList) ∧
      (∀ stamp : Stamp, stamp.text = text.toList → ∃ instant, ofIso? text = some instant ∧
        instant.milliseconds.toInt = stamp.milliseconds) ∧
      (∀ offset? ∈ attempts, ∀ milliseconds, hasShape text.toList = true →
        milliseconds? offset? text.toList = some milliseconds →
          ∃ instant, ofIso? text = some instant ∧
            instant.milliseconds.toInt = milliseconds) ∧
      (hasShape text.toList = true → (¬ ∃ stamp : Stamp, stamp.text = text.toList) →
        ofIso? text = none) ∧
      CalendarDate.CountsDays CalendarDate.dayNumber := by
  refine ⟨?_, fun stamp => ofIso?_of_stamp, ?_, fun _ => ofIso?_eq_none_iff.mpr,
    CalendarDate.countsDays_dayNumber⟩
  · rw [Option.isSome_iff_ne_none, ne_eq, ofIso?_eq_none_iff, not_not]
  · intro offset? attempt milliseconds shaped read
    obtain ⟨stamp, same, rfl⟩ := exists_stamp_of_milliseconds? attempt shaped read
    exact ofIso?_of_stamp same

/-- The second attempt reads a leap second with two colons in its offset. A day that the year does
not have is not read, although its text has the shape of a date-time. -/
theorem ofIso?_exact_leapSecond :
    (looseOffset? ∈ attempts ∧
      milliseconds? looseOffset? "2016-12-31T23:59:60.98765+05::30".toList =
        some 1483209000987 ∧
      ∃ instant, ofIso? "2016-12-31T23:59:60.98765+05::30" = some instant ∧
        instant.milliseconds.toInt = 1483209000987) ∧
    hasShape "2023-02-29T00:00:00.0".toList = true ∧
      (¬ ∃ stamp : Stamp, stamp.text = "2023-02-29T00:00:00.0".toList) ∧
      ofIso? "2023-02-29T00:00:00.0" = none := by
  have attempt : looseOffset? ∈ attempts := List.mem_cons_of_mem _ List.mem_cons_self
  have shaped : hasShape "2016-12-31T23:59:60.98765+05::30".toList = true := by decide
  have read : milliseconds? looseOffset? "2016-12-31T23:59:60.98765+05::30".toList =
      some 1483209000987 := by decide
  obtain ⟨-, -, agrees, -, -⟩ := ofIso?_exact "2016-12-31T23:59:60.98765+05::30"
  obtain ⟨-, -, -, unread, -⟩ := ofIso?_exact "2023-02-29T00:00:00.0"
  have lastShaped : hasShape "2023-02-29T00:00:00.0".toList = true := by decide
  have noStamp : ¬ ∃ stamp : Stamp, stamp.text = "2023-02-29T00:00:00.0".toList := by
    rintro ⟨stamp, same⟩
    have taken := stamp.takeDateTime_text
    have known : (takeDateTime "2023-02-29T00:00:00.0".toList).map Prod.fst =
        some ⟨⟨2023, 2, 29⟩, 0, 0, 0, 0⟩ := rfl
    rw [← same, taken] at known
    have dateTime : stamp.dateTime = ⟨⟨2023, 2, 29⟩, 0, 0, 0, 0⟩ := Option.some.inj known
    have valid := stamp.valid_dateTime
    rw [dateTime] at valid
    exact absurd valid (by decide)
  exact ⟨⟨attempt, read, agrees looseOffset? attempt _ shaped read⟩, lastShaped, noStamp,
    unread lastShaped noStamp⟩

end Instant

end DocumentStore

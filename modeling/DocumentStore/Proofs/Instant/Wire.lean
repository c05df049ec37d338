import DocumentStore.Proofs.Instant.Reading

/-!
This file shows which instants can be read back from their wire form. These are the instants in the
years of four digits.
-/

namespace DocumentStore

/-- Years with four digits are written without a sign. -/
theorem CalendarDate.signedYear_of_fourDigits {year : Int} (lower : 0 ≤ year)
    (upper : year ≤ 9999) : signedYear year = padded 4 year.toNat := by
  have magnitude : year.natAbs = year.toNat := by omega
  unfold signedYear
  rw [if_neg (by omega), if_neg (by omega), magnitude]

namespace IsoText.Stamp

/-- A stamp starts with a digit, and so without a sign. -/
theorem exists_digit_cons (stamp : Stamp) :
    ∃ char rest, stamp.text = char :: rest ∧ char.isDigit = true := by
  have length := length_padded (by decide : 0 < 4) stamp.small.1
  cases digits : padded 4 stamp.date.year.toNat with
  | nil =>
      rw [digits] at length
      cases length
  | cons char rest =>
      have member : char ∈ padded 4 stamp.date.year.toNat := digits ▸ List.mem_cons_self
      rw [text, dateText, digits]
      exact ⟨char, _, rfl, isDigit_of_mem_padded member⟩

/-- The date of a stamp is written with dashes. -/
theorem dash_mem_text (stamp : Stamp) : '-' ∈ stamp.text := by
  simp [text, dateText]

end IsoText.Stamp

namespace Instant

open IsoText

variable (instant : Instant)

/-- What is left of a day is less than a day. -/
theorem inDay_lt : instant.inDay < 86400000 := by
  unfold inDay millisecondsPerDay
  omega

/-- The hour is on the clock. -/
theorem hour_lt : instant.hour < 24 := by
  have inDay := instant.inDay_lt
  unfold hour
  omega

/-- The minute is on the clock. -/
theorem minute_lt : instant.minute < 60 :=
  Nat.mod_lt _ (by decide)

/-- The second is on the clock and no leap second. -/
theorem second_lt : instant.second < 60 :=
  Nat.mod_lt _ (by decide)

/-- The milliseconds are less than a second. -/
theorem millisecond_lt : instant.millisecond < 1000 :=
  Nat.mod_lt _ (by decide)

/-- The parts of an instant make up its milliseconds. -/
theorem milliseconds_eq : instant.date.dayNumber * 86400000 +
    (instant.hour * 3600000 + instant.minute * 60000 + instant.second * 1000 +
      instant.millisecond : Nat) = instant.milliseconds.toInt := by
  have day : instant.date.dayNumber = instant.milliseconds.toInt / 86400000 :=
    CalendarDate.dayNumber_ofDayNumber _
  simp only [day, hour, minute, second, millisecond, inDay, millisecondsPerDay]
  omega

/-- The year of an instant has four digits and no sign. -/
def HasFourDigitYear : Prop :=
  0 ≤ instant.date.year ∧ instant.date.year ≤ 9999

instance : Decidable instant.HasFourDigitYear :=
  inferInstanceAs (Decidable (_ ∧ _))

/-- The years of four digits start and end at these milliseconds. -/
theorem hasFourDigitYear_iff : instant.HasFourDigitYear ↔
    -62167219200000 ≤ instant.milliseconds.toInt ∧
      instant.milliseconds.toInt < 253402300800000 := by
  have first : CalendarDate.yearStart 0 = -719528 := rfl
  have behind : CalendarDate.yearStart 10000 = 2932897 := rfl
  have lower : 0 ≤ instant.date.year ↔ CalendarDate.yearStart 0 ≤ instant.dayNumber :=
    CalendarDate.le_yearOfDay_iff
  have upper : 10000 ≤ instant.date.year ↔ CalendarDate.yearStart 10000 ≤ instant.dayNumber :=
    CalendarDate.le_yearOfDay_iff
  have day : instant.dayNumber = instant.milliseconds.toInt / 86400000 := rfl
  rw [first, day] at lower
  rw [behind, day] at upper
  rw [HasFourDigitYear]
  omega

variable {instant}

/-- In the years of four digits, the wire form is the text of a stamp without a zone. -/
def HasFourDigitYear.stamp (near : instant.HasFourDigitYear) : Stamp where
  date := instant.date
  year_nonneg := near.1
  year_le := near.2
  inCalendar := CalendarDate.valid_ofDayNumber _
  hour := instant.hour
  hour_le := Nat.le_of_lt_succ instant.hour_lt
  minute := instant.minute
  minute_le := Nat.le_of_lt_succ instant.minute_lt
  second := instant.second
  second_le := Nat.le_of_lt instant.second_lt
  fraction := padded 3 instant.millisecond
  fraction_ne_nil := by
    apply List.length_pos_iff.mp
    rw [length_padded (by decide) instant.millisecond_lt]
    decide
  fraction_digits := fun _ => isDigit_of_mem_padded
  zone := .unnamed

/-- An instant in a year of four digits is written as the text of its stamp. -/
theorem HasFourDigitYear.text_stamp (near : instant.HasFourDigitYear) :
    near.stamp.text = instant.wire := by
  have known : instant.inCalendar = true := by
    obtain ⟨lower, upper⟩ := near
    simp only [inCalendar, Bool.and_eq_true, decide_eq_true_eq]
    omega
  rw [wire, if_pos known, CalendarDate.text,
    CalendarDate.signedYear_of_fourDigits near.1 near.2]
  simp [Stamp.text, dateText, stamp, Zone.text, clock]

/-- The stamp of an instant stands for this instant. -/
theorem HasFourDigitYear.milliseconds_stamp (near : instant.HasFourDigitYear) :
    near.stamp.milliseconds = instant.milliseconds.toInt := by
  have fraction : fractionMilliseconds (padded 3 instant.millisecond) = instant.millisecond := by
    rw [fractionMilliseconds, digitsValue_padded,
      length_padded (by decide) instant.millisecond_lt]
    exact Nat.mul_div_cancel _ (by decide)
  rw [Stamp.milliseconds, ← instant.milliseconds_eq]
  simp [stamp, fraction, Zone.offset]

variable (instant)

/-- A year without four digits carries a sign, and a count of milliseconds is all digits. -/
theorem not_stamp_wire_of_far (far : ¬ instant.HasFourDigitYear) (stamp : Stamp) :
    stamp.text ≠ instant.wire := by
  obtain ⟨first, rest, opens, digit⟩ := stamp.exists_digit_cons
  -- A stamp starts with a digit, so no text with a sign in front is one.
  have signed {sign : Char} {rest : List Char} (noDigit : sign.isDigit = false) :
      stamp.text ≠ sign :: rest := by
    intro same
    rw [opens, List.cons.injEq] at same
    rw [same.1, noDigit] at digit
    cases digit
  unfold wire
  split
  · rw [CalendarDate.text, CalendarDate.signedYear]
    by_cases past : instant.date.year < 0
    · rw [if_pos past]
      exact signed rfl
    · have future : 9999 < instant.date.year := by
        by_contra near
        exact far ⟨Int.not_lt.mp past, Int.not_lt.mp near⟩
      rw [if_neg past, if_pos future]
      exact signed rfl
  · cases instant.milliseconds.toInt with
    | ofNat count =>
        -- The digits of a late year start like a stamp, but have no dash.
        intro same
        have dash := stamp.dash_mem_text
        rw [same] at dash
        have inDigits : '-' ∈ Nat.toDigits 10 count := by
          rw [← Nat.toList_repr]
          exact dash
        exact absurd (Nat.isDigit_of_mem_toDigits (by decide) (by decide) inDigits) (by decide)
    | negSucc count =>
        have text : (toString (Int.negSucc count)).toList =
            '-' :: Nat.toDigits 10 (count + 1) := by
          rw [Int.toString_eq_repr, Int.repr_eq_if]
          simp [Nat.toList_repr]
        rw [text]
        exact signed rfl

/-- The wire form is read back in the years of four digits, and in no other year. -/
theorem ofIso?_wire : ofIso? (String.ofList instant.wire) =
    if instant.HasFourDigitYear then some instant else none := by
  have letters : (String.ofList instant.wire).toList = instant.wire := String.toList_ofList
  split
  · next near =>
      obtain ⟨found, read, milliseconds⟩ := ofIso?_of_stamp (near.text_stamp.trans letters.symm)
      rw [near.milliseconds_stamp, Int64.toInt_inj] at milliseconds
      rw [read]
      exact congrArg some (congrArg Instant.mk milliseconds)
  · next far =>
      rw [ofIso?_eq_none_iff, letters]
      rintro ⟨stamp, same⟩
      exact instant.not_stamp_wire_of_far far stamp same

end Instant

end DocumentStore

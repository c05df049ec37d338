import Mathlib.Algebra.Ring.Nat
import DocumentStore.Instant.Basic

/-!
This file shows that every day number stands for one valid date of the calendar.
-/

namespace DocumentStore.CalendarDate

/-- The lengths of the months add up to the length of the year. -/
theorem sum_monthLengths (year : Int) :
    (monthLengths year).sum = if isLeapYear year then 366 else 365 := by
  unfold monthLengths
  split <;> rfl

/-- A day is counted in periods of four centuries, in centuries, in spans of four years, in years
and in days. -/
structure Counts (day period century span year rest : Int) : Prop where
  total : day + 719162 = 146097 * period + 36524 * century + 1461 * span + 365 * year + rest
  centuries : 0 ≤ century ∧ century ≤ 3
  spans : 0 ≤ span ∧ span ≤ 24
  years : 0 ≤ year ∧ year ≤ 3
  days : 0 ≤ rest ∧ rest ≤ 365
  lastDay : rest = 365 → year = 3 ∧ (span = 24 → century = 3)

/-- Every day has counts, and they give its year. -/
theorem exists_counts (day : Int) : ∃ period century span year rest,
    Counts day period century span year rest ∧
      yearOfDay day = 400 * period + 100 * century + 4 * span + year + 1 := by
  simp only [yearOfDay]
  have inPeriodLower := Int.emod_nonneg (day + 719162) (by decide : (146097 : Int) ≠ 0)
  have inPeriodUpper := Int.emod_lt_of_pos (day + 719162) (by decide : (0 : Int) < 146097)
  have inPeriodTotal := Int.emod_add_mul_ediv (day + 719162) 146097
  generalize (day + 719162) / 146097 = period at *
  generalize (day + 719162) % 146097 = inPeriod at *
  have century : 0 ≤ min (inPeriod / 36524) 3 ∧ min (inPeriod / 36524) 3 ≤ 3 := by omega
  have inCentury : 0 ≤ inPeriod - 36524 * min (inPeriod / 36524) 3 ∧
      inPeriod - 36524 * min (inPeriod / 36524) 3 ≤ 36524 := by omega
  have lastOfCentury : inPeriod - 36524 * min (inPeriod / 36524) 3 = 36524 →
      min (inPeriod / 36524) 3 = 3 := by omega
  generalize min (inPeriod / 36524) 3 = centuries at *
  generalize inDays : inPeriod - 36524 * centuries = remaining at *
  have spans : 0 ≤ remaining / 1461 ∧ remaining / 1461 ≤ 24 := by omega
  have inSpan : 0 ≤ remaining % 1461 ∧ remaining % 1461 ≤ 1460 := by omega
  have lastOfSpan : remaining / 1461 = 24 → remaining % 1461 = 1460 → remaining = 36524 := by omega
  have spanTotal := Int.emod_add_mul_ediv remaining 1461
  generalize remaining / 1461 = span at *
  generalize remaining % 1461 = rest at *
  refine ⟨period, centuries, span, min (rest / 365) 3, rest - 365 * min (rest / 365) 3, ?_, rfl⟩
  constructor <;> omega

/-- The rest of the counts is the day within its year. -/
theorem yearStart_yearOfDay {day period century span year rest : Int}
    (counts : Counts day period century span year rest) :
    yearStart (400 * period + 100 * century + 4 * span + year + 1) = day - rest := by
  obtain ⟨total, centuries, spans, years, days, lastDay⟩ := counts
  simp only [yearStart]
  omega

/-- A year has a last day of its own when it is a leap year. -/
theorem isLeapYear_of_lastDay {day period century span year rest : Int}
    (counts : Counts day period century span year rest) (last : rest = 365) :
    isLeapYear (400 * period + 100 * century + 4 * span + year + 1) = true := by
  obtain ⟨lastYear, lastSpan⟩ := counts.lastDay last
  have spans := counts.spans
  simp only [isLeapYear, Bool.and_eq_true, Bool.or_eq_true, decide_eq_true_eq, bne_iff_ne, ne_eq]
  omega

/-- Every day lies within its year. -/
theorem day_inside_year (day : Int) :
    0 ≤ day - yearStart (yearOfDay day) ∧
      day - yearStart (yearOfDay day) < ((monthLengths (yearOfDay day)).sum : Nat) := by
  obtain ⟨period, century, span, year, rest, counts, same⟩ := exists_counts day
  rw [same, yearStart_yearOfDay counts, sum_monthLengths]
  have days := counts.days
  by_cases last : rest = 365
  · rw [if_pos (isLeapYear_of_lastDay counts last)]
    omega
  · split <;> omega

/-- The split of a day finds a month that has the day. -/
theorem splitDay_spec {lengths : List Nat} {day : Nat} (inside : day < lengths.sum) :
    (splitDay lengths day).1 < lengths.length ∧
      (splitDay lengths day).2 < lengths.getD (splitDay lengths day).1 0 ∧
      daysBefore lengths (splitDay lengths day).1 + (splitDay lengths day).2 = day := by
  induction lengths generalizing day with
  | nil => cases inside
  | cons length rest inductionHypothesis =>
      rw [splitDay]
      by_cases first : day < length
      · rw [if_pos first]
        exact ⟨Nat.zero_lt_succ _, first, Nat.zero_add day⟩
      · rw [if_neg first]
        rw [List.sum_cons] at inside
        have later : day - length < rest.sum := by omega
        obtain ⟨monthInside, dayInside, total⟩ := inductionHypothesis later
        refine ⟨Nat.succ_lt_succ monthInside, dayInside, ?_⟩
        change length + daysBefore rest (splitDay rest (day - length)).1 +
          (splitDay rest (day - length)).2 = day
        omega

/-- The date of a day is on the calendar. -/
theorem valid_ofDayNumber (day : Int) : (ofDayNumber day).Valid := by
  obtain ⟨lower, upper⟩ := day_inside_year day
  have inside : (day - yearStart (yearOfDay day)).toNat < (monthLengths (yearOfDay day)).sum := by
    omega
  obtain ⟨month, inMonth, -⟩ := splitDay_spec inside
  exact ⟨Nat.succ_pos _, month, Nat.succ_pos _, inMonth⟩

/-- A date is found again by its day number. -/
theorem dayNumber_ofDayNumber (day : Int) : (ofDayNumber day).dayNumber = day := by
  obtain ⟨lower, upper⟩ := day_inside_year day
  have inside : (day - yearStart (yearOfDay day)).toNat < (monthLengths (yearOfDay day)).sum := by
    omega
  obtain ⟨-, -, total⟩ := splitDay_spec inside
  simp only [dayNumber, ofDayNumber, Nat.add_sub_cancel, Int.ofNat_eq_natCast]
  omega

/-- A year starts after all months of the one before. -/
theorem yearStart_succ (year : Int) :
    yearStart (year + 1) = yearStart year + ((monthLengths year).sum : Nat) := by
  have leap : isLeapYear year = true ↔ year % 4 = 0 ∧ (year % 100 ≠ 0 ∨ year % 400 = 0) := by
    simp [isLeapYear]
  rw [sum_monthLengths, yearStart, yearStart]
  split
  · next isLeap =>
      rw [leap] at isLeap
      omega
  · next notLeap =>
      rw [leap] at notLeap
      omega

/-- Later years start later. -/
theorem yearStart_mono {year later : Int} (le : year ≤ later) :
    yearStart year ≤ yearStart later := by
  simp only [yearStart]
  omega

/-- A day lies in a year or behind it when it is not before the first of January. -/
theorem le_yearOfDay_iff {year day : Int} : year ≤ yearOfDay day ↔ yearStart year ≤ day := by
  obtain ⟨lower, upper⟩ := day_inside_year day
  constructor
  · intro le
    have start := yearStart_mono le
    omega
  · intro begun
    by_contra before
    have next : yearOfDay day + 1 ≤ year := by omega
    have start := yearStart_mono next
    rw [yearStart_succ] at start
    omega

theorem daysBefore_zero (lengths : List Nat) : daysBefore lengths 0 = 0 := by
  cases lengths <;> rfl

/-- One more month adds its own days. -/
theorem daysBefore_succ (lengths : List Nat) (month : Nat) :
    daysBefore lengths (month + 1) = daysBefore lengths month + lengths.getD month 0 := by
  induction lengths generalizing month with
  | nil => rfl
  | cons length rest inductionHypothesis =>
      cases month with
      | zero => simp [daysBefore, daysBefore_zero]
      | succ month =>
          rw [daysBefore, inductionHypothesis, daysBefore, List.getD_cons_succ, Nat.add_assoc]

/-- No month starts after the end of the year. -/
theorem daysBefore_le_sum (lengths : List Nat) (month : Nat) :
    daysBefore lengths month ≤ lengths.sum := by
  induction lengths generalizing month with
  | nil => exact Nat.le_refl 0
  | cons length rest inductionHypothesis =>
      cases month with
      | zero => exact Nat.zero_le _
      | succ month =>
          rw [daysBefore, List.sum_cons]
          exact Nat.add_le_add_left (inductionHypothesis month) length

/-- A date lies in its year. -/
theorem Valid.dayNumber_inside {date : CalendarDate} (valid : date.Valid) :
    yearStart date.year ≤ date.dayNumber ∧ date.dayNumber < yearStart (date.year + 1) := by
  obtain ⟨monthLower, -, dayLower, dayUpper⟩ := valid
  have whole := daysBefore_le_sum (monthLengths date.year) (date.month - 1 + 1)
  rw [daysBefore_succ] at whole
  rw [monthLength] at dayUpper
  rw [yearStart_succ, dayNumber, Int.ofNat_eq_natCast, Int.ofNat_eq_natCast]
  omega

/-- This is the day that follows a date. -/
def next (date : CalendarDate) : CalendarDate :=
  if date.day < monthLength date.year date.month then { date with day := date.day + 1 }
  else if date.month < 12 then { date with month := date.month + 1, day := 1 }
  else { year := date.year + 1, month := 1, day := 1 }

/-- Days are counted from the first of January 1970. -/
def CountsDays (number : CalendarDate → Int) : Prop :=
  number { year := 1970, month := 1, day := 1 } = 0 ∧
    ∀ date : CalendarDate, date.Valid → date.next.Valid ∧ number date.next = number date + 1

/-- Every month has between one and 31 days. -/
theorem monthLength_bounds (year : Int) {month : Nat} (lower : 1 ≤ month) (upper : month ≤ 12) :
    1 ≤ monthLength year month ∧ monthLength year month ≤ 31 := by
  have bounds : ∀ length ∈ monthLengths year, 1 ≤ length ∧ length ≤ 31 := by
    unfold monthLengths
    split <;> decide
  have inside : month - 1 < (monthLengths year).length := by
    change month - 1 < 12
    omega
  have found := List.getElem?_eq_getElem inside
  rw [monthLength, List.getD_eq_getElem?_getD, found, Option.getD_some]
  exact bounds _ (List.getElem_mem inside)

/-- The day numbers of the calendar count its days. -/
theorem countsDays_dayNumber : CountsDays dayNumber := by
  refine ⟨rfl, ?_⟩
  rintro ⟨year, month, day⟩ ⟨monthLower, monthUpper, dayLower, dayUpper⟩
  simp only at monthLower monthUpper dayLower dayUpper
  have months := daysBefore_succ (monthLengths year) (month - 1)
  rw [Nat.sub_add_cancel monthLower] at months
  rw [monthLength] at dayUpper
  -- The next day stands in the same month, in the next month or in the next year.
  unfold next
  split
  · next inMonth =>
      refine ⟨⟨monthLower, monthUpper, Nat.succ_pos day, inMonth⟩, ?_⟩
      simp only [dayNumber, Int.ofNat_eq_natCast]
      omega
  · next lastDay =>
      simp only [monthLength] at lastDay
      split
      · next inYear =>
          simp only at inYear
          refine ⟨⟨Nat.succ_pos month, inYear, Nat.le_refl 1,
            (monthLength_bounds year (Nat.succ_pos month) inYear).1⟩, ?_⟩
          simp only [dayNumber, Int.ofNat_eq_natCast, Nat.add_sub_cancel]
          omega
      · next lastMonth =>
          simp only at lastMonth
          have december : month = 12 := by omega
          subst december
          have wholeYear : daysBefore (monthLengths year) 12 = (monthLengths year).sum := rfl
          have january := monthLength_bounds (year + 1) (Nat.le_refl 1) (by decide : 1 ≤ 12)
          refine ⟨⟨Nat.le_refl 1, (by decide : 1 ≤ 12), Nat.le_refl 1, january.1⟩, ?_⟩
          simp only [dayNumber, Int.ofNat_eq_natCast, yearStart_succ, Nat.sub_self,
            daysBefore_zero]
          omega

theorem Valid.small {date : CalendarDate} (valid : date.Valid) :
    date.month < 10 ^ 2 ∧ date.day < 10 ^ 2 := by
  obtain ⟨monthLower, monthUpper, -, day⟩ := valid
  have short := (monthLength_bounds date.year monthLower monthUpper).2
  omega

end DocumentStore.CalendarDate

import Mathlib.Algebra.Ring.Nat
import Mathlib.Data.List.TakeWhile
import DocumentStore.Instant.Iso
import DocumentStore.Instant.Text

/-!
This file shows that numbers of a fixed width are read back from their digits, and that no other
text is read as the same number.
-/

namespace DocumentStore

/-- A small value has exactly the digits of its width. -/
theorem length_padded {width value : Nat} (positive : 0 < width) (small : value < 10 ^ width) :
    (padded width value).length = width := by
  have short := (Nat.length_toDigits_le_iff (by decide : 1 < 10) positive).mpr small
  rw [padded, List.length_leftpad]
  omega

/-- A padded value only has digits. -/
theorem isDigit_of_mem_padded {width value : Nat} {char : Char}
    (member : char ∈ padded width value) : char.isDigit = true := by
  rcases List.mem_append.mp member with zero | digit
  · rw [List.eq_of_mem_replicate zero]
    rfl
  · exact Nat.isDigit_of_mem_toDigits (by decide) (by decide) digit

/-- The value of digits is the one of the library. -/
theorem digitsValue_eq (digits : List Char) : digitsValue digits = Nat.ofDigitChars 10 digits 0 :=
  rfl

/-- A padded value is read back. -/
theorem digitsValue_padded (width value : Nat) : digitsValue (padded width value) = value := by
  rw [digitsValue_eq, padded, List.leftpad, Nat.ofDigitChars_append,
    Nat.ofDigitChars_replicate_zero, Nat.mul_zero, Nat.ofDigitChars_ten_toDigits]

/-- The front digits count as often as the back ones are long. -/
theorem digitsValue_append (front back : List Char) :
    digitsValue (front ++ back) = 10 ^ back.length * digitsValue front + digitsValue back := by
  rw [digitsValue_eq, Nat.ofDigitChars_append, Nat.ofDigitChars_eq_ofDigitChars_zero]
  rfl

/-- The first digit counts most. -/
theorem digitsValue_cons (digit : Char) (rest : List Char) :
    digitsValue (digit :: rest) =
      10 ^ rest.length * (digit.toNat - '0'.toNat) + digitsValue rest := by
  have front : digitsValue [digit] = digit.toNat - '0'.toNat := by
    rw [digitsValue_eq, Nat.ofDigitChars_cons, Nat.ofDigitChars_nil, Nat.mul_zero, Nat.zero_add]
  rw [← front]
  exact digitsValue_append [digit] rest

/-- The value of digits is bounded by their number. -/
theorem digitsValue_lt {digits : List Char} (all : ∀ char ∈ digits, char.isDigit = true) :
    digitsValue digits < 10 ^ digits.length := by
  induction digits with
  | nil => decide
  | cons digit rest inductionHypothesis =>
      rw [List.forall_mem_cons] at all
      have upper := (Char.isDigit_iff_toNat.mp all.1).2
      have first : digit.toNat - '0'.toNat ≤ 9 := Nat.sub_le_sub_right upper _
      have shifted := Nat.mul_le_mul_left (10 ^ rest.length) first
      have behind := inductionHypothesis all.2
      rw [digitsValue_cons, List.length_cons, pow_succ]
      omega

/-- Digits are known from their value and their number. -/
theorem eq_of_digitsValue_eq {first second : List Char}
    (firstAll : ∀ char ∈ first, char.isDigit = true)
    (secondAll : ∀ char ∈ second, char.isDigit = true) (length : first.length = second.length)
    (value : digitsValue first = digitsValue second) : first = second := by
  induction first generalizing second with
  | nil => exact (List.length_eq_zero_iff.mp length.symm).symm
  | cons digit rest inductionHypothesis =>
      cases second with
      | nil => cases length
      | cons other others =>
          rw [List.forall_mem_cons] at firstAll secondAll
          have sameLength : rest.length = others.length := Nat.succ.inj length
          rw [digitsValue_cons, digitsValue_cons, sameLength] at value
          have restSmall := digitsValue_lt firstAll.2
          have othersSmall := digitsValue_lt secondAll.2
          rw [sameLength] at restSmall
          -- The rest is the remainder by a power of ten, and the first digit is the quotient.
          have sameRest : digitsValue rest = digitsValue others := by
            have remainders := congrArg (· % 10 ^ others.length) value
            simpa [Nat.mul_add_mod, Nat.mod_eq_of_lt restSmall, Nat.mod_eq_of_lt othersSmall]
              using remainders
          have sameDigit : digit.toNat - '0'.toNat = other.toNat - '0'.toNat := by
            rw [sameRest] at value
            exact Nat.eq_of_mul_eq_mul_left (Nat.pow_pos (by decide)) (Nat.add_right_cancel value)
          have lower := (Char.isDigit_iff_toNat.mp firstAll.1).1
          have otherLower := (Char.isDigit_iff_toNat.mp secondAll.1).1
          have sameChar : digit = other := Char.toNat_inj.mp (by omega)
          rw [sameChar, inductionHypothesis firstAll.2 secondAll.2 sameLength sameRest]

/-- Digits are written back as they were read. -/
theorem padded_digitsValue {digits : List Char} (some : digits ≠ [])
    (all : ∀ char ∈ digits, char.isDigit = true) :
    padded digits.length (digitsValue digits) = digits := by
  apply eq_of_digitsValue_eq (fun _ => isDigit_of_mem_padded) all
  · exact length_padded (List.length_pos_iff.mpr some) (digitsValue_lt all)
  · exact digitsValue_padded _ _

namespace IsoText

/-- A number is read when the text starts with its digits in full width. -/
theorem takeNumber_eq_some_iff {width value : Nat} (positive : 0 < width) {text rest : List Char} :
    takeNumber width text = some (value, rest) ↔
      value < 10 ^ width ∧ text = padded width value ++ rest := by
  constructor
  · intro taken
    simp only [takeNumber] at taken
    split at taken
    · next digits =>
        obtain ⟨length, all⟩ := digits
        cases taken
        have some : text.take width ≠ [] := List.length_pos_iff.mp (length.symm ▸ positive)
        have small := digitsValue_lt (List.all_eq_true.mp all)
        have same := padded_digitsValue some (List.all_eq_true.mp all)
        rw [length] at small same
        exact ⟨small, by rw [same, List.take_append_drop]⟩
    · cases taken
  · rintro ⟨small, rfl⟩
    have length := length_padded positive small
    have front : (padded width value ++ rest).take width = padded width value :=
      List.take_left' length
    have back : (padded width value ++ rest).drop width = rest := List.drop_left' length
    have digits : (padded width value).all Char.isDigit = true :=
      List.all_eq_true.mpr fun _ => isDigit_of_mem_padded
    simp only [takeNumber, front, back]
    rw [if_pos ⟨length, digits⟩, digitsValue_padded]

/-- A padded value is taken as far as its width. -/
theorem takeNumber_padded {width value : Nat} (positive : 0 < width) (small : value < 10 ^ width)
    (rest : List Char) : takeNumber width (padded width value ++ rest) = some (value, rest) :=
  (takeNumber_eq_some_iff positive).mpr ⟨small, rfl⟩

theorem dropChar_self (char : Char) (rest : List Char) : dropChar char (char :: rest) = some rest :=
  if_pos rfl

/-- A character is only dropped from the start. -/
theorem dropChar_eq_some_iff {char : Char} {text rest : List Char} :
    dropChar char text = some rest ↔ text = char :: rest := by
  cases text with
  | nil => simp [dropChar]
  | cons first others =>
      by_cases same : first = char
      · simp [dropChar, same]
      · simp [dropChar, same]

/-- This is a fraction of a second in whole milliseconds. -/
def fractionMilliseconds (digits : List Char) : Nat :=
  digitsValue digits * 1000 / 10 ^ digits.length

/-- A fraction is less than a second. -/
theorem fractionMilliseconds_lt {digits : List Char}
    (all : ∀ char ∈ digits, char.isDigit = true) : fractionMilliseconds digits < 1000 := by
  rw [fractionMilliseconds, Nat.div_lt_iff_lt_mul (Nat.pow_pos (by decide)), Nat.mul_comm 1000]
  exact Nat.mul_lt_mul_of_pos_right (digitsValue_lt all) (by decide)

/-- The first three digits are the milliseconds, and missing digits count as zeros. -/
theorem digitsValue_take_three {digits : List Char} (some : digits ≠ [])
    (all : ∀ char ∈ digits, char.isDigit = true) :
    digitsValue ((digits ++ ['0', '0']).take 3) = fractionMilliseconds digits := by
  obtain ⟨count, length⟩ := Nat.exists_eq_succ_of_ne_zero (mt List.length_eq_zero_iff.mp some)
  -- Two more zeros make the value a hundred times as large, and the division rounds off what stands
  -- behind the first three digits.
  have extended := digitsValue_append digits ['0', '0']
  have split := digitsValue_append ((digits ++ ['0', '0']).take 3) ((digits ++ ['0', '0']).drop 3)
  have behind : ((digits ++ ['0', '0']).drop 3).length = count := by
    simp [length]
  have backDigits : ∀ char ∈ (digits ++ ['0', '0']).drop 3, char.isDigit = true := by
    intro char member
    rcases List.mem_append.mp (List.mem_of_mem_drop member) with digit | zero
    · exact all char digit
    · have same : char = '0' := by simpa using zero
      rw [same]
      rfl
  have small := digitsValue_lt backDigits
  rw [List.take_append_drop, extended, behind] at split
  rw [behind] at small
  have zeros : digitsValue ['0', '0'] = 0 := rfl
  have total : digitsValue digits * 100 =
      10 ^ count * digitsValue ((digits ++ ['0', '0']).take 3) +
        digitsValue ((digits ++ ['0', '0']).drop 3) := by
    rw [← split, zeros]
    exact Nat.mul_comm _ _
  have scaled : digitsValue digits * 1000 = digitsValue digits * 100 * 10 := by omega
  rw [fractionMilliseconds, length, Nat.succ_eq_add_one, pow_succ, scaled,
    Nat.mul_div_mul_right _ _ (by decide), total, Nat.mul_add_div (Nat.pow_pos (by decide)),
    Nat.div_eq_of_lt small, Nat.add_zero]

/-- The rest of a text does not go on with a digit. -/
def StopsDigits (rest : List Char) : Prop :=
  ∀ char ∈ rest.head?, char.isDigit = false

/-- Digits are taken up to where they stop. -/
theorem StopsDigits.span {rest : List Char} (stops : StopsDigits rest) {digits : List Char}
    (all : ∀ char ∈ digits, char.isDigit = true) :
    (digits ++ rest).takeWhile Char.isDigit = digits ∧
      (digits ++ rest).dropWhile Char.isDigit = rest := by
  rw [List.takeWhile_append_of_pos all, List.dropWhile_append_of_pos all]
  cases rest with
  | nil => simp
  | cons char others =>
      have stop : char.isDigit = false := stops char rfl
      simp [stop]

/-- A fraction is a dot with all digits that follow. -/
theorem takeFraction_eq_some_iff {text rest : List Char} {millisecond : Nat} :
    takeFraction text = some (millisecond, rest) ↔
      ∃ digits, digits ≠ [] ∧ (∀ char ∈ digits, char.isDigit = true) ∧ StopsDigits rest ∧
        text = '.' :: digits ++ rest ∧ millisecond = fractionMilliseconds digits := by
  constructor
  · intro taken
    simp only [takeFraction, Option.bind_eq_bind, Option.bind_eq_some_iff] at taken
    obtain ⟨tail, point, taken⟩ := taken
    rw [dropChar_eq_some_iff] at point
    split at taken
    · cases taken
    · next some =>
        have nonempty : tail.takeWhile Char.isDigit ≠ [] := mt List.isEmpty_iff.mpr some
        have all : ∀ char ∈ tail.takeWhile Char.isDigit, char.isDigit = true :=
          fun _ member => List.mem_takeWhile_imp member
        cases taken
        refine ⟨tail.takeWhile Char.isDigit, nonempty, all, ?_, ?_,
          digitsValue_take_three nonempty all⟩
        · intro char first
          have stop := List.head?_dropWhile_not Char.isDigit tail
          rw [Option.mem_def.mp first] at stop
          exact stop
        · rw [point, List.cons_append, List.takeWhile_append_dropWhile]
  · rintro ⟨digits, nonempty, all, stops, rfl, rfl⟩
    obtain ⟨front, back⟩ := stops.span all
    have point : dropChar '.' ('.' :: digits ++ rest) = some (digits ++ rest) :=
      dropChar_eq_some_iff.mpr rfl
    have some : digits.isEmpty = false := List.isEmpty_eq_false_iff.mpr nonempty
    unfold takeFraction
    rw [point, Option.bind_eq_bind, Option.bind_some, front, back]
    simp only [some, digitsValue_take_three nonempty all]
    rfl

end IsoText

end DocumentStore

import Mathlib.Algebra.Ring.Nat
import DocumentStore.Proofs.Value.Ordering

/-!
This file shows that rounding keeps the order of integers. Integers that are rounded to different
doubles compare as they did before, integers with the same double are close to each other, and
integers of at most 53 bits are not rounded at all.
-/

namespace DocumentStore

/-- Rounding adds less than one. -/
theorem divideToEven_le (numerator denominator : Nat) :
    divideToEven numerator denominator ≤ numerator / denominator + 1 := by
  simp only [divideToEven]
  split
  · exact Nat.le_succ _
  · split <;> omega

/-- A greater numerator is not rounded to less. -/
theorem divideToEven_mono (denominator : Nat) {smaller greater : Nat}
    (ordered : smaller ≤ greater) :
    divideToEven smaller denominator ≤ divideToEven greater denominator := by
  have quotients := Nat.div_le_div_right (c := denominator) ordered
  rcases Nat.eq_or_lt_of_le quotients with same | apart
  · -- With one quotient for both, the remainders decide.
    have smallerParts := Nat.div_add_mod smaller denominator
    have greaterParts := Nat.div_add_mod greater denominator
    have remainders : smaller % denominator ≤ greater % denominator := by
      rw [same] at smallerParts
      omega
    simp only [divideToEven, same]
    split <;> split <;> grind
  · calc divideToEven smaller denominator
      _ ≤ smaller / denominator + 1 := divideToEven_le smaller denominator
      _ ≤ greater / denominator := apart
      _ ≤ divideToEven greater denominator := divideToEven_ge greater denominator

/-- An exact quotient is not rounded. -/
theorem divideToEven_mul (quotient : Nat) {denominator : Nat} (positive : 0 < denominator) :
    divideToEven (quotient * denominator) denominator = quotient := by
  simp [divideToEven, Nat.mul_div_cancel quotient positive, positive]

/-- Rounding moves a quotient by at most one half. -/
theorem divideToEven_near (numerator : Nat) {denominator : Nat} (positive : 0 < denominator) :
    2 * numerator ≤ 2 * (divideToEven numerator denominator * denominator) + denominator ∧
      2 * (divideToEven numerator denominator * denominator) ≤ 2 * numerator + denominator := by
  have parts := Nat.div_add_mod' numerator denominator
  have remainder := Nat.mod_lt numerator positive
  simp only [divideToEven]
  split
  · omega
  · split
    · rw [Nat.add_mul]
      omega
    · rcases Nat.mod_two_eq_zero_or_one (numerator / denominator) with even | odd
      · rw [even, Nat.add_zero]
        omega
      · rw [odd, Nat.add_mul]
        omega

namespace Magnitude

/-- Nothing is lost by a shift to the left. -/
theorem shiftLeft_inj {left right shift : Nat} (same : left <<< shift = right <<< shift) :
    left = right := by
  rw [Nat.shiftLeft_eq, Nat.shiftLeft_eq] at same
  exact Nat.eq_of_mul_eq_mul_right (Nat.two_pow_pos shift) same

/-- This is the spacing of the magnitudes around a count of units, as a power of two. -/
def spacing (count : Nat) : Nat :=
  count.log2 - 52

/-- This is the count of units that a count is rounded to. -/
def roundedUnits (count : Nat) : Nat :=
  divideToEven count (2 ^ spacing count) * 2 ^ spacing count

/-- A count of units has at most 53 bits above the spacing. -/
theorem lt_spacing (count : Nat) : count < 2 ^ (53 + spacing count) := by
  have bits : count.log2 + 1 ≤ 53 + spacing count := by
    unfold spacing
    omega
  exact Nat.lt_of_lt_of_le Nat.lt_log2_self (Nat.pow_le_pow_right (by decide) bits)

/-- A quotient with 53 bits is at most rounded to the power of two above it. -/
theorem divideToEven_spacing_le (count : Nat) :
    divideToEven count (2 ^ spacing count) ≤ 2 ^ 53 := by
  have quotient : count / 2 ^ spacing count < 2 ^ 53 := by
    rw [Nat.div_lt_iff_lt_mul (Nat.two_pow_pos _), ← Nat.pow_add]
    exact lt_spacing count
  exact (divideToEven_le _ _).trans quotient

/-- Rounding does not go beyond the next power of two. -/
theorem roundedUnits_le (count : Nat) : roundedUnits count ≤ 2 ^ (53 + spacing count) := by
  rw [roundedUnits, Nat.pow_add]
  exact Nat.mul_le_mul_right _ (divideToEven_spacing_le count)

/-- Rounding does not go below a power of two that has all bits of a significand. -/
theorem le_roundedUnits {count : Nat} (wide : 52 ≤ count.log2) :
    2 ^ count.log2 ≤ roundedUnits count := by
  have parts : count.log2 = 52 + spacing count := by
    unfold spacing
    omega
  have positive : count ≠ 0 := by
    rintro rfl
    exact absurd wide (by decide)
  have quotient : 2 ^ 52 ≤ count / 2 ^ spacing count := by
    rw [Nat.le_div_iff_mul_le (Nat.two_pow_pos _), ← Nat.pow_add, ← parts]
    exact Nat.log2_self_le positive
  rw [roundedUnits, parts, Nat.pow_add]
  exact Nat.mul_le_mul_right _ (quotient.trans (divideToEven_ge _ _))

/-- Rounding keeps the order of magnitudes. -/
theorem roundedUnits_mono {smaller greater : Nat} (ordered : smaller ≤ greater) :
    roundedUnits smaller ≤ roundedUnits greater := by
  by_cases same : spacing smaller = spacing greater
  · rw [roundedUnits, roundedUnits, same]
    exact Nat.mul_le_mul_right _ (divideToEven_mono _ ordered)
  · -- A power of two stands between counts with different spacings.
    have logs : smaller.log2 ≤ greater.log2 := by
      by_cases zero : smaller = 0
      · rw [zero]
        exact Nat.zero_le _
      · apply (Nat.le_log2 (by omega)).mpr
        exact (Nat.log2_self_le zero).trans ordered
    have between : 53 + spacing smaller ≤ greater.log2 := by
      unfold spacing at same ⊢
      omega
    calc roundedUnits smaller
      _ ≤ 2 ^ (53 + spacing smaller) := roundedUnits_le smaller
      _ ≤ 2 ^ greater.log2 := Nat.pow_le_pow_right (by decide) between
      _ ≤ roundedUnits greater := le_roundedUnits (by omega)

/-- A multiple of the spacing is not rounded. -/
theorem roundedUnits_of_dvd {count : Nat} (multiple : 2 ^ spacing count ∣ count) :
    roundedUnits count = count := by
  obtain ⟨quotient, parts⟩ := multiple
  have exact : divideToEven count (2 ^ spacing count) = quotient := by
    nth_rewrite 1 [parts]
    rw [Nat.mul_comm]
    exact divideToEven_mul quotient (Nat.two_pow_pos _)
  rw [roundedUnits, exact, Nat.mul_comm]
  exact parts.symm

/-- Rounding moves a count by at most one part in 2 ^ 53. -/
theorem roundedUnits_near (count : Nat) :
    ((roundedUnits count : Int) - count).natAbs * 2 ^ 53 ≤ count := by
  by_cases narrow : count.log2 ≤ 52
  · have exact : roundedUnits count = count := by
      apply roundedUnits_of_dvd
      rw [spacing, Nat.sub_eq_zero_of_le narrow]
      exact Nat.one_dvd count
    simp [exact]
  · have half : ((roundedUnits count : Int) - count).natAbs * 2 ≤ 2 ^ spacing count := by
      have near := divideToEven_near count (Nat.two_pow_pos (spacing count))
      unfold roundedUnits
      omega
    have bits : spacing count + 52 = count.log2 := by
      unfold spacing
      omega
    have positive : count ≠ 0 := by
      rintro rfl
      exact narrow (by decide)
    calc ((roundedUnits count : Int) - count).natAbs * 2 ^ 53
      _ = ((roundedUnits count : Int) - count).natAbs * 2 * 2 ^ 52 := by
        rw [Nat.mul_assoc, ← Nat.pow_succ']
      _ ≤ 2 ^ spacing count * 2 ^ 52 := Nat.mul_le_mul_right _ half
      _ = 2 ^ count.log2 := by rw [← Nat.pow_add, bits]
      _ ≤ count := Nat.log2_self_le positive

/-- A significand of at most 53 bits is not rounded, whatever its scale is. -/
theorem roundedUnits_shiftLeft {value : Nat} (small : value ≤ 2 ^ 53) (shift : Nat) :
    roundedUnits (value <<< shift) = value <<< shift := by
  apply roundedUnits_of_dvd
  rw [Nat.shiftLeft_eq]
  rcases Nat.eq_or_lt_of_le small with rfl | smaller
  · rw [← Nat.pow_add]
    apply Nat.pow_dvd_pow
    rw [spacing, Nat.log2_two_pow]
    omega
  · apply Nat.dvd_mul_left_of_dvd
    apply Nat.pow_dvd_pow
    have bounded : value * 2 ^ shift < 2 ^ (53 + shift) := by
      rw [Nat.pow_add]
      exact Nat.mul_lt_mul_of_pos_right smaller (Nat.two_pow_pos shift)
    have bits : (value * 2 ^ shift).log2 < 53 + shift ∨ value * 2 ^ shift = 0 := by
      by_cases zero : value * 2 ^ shift = 0
      · exact .inr zero
      · exact .inl ((Nat.log2_lt zero).mpr bounded)
    rcases bits with bits | zero
    · unfold spacing
      omega
    · rw [zero]
      exact Nat.zero_le shift

/-- The nearest magnitude has the rounded count of units. -/
theorem units_of_nearest? {count : Nat} {magnitude : Magnitude}
    (found : nearest? count 1 = some magnitude) : magnitude.units = roundedUnits count := by
  have scale : scaleOf count 1 = spacing count := by rw [scaleOf, Nat.div_one, spacing]
  have limit := divideToEven_spacing_le count
  unfold nearest? at found
  simp only [scale, Nat.one_shiftLeft] at found
  split at found
  · unfold ofSignificand? at found
    split at found
    · cases found
      exact Nat.shiftLeft_eq _ _
    · cases found
  · next large =>
      -- The significand has one bit too many, so it is exactly the next power of two.
      have carried : divideToEven count (2 ^ spacing count) = 2 ^ 53 := by omega
      unfold ofSignificand? at found
      split at found
      · cases found
        rw [roundedUnits, carried, units, Nat.shiftLeft_eq, Nat.pow_succ, Nat.mul_comm _ 2,
          ← Nat.mul_assoc]
        rfl
      · cases found

end Magnitude

namespace Double

/-- This is the place of the double that an integer is rounded to. -/
def roundedPlace (value : Int) : Int :=
  if value < 0 then -(Magnitude.roundedUnits (value.natAbs <<< 1074) : Int)
  else Magnitude.roundedUnits (value.natAbs <<< 1074)

/-- A number is rounded to the place of its magnitude, on the side of its sign. -/
theorem place_nearest {count : Nat} {magnitude : Magnitude}
    (found : Magnitude.nearest? count 1 = some magnitude) (negative : Bool) :
    (nearest negative count 1).place =
      some (if negative then -(Magnitude.roundedUnits count : Int)
        else Magnitude.roundedUnits count) := by
  rw [← Magnitude.units_of_nearest? found]
  unfold nearest
  rw [found]
  exact place_finite _

/-- An integer of at most 64 bits has its rounded place. -/
theorem place_ofInt {value : Int} (bound : value.natAbs < 18446744073709551616) :
    (ofInt value).place = some (roundedPlace value) := by
  have small : value.natAbs < 2 ^ 64 := bound
  have scale := Magnitude.scaleOf_shiftLeft_le value.natAbs 64 1074 small
  obtain ⟨magnitude, found⟩ := Magnitude.exists_nearest? _ _ (scale.trans (by decide))
  rw [ofInt, place_nearest found, roundedPlace]
  simp only [decide_eq_true_eq]

/-- Rounding keeps the order of integers. -/
theorem roundedPlace_mono {smaller greater : Int} (ordered : smaller ≤ greater) :
    roundedPlace smaller ≤ roundedPlace greater := by
  have shifted {first second : Nat} (below : first ≤ second) :
      Magnitude.roundedUnits (first <<< 1074) ≤ Magnitude.roundedUnits (second <<< 1074) := by
    apply Magnitude.roundedUnits_mono
    rw [Nat.shiftLeft_eq, Nat.shiftLeft_eq]
    exact Nat.mul_le_mul_right _ below
  unfold roundedPlace
  split
  · split
    · have units := shifted (by omega : greater.natAbs ≤ smaller.natAbs)
      omega
    · omega
  · split
    · omega
    · have units := shifted (by omega : smaller.natAbs ≤ greater.natAbs)
      omega

/-- Integers of at most 53 bits have places of their own. -/
theorem roundedPlace_inj {left right : Int} (leftSmall : left.natAbs ≤ 2 ^ 53)
    (rightSmall : right.natAbs ≤ 2 ^ 53) (same : roundedPlace left = roundedPlace right) :
    left = right := by
  unfold roundedPlace at same
  rw [Magnitude.roundedUnits_shiftLeft leftSmall, Magnitude.roundedUnits_shiftLeft rightSmall]
    at same
  have zero : (0 : Nat) <<< 1074 = 0 := Nat.zero_shiftLeft 1074
  split at same
  · split at same
    · have units := Magnitude.shiftLeft_inj
        (by omega : left.natAbs <<< 1074 = right.natAbs <<< 1074)
      omega
    · have units := Magnitude.shiftLeft_inj (by omega : left.natAbs <<< 1074 = 0 <<< 1074)
      omega
  · split at same
    · have units := Magnitude.shiftLeft_inj (by omega : right.natAbs <<< 1074 = 0 <<< 1074)
      omega
    · have units := Magnitude.shiftLeft_inj
        (by omega : left.natAbs <<< 1074 = right.natAbs <<< 1074)
      omega

/-- This is the count of units in one. -/
def unitsInOne : Nat :=
  1 <<< 1074

theorem shiftLeft_eq_mul_unitsInOne (value : Nat) : value <<< 1074 = value * unitsInOne := by
  rw [unitsInOne, Nat.one_shiftLeft, Nat.shiftLeft_eq]

theorem unitsInOne_pos : 0 < unitsInOne := by
  rw [unitsInOne, Nat.one_shiftLeft]
  exact Nat.two_pow_pos 1074

/-- Rounding moves an integer by at most one part in 2 ^ 53. -/
theorem roundedPlace_near (value : Int) :
    (roundedPlace value - value * unitsInOne).natAbs * 2 ^ 53 ≤ value.natAbs * unitsInOne := by
  have units := Magnitude.roundedUnits_near (value.natAbs <<< 1074)
  unfold roundedPlace
  rw [shiftLeft_eq_mul_unitsInOne] at units ⊢
  rw [Int.natCast_mul] at units
  split
  · next negative =>
      rw [Int.ofNat_natAbs_of_nonpos (Int.le_of_lt negative), Int.neg_mul] at units
      rwa [← Int.natAbs_neg, Int.neg_sub, Int.sub_neg, Int.add_comm, ← Int.sub_neg]
  · next nonnegative =>
      rwa [Int.natAbs_of_nonneg (Int.not_lt.mp nonnegative)] at units

variable {left right : Int}

/-- Integers compare as doubles by their rounded places. -/
theorem compare?_ofInt (leftBound : left.natAbs < 18446744073709551616)
    (rightBound : right.natAbs < 18446744073709551616) :
    (ofInt left).compare? (ofInt right) =
      some (compare (roundedPlace left) (roundedPlace right)) := by
  rw [compare?, place_ofInt leftBound, place_ofInt rightBound]

/-- Integers are equal as doubles when their rounded places are. -/
theorem same_ofInt_iff (leftBound : left.natAbs < 18446744073709551616)
    (rightBound : right.natAbs < 18446744073709551616) :
    (ofInt left).Same (ofInt right) ↔ roundedPlace left = roundedPlace right := by
  rw [Same, place_ofInt leftBound, place_ofInt rightBound]
  simp [eq_comm]

/-- Integers with different doubles compare as their doubles do. -/
theorem compare?_ofInt_of_not_same (leftBound : left.natAbs < 18446744073709551616)
    (rightBound : right.natAbs < 18446744073709551616)
    (apart : ¬ (ofInt left).Same (ofInt right)) :
    (ofInt left).compare? (ofInt right) = some (compare left right) := by
  rw [same_ofInt_iff leftBound rightBound] at apart
  rw [compare?_ofInt leftBound rightBound]
  apply congrArg
  rcases Int.lt_trichotomy left right with less | same | greater
  · have places := roundedPlace_mono (Int.le_of_lt less)
    rw [compare_lt_iff_lt.mpr less, compare_lt_iff_lt]
    omega
  · rw [same] at apart
    exact absurd rfl apart
  · have places := roundedPlace_mono (Int.le_of_lt greater)
    rw [compare_gt_iff_gt.mpr greater, compare_gt_iff_gt]
    omega

/-- Integers with the same double are close to each other. -/
theorem near_of_same_ofInt (leftBound : left.natAbs < 18446744073709551616)
    (rightBound : right.natAbs < 18446744073709551616)
    (same : (ofInt left).Same (ofInt right)) :
    (left - right).natAbs * 2 ^ 53 ≤ left.natAbs + right.natAbs := by
  rw [same_ofInt_iff leftBound rightBound] at same
  have leftNear := roundedPlace_near left
  rw [same] at leftNear
  have between : (left * unitsInOne - right * unitsInOne).natAbs ≤
      (roundedPlace right - left * unitsInOne).natAbs +
        (roundedPlace right - right * unitsInOne).natAbs := by
    omega
  apply Nat.le_of_mul_le_mul_right _ unitsInOne_pos
  calc (left - right).natAbs * 2 ^ 53 * unitsInOne
    _ = (left * unitsInOne - right * unitsInOne).natAbs * 2 ^ 53 := by
      rw [← Int.sub_mul, Int.natAbs_mul, Int.natAbs_natCast, Nat.mul_right_comm]
    _ ≤ ((roundedPlace right - left * unitsInOne).natAbs +
        (roundedPlace right - right * unitsInOne).natAbs) * 2 ^ 53 :=
      Nat.mul_le_mul_right _ between
    _ ≤ left.natAbs * unitsInOne + right.natAbs * unitsInOne := by
      rw [Nat.add_mul]
      exact Nat.add_le_add leftNear (roundedPlace_near right)
    _ = (left.natAbs + right.natAbs) * unitsInOne := (Nat.add_mul _ _ _).symm

/-- Integers of at most 53 bits have doubles of their own. -/
theorem eq_of_same_ofInt (leftSmall : left.natAbs ≤ 2 ^ 53) (rightSmall : right.natAbs ≤ 2 ^ 53)
    (same : (ofInt left).Same (ofInt right)) : left = right := by
  rw [same_ofInt_iff (by omega) (by omega)] at same
  exact roundedPlace_inj leftSmall rightSmall same

end Double

end DocumentStore

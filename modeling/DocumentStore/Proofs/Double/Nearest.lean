import DocumentStore.Proofs.Double.Monotone

/-!
This file shows that an integer is rounded to a nearest double: no finite double is closer to it.
-/

namespace DocumentStore

namespace Magnitude

/-- No multiple of the spacing is nearer to a count than the count that it is rounded to. -/
theorem roundedUnits_nearest_of_dvd (count : Nat) {place : Int}
    (multiple : (2 ^ spacing count : Nat) ∣ place.natAbs) :
    ((roundedUnits count : Int) - count).natAbs ≤ (place - count).natAbs := by
  have half := divideToEven_near count (Nat.two_pow_pos (spacing count))
  change 2 * count ≤ 2 * roundedUnits count + _ ∧ 2 * roundedUnits count ≤ _ at half
  by_contra nearer
  have close : ((roundedUnits count : Int) - place).natAbs < 2 ^ spacing count := by omega
  have multiples : ((2 ^ spacing count : Nat) : Int) ∣ roundedUnits count - place := by
    apply Int.dvd_sub
    · exact Int.natCast_dvd_natCast.mpr (Nat.dvd_mul_left _ _)
    · exact Int.ofNat_dvd_left.mpr multiple
  have same := Int.eq_zero_of_dvd_of_natAbs_lt_natAbs multiples (by simpa using close)
  omega

/-- A magnitude is a multiple of the spacing, or it lies below the binade of the count. -/
theorem dvd_units_or_lt (magnitude : Magnitude) (count : Nat) :
    2 ^ spacing count ∣ magnitude.units ∨ magnitude.units < 2 ^ count.log2 := by
  rw [units, Nat.shiftLeft_eq]
  rcases Nat.lt_or_ge magnitude.scale (spacing count) with fine | coarse
  · have bits : 53 + magnitude.scale ≤ count.log2 := by
      unfold spacing at fine
      omega
    have bounded : magnitude.significand * 2 ^ magnitude.scale < 2 ^ (53 + magnitude.scale) := by
      rw [Nat.pow_add]
      exact Nat.mul_lt_mul_of_pos_right magnitude.significand_lt (Nat.two_pow_pos _)
    exact .inr (Nat.lt_of_lt_of_le bounded (Nat.pow_le_pow_right (by decide) bits))
  · exact .inl (Nat.dvd_mul_left_of_dvd (Nat.pow_dvd_pow 2 coarse) _)

/-- No magnitude with a sign is nearer to a count than the count that it is rounded to. -/
theorem roundedUnits_nearest (count : Nat) {place : Int} {magnitude : Magnitude}
    (units : place.natAbs = magnitude.units) :
    ((roundedUnits count : Int) - count).natAbs ≤ (place - count).natAbs := by
  rcases magnitude.dvd_units_or_lt count with multiple | below
  · exact roundedUnits_nearest_of_dvd count (units ▸ multiple)
  · by_cases zero : count = 0
    · have exact : roundedUnits count = count := by
        apply roundedUnits_of_dvd
        rw [zero]
        exact Nat.dvd_zero _
      simp [exact]
    · -- The power of two at the bottom of the binade is a multiple of the spacing in between.
      have multiple : 2 ^ spacing count ∣ 2 ^ count.log2 := Nat.pow_dvd_pow 2 (Nat.sub_le _ _)
      have bottom : ((roundedUnits count : Int) - count).natAbs ≤
          (((2 ^ count.log2 : Nat) : Int) - count).natAbs :=
        roundedUnits_nearest_of_dvd count multiple
      have inside := Nat.log2_self_le zero
      omega

end Magnitude

theorem FiniteDouble.natAbs_units (number : FiniteDouble) :
    number.units.natAbs = number.magnitude.units := by
  unfold units
  split <;> simp

/-- A double is nearest to an integer when no finite double is closer to it. -/
def FiniteDouble.IsNearest (number : FiniteDouble) (value : Int) : Prop :=
  ∀ other : FiniteDouble, (number.units - value * Double.unitsInOne).natAbs ≤
    (other.units - value * Double.unitsInOne).natAbs

namespace Double

/-- A negative integer is rounded as its opposite. -/
theorem isNearest_of_ofInt {value : Int} {number : FiniteDouble}
    (bound : value.natAbs < 18446744073709551616) (rounded : ofInt value = .finite number) :
    number.IsNearest value := by
  intro other
  have place : number.units = roundedPlace value := by
    have found := place_ofInt bound
    rw [rounded, place_finite] at found
    exact Option.some.inj found
  have magnitude := other.natAbs_units
  rw [place, roundedPlace, shiftLeft_eq_mul_unitsInOne]
  -- Rounding keeps the sign, so a negative integer is the case of its magnitude.
  split
  · next negative =>
      have opposite : value * unitsInOne = -((value.natAbs * unitsInOne : Nat) : Int) := by
        rw [Int.natCast_mul, Int.ofNat_natAbs_of_nonpos (Int.le_of_lt negative), Int.neg_mul,
          Int.neg_neg]
      have turned : (-other.units).natAbs = other.magnitude.units := by
        rw [Int.natAbs_neg, magnitude]
      have nearest := Magnitude.roundedUnits_nearest (value.natAbs * unitsInOne) turned
      rw [opposite]
      generalize value.natAbs * unitsInOne = count at nearest ⊢
      omega
  · next nonnegative =>
      have same : value * unitsInOne = ((value.natAbs * unitsInOne : Nat) : Int) := by
        rw [Int.natCast_mul, Int.natAbs_of_nonneg (Int.not_lt.mp nonnegative)]
      rw [same]
      exact Magnitude.roundedUnits_nearest (value.natAbs * unitsInOne) magnitude

end Double

end DocumentStore

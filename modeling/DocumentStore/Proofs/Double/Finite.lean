import Mathlib.Algebra.Ring.Nat
import DocumentStore.Double.Rounding

/-!
This file shows that integers of 64 bits round to finite numbers.
-/

namespace DocumentStore

namespace Magnitude

/-- A quotient of few bits has a nearest magnitude. -/
theorem exists_nearest? (numerator denominator : Nat)
    (bound : scaleOf numerator denominator ≤ 2044) :
    ∃ magnitude, nearest? numerator denominator = some magnitude := by
  unfold nearest?
  dsimp only
  split
  · rw [ofSignificand?, dif_pos (by omega)]
    exact ⟨_, rfl⟩
  · rw [ofSignificand?, dif_pos (by omega)]
    exact ⟨_, rfl⟩

/-- The scale of a shifted integer is bounded by its bits and by the shift. -/
theorem scaleOf_shiftLeft_le (value bits shift : Nat) (small : value < 2 ^ bits) :
    scaleOf (value <<< shift) 1 ≤ bits + shift := by
  have bounded : value <<< shift < 2 ^ (bits + shift) := by
    rw [Nat.shiftLeft_eq, Nat.pow_add]
    exact Nat.mul_lt_mul_of_pos_right small (Nat.two_pow_pos shift)
  have size : (value <<< shift).log2 ≤ bits + shift := by
    by_cases zero : value <<< shift = 0
    · rw [zero]
      exact Nat.zero_le _
    · exact Nat.le_of_lt ((Nat.log2_lt zero).mpr bounded)
  rw [scaleOf, Nat.div_one]
  omega

end Magnitude

namespace Double

/-- A finite number has a place on the line. -/
theorem place_finite (number : FiniteDouble) : (finite number).place = some number.units := rfl

/-- Only what is not a number has no place. -/
theorem place_eq_none_iff {value : Double} : value.place = none ↔ value = .nan := by
  cases value with
  | nan => exact iff_of_true rfl rfl
  | infinite negative => cases negative <;> exact iff_of_false nofun nofun
  | finite number => exact iff_of_false nofun nofun

/-- A fraction that is not too large is rounded to a finite number. -/
theorem exists_nearest_eq_finite (negative : Bool) (numerator denominator : Nat)
    (bound : Magnitude.scaleOf numerator denominator ≤ 2044) :
    ∃ number, nearest negative numerator denominator = finite number := by
  obtain ⟨magnitude, found⟩ := Magnitude.exists_nearest? numerator denominator bound
  refine ⟨{ negative, magnitude }, ?_⟩
  unfold nearest
  rw [found]

/-- An integer of at most 64 bits is rounded to a finite number. -/
theorem exists_ofInt_eq_finite (value : Int) (bound : value.natAbs < 18446744073709551616) :
    ∃ number, ofInt value = finite number := by
  have small : value.natAbs < 2 ^ 64 := bound
  have scale := Magnitude.scaleOf_shiftLeft_le value.natAbs 64 1074 small
  exact exists_nearest_eq_finite _ _ _ (Nat.le_trans scale (by decide))

end Double

end DocumentStore

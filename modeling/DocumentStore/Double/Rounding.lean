import DocumentStore.Double.Basic

/-!
This file rounds exact quotients to floating-point numbers.

The nearest number is chosen, and a quotient halfway between two goes to the even significand.
-/

namespace DocumentStore

/-- This is the nearest integer to a quotient, and a half goes to the even neighbour. -/
def divideToEven (numerator denominator : Nat) : Nat :=
  let quotient := numerator / denominator
  let remainder := numerator % denominator
  if 2 * remainder < denominator then quotient
  else if denominator < 2 * remainder then quotient + 1
  else quotient + quotient % 2

theorem divideToEven_ge (numerator denominator : Nat) :
    numerator / denominator ≤ divideToEven numerator denominator := by
  simp only [divideToEven]
  split
  · exact Nat.le_refl _
  · split <;> omega

namespace Magnitude

def ofSignificand? (significand scale : Nat) (significand_lt : significand < 9007199254740992)
    (normal : scale = 0 ∨ 4503599627370496 ≤ significand) : Option Magnitude :=
  if scale_le : scale ≤ 2045 then
    some { significand, scale, significand_lt, normal, scale_le }
  else
    none

/-- The scale leaves 53 bits of the quotient, or all bits of a small one. -/
def scaleOf (numerator denominator : Nat) : Nat :=
  (numerator / denominator).log2 - 52

theorem significand_ge (numerator denominator : Nat) :
    scaleOf numerator denominator = 0 ∨
      4503599627370496 ≤
        divideToEven numerator (denominator <<< scaleOf numerator denominator) := by
  by_cases small : scaleOf numerator denominator = 0
  · exact .inl small
  · refine .inr (Nat.le_trans ?_ (divideToEven_ge _ _))
    have positive : numerator / denominator ≠ 0 := by
      intro zero
      simp [scaleOf, zero] at small
    have size : 52 + scaleOf numerator denominator = (numerator / denominator).log2 := by
      simp only [scaleOf] at small ⊢
      omega
    rw [Nat.shiftLeft_eq, ← Nat.div_div_eq_div_mul, Nat.le_div_iff_mul_le (Nat.two_pow_pos _),
      show 4503599627370496 = 2 ^ 52 from rfl, ← Nat.pow_add, size]
    exact Nat.log2_self_le positive

/-- This is the magnitude nearest to a quotient of units, unless the quotient is too large. -/
def nearest? (numerator denominator : Nat) : Option Magnitude :=
  let scale := scaleOf numerator denominator
  let significand := divideToEven numerator (denominator <<< scale)
  if small : significand < 9007199254740992 then
    ofSignificand? significand scale small (significand_ge numerator denominator)
  else
    ofSignificand? 4503599627370496 (scale + 1) (by decide) (.inr (Nat.le_refl _))

end Magnitude

namespace Double

/-- This is the number nearest to a signed quotient of units, and a large one is infinite. -/
def nearest (negative : Bool) (numerator denominator : Nat) : Double :=
  match Magnitude.nearest? numerator denominator with
  | some magnitude => finite { negative, magnitude }
  | none => infinite negative

/-- This is the number nearest to an integer. -/
def ofInt (value : Int) : Double :=
  nearest (value < 0) (value.natAbs <<< 1074) 1

/-- This is the number nearest to `digits * 10 ^ exponent`.

Exponents far outside the range of the numbers are cut off before the power is taken. -/
def ofDecimal (negative : Bool) (digits : Nat) (exponent : Int) : Double :=
  if digits = 0 then finite { negative, magnitude := .zero }
  else if 400 < exponent then infinite negative
  else if 0 ≤ exponent then nearest negative ((digits * Nat.pow 10 exponent.toNat) <<< 1074) 1
  else if exponent + digits.log2 < -400 then finite { negative, magnitude := .zero }
  else nearest negative (digits <<< 1074) (Nat.pow 10 (-exponent).toNat)

end Double

end DocumentStore

import DocumentStore.Double.Rounding

/-!
This file finds the shortest decimal that reads back as a given magnitude.

The decimals that round to a magnitude fill an interval around it. The coarsest power of ten whose
multiples reach the interval gives the fewest digits.
-/

namespace DocumentStore

/-- A decimal counts units of a power of ten. -/
structure Decimal where
  count : Nat
  exponent : Int
  deriving DecidableEq

/-- This choice settles a tie between two equally near decimals. -/
inductive Tie where
  | up
  | even
  deriving DecidableEq

namespace Magnitude

/-- The interval around a magnitude is measured in quarters of its unit. -/
def center (magnitude : Magnitude) : Nat :=
  4 * magnitude.units

/-- The gap below a power of two is half as wide as the gap above it. -/
def lowerEnd (magnitude : Magnitude) : Nat :=
  let gap := if magnitude.significand = 4503599627370496 ∧ magnitude.scale ≠ 0 then 1 else 2
  magnitude.center - gap <<< magnitude.scale

def upperEnd (magnitude : Magnitude) : Nat :=
  magnitude.center + 2 <<< magnitude.scale

/-- This is the value of `10 ^ exponent` in quarters of the unit, as a quotient. -/
def gridStep (exponent : Int) : Nat × Nat :=
  (Nat.pow 10 exponent.toNat <<< 1076, Nat.pow 10 (-exponent).toNat)

/-- A decimal rounds to an even significand also from the ends of its interval. -/
def covers (magnitude : Magnitude) (decimal : Decimal) : Bool :=
  let (step, scale) := gridStep decimal.exponent
  let point := decimal.count * step
  if magnitude.significand % 2 = 0 then
    magnitude.lowerEnd * scale ≤ point && point ≤ magnitude.upperEnd * scale
  else
    magnitude.lowerEnd * scale < point && point < magnitude.upperEnd * scale

/-- This is the nearer of two neighbours on the grid. -/
def nearer (tie : Tie) (magnitude : Magnitude) (lower : Decimal) : Decimal :=
  let (step, scale) := gridStep lower.exponent
  let upper := { lower with count := lower.count + 1 }
  let below := magnitude.center * scale - lower.count * step
  let above := upper.count * step - magnitude.center * scale
  if below < above then lower
  else if above < below then upper
  else if tie = .even ∧ lower.count % 2 = 0 then lower
  else upper

/-- This is the best multiple of `10 ^ exponent` in the interval, if the interval holds one. -/
def onGrid? (tie : Tie) (magnitude : Magnitude) (exponent : Int) : Option Decimal :=
  let (step, scale) := gridStep exponent
  let lower : Decimal := ⟨magnitude.center * scale / step, exponent⟩
  let upper : Decimal := { lower with count := lower.count + 1 }
  match magnitude.covers lower, magnitude.covers upper with
  | true, true => some (magnitude.nearer tie lower)
  | true, false => some lower
  | false, true => some upper
  | false, false => none

/-- The search goes from coarse powers of ten to fine ones. -/
def searchGrids (tie : Tie) (magnitude : Magnitude) : Nat → Int → Decimal
  | 0, exponent => ⟨magnitude.center * (gridStep exponent).2 / (gridStep exponent).1, exponent⟩
  | fuel + 1, exponent =>
    (magnitude.onGrid? tie exponent).getD (magnitude.searchGrids tie fuel (exponent - 1))

/-- This power of ten lies above the magnitude, by `log 2 < 0.30103`. -/
def firstExponent (magnitude : Magnitude) : Int :=
  ((magnitude.units.log2 : Int) - 1072) * 30103 / 100000 + 1

/-- Seventeen digits always suffice, so the search ends after a few grids more. -/
def shortest (tie : Tie) (magnitude : Magnitude) : Decimal :=
  magnitude.searchGrids tie 24 magnitude.firstExponent

end Magnitude

end DocumentStore

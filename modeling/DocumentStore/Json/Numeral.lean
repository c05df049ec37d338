import DocumentStore.Double.Reader
import DocumentStore.Json.Basic

/-!
This file reads the numbers of JSON from their numerals.

A number without a fraction or an exponent is an integer when it fits into 64 bits. Any other
number is a double, and so is minus zero. A double is rounded twice: its first digits are rounded,
and they are then multiplied or divided by a rounded power of ten.
-/

namespace DocumentStore

namespace Magnitude

/-- This is the magnitude nearest to a product, unless the product is too large. -/
def product? (left right : Magnitude) : Option Magnitude :=
  nearest? (left.units * right.units) (1 <<< 1074)

/-- This is the magnitude nearest to a quotient, unless the quotient is too large. -/
def quotient? (left right : Magnitude) : Option Magnitude :=
  nearest? (left.units <<< 1074) right.units

/-- This is the magnitude nearest to a whole number, unless the number is too large. -/
def ofNat? (value : Nat) : Option Magnitude :=
  nearest? (value <<< 1074) 1

/-- Powers of ten are magnitudes up to this exponent. -/
def largestPower : Nat :=
  308

/-- This multiplies by a power of ten, which is rounded too. -/
def timesPower? (magnitude : Magnitude) (exponent : Nat) : Option Magnitude := do
  if largestPower < exponent then
    if magnitude.significand = 0 then some magnitude else none
  else magnitude.product? (← ofNat? (Nat.pow 10 exponent))

/-- This divides by the largest power of ten as often as it has to, and then by the rest.

Every number of 64 bits has become zero after the first three divisions. -/
def dividedByPower? : Nat → Magnitude → Nat → Option Magnitude
  | 0, _, _ => some zero
  | divisions + 1, magnitude, exponent => do
    if largestPower < exponent then
      let quotient ← magnitude.quotient? (← ofNat? (Nat.pow 10 largestPower))
      dividedByPower? divisions quotient (exponent - largestPower)
    else magnitude.quotient? (← ofNat? (Nat.pow 10 exponent))

/-- This scales a magnitude by a power of ten. -/
def scaled? (magnitude : Magnitude) (exponent : Int) : Option Magnitude :=
  if 0 ≤ exponent then magnitude.timesPower? exponent.toNat
  else dividedByPower? 3 magnitude (-exponent).toNat

end Magnitude

namespace Numeral

/-- This appends digits to a value while it fits into 64 bits, and counts them. -/
def appendDigits (value : Nat) : List Char → Nat × Nat
  | [] => (value, 0)
  | digit :: rest =>
    let next := 10 * value + (digit.toNat - '0'.toNat)
    if next < 18446744073709551616 then
      let (last, count) := appendDigits next rest
      (last, count + 1)
    else (value, 0)

/-- Digits that do not fit are dropped, and those of the whole part raise the exponent. -/
def significant (numeral : Numeral) : Nat × Int :=
  let (whole, wholeCount) := appendDigits 0 numeral.whole
  let (value, fractionCount) := appendDigits whole (numeral.fraction.getD [])
  (value, numeral.exponent.getD 0 + (numeral.whole.length - wholeCount : Nat) - fractionCount)

/-- This is the magnitude of a numeral, unless it is too large. -/
def magnitude? (numeral : Numeral) : Option Magnitude := do
  let (value, exponent) := numeral.significant
  (← Magnitude.ofNat? value).scaled? exponent

/-- A numeral of JSON has a digit in each part and no superfluous zero in front. -/
def wellFormed (numeral : Numeral) : Bool :=
  !numeral.whole.isEmpty && numeral.fraction != some [] &&
    (numeral.whole.length = 1 || numeral.whole.head? != some '0')

/-- Only a numeral without a fraction or an exponent is an integer. -/
def integer? (negative : Bool) (numeral : Numeral) : Option JsonNumber :=
  let value : Int := digitsValue numeral.whole
  if numeral.fraction.isSome || numeral.exponent.isSome || (negative && value = 0) then none
  else JsonNumber.ofInt? (if negative then -value else value)

def toJson? (negative : Bool) (numeral : Numeral) : Option JsonNumber :=
  numeral.integer? negative <|>
    numeral.magnitude?.map fun magnitude => .double { negative, magnitude }

end Numeral

end DocumentStore

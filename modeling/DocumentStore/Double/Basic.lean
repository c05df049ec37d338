/-!
This file defines the floating-point numbers of 64 bits and their order.

A finite number is a whole count of units of `2 ^ -1074`, so two numbers compare as integers.
-/

namespace DocumentStore

/-- A magnitude is a significand of at most 53 bits, scaled by a power of two.

A scaled significand has all 53 bits. -/
structure Magnitude where
  significand : Nat
  scale : Nat
  significand_lt : significand < 9007199254740992
  normal : scale = 0 ∨ 4503599627370496 ≤ significand
  scale_le : scale ≤ 2045
  deriving DecidableEq

namespace Magnitude

/-- This is the number of units of `2 ^ -1074` in a magnitude. -/
def units (magnitude : Magnitude) : Nat :=
  magnitude.significand <<< magnitude.scale

def zero : Magnitude :=
  ⟨0, 0, by decide, .inl rfl, by decide⟩

end Magnitude

/-- A finite number is a magnitude with a sign, and zero has both signs. -/
structure FiniteDouble where
  negative : Bool
  magnitude : Magnitude
  deriving DecidableEq

/-- This is the signed number of units of `2 ^ -1074`. -/
def FiniteDouble.units (number : FiniteDouble) : Int :=
  if number.negative then -(number.magnitude.units : Int) else number.magnitude.units

/-- A number of 64 bits is finite, infinite or not a number. -/
inductive Double where
  | nan
  | infinite (negative : Bool)
  | finite (number : FiniteDouble)
  deriving DecidableEq

namespace Double

/-- No finite number has as many units. -/
def infiniteUnits : Int :=
  (1 <<< 2098 : Nat)

/-- This is the place of a number on the line, and what is not a number has none. -/
def place : Double → Option Int
  | nan => none
  | infinite true => some (-infiniteUnits)
  | infinite false => some infiniteUnits
  | finite number => some number.units

/-- Two numbers compare by their places. -/
def compare? (left right : Double) : Option Ordering :=
  match left.place, right.place with
  | some first, some second => some (compare first second)
  | _, _ => none

/-- Two numbers are equal when they share a place, so what is not a number equals nothing. -/
def equal (left right : Double) : Bool :=
  left.compare? right == some .eq

end Double

end DocumentStore

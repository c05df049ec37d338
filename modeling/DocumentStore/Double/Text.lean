import DocumentStore.Double.Shortest

/-!
This file writes floating-point numbers as decimal text.

A format decides which exponents are written out, how a whole number ends, and how ties go.
-/

namespace DocumentStore

/-- A format holds the choices that writing a number leaves open. -/
structure NumberFormat where
  exponential : Int → Bool
  wholeEnd : List Char
  tie : Tie

namespace Decimal

def digits (decimal : Decimal) : List Char :=
  Nat.toDigits 10 decimal.count

/-- This is the exponent of the first digit. -/
def leading (decimal : Decimal) : Int :=
  decimal.exponent + decimal.digits.length - 1

/-- The positional form has zeros up to the point and after it. -/
def positional (wholeEnd : List Char) (decimal : Decimal) : List Char :=
  let whole := decimal.exponent + decimal.digits.length
  if 0 ≤ decimal.exponent then
    decimal.digits ++ List.replicate decimal.exponent.toNat '0' ++ wholeEnd
  else if 0 < whole then
    decimal.digits.take whole.toNat ++ '.' :: decimal.digits.drop whole.toNat
  else
    '0' :: '.' :: List.replicate (-whole).toNat '0' ++ decimal.digits

/-- The exponential form has one digit before the point and a signed exponent. -/
def exponential (decimal : Decimal) : List Char :=
  let sign := if decimal.leading < 0 then '-' else '+'
  let mark := if decimal.digits.length = 1 then [] else ['.']
  decimal.digits.take 1 ++ mark ++ decimal.digits.drop 1 ++
    'e' :: sign :: Nat.toDigits 10 decimal.leading.natAbs

def text (format : NumberFormat) (decimal : Decimal) : List Char :=
  if format.exponential decimal.leading then decimal.exponential
  else decimal.positional format.wholeEnd

end Decimal

namespace FiniteDouble

def text (format : NumberFormat) (number : FiniteDouble) : List Char :=
  let sign := if number.negative then ['-'] else []
  if number.magnitude.significand = 0 then sign ++ '0' :: format.wholeEnd
  else sign ++ (number.magnitude.shortest format.tie).text format

end FiniteDouble

/-- The plain form writes all digits, and a whole number has no point. -/
def NumberFormat.plain : NumberFormat where
  exponential := fun _ => false
  wholeEnd := []
  tie := .up

/-- This is the plain form of a number. -/
def Double.text : Double → String
  | .nan => "NaN"
  | .infinite true => "-inf"
  | .infinite false => "inf"
  | .finite number => String.ofList (number.text .plain)

end DocumentStore

import DocumentStore.Double.Rounding

/-!
This file reads floating-point numbers from decimal text.
-/

namespace DocumentStore

/-- This is the value of a run of decimal digits. -/
def digitsValue (digits : List Char) : Nat :=
  digits.foldl (fun value digit => 10 * value + (digit.toNat - '0'.toNat)) 0

/-- A numeral has a whole part, and may have a fraction and an exponent. -/
structure Numeral where
  whole : List Char
  fraction : Option (List Char)
  exponent : Option Int

namespace Numeral

def takeFraction : List Char → Option (List Char) × List Char
  | '.' :: rest => (some (rest.takeWhile Char.isDigit), rest.dropWhile Char.isDigit)
  | text => (none, text)

/-- An exponent without digits is not read. -/
def takeSigned (text : List Char) (sign : Int) (rest : List Char) : Option Int × List Char :=
  match rest.takeWhile Char.isDigit with
  | [] => (none, text)
  | digits => (some (sign * digitsValue digits), rest.dropWhile Char.isDigit)

def takeExponent : List Char → Option Int × List Char
  | mark :: rest =>
    if mark = 'e' ∨ mark = 'E' then
      match rest with
      | '-' :: digits => takeSigned (mark :: rest) (-1) digits
      | '+' :: digits => takeSigned (mark :: rest) 1 digits
      | digits => takeSigned (mark :: rest) 1 digits
    else (none, mark :: rest)
  | [] => (none, [])

/-- This reads an unsigned numeral and leaves the text that follows it. -/
def take (text : List Char) : Numeral × List Char :=
  let (fraction, afterFraction) := takeFraction (text.dropWhile Char.isDigit)
  let (exponent, rest) := takeExponent afterFraction
  (⟨text.takeWhile Char.isDigit, fraction, exponent⟩, rest)

def digits (numeral : Numeral) : List Char :=
  numeral.whole ++ numeral.fraction.getD []

def toDouble (negative : Bool) (numeral : Numeral) : Double :=
  Double.ofDecimal negative (digitsValue numeral.digits)
    (numeral.exponent.getD 0 - (numeral.fraction.getD []).length)

end Numeral

namespace Double

def unsignedOfText? (negative : Bool) (text : List Char) : Option Double :=
  let word := String.ofList (text.map Char.toLower)
  if word = "nan" then some nan
  else if word = "inf" ∨ word = "infinity" then some (infinite negative)
  else match Numeral.take text with
    | (numeral, []) => if numeral.digits.isEmpty then none else some (numeral.toDouble negative)
    | _ => none

/-- This reads a whole text as a number, in decimal or exponent form. -/
def ofText? (text : String) : Option Double :=
  match text.toList with
  | '-' :: rest => unsignedOfText? true rest
  | '+' :: rest => unsignedOfText? false rest
  | rest => unsignedOfText? false rest

end Double

end DocumentStore

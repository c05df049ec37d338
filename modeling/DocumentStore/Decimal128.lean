import DocumentStore.Double.Text

/-!
This file reads and writes decimal numbers of 128 bits.

The sign stands before an exponent of 14 bits and a coefficient of up to 34 digits. A number is kept
as its bits, because different bits may stand for the same number.
-/

namespace DocumentStore

structure Decimal128 where
  bits : BitVec 128
  deriving DecidableEq

namespace Decimal128

inductive Kind where
  | nan
  | infinite
  | finite (decimal : Decimal)

def isNegative (number : Decimal128) : Bool :=
  number.bits.msb

/-- A coefficient with too many digits counts as zero. -/
def ofParts (exponent coefficient : Nat) : Kind :=
  .finite ⟨if coefficient < Nat.pow 10 34 then coefficient else 0, (exponent : Int) - 6176⟩

/-- The five bits after the sign tell the kinds apart. Where the first two of them are set, the
exponent stands two bits later, and the coefficient has too many digits. -/
def kind (number : Decimal128) : Kind :=
  let word := number.bits.toNat
  match word >>> 122 % 32 with
  | 31 => .nan
  | 30 => .infinite
  | combination =>
    if 24 ≤ combination then ofParts (word >>> 111 % 16384) (Nat.pow 2 113)
    else ofParts (word >>> 113 % 16384) (word % Nat.pow 2 113)

end Decimal128

/-- The exponential form is left to large and to very small decimals. -/
def Decimal.scientific (decimal : Decimal) : List Char :=
  if decimal.exponent ≤ 0 ∧ -6 ≤ decimal.leading then decimal.positional []
  else decimal.exponential.map Char.toUpper

/-- What is not a number has no sign. -/
def Decimal128.text (number : Decimal128) : List Char :=
  let sign := if number.isNegative then ['-'] else []
  match number.kind with
  | .nan => "NaN".toList
  | .infinite => sign ++ "Infinity".toList
  | .finite decimal => sign ++ decimal.scientific

end DocumentStore

import DocumentStore.Double.Basic
import DocumentStore.Fields

/-!
This file defines JSON values with ordered fields and exact integers of 64 bits.
-/

namespace DocumentStore

/-- A JSON number is an integer of 64 bits, with or without a sign, or a finite double. -/
inductive JsonNumber where
  | integer (value : Int) (lower : -9223372036854775808 ≤ value)
      (upper : value < 18446744073709551616)
  | double (number : FiniteDouble)
  deriving DecidableEq

inductive Json where
  | null
  | bool (value : Bool)
  | number (value : JsonNumber)
  | string (value : String)
  | array (values : List Json)
  | object (fields : List (String × Json))
  deriving Inhabited

namespace JsonNumber

def ofInt? (value : Int) : Option JsonNumber :=
  if inRange : -9223372036854775808 ≤ value ∧ value < 18446744073709551616 then
    some (integer value inRange.1 inRange.2)
  else
    none

def ofInt64 (value : Int64) : JsonNumber :=
  integer value.toInt value.le_toInt (Int.lt_trans value.toInt_lt (by decide))

def ofInt32 (value : Int32) : JsonNumber :=
  integer value.toInt
    (Int.le_trans (by decide) value.le_toInt) (Int.lt_trans value.toInt_lt (by decide))

/-- A count is written as it is, up to the largest integer of 64 bits. -/
def ofNat (count : Nat) : JsonNumber :=
  integer (min count 18446744073709551615 : Nat) (by omega) (by omega)

end JsonNumber

namespace Json

/-- This is the value of a key in an object, and other values have no keys. -/
def get? (json : Json) (key : String) : Option Json :=
  match json with
  | object fields => Fields.get? fields key
  | _ => none

end Json

end DocumentStore

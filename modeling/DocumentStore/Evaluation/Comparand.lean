import DocumentStore.Double.Rounding
import DocumentStore.Value.Basic

/-!
This file defines how stored values compare with each other.

Integers and doubles compare as doubles, and a document compares without regard to the order of its
keys. Kinds without an order of their own count as null, decimal numbers among them.
-/

namespace DocumentStore

inductive Comparand where
  | null
  | bool (value : Bool)
  | number (value : Double)
  | date (instant : Instant)
  | text (value : String)
  | array (values : List Comparand)
  | map (fields : List (String × Comparand))

mutual

def Value.comparand : Value → Comparand
  | bool value => .bool value
  | int32 value => .number (Double.ofInt value.toInt)
  | int64 value => .number (Double.ofInt value.toInt)
  | double value => .number value
  | date instant => .date instant
  | string text => .text text
  | array values => .array (comparandList values)
  | document fields => .map (comparandFields fields)
  | _ => .null

def Value.comparandList : List Value → List Comparand
  | [] => []
  | value :: rest => value.comparand :: comparandList rest

def Value.comparandFields : List (String × Value) → List (String × Comparand)
  | [] => []
  | (key, value) :: rest => (key, value.comparand) :: comparandFields rest

end

namespace Comparand

/-- A missing field compares as null. -/
def ofField (value : Option Value) : Comparand :=
  (value.map Value.comparand).getD null

/-- Values of different kinds are ordered by their kinds. -/
def rank : Comparand → Nat
  | null => 0
  | number _ => 1
  | text _ => 2
  | map _ => 3
  | array _ => 4
  | bool _ => 5
  | date _ => 6

/-- Two lists and two documents have no order, and neither have values of different kinds. -/
def compare? : Comparand → Comparand → Option Ordering
  | null, null => some .eq
  | bool left, bool right => some (compare left right)
  | number left, number right => left.compare? right
  | date left, date right => some (compare left.milliseconds.toInt right.milliseconds.toInt)
  | text left, text right => some (compare left right)
  | _, _ => none

/-- Values without an order are sorted by their kinds. -/
def sortOrder (left right : Comparand) : Ordering :=
  (left.compare? right).getD (compare left.rank right.rank)

mutual

def equal : Comparand → Comparand → Bool
  | null, null => true
  | bool left, bool right => left = right
  | number left, number right => left.equal right
  | date left, date right => left = right
  | text left, text right => left = right
  | array left, array right => equalList left right
  | map left, map right => left.length = right.length && equalFields left right
  | _, _ => false

def equalList : List Comparand → List Comparand → Bool
  | [], [] => true
  | left :: lefts, right :: rights => equal left right && equalList lefts rights
  | _, _ => false

/-- Every field on the left has an equal field on the right. -/
def equalFields : List (String × Comparand) → Fields Comparand → Bool
  | [], _ => true
  | (key, left) :: rest, fields =>
    (match fields.get? key with
      | some right => equal left right
      | none => false) && equalFields rest fields

end

end Comparand

end DocumentStore

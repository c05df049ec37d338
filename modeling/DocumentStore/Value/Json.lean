import DocumentStore.Double.Rounding
import DocumentStore.Json.Basic
import DocumentStore.Value.Date
import DocumentStore.Value.Text

/-!
This file converts between JSON values and stored values, and keeps the order of all fields.
-/

namespace DocumentStore

namespace Value

/-- An integer takes the narrowest kind that holds it, and a large one becomes a double. -/
def ofInteger (value : Int) : Value :=
  if -2147483648 ≤ value ∧ value < 2147483648 then int32 (Int32.ofInt value)
  else if value < 9223372036854775808 then int64 (Int64.ofInt value)
  else double (Double.ofInt value)

def ofNumber : JsonNumber → Value
  | .integer value _ _ => ofInteger value
  | .double number => double (.finite number)

mutual

/-- A key that an object repeats keeps its first place and its last value. -/
def ofJson : Json → Value
  | .null => null
  | .bool value => bool value
  | .number number => ofNumber number
  | .string text => string text
  | .array values => array (ofJsonList values)
  | .object fields => document (Fields.ofList (ofJsonFields fields))

def ofJsonList : List Json → List Value
  | [] => []
  | value :: rest => ofJson value :: ofJsonList rest

def ofJsonFields : List (String × Json) → List (String × Value)
  | [] => []
  | (key, value) :: rest => (key, ofJson value) :: ofJsonFields rest

end

/-- JSON has no number for what is not finite. -/
def doubleToJson : Double → Json
  | .finite number => .number (.double number)
  | _ => .null

def dateToJson (instant : Instant) : Json :=
  .object [(dateTag, .string (String.ofList instant.wire))]

mutual

/-- A value without a form in JSON is written as its display text. -/
def toJson : Value → Json
  | null => .null
  | undefined => .null
  | bool value => .bool value
  | int32 value => .number (.ofInt32 value)
  | int64 value => .number (.ofInt64 value)
  | double value => doubleToJson value
  | date instant => dateToJson instant
  | string text => .string text
  | array values => .array (toJsonList values)
  | document fields => .object (toJsonFields fields)
  | objectId id => .string id.text
  | other => .string (String.ofList other.display)

def toJsonList : List Value → List Json
  | [] => []
  | value :: rest => toJson value :: toJsonList rest

def toJsonFields : List (String × Value) → List (String × Json)
  | [] => []
  | (key, value) :: rest => (key, toJson value) :: toJsonFields rest

end

end Value

/-- A wire item is an item in JSON. -/
abbrev WireItem :=
  Fields Json

def Item.ofWire (item : WireItem) : Item :=
  Fields.ofList (Value.ofJsonFields item)

def Item.toWire (item : Item) : WireItem :=
  Value.toJsonFields item

end DocumentStore

import DocumentStore.Json.Printer
import DocumentStore.Text.Quoted

/-!
This file decodes JSON values into records and reports the first part that does not fit.

A record is given as an object, or as a list of its fields in order. The fields of an object are
checked in the order of the object, and unknown fields are ignored.
-/

namespace DocumentStore

inductive DecodeError where
  | wrongType (given : Json) (expected : String)
  | wrongValue (given : Json) (expected : String)
  | wrongLength (length : Nat) (expected : String)
  | missingField (key : String)
  | unknownVariant (name : String) (known : String)

/-- This is a short description of a value, which shows scalars in full. -/
def Json.summary : Json → String
  | .null => "null"
  | .bool value => s!"boolean `{value}`"
  | .number (.integer value _ _) => s!"integer `{value}`"
  | .number (.double value) => "floating point `" ++ (JsonNumber.double value).text ++ "`"
  | .string text => "string " ++ quoted text
  | .array _ => "sequence"
  | .object _ => "map"

def DecodeError.message : DecodeError → String
  | wrongType given expected => "invalid type: " ++ given.summary ++ ", expected " ++ expected
  | wrongValue given expected => "invalid value: " ++ given.summary ++ ", expected " ++ expected
  | wrongLength length expected => s!"invalid length {length}, expected {expected}"
  | missingField key => "missing field `" ++ key ++ "`"
  | unknownVariant name known => "unknown variant `" ++ name ++ "`, expected " ++ known

namespace Json

def decodeText : Json → Except DecodeError String
  | .string text => .ok text
  | other => .error (.wrongType other "a string")

/-- This decodes an integer of 64 bits with a sign. -/
def decodeInt64 : Json → Except DecodeError Int64
  | .number (.integer value lower upper) =>
    if value < 9223372036854775808 then .ok (Int64.ofInt value)
    else .error (.wrongValue (.number (.integer value lower upper)) "i64")
  | other => .error (.wrongType other "i64")

/-- This decodes an integer of 64 bits without a sign. -/
def decodeCount : Json → Except DecodeError Nat
  | .number (.integer value lower upper) =>
    if 0 ≤ value then .ok value.toNat
    else .error (.wrongValue (.number (.integer value lower upper)) "u64")
  | other => .error (.wrongType other "u64")

def decodeObject : Json → Except DecodeError (Fields Json)
  | .object fields => .ok fields
  | other => .error (.wrongType other "a map")

def decodeList {α : Type} (decode : Json → Except DecodeError α) :
    Json → Except DecodeError (List α)
  | .array values => values.mapM decode
  | other => .error (.wrongType other "a sequence")

/-- An optional value is absent when it is null. -/
def decodeOptional {α : Type} (decode : Json → Except DecodeError α) :
    Json → Except DecodeError (Option α)
  | .null => .ok none
  | other => (decode other).map some

end Json

/-- A record format names its fields in order and tells how each field is stored. -/
structure RecordFormat (α : Type) where
  name : String
  keys : List String
  initial : α
  store : α → String → Json → Except DecodeError α

namespace RecordFormat

def storeAll {α : Type} (format : RecordFormat α) (fields : List (String × Json)) :
    Except DecodeError α :=
  fields.foldlM (fun record (key, value) => format.store record key value) format.initial

/-- A list that ends early leaves the last fields as they are, down to a least length. -/
def decodeList {α : Type} (format : RecordFormat α) (least : Nat) (values : List Json) :
    Except DecodeError α := do
  let record ← format.storeAll (format.keys.zip values)
  if values.length < least then
    let elements := if format.keys.length = 1 then "element" else "elements"
    throw (.wrongLength values.length s!"struct {format.name} with {format.keys.length} {elements}")
  if format.keys.length < values.length then
    throw (.wrongLength values.length "fewer elements in array")
  return record

def decode {α : Type} (format : RecordFormat α) (least : Nat) : Json → Except DecodeError α
  | .object fields => format.storeAll fields
  | .array values => format.decodeList least values
  | other => .error (.wrongType other ("struct " ++ format.name))

end RecordFormat

/-- A field that must be present is looked up after all fields are stored. -/
def requireField {α : Type} (key : String) (value : Option α) : Except DecodeError α :=
  match value with
  | some value => .ok value
  | none => .error (.missingField key)

end DocumentStore

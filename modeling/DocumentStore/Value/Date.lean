import DocumentStore.Instant.Iso
import DocumentStore.Instant.Text
import DocumentStore.Value.Basic

/-!
This file converts dates between their native form and the wrappers that stand for them in JSON.

A wrapper is a document with a single tagged field. Only the top level of an item is converted, and
an identifier stays a text whatever it looks like.
-/

namespace DocumentStore

namespace Value

/-- Dates are written under the first tag, and both tags are read. -/
def dateTag : String :=
  "date"

def legacyDateTag : String :=
  "$date"

/-- The payload of a wrapper is an ISO text, a count of milliseconds or a native date. -/
def payloadInstant? : Value → Option Instant
  | string text => Instant.ofIso? text
  | int64 milliseconds => some ⟨milliseconds⟩
  | int32 milliseconds => some (.ofInt milliseconds.toInt)
  | date instant => some instant
  | _ => none

def wrappedInstant? : List (String × Value) → Option Instant
  | [(key, payload)] =>
    if key = dateTag ∨ key = legacyDateTag then payloadInstant? payload else none
  | _ => none

def instant? : Value → Option Instant
  | string text => Instant.ofIso? text
  | document fields => wrappedInstant? fields
  | _ => none

/-- An ISO text or a readable wrapper becomes a native date. -/
def decodeDate (value : Value) : Value :=
  match value.instant? with
  | some instant => date instant
  | none => value

/-- A native date becomes a wrapper. -/
def encodeDate : Value → Value
  | date instant => document [(dateTag, string (String.ofList instant.wire))]
  | value => value

end Value

namespace Item

def decodeDates (item : Item) : Item :=
  item.map fun (key, value) => (key, if key = idKey then value else value.decodeDate)

def encodeDates (item : Item) : Item :=
  item.map fun (key, value) => (key, value.encodeDate)

end Item

end DocumentStore

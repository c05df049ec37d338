import DocumentStore.Json.Decode
import DocumentStore.Value.Json

/-!
This file defines the responses of a service and their form in JSON.
-/

namespace DocumentStore

/-- The total counts all matching items, and not only those of the page. -/
structure FindResponse where
  items : List WireItem
  totalCount : Nat

structure ItemResponse where
  item : WireItem

structure CountResponse where
  totalCount : Nat

structure CollectionsResponse where
  collections : List String

namespace FindResponse

def format : RecordFormat (Option (List WireItem) × Option Nat) where
  name := "FindResponse"
  keys := ["items", "totalCount"]
  initial := (none, none)
  store fields key value :=
    match key with
    | "items" => do return (some (← Json.decodeList Json.decodeObject value), fields.2)
    | "totalCount" => do return (fields.1, some (← Json.decodeCount value))
    | _ => .ok fields

def ofJson (json : Json) : Except DecodeError FindResponse := do
  let (items, totalCount) ← format.decode 2 json
  return ⟨← requireField "items" items, ← requireField "totalCount" totalCount⟩

def toJson (response : FindResponse) : Json :=
  .object [
    ("items", .array (response.items.map Json.object)),
    ("totalCount", .number (.ofNat response.totalCount))]

end FindResponse

namespace ItemResponse

def format : RecordFormat (Option WireItem) where
  name := "ItemResponse"
  keys := ["item"]
  initial := none
  store field key value :=
    match key with
    | "item" => do return some (← Json.decodeObject value)
    | _ => .ok field

def ofJson (json : Json) : Except DecodeError ItemResponse := do
  return ⟨← requireField "item" (← format.decode 1 json)⟩

def toJson (response : ItemResponse) : Json :=
  .object [("item", .object response.item)]

end ItemResponse

namespace CountResponse

def format : RecordFormat (Option Nat) where
  name := "CountResponse"
  keys := ["totalCount"]
  initial := none
  store field key value :=
    match key with
    | "totalCount" => do return some (← Json.decodeCount value)
    | _ => .ok field

def ofJson (json : Json) : Except DecodeError CountResponse := do
  return ⟨← requireField "totalCount" (← format.decode 1 json)⟩

def toJson (response : CountResponse) : Json :=
  .object [("totalCount", .number (.ofNat response.totalCount))]

end CountResponse

namespace CollectionsResponse

def format : RecordFormat (Option (List String)) where
  name := "ListCollectionsResponse"
  keys := ["collections"]
  initial := none
  store field key value :=
    match key with
    | "collections" => do return some (← Json.decodeList Json.decodeText value)
    | _ => .ok field

def ofJson (json : Json) : Except DecodeError CollectionsResponse := do
  return ⟨← requireField "collections" (← format.decode 1 json)⟩

def toJson (response : CollectionsResponse) : Json :=
  .object [("collections", .array (response.collections.map Json.string))]

end CollectionsResponse

end DocumentStore

import DocumentStore.Error
import DocumentStore.Value.Json

/-!
This file defines the requests of a service and their form in JSON.

Every field of a request may be absent, and the service tells which absent field it needs. A field
that is absent is left out of the JSON form.
-/

namespace DocumentStore

structure FindRequest where
  collectionName : Option String := none
  filter : Option Json := none
  sort : Option Json := none
  skip : Option Int64 := none
  limit : Option Int64 := none

structure ItemIdRequest where
  collectionName : Option String := none
  itemId : Option String := none

structure ItemRequest where
  collectionName : Option String := none
  item : Option WireItem := none

structure CountRequest where
  collectionName : Option String := none
  filter : Option Json := none

/-- This turns the fault of a record into the fault of a request. -/
def RecordFormat.decodeBody {α : Type} (format : RecordFormat α) (payload : Json) : Outcome α :=
  (format.decode 0 payload).mapError fun cause => .badRequest (.body cause)

def optionalText (value : Json) : Except DecodeError (Option String) :=
  Json.decodeOptional Json.decodeText value

def optionalJson (value : Json) : Except DecodeError (Option Json) :=
  Json.decodeOptional .ok value

def optionalInt64 (value : Json) : Except DecodeError (Option Int64) :=
  Json.decodeOptional Json.decodeInt64 value

/-- This keeps the fields that are present. -/
def presentFields (fields : List (String × Option Json)) : Json :=
  .object (fields.filterMap fun (key, value) => value.map fun json => (key, json))

def Json.ofInt64 (value : Int64) : Json :=
  .number (.ofInt64 value)

namespace FindRequest

def format : RecordFormat FindRequest where
  name := "FindRequest"
  keys := ["collectionName", "filter", "sort", "skip", "limit"]
  initial := {}
  store request key value :=
    match key with
    | "collectionName" => do return { request with collectionName := ← optionalText value }
    | "filter" => do return { request with filter := ← optionalJson value }
    | "sort" => do return { request with sort := ← optionalJson value }
    | "skip" => do return { request with skip := ← optionalInt64 value }
    | "limit" => do return { request with limit := ← optionalInt64 value }
    | _ => .ok request

def ofPayload (payload : Json) : Outcome FindRequest :=
  format.decodeBody payload

def toJson (request : FindRequest) : Json :=
  presentFields [
    ("collectionName", request.collectionName.map .string),
    ("filter", request.filter),
    ("sort", request.sort),
    ("skip", request.skip.map .ofInt64),
    ("limit", request.limit.map .ofInt64)]

/-- This asks for one page of a collection. -/
def page (collectionName : String) (skip limit : Int64) : FindRequest :=
  { collectionName := some collectionName, skip := some skip, limit := some limit }

def withFilter (request : FindRequest) (filter : Json) : FindRequest :=
  { request with filter := some filter }

def withSort (request : FindRequest) (sort : Json) : FindRequest :=
  { request with sort := some sort }

end FindRequest

namespace ItemIdRequest

def format : RecordFormat ItemIdRequest where
  name := "ItemIdRequest"
  keys := ["collectionName", "itemId"]
  initial := {}
  store request key value :=
    match key with
    | "collectionName" => do return { request with collectionName := ← optionalText value }
    | "itemId" => do return { request with itemId := ← optionalText value }
    | _ => .ok request

def ofPayload (payload : Json) : Outcome ItemIdRequest :=
  format.decodeBody payload

def toJson (request : ItemIdRequest) : Json :=
  presentFields [
    ("collectionName", request.collectionName.map .string),
    ("itemId", request.itemId.map .string)]

end ItemIdRequest

namespace ItemRequest

def format : RecordFormat ItemRequest where
  name := "ItemRequest"
  keys := ["collectionName", "item"]
  initial := {}
  store request key value :=
    match key with
    | "collectionName" => do return { request with collectionName := ← optionalText value }
    | "item" => do
      return { request with item := ← Json.decodeOptional Json.decodeObject value }
    | _ => .ok request

def ofPayload (payload : Json) : Outcome ItemRequest :=
  format.decodeBody payload

def toJson (request : ItemRequest) : Json :=
  presentFields [
    ("collectionName", request.collectionName.map .string),
    ("item", request.item.map .object)]

end ItemRequest

namespace CountRequest

def format : RecordFormat CountRequest where
  name := "CountRequest"
  keys := ["collectionName", "filter"]
  initial := {}
  store request key value :=
    match key with
    | "collectionName" => do return { request with collectionName := ← optionalText value }
    | "filter" => do return { request with filter := ← optionalJson value }
    | _ => .ok request

def ofPayload (payload : Json) : Outcome CountRequest :=
  format.decodeBody payload

def toJson (request : CountRequest) : Json :=
  presentFields [
    ("collectionName", request.collectionName.map .string),
    ("filter", request.filter)]

def withFilter (request : CountRequest) (filter : Json) : CountRequest :=
  { request with filter := some filter }

end CountRequest

end DocumentStore

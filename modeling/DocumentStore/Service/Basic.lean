import DocumentStore.Predicate.Compile
import DocumentStore.Service.Call
import DocumentStore.Service.Request
import DocumentStore.Service.Response

/-!
This file defines the operations of a service over the items of its store.

Every operation checks its request before it makes a call. What the store answers is converted to
the wire form, and what the store reports as a fault reaches the caller unchanged.
-/

namespace DocumentStore

/-- A text that is empty counts as missing. -/
def requireText (key : String) (text : Option String) : Outcome String :=
  match text with
  | some text => if text.isEmpty then .error (.missing key) else .ok text
  | none => .error (.missing key)

def requireCollection (name : Option String) : Outcome String :=
  requireText "collectionName" name

def requireItem (item : Option WireItem) : Outcome Item :=
  match item with
  | some item => .ok (.ofWire item)
  | none => .error (.missing "item")

/-- This is the form in which callers see an item. -/
def Item.outbound (item : Item) : WireItem :=
  item.encodeDates.toWire

namespace FindRequest

/-- This number of items is skipped. -/
def skipCount (request : FindRequest) : Outcome Nat :=
  match request.skip with
  | none => .error (.missing "skip")
  | some skip =>
    if skip.toInt < 0 then .error (.badRequest .negativeSkip) else .ok skip.toInt.toNat

/-- This number of items is returned at most. -/
def limitCount (request : FindRequest) : Outcome Nat :=
  match request.limit with
  | none => .error (.missing "limit")
  | some limit =>
    if limit.toInt ≤ 0 then .error (.badRequest .limitNotPositive) else .ok limit.toInt.toNat

end FindRequest

/-- A plan is a checked request for one page. -/
structure FindPlan where
  collection : String
  predicate : Predicate
  order : Order
  skip : Nat
  limit : Nat

def FindRequest.plan (request : FindRequest) : Outcome FindPlan := do
  let collection ← requireCollection request.collectionName
  let skip ← request.skipCount
  let limit ← request.limitCount
  let predicate ← Filter.compileWire request.filter
  let order := Order.ofList (← SortList.ofWire request.sort)
  return { collection, predicate, order, skip, limit }

namespace Service

variable {σ : Type}

/-- This returns a page of matching items and counts all of them. -/
def find (handler : Handler σ) (request : FindRequest) : Action σ FindResponse := do
  let plan ← request.plan
  let items ← handler
    (.select plan.collection plan.predicate plan.order plan.skip (some plan.limit))
  let totalCount ← handler (.count plan.collection plan.predicate)
  return { items := items.map Item.outbound, totalCount }

def selectById (handler : Handler σ) (collection id : String) : Action σ (Option Item) := do
  let items ← handler (.select collection (.idEquals id) .insertion 0 (some 1))
  return items.head?

/-- This returns the item with an identifier. -/
def get (handler : Handler σ) (request : ItemIdRequest) : Action σ ItemResponse := do
  let collection ← requireCollection request.collectionName
  let id ← requireText "itemId" request.itemId
  match ← selectById handler collection id with
  | some item => return ⟨item.outbound⟩
  | none => throw (.notFound (.read id))

/-- This adds an item, which takes the fresh identifier when it has none. -/
def insert (handler : Handler σ) (fresh : String) (request : ItemRequest) :
    Action σ ItemResponse := do
  let collection ← requireCollection request.collectionName
  let (_, item) ← (← requireItem request.item).withId fresh
  let inserted ← handler (.insert collection item.decodeDates)
  return ⟨inserted.outbound⟩

/-- This replaces the item with the same identifier and never adds one. -/
def update (handler : Handler σ) (request : ItemRequest) : Action σ ItemResponse := do
  let collection ← requireCollection request.collectionName
  let item ← requireItem request.item
  match ← item.id? with
  | none => throw (.missing "item._id")
  | some id =>
    match ← handler (.update collection item.decodeDates) with
    | some updated => return ⟨updated.outbound⟩
    | none => throw (.notFound (.write id))

/-- This deletes an item and returns it as it was. -/
def remove (handler : Handler σ) (request : ItemIdRequest) : Action σ ItemResponse := do
  let collection ← requireCollection request.collectionName
  let id ← requireText "itemId" request.itemId
  match ← selectById handler collection id with
  | none => throw (.notFound (.write id))
  | some item =>
    if (← handler (.delete collection id)) = 0 then throw (.notFound (.write id))
    return ⟨item.outbound⟩

/-- This counts the items that match a filter. -/
def count (handler : Handler σ) (request : CountRequest) : Action σ CountResponse := do
  let collection ← requireCollection request.collectionName
  let predicate ← Filter.compileWire request.filter
  return ⟨← handler (.count collection predicate)⟩

def listCollections (handler : Handler σ) : Action σ CollectionsResponse := do
  return ⟨← handler .collections⟩

def shutdown (handler : Handler σ) : Action σ Unit :=
  handler .shutdown

end Service

end DocumentStore

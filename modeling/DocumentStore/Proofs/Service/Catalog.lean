import DocumentStore.Proofs.Service.Session
import DocumentStore.Proofs.Store.Catalog

/-!
This file says what the operations of a session do to a catalog.
-/

namespace DocumentStore

open DocumentStore.Action

/-- This is the collection and the identifier that a request asks for. -/
def ItemIdRequest.address (request : ItemIdRequest) : Outcome (String × String) := do
  let collection ← requireCollection request.collectionName
  let id ← requireText "itemId" request.itemId
  return (collection, id)

/-- This is the collection, the identifier and the item that a request asks to add. -/
def ItemRequest.addition (request : ItemRequest) (fresh : String) :
    Outcome (String × String × Item) := do
  let collection ← requireCollection request.collectionName
  let (id, item) ← (← requireItem request.item).withId fresh
  return (collection, id, item.decodeDates)

/-- An item can only replace another when it has an identifier. -/
def ItemRequest.replacement (request : ItemRequest) : Outcome (String × String × Item) := do
  let collection ← requireCollection request.collectionName
  let item ← requireItem request.item
  match ← item.id? with
  | none => throw (.missing "item._id")
  | some id => return (collection, id, item.decodeDates)

/-- This is the collection and the predicate of a request for a count. -/
def CountRequest.scope (request : CountRequest) : Outcome (String × Predicate) := do
  let collection ← requireCollection request.collectionName
  let predicate ← Filter.compileWire request.filter
  return (collection, predicate)

namespace Catalog

/-- This is the item under an identifier, or the fault that there is none. -/
def lookup (catalog : Catalog) (fault : String → AbsenceFault) (collection id : String) :
    Outcome Item :=
  match (catalog.shelf collection).get? id with
  | some item => .ok item
  | none => .error (.notFound (fault id))

/-- A page counts all items that were found, whatever it shows of them. -/
def page (catalog : Catalog) (plan : FindPlan) : FindResponse :=
  let found := catalog.found plan.collection plan.predicate
  let page := ((plan.order.sort found).drop plan.skip).take plan.limit
  { items := page.map Item.outbound, totalCount := found.length }

/-- This is what an operation does to a catalog. -/
def perform : Operation → Action Catalog Response
  | .find request => do
    let plan ← request.plan
    return .page ((← get).page plan)
  | .get request => do
    let (collection, id) ← request.address
    let item ← (← get).lookup .read collection id
    return .item ⟨item.outbound⟩
  | .insert fresh _ request => do
    let (collection, id, item) ← request.addition fresh
    let shelf := (← get).shelf collection
    if id ∈ shelf.keys then throw (.store (.idTaken id collection))
    modify fun catalog => catalog.put collection (shelf ++ [(id, item)])
    return .item ⟨item.outbound⟩
  | .update request => do
    let (collection, id, item) ← request.replacement
    let shelf := (← get).shelf collection
    if id ∉ shelf.keys then throw (.notFound (.write id))
    modify fun catalog => catalog.put collection (shelf.replace id item)
    return .item ⟨item.outbound⟩
  | .remove request => do
    let (collection, id) ← request.address
    let item ← (← get).lookup .write collection id
    modify fun catalog => catalog.put collection ((catalog.shelf collection).remove id)
    return .item ⟨item.outbound⟩
  | .count request => do
    let (collection, predicate) ← request.scope
    return .total ⟨((← get).found collection predicate).length⟩
  | .listCollections => do
    return .collections ⟨(← get).opened.mergeSort fun left right => left ≤ right⟩

variable (catalog : Catalog)

/-- A request for an item looks at the shelf and changes nothing. -/
theorem perform_get {request : ItemIdRequest} {collection id : String}
    (addressed : request.address = .ok (collection, id)) :
    perform (.get request) catalog =
      ((catalog.lookup .read collection id).map fun item => .item ⟨item.outbound⟩, catalog) := by
  rw [perform, run_lift_bind_of_ok addressed]
  refine (run_bind_of_ok (run_get catalog) _).trans ?_
  cases catalog.lookup .read collection id <;> rfl

/-- An insertion puts the item at the end of the shelf, unless its identifier is taken. -/
theorem perform_insert {fresh : String} (named : fresh ≠ "") {request : ItemRequest}
    {collection id : String} {item : Item}
    (added : request.addition fresh = .ok (collection, id, item)) :
    perform (.insert fresh named request) catalog =
      if id ∈ (catalog.shelf collection).keys then
        (.error (.store (.idTaken id collection)), catalog)
      else (.ok (.item ⟨item.outbound⟩),
        catalog.put collection (catalog.shelf collection ++ [(id, item)])) := by
  rw [perform, run_lift_bind_of_ok added]
  refine (run_bind_of_ok (run_get catalog) _).trans ?_
  split <;> rfl

/-- An update replaces the item in its place on the shelf. -/
theorem perform_update {request : ItemRequest} {collection id : String} {item : Item}
    (replaced : request.replacement = .ok (collection, id, item)) :
    perform (.update request) catalog =
      if id ∈ (catalog.shelf collection).keys then (.ok (.item ⟨item.outbound⟩),
        catalog.put collection ((catalog.shelf collection).replace id item))
      else (.error (.notFound (.write id)), catalog) := by
  rw [perform, run_lift_bind_of_ok replaced]
  refine (run_bind_of_ok (run_get catalog) _).trans ?_
  split
  · rfl
  · next member =>
      rw [if_pos (not_not.mp member)]
      rfl

/-- A removal answers with the item that it takes away. -/
theorem perform_remove {request : ItemIdRequest} {collection id : String}
    (addressed : request.address = .ok (collection, id)) :
    perform (.remove request) catalog =
      match (catalog.shelf collection).get? id with
      | some item => (.ok (.item ⟨item.outbound⟩),
          catalog.put collection ((catalog.shelf collection).remove id))
      | none => (.error (.notFound (.write id)), catalog) := by
  rw [perform, run_lift_bind_of_ok addressed]
  refine (run_bind_of_ok (run_get catalog) _).trans ?_
  rw [lookup]
  cases (catalog.shelf collection).get? id <;> rfl

/-- These are the ways in which an operation can change a catalog. -/
inductive Change : Operation → Catalog → Prop
  | keep (operation : Operation) : Change operation catalog
  | add {fresh : String} (named : fresh ≠ "") {request : ItemRequest} {collection id : String}
      {item : Item} (added : request.addition fresh = .ok (collection, id, item))
      (absent : id ∉ (catalog.shelf collection).keys) :
      Change (.insert fresh named request)
        (catalog.put collection (catalog.shelf collection ++ [(id, item)]))
  | replace {request : ItemRequest} {collection id : String} {item : Item}
      (replaced : request.replacement = .ok (collection, id, item))
      (member : id ∈ (catalog.shelf collection).keys) :
      Change (.update request)
        (catalog.put collection ((catalog.shelf collection).replace id item))
  | remove {request : ItemIdRequest} {collection id : String}
      (addressed : request.address = .ok (collection, id))
      (member : id ∈ (catalog.shelf collection).keys) :
      Change (.remove request)
        (catalog.put collection ((catalog.shelf collection).remove id))

/-- An operation may always leave the catalog as it is. -/
theorem Change.of_kept {catalog next : Catalog} {operation : Operation} (kept : next = catalog) :
    catalog.Change operation next := by
  rw [kept]
  exact .keep operation

/-- No operation changes a catalog in another way. -/
theorem change_perform (operation : Operation) :
    catalog.Change operation (perform operation catalog).2 := by
  cases operation with
  | find request =>
      apply Change.of_kept
      rw [perform]
      cases request.plan <;> rfl
  | get request =>
      apply Change.of_kept
      cases addressed : request.address with
      | error error => rw [perform, run_lift_bind_of_error addressed]
      | ok address => rw [perform_get catalog addressed]
  | insert fresh named request =>
      cases added : request.addition fresh with
      | error error =>
          rw [perform, run_lift_bind_of_error added]
          exact .keep _
      | ok addition =>
          obtain ⟨collection, id, item⟩ := addition
          rw [perform_insert catalog named added]
          split
          · exact .keep _
          · next absent => exact .add named added absent
  | update request =>
      cases replaced : request.replacement with
      | error error =>
          rw [perform, run_lift_bind_of_error replaced]
          exact .keep _
      | ok replacement =>
          obtain ⟨collection, id, item⟩ := replacement
          rw [perform_update catalog replaced]
          split
          · next member => exact .replace replaced member
          · exact .keep _
  | remove request =>
      cases addressed : request.address with
      | error error =>
          rw [perform, run_lift_bind_of_error addressed]
          exact .keep _
      | ok address =>
          obtain ⟨collection, id⟩ := address
          rw [perform_remove catalog addressed]
          split
          · next item found =>
              exact .remove addressed (Fields.mem_keys_iff.mpr ⟨item, found⟩)
          · exact .keep _
  | count request =>
      apply Change.of_kept
      rw [perform]
      cases request.scope <;> rfl
  | listCollections => exact .keep _

end Catalog

end DocumentStore

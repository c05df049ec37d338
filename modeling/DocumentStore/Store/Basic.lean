import DocumentStore.Evaluation.Matching
import DocumentStore.Evaluation.Sorting
import DocumentStore.Item

/-!
This file defines a store that keeps the items of every collection in order of insertion.

An item is known by its identifier, which is a text. A collection stays when its last item is
deleted.
-/

namespace DocumentStore

structure Store where
  collections : Fields (List Item)

namespace Store

def empty : Store :=
  ⟨[]⟩

/-- A collection that is not known has no items. -/
def items (store : Store) (collection : String) : List Item :=
  (store.collections.get? collection).getD []

def setItems (store : Store) (collection : String) (items : List Item) : Store :=
  ⟨store.collections.insert collection items⟩

/-- A collection is opened before its first item is added. -/
def prepare (store : Store) (collection : String) : Store :=
  store.setItems collection (store.items collection)

/-- Every scan starts with an empty cache of patterns. -/
def find (store : Store) (collection : String) (predicate : Predicate) : Outcome (List Item) :=
  PatternEngine.rows.find predicate (store.items collection)

/-- This takes a page of the sorted items that satisfy a predicate. -/
def select (store : Store) (collection : String) (predicate : Predicate) (order : Order)
    (skip : Nat) (limit : Option Nat) : Outcome (List Item) := do
  let found ← store.find collection predicate
  let page := (if order.isEmpty then found else order.sort found).drop skip
  return match limit with
    | none => page
    | some limit => page.take limit

def count (store : Store) (collection : String) (predicate : Predicate) : Outcome Nat := do
  return (← store.find collection predicate).length

/-- A new item goes to the end of its collection. -/
def insert (store : Store) (collection : String) (item : Item) : Outcome Store := do
  let id ← item.requireId
  let items := store.items collection
  if items.any (Item.hasId id) then throw (.store (.idTaken id collection))
  return store.setItems collection (items ++ [item])

def replaceFirst (id : String) (item : Item) : List Item → Option (List Item)
  | [] => none
  | first :: rest =>
    if first.hasId id then some (item :: rest) else (replaceFirst id item rest).map (first :: ·)

/-- The item takes the place of the item with its identifier, if there is one. -/
def update (store : Store) (collection : String) (item : Item) : Outcome (Option Store) := do
  let id ← item.requireId
  return (replaceFirst id item (store.items collection)).map (store.setItems collection)

/-- This deletes the first item with an identifier, if there is one. -/
def delete (store : Store) (collection : String) (id : String) : Option Store :=
  let items := store.items collection
  if items.any (Item.hasId id) then some (store.setItems collection (items.eraseP (Item.hasId id)))
  else none

/-- The names of the collections are sorted. -/
def collectionNames (store : Store) : List String :=
  store.collections.keys.mergeSort fun left right => left ≤ right

end Store

end DocumentStore

import DocumentStore.Evaluation.Comparand
import DocumentStore.Sort

/-!
This file compares and sorts items by an order, and items that compare equal keep their places.
-/

namespace DocumentStore

namespace Order

/-- An entry compares two items by one field, and a missing field compares as null. -/
def compareByEntry (entry : SortEntry) (left right : Item) : Ordering :=
  let ordering := (Comparand.ofField (left.get? entry.field.text)).sortOrder
    (Comparand.ofField (right.get? entry.field.text))
  match entry.direction with
  | .ascending => ordering
  | .descending => ordering.swap

/-- The first entry that tells two items apart decides. -/
def compareByEntries : List SortEntry → Item → Item → Ordering
  | [], _, _ => .eq
  | entry :: rest, left, right =>
    (compareByEntry entry left right).then (compareByEntries rest left right)

def compareItems (order : Order) (left right : Item) : Ordering :=
  compareByEntries order.entries left right

/-- The sorted items stand in reverse, and the new item goes behind those that it does not
precede. -/
def insertItem (order : Order) (item : Item) : List Item → List Item
  | [] => [item]
  | last :: rest =>
    if order.compareItems item last = .lt then last :: order.insertItem item rest
    else item :: last :: rest

/-- This sorts items by inserting them one after another. -/
def sort (order : Order) (items : List Item) : List Item :=
  (items.foldl (fun sorted item => order.insertItem item sorted) []).reverse

end Order

end DocumentStore

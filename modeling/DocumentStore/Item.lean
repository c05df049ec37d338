import DocumentStore.Error
import DocumentStore.Value.Json

/-!
This file reads, assigns and compares the identifiers of items.
-/

namespace DocumentStore.Item

/-- An identifier is a text, and a missing, null or empty one counts as absent. -/
def id? (item : Item) : Outcome (Option String) :=
  match item.get? idKey with
  | none => .ok none
  | some .null => .ok none
  | some (.string id) => .ok (if id.isEmpty then none else some id)
  | some _ => .error (.badRequest .itemId)

/-- An item without an identifier takes the fresh one, and the identifier is returned too. -/
def withId (item : Item) (fresh : String) : Outcome (String × Item) := do
  match ← item.id? with
  | some id => return (id, item)
  | none => return (fresh, item.insert idKey (.string fresh))

/-- An item is known by its identifier, and only a text identifies it. -/
def hasId (id : String) (item : Item) : Bool :=
  match item.get? idKey with
  | some (.string text) => text = id
  | _ => false

/-- The store refuses an item whose identifier is no text. -/
def requireId (item : Item) : Outcome String :=
  match item.get? idKey with
  | some (.string id) => .ok id
  | _ => .error (.store .idNotText)

end DocumentStore.Item

import DocumentStore.Filter.FieldName

/-!
This file reads sort lists from JSON and compiles them into orders.

A field that is listed again is ignored, because its first entry already decides.
-/

namespace DocumentStore

inductive Direction where
  | ascending
  | descending
  deriving DecidableEq

def Direction.word : Direction → String
  | ascending => "ASC"
  | descending => "DESC"

structure SortEntry where
  field : FieldName
  direction : Direction
  deriving DecidableEq

namespace SortEntry

/-- A direction is read in any mix of cases, and the default is ascending. -/
def directionOf : Option Json → Outcome Direction
  | none => .ok .ascending
  | some .null => .ok .ascending
  | some (.string word) =>
    if word.toList.map Char.toLower = "asc".toList then .ok .ascending
    else if word.toList.map Char.toLower = "desc".toList then .ok .descending
    else .error (.badRequest (.sortDirection (.string word)))
  | some other => .error (.badRequest (.sortDirection other))

def ofJson (json : Json) : Outcome SortEntry :=
  match json.get? "fieldName" with
  | some (.string name) => do
    let field ← FieldName.ofText name
    let direction ← directionOf (json.get? "direction")
    return { field, direction }
  | _ => .error (.badRequest .sortField)

def text (entry : SortEntry) : List Char :=
  entry.field.text.toList ++ ' ' :: entry.direction.word.toList

end SortEntry

/-- A sort list is what a caller asks for, and fields may repeat. -/
abbrev SortList :=
  List SortEntry

def SortList.ofWire : Option Json → Outcome SortList
  | none => .ok []
  | some .null => .ok []
  | some (.array entries) => entries.mapM SortEntry.ofJson
  | some _ => .error (.badRequest .sortShape)

/-- This keeps the first entry of every field. -/
def SortList.firstEntries : SortList → List SortEntry
  | [] => []
  | entry :: rest => entry :: (firstEntries rest).filter fun other => other.field ≠ entry.field

/-- An order lists its fields once, and the empty order is the order of insertion. -/
structure Order where
  entries : List SortEntry
  distinct : (entries.map SortEntry.field).Nodup

namespace Order

def insertion : Order :=
  ⟨[], List.nodup_nil⟩

theorem firstEntries_distinct (entries : SortList) :
    (entries.firstEntries.map SortEntry.field).Nodup := by
  induction entries with
  | nil => exact List.nodup_nil
  | cons entry rest inductionHypothesis =>
    rw [SortList.firstEntries, List.map_cons, List.nodup_cons]
    constructor
    · simp
    · exact inductionHypothesis.sublist (List.filter_sublist.map _)

/-- This compiles a sort list. -/
def ofList (entries : SortList) : Order :=
  ⟨entries.firstEntries, firstEntries_distinct entries⟩

def isEmpty (order : Order) : Bool :=
  order.entries.isEmpty

/-- The text of an order separates its entries by commas. -/
def text (order : Order) : String :=
  String.ofList ([',', ' '].intercalate (order.entries.map SortEntry.text))

def directionValue : Direction → Value
  | .ascending => .int32 1
  | .descending => .int32 (-1)

/-- This is the sort document of an order, and the order of insertion has none. -/
def sortDocument? (order : Order) : Option (Fields Value) :=
  if order.isEmpty then none
  else some (Fields.ofList (order.entries.map fun entry =>
    (entry.field.text, directionValue entry.direction)))

end Order

end DocumentStore

import Mathlib.Data.List.Infix
import DocumentStore.Proofs.Pattern.Tokens
import DocumentStore.Proofs.Value.Ordering

/-!
This file gives filters a meaning by recursion on their trees, without predicates.

A filter may carry no constraint. Such a filter is left out of the joins around it, and at the root
it holds for every item.
-/

namespace DocumentStore

namespace Value

/-- A list is the only value that contains others without keys. -/
def IsList : Value → Prop
  | array _ => True
  | _ => False

/-- A missing field counts as null. A stored list also equals the elements that it holds, but no
list among them. -/
def Equals (stored : Option Value) (value : Value) : Prop :=
  (stored.getD .null).Same value ∨
    ∃ elements, stored = some (.array elements) ∧ ¬ value.IsList ∧
      ∃ element ∈ elements, element.Same value

/-- These are the values of which one has to be found. -/
def alternatives : Value → List Value
  | null => []
  | array values => values
  | value => [value]

/-- These are the tokens of a list of texts, in lower case. -/
def tokens : Value → List (List Char)
  | array values => values.filterMap fun
    | string text => some (lowerCase text.toList)
    | _ => none
  | _ => []

end Value

/-- A null or missing field passes the null test. -/
def PassesNullTest (stored : Option Value) : Prop :=
  stored = none ∨ stored = some .null

namespace Comparison

/-- Only a present field has an order. -/
def Relates : Comparison → Option Value → Value → Prop
  | eq, stored, value => Value.Equals stored value
  | ne, stored, value => ¬ Value.Equals stored value
  | lt, stored, value => ∃ present ∈ stored, present.Below value
  | lte, stored, value => ∃ present ∈ stored, present.Below value ∨ present.Ties value
  | gt, stored, value => ∃ present ∈ stored, value.Below present
  | gte, stored, value => ∃ present ∈ stored, value.Below present ∨ present.Ties value

/-- Equality with null is a null test, and other values are compared as dates when they name one. -/
def Tests : Comparison → Option Value → Value → Prop
  | eq, stored, .null => PassesNullTest stored
  | ne, stored, .null => ¬ PassesNullTest stored
  | comparison, stored, value => comparison.Relates stored value.decodeDate

end Comparison

namespace Placement

def Finds (search text : List Char) : Placement → Prop
  | anywhere => search <:+: text
  | atStart => search <+: text
  | atEnd => search <:+ text

/-- Texts are searched in lower case. -/
def Searches (placement : Placement) (stored : Option Value) (search : String) : Prop :=
  ∃ text, stored = some (.string text) ∧
    placement.Finds (lowerCase search.toList) (lowerCase text.toList)

end Placement

namespace LeafOperator

/-- This is what a leaf asks of a field. A list, a text or a row of tokens that is empty asks
nothing. -/
def constraint? (operator : LeafOperator) (stored : Option Value) (value : Value) : Option Prop :=
  match operator with
  | compare comparison => some (comparison.Tests stored value)
  | hasSome =>
    match value.alternatives with
    | [] => none
    | values => some (∃ value ∈ values, Value.Equals stored value.decodeDate)
  | like placement =>
    let search := value.scalarText?.getD ""
    if search = "" then none else some (placement.Searches stored search)
  | urlized =>
    match value.tokens with
    | [] => none
    | tokens => some (∃ text, stored = some (.string text) ∧
        HoldsTokens tokens (lowerCase text.toList))

end LeafOperator

namespace Filter

/-- A join of no constraints is no constraint. -/
def joined (join : List Prop → Prop) : List Prop → Option Prop
  | [] => none
  | constraints => some (join constraints)

mutual

/-- This is the constraint that a filter puts on an item, if there is one. -/
def constraint? (item : Item) : Filter → Option Prop
  | unconstrained => some True
  | combine .and children =>
    joined (fun constraints => ∀ holds ∈ constraints, holds) (constraints item children)
  | combine .or children =>
    joined (fun constraints => ∃ holds ∈ constraints, holds) (constraints item children)
  | combine .not [child] => (constraint? item child).map Not
  | combine .not _ => none
  | leaf operator field value => operator.constraint? (item.get? field.text) value

/-- These are the constraints of the children that carry one. -/
def constraints (item : Item) : List Filter → List Prop
  | [] => []
  | child :: rest => (constraint? item child).toList ++ constraints item rest

end

/-- An item satisfies a filter when it meets the constraint, or when there is none. -/
def Meaning (item : Item) (filter : Filter) : Prop :=
  (filter.constraint? item).getD True

end Filter

end DocumentStore

import DocumentStore.Filter.FieldName
import DocumentStore.Value.Json

/-!
This file defines filter trees and reads them from JSON.

A filter is an object with an operator. A combinator holds filters in the field `value`, and a leaf
tests the named field against that value. The first fault from the left is reported.
-/

namespace DocumentStore

inductive Filter where
  | unconstrained
  | combine (combinator : Combinator) (children : List Filter)
  | leaf (operator : LeafOperator) (field : FieldName) (value : Value)

namespace Filter

def operator? : Filter → Option Operator
  | unconstrained => none
  | combine combinator _ => some (.logical combinator)
  | leaf operator _ _ => some (.leaf operator)

/-- A negation has exactly one child. -/
def combined (combinator : Combinator) (children : List Filter) : Outcome Filter :=
  if combinator = .not ∧ children.length ≠ 1 then
    .error (.badRequest (.negationCount children.length))
  else .ok (combine combinator children)

def leafOfFields (operator : LeafOperator) (fields : Fields Json) : Outcome Filter := do
  match fields.get? "fieldName" with
  | some (.string name) =>
    let field ← FieldName.ofText name
    return leaf operator field (((fields.get? "value").map Value.ofJson).getD .null)
  | _ => throw (.badRequest (.filterField operator))

/-- This is the operator of a node, and a node without an operator has no constraint. -/
def operatorOfFields (fields : Fields Json) : Outcome (Option Operator) :=
  match fields.get? "operator" with
  | none => .ok none
  | some .null => .ok none
  | some (.string tag) =>
    match Operator.ofTag? tag with
    | some operator => .ok (some operator)
    | none => .error (.unsupportedOperator tag)
  | some other => .error (.badRequest (.filterOperator other))

/-- The children of a node are only read when its operator is a combinator. -/
def ofFields (fields : Fields Json) (children : Combinator → Outcome (List Filter)) :
    Outcome Filter := do
  match ← operatorOfFields fields with
  | none => return unconstrained
  | some (.leaf operator) => leafOfFields operator fields
  | some (.logical combinator) => combined combinator (← children combinator)

mutual

def ofJson : Json → Outcome Filter
  | .null => .ok unconstrained
  | .object fields => ofFields fields fun combinator => childrenOfFields combinator fields
  | _ => .error (.badRequest .filterShape)

/-- The children stand in the first field `value`. -/
def childrenOfFields (combinator : Combinator) : List (String × Json) → Outcome (List Filter)
  | [] => .ok []
  | (key, value) :: rest =>
    if key = "value" then childrenOfValue combinator value else childrenOfFields combinator rest

/-- Only a negation takes a single filter in place of a list. -/
def childrenOfValue (combinator : Combinator) : Json → Outcome (List Filter)
  | .null => .ok []
  | .array values => ofJsonList values
  | .object fields =>
    if combinator = .not then do
      return [← ofFields fields fun combinator => childrenOfFields combinator fields]
    else .error (.badRequest (.filterList combinator))
  | _ => .error (.badRequest (.filterList combinator))

def ofJsonList : List Json → Outcome (List Filter)
  | [] => .ok []
  | value :: rest => do
    let child ← ofJson value
    let children ← ofJsonList rest
    return child :: children

end

end Filter

end DocumentStore

import DocumentStore.Filter.FieldName

/-!
This file defines predicates, which are compiled filters.
-/

namespace DocumentStore

/-- A predicate has no constraint when it is empty, and a join has at least one child. -/
inductive Predicate where
  | empty
  | always
  | and (children : List Predicate)
  | or (children : List Predicate)
  | not (child : Predicate)
  | isNull (field : FieldName)
  | compare (field : FieldName) (comparison : Comparison) (value : Value)
  | oneOf (field : FieldName) (values : List Value)
  | like (field : FieldName) (placement : Placement) (text : String)
  | pattern (field : FieldName) (source : String)

namespace Predicate

/-- This tests the identifier of an item. -/
def idEquals (id : String) : Predicate :=
  compare .id .eq (.string id)

def isEmpty : Predicate → Bool
  | empty => true
  | _ => false

/-- Every item satisfies an unconstrained predicate. -/
def isUnconstrained : Predicate → Bool
  | empty => true
  | always => true
  | _ => false

/-- A join of no predicates has no constraint. -/
def join (combine : List Predicate → Predicate) (children : List Predicate) : Predicate :=
  if children.isEmpty then empty else combine children

/-- The negation of a predicate without constraint has no constraint either. -/
def negate (child : Predicate) : Predicate :=
  if child.isEmpty then empty else not child

end Predicate

end DocumentStore

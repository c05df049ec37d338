import DocumentStore.Filter.FieldName
import DocumentStore.Proofs.Value.KeyMarkers

/-!
This file tells what sanitizing the keys of an item leaves as it is.

Only keys change. A leaf of a sanitized item is a leaf of the item, and the same steps lead to it
when their keys are sanitized. A piece of code is one leaf with its scope, so the scope stays the
one that the code was written for.
-/

namespace DocumentStore

namespace Value

/-- A step leads from a document to the value of a key, or from a list to one of its places. -/
inductive Step where
  | key (name : String)
  | place (index : Nat)

/-- A leaf is a value that is neither a list nor a document, with the steps that lead to it. -/
structure Leaf where
  path : List Step
  value : Value

/-- A renaming changes the keys on the way to a leaf and leaves the places in lists. -/
def Step.rename (rename : String → String) : Step → Step
  | key name => key (rename name)
  | place index => place index

namespace Leaf

/-- The value of a leaf stays as it is when the way to it is renamed. -/
def rename (rename : String → String) (leaf : Leaf) : Leaf where
  path := leaf.path.map (Step.rename rename)
  value := leaf.value

/-- This puts one more step before the others. -/
def under (step : Step) (leaf : Leaf) : Leaf where
  path := step :: leaf.path
  value := leaf.value

/-- Leaves that are equal after a step were equal before. -/
theorem under_injective (step : Step) : Function.Injective (under step) := by
  rintro ⟨left, first⟩ ⟨right, second⟩ same
  obtain ⟨samePath, sameValue⟩ := Leaf.mk.inj same
  rw [Leaf.mk.injEq]
  exact ⟨(List.cons.inj samePath).2, sameValue⟩

/-- The first step may be renamed after the others. -/
theorem map_rename_under (rename : String → String) (step : Step) (leaves : List Leaf) :
    (leaves.map (under step)).map (Leaf.rename rename) =
      (leaves.map (Leaf.rename rename)).map (under (step.rename rename)) := by
  rw [List.map_map, List.map_map]
  rfl

end Leaf

mutual

/-- These are the leaves of a value in order. -/
def leaves : Value → List Leaf
  | array values => leavesList 0 values
  | document fields => leavesFields fields
  | leaf => [⟨[], leaf⟩]

/-- The place of an element is the next step to its leaves. -/
def leavesList (index : Nat) : List Value → List Leaf
  | [] => []
  | value :: rest => (leaves value).map (Leaf.under (.place index)) ++ leavesList (index + 1) rest

/-- The key of a field is the next step to its leaves. -/
def leavesFields : List (String × Value) → List Leaf
  | [] => []
  | (key, value) :: rest => (leaves value).map (Leaf.under (.key key)) ++ leavesFields rest

end

/-- The leaves of a document are those of its fields, which lets facts about lists carry over. -/
theorem leavesFields_eq_flatMap (fields : List (String × Value)) :
    leavesFields fields =
      fields.flatMap fun field => (leaves field.2).map (Leaf.under (.key field.1)) := by
  induction fields with
  | nil => rfl
  | cons field rest inductionHypothesis =>
      rw [leavesFields, inductionHypothesis, List.flatMap_cons]

section

variable {rename : String → String}

mutual

/-- Every leaf of a renamed value is a leaf of the value, and none occurs more often. -/
theorem leaves_renameKeys (value : Value) :
    (renameKeys rename value).leaves.Subperm (value.leaves.map (Leaf.rename rename)) := by
  cases value with
  | array values => exact leavesList_renameKeysList 0 values
  | document fields =>
      -- Fields that collapse only lose leaves.
      have kept := Fields.flatMap_ofList_subperm (renameKeysFields rename fields)
        fun field => (leaves field.2).map (Leaf.under (.key field.1))
      rw [← leavesFields_eq_flatMap, ← leavesFields_eq_flatMap] at kept
      exact kept.trans (leavesFields_renameKeysFields fields)
  | _ => exact .refl _

/-- The elements of a list keep their places. -/
theorem leavesList_renameKeysList (index : Nat) : (values : List Value) →
    (leavesList index (renameKeysList rename values)).Subperm
      ((leavesList index values).map (Leaf.rename rename))
  | [] => .refl []
  | value :: rest => by
      rw [renameKeysList, leavesList, leavesList, List.map_append, Leaf.map_rename_under]
      exact ((leaves_renameKeys value).map (Leaf.under_injective _)).append
        (leavesList_renameKeysList (index + 1) rest)

/-- This is about the fields before any of them collapse. -/
theorem leavesFields_renameKeysFields : (fields : List (String × Value)) →
    (leavesFields (renameKeysFields rename fields)).Subperm
      ((leavesFields fields).map (Leaf.rename rename))
  | [] => .refl []
  | (key, value) :: rest => by
      rw [renameKeysFields, leavesFields, leavesFields, List.map_append, Leaf.map_rename_under]
      exact ((leaves_renameKeys value).map (Leaf.under_injective _)).append
        (leavesFields_renameKeysFields rest)

end

end

end Value

namespace KeyMarkers

end KeyMarkers

namespace Item

open Value

-- The two keys become equal, so the last value takes the place of the first. The scope of the code
-- names a variable and no field, and stays as it is.
example :
    sanitizeKeys [("a.b", .int32 1), ("c", .codeWithScope "f(this)" [("$x", .null)]),
        ("a__dot__b", .int32 2)] =
      [("a__dot__b", .int32 2), ("c", .codeWithScope "f(this)" [("$x", .null)])] :=
  rfl

end Item

end DocumentStore

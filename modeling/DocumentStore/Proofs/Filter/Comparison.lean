import DocumentStore.Proofs.Evaluation.Verdict
import DocumentStore.Proofs.Filter.Wire
import DocumentStore.Proofs.Value.Ordering

/-!
This file tells what a compiled comparison answers about a field.

Kinds of values that JSON does not have are ordered like null, although they are not null.
-/

namespace DocumentStore

/-- Null and the kinds without an order of their own count as null. -/
def Value.countsAsNull : Value → Bool
  | bool _ | int32 _ | int64 _ | double _ | date _ | string _ | array _ | document _ => false
  | _ => true

/-- A value counts as null whether or not it is read as a date. -/
theorem Value.countsAsNull_decodeDate (value : Value) :
    value.decodeDate.countsAsNull = value.countsAsNull := by
  cases value with
  | string text | document fields =>
      unfold decodeDate
      split <;> rfl
  | _ => rfl

/-- Lists and documents have no order. -/
def Comparand.IsScalar : Comparand → Prop
  | array _ => False
  | map _ => False
  | _ => True

theorem Value.isScalar_comparand_iff {value : Value} :
    value.comparand.IsScalar ↔ value.IsScalar := by
  cases value <;> rfl

/-- A scalar is not searched for elements. -/
theorem Value.fieldEquals_of_isScalar {stored : Value} (scalar : stored.IsScalar) (value : Value) :
    fieldEquals (some stored) value = stored.comparand.equal value.comparand := by
  rw [← isScalar_comparand_iff] at scalar
  unfold fieldEquals Comparand.ofField
  rw [Option.map_some, Option.getD_some]
  cases comparand : stored.comparand with
  | array values =>
      rw [comparand] at scalar
      cases scalar
  | _ => rfl

namespace Comparison

/-- An inclusive bound also admits what equals it. -/
def IsInclusive (comparison : Comparison) : Prop :=
  comparison = lte ∨ comparison = gte

/-- This is the strict form of an inclusive bound, and other comparisons stay as they are. -/
def strict : Comparison → Comparison
  | eq => eq
  | ne => ne
  | lt | lte => lt
  | gt | gte => gt

/-- This is what a comparison answers about a field. Equality with a value without content tests
whether the field is null. -/
def answer (comparison : Comparison) (stored : Option Value) (value : Value) : Bool :=
  match comparison, value.isAbsent with
  | eq, true => isNullField stored
  | ne, true => !isNullField stored
  | _, _ => comparison.holds stored value.decodeDate

end Comparison

namespace Filter

/-- A compiled comparison answers for every item, without a fault. -/
theorem verdict_compileComparison (item : Item) (comparison : Comparison) (field : FieldName)
    (value : Value) :
    (compileComparison comparison field value).verdict item =
      .ok (comparison.answer (item.get? field.text) value) := by
  unfold compileComparison Comparison.answer
  cases comparison with
  | eq => cases value.isAbsent <;> rfl
  | ne =>
      cases value.isAbsent with
      | false => rfl
      | true => exact Predicate.verdict_not item (.isNull field)
  | _ => rfl

/-- A filter with one comparison compiles to it. -/
theorem compileWire_comparison (comparison : Comparison) (field : FieldName) (value : Json) :
    compileWire (some (.leaf (.compare comparison) field.text value)) =
      .ok (compileComparison comparison field (Value.ofJson value)) :=
  compileWire_leaf (.compare comparison) field value

end Filter

end DocumentStore

import DocumentStore.Proofs.Filter.Comparison
import DocumentStore.Proofs.Filter.Membership

/-!
This file compares inclusive bounds with strict ones. An inclusive bound adds the scalars that equal
it, but lists and documents have no order, so they are inside no bound.
-/

namespace DocumentStore

namespace Comparand

/-- Two comparands tie in their order when they are scalars and equal. -/
theorem compare?_eq_eq_iff (left right : Comparand) :
    left.compare? right = some .eq ↔ left.IsScalar ∧ left.equal right = true := by
  cases left <;> cases right <;>
    simp [compare?, IsScalar, equal, Double.equal, Instant.ext_iff]

end Comparand

namespace Value

/-- What counts as null is neither a list nor a document. -/
theorem isScalar_of_countsAsNull {value : Value} (counts : value.countsAsNull = true) :
    value.IsScalar := by
  cases value with
  | array _ => cases counts
  | document _ => cases counts
  | _ => trivial

/-- The values that equal null are those that count as null. -/
theorem equal_null_iff {value : Value} :
    value.comparand.equal .null = true ↔ value.countsAsNull = true := by
  cases value <;> simp [comparand, Comparand.equal, countsAsNull]

/-- A stored field passes the null test when it holds null. -/
theorem isNullField_some_iff {value : Value} : isNullField (some value) = true ↔ value = .null := by
  simp [isNullField_iff, PassesNullTest]

theorem comparand_decodeDate_of_isAbsent {value : Value} (absent : value.isAbsent = true) :
    value.decodeDate.comparand = .null := by
  cases value with
  | null => rfl
  | undefined => rfl
  | _ => cases absent

/-- Only null is read as a value without content. -/
theorem isAbsent_ofJson_iff {json : Json} : (ofJson json).isAbsent = true ↔ json = .null := by
  rw [← ofJson_eq_null_iff]
  constructor
  · exact (storable_ofJson json).eq_null_of_isAbsent
  · intro isNull
    rw [isNull]
    rfl

end Value

namespace Comparison

variable {comparison : Comparison} {stored value : Value}

/-- An inclusive bound admits what the strict one does, and what ties with it. -/
theorem orders_inclusive_iff (inclusive : comparison.IsInclusive) :
    comparison.orders (some stored) value = true ↔
      comparison.strict.orders (some stored) value = true ∨
        stored.comparand.compare? value.comparand = some .eq := by
  simp only [orders]
  cases stored.comparand.compare? value.comparand with
  | none => simp
  | some ordering => rcases inclusive with rfl | rfl <;> cases ordering <;> simp [strict, admits]

/-- Equality decides about a scalar that ties with a value, unless the value has no content. -/
theorem answer_eq_of_isScalar (scalar : stored.IsScalar) (present : value.isAbsent = false) :
    eq.answer (some stored) value = stored.comparand.equal value.decodeDate.comparand := by
  unfold answer
  rw [present]
  exact Value.fieldEquals_of_isScalar scalar value.decodeDate

/-- Equality with null is the null test. -/
theorem answer_eq_of_isAbsent (absent : value.isAbsent = true) :
    eq.answer (some stored) value = isNullField (some stored) := by
  unfold answer
  rw [absent]

/-- What ties with a value equals it, or counts as null without being null. -/
theorem ties_iff :
    (stored.IsScalar ∧ stored.comparand.equal value.decodeDate.comparand = true) ↔
      (eq.answer (some stored) value = true ∧ stored.IsScalar) ∨
        (value.isAbsent = true ∧ stored.countsAsNull = true) := by
  cases absent : value.isAbsent with
  | false =>
      rw [and_comm, and_congr_left fun scalar => by rw [← answer_eq_of_isScalar scalar absent]]
      simp
  | true =>
      rw [Value.comparand_decodeDate_of_isAbsent absent, Value.equal_null_iff,
        answer_eq_of_isAbsent absent, Value.isNullField_some_iff]
      constructor
      · rintro ⟨-, counts⟩
        exact .inr ⟨rfl, counts⟩
      · rintro (⟨rfl, scalar⟩ | ⟨-, counts⟩)
        · exact ⟨scalar, rfl⟩
        · exact ⟨Value.isScalar_of_countsAsNull counts, counts⟩

/-- An inclusive comparison holds when the strict one does, when scalars are equal, or when both
sides count as null. -/
theorem answer_inclusive_iff (inclusive : comparison.IsInclusive) :
    comparison.answer (some stored) value = true ↔
      comparison.strict.answer (some stored) value = true ∨
        (eq.answer (some stored) value = true ∧ stored.IsScalar) ∨
        (value.isAbsent = true ∧ stored.countsAsNull = true) := by
  rw [← ties_iff, ← Value.isScalar_comparand_iff, ← Comparand.compare?_eq_eq_iff]
  rcases inclusive with rfl | rfl
  · exact orders_inclusive_iff (.inl rfl)
  · exact orders_inclusive_iff (.inr rfl)

end Comparison

namespace Filter

/-- All comparisons of a field with a value compile and answer. An inclusive bound matches a present
field when the strict bound does, or when equality does and the field is no list and no document.
Null also bounds the kinds that count as null. -/
theorem inclusive_iff_strict (field : FieldName) (value : Json) {item : Item} {stored : Value}
    (present : item.get? field.text = some stored) :
    ∃ answer : Comparison → Bool,
      (∀ comparison, ∃ predicate,
        compileWire (some (.leaf (.compare comparison) field.text value)) = .ok predicate ∧
        ∀ cache, (predicate.evaluate item cache).1 = .ok (answer comparison)) ∧
      (answer .lte = true ↔ answer .lt = true ∨ (answer .eq = true ∧ stored.IsScalar) ∨
        (value = .null ∧ stored.countsAsNull = true)) ∧
      (answer .gte = true ↔ answer .gt = true ∨ (answer .eq = true ∧ stored.IsScalar) ∨
        (value = .null ∧ stored.countsAsNull = true)) := by
  refine ⟨fun comparison => comparison.answer (some stored) (Value.ofJson value), ?_, ?_, ?_⟩
  · intro comparison
    refine ⟨_, compileWire_comparison comparison field value, ?_⟩
    intro cache
    rw [Predicate.evaluate_fst, verdict_compileComparison, present]
  · rw [← Value.isAbsent_ofJson_iff]
    exact Comparison.answer_inclusive_iff (.inl rfl)
  · rw [← Value.isAbsent_ofJson_iff]
    exact Comparison.answer_inclusive_iff (.inr rfl)

/-- This is the number five in JSON. -/
def five : Json :=
  .number (.integer 5 (by decide) (by decide))

/-- A number is inside the bound that it equals. -/
theorem inclusive_iff_strict_number :
    ∃ predicate, compileWire (some (.leaf (.compare .lte) "size" five)) = .ok predicate ∧
      (predicate.evaluate [("size", .double (Double.ofInt 5))] .empty).1 = .ok true := by
  let field : FieldName := ⟨"size", by decide⟩
  let stored : Value := .double (Double.ofInt 5)
  obtain ⟨answer, answers, inclusive, -⟩ :=
    inclusive_iff_strict field five (rfl : Fields.get? [("size", stored)] field.text = some stored)
  obtain ⟨equality, equalCompiled, equal⟩ := answers .eq
  obtain ⟨bound, boundCompiled, bounded⟩ := answers .lte
  have same : answer .eq = true := by
    cases (compileWire_comparison .eq field five).symm.trans equalCompiled
    have answered := equal .empty
    rw [Predicate.evaluate_fst, verdict_compileComparison] at answered
    rw [← Except.ok.inj answered]
    decide +kernel
  refine ⟨bound, boundCompiled, ?_⟩
  rw [bounded, inclusive.mpr (.inr (.inl ⟨same, trivial⟩))]

/-- A list equals the number that it holds, but it is not inside its bound. -/
theorem eq_without_lte_list :
    ∃ equality strict inclusive,
      compileWire (some (.leaf (.compare .eq) "size" five)) = .ok equality ∧
      compileWire (some (.leaf (.compare .lt) "size" five)) = .ok strict ∧
      compileWire (some (.leaf (.compare .lte) "size" five)) = .ok inclusive ∧
      (equality.evaluate [("size", .array [.int32 5])] .empty).1 = .ok true ∧
      (strict.evaluate [("size", .array [.int32 5])] .empty).1 = .ok false ∧
      (inclusive.evaluate [("size", .array [.int32 5])] .empty).1 = .ok false := by
  let field : FieldName := ⟨"size", by decide⟩
  refine ⟨_, _, _, compileWire_comparison .eq field five, compileWire_comparison .lt field five,
    compileWire_comparison .lte field five, ?_, rfl, rfl⟩
  rw [Predicate.evaluate_fst, verdict_compileComparison]
  apply congrArg
  decide +kernel

end Filter

end DocumentStore

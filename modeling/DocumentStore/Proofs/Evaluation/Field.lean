import DocumentStore.Evaluation.Matching
import DocumentStore.Proofs.Filter.Meaning

/-!
This file shows that the tests of single fields decide what the leaves of a filter mean.
-/

namespace DocumentStore

namespace Value

/-- A list is never the same as a value that is no list. -/
theorem not_same_array {value : Value} (noList : ¬ value.IsList) (elements : List Value) :
    ¬ Same (.array elements) value := by
  rw [same_array_iff]
  rintro ⟨others, rfl, -⟩
  exact noList trivial

/-- Only lists compare as lists. -/
theorem comparand_ne_array {value : Value} (noList : ¬ value.IsList)
    (comparands : List Comparand) : value.comparand ≠ .array comparands := by
  cases value with
  | array elements => exact absurd trivial noList
  | _ => simp [comparand]

/-- A missing field equals what null equals. -/
theorem equals_none_iff {value : Value} : Equals none value ↔ Same .null value := by
  simp [Equals]

/-- A field without a list equals the values that are the same. -/
theorem equals_some_iff {present value : Value} (noList : ¬ present.IsList) :
    Equals (some present) value ↔ present.Same value := by
  constructor
  · rintro (same | ⟨elements, equal, -⟩)
    · exact same
    · cases equal
      exact absurd trivial noList
  · exact .inl

/-- A list equals a value that one of its elements is the same as. -/
theorem equals_array_iff {elements : List Value} {value : Value} (noList : ¬ value.IsList) :
    Equals (some (.array elements)) value ↔ ∃ element ∈ elements, element.Same value := by
  constructor
  · rintro (same | ⟨others, equal, -, found⟩)
    · exact absurd same (not_same_array noList elements)
    · cases equal
      exact found
  · intro found
    exact .inr ⟨elements, rfl, noList, found⟩

/-- A list equals the lists that are the same. -/
theorem equals_array_list_iff {elements : List Value} {value : Value} (list : value.IsList) :
    Equals (some (.array elements)) value ↔ Same (.array elements) value := by
  constructor
  · rintro (same | ⟨others, equal, noList, -⟩)
    · exact same
    · exact absurd list noList
  · exact .inl

end Value

/-- Some element of a stored list decides about a value that is no list. -/
theorem fieldEquals_array {elements : List Value} {value : Value} (noList : ¬ value.IsList) :
    fieldEquals (some (.array elements)) value = true ↔
      ∃ element ∈ elements, element.comparand.equal value.comparand = true := by
  have noComparands := Value.comparand_ne_array noList
  simp [fieldEquals, Comparand.ofField, Value.comparand]

/-- The test of a field for equality is the relation, where everything can be stored. -/
theorem fieldEquals_iff {stored : Option Value} {value : Value}
    (storedStorable : ∀ present ∈ stored, present.Storable) (valueStorable : value.Storable) :
    fieldEquals stored value = true ↔ Value.Equals stored value := by
  cases stored with
  | none =>
      rw [Value.equals_none_iff, ← Value.equal_comparand_iff .null valueStorable]
      rfl
  | some present =>
      have presentStorable := storedStorable present rfl
      by_cases presentList : present.IsList
      · cases presentStorable with
        | array elements =>
            -- Two lists are compared as lists, and otherwise every element is asked.
            by_cases valueList : value.IsList
            · rw [Value.equals_array_list_iff valueList,
                ← Value.equal_comparand_iff (.array elements) valueStorable]
              cases valueStorable with
              | array others => rfl
              | _ => cases valueList
            · rw [Value.equals_array_iff valueList, fieldEquals_array valueList]
              apply exists_congr
              intro element
              apply and_congr_right
              intro member
              exact Value.equal_comparand_iff (elements element member) valueStorable
        | _ => cases presentList
      · rw [Value.equals_some_iff presentList,
          ← Value.equal_comparand_iff presentStorable valueStorable]
        cases presentStorable with
        | array elements => exact absurd trivial presentList
        | _ => rfl

namespace Comparison

/-- The order of two stored values decides the order comparisons. -/
theorem orders_iff {comparison : Comparison} {stored : Option Value} {value : Value}
    (storedStorable : ∀ present ∈ stored, present.Storable) (valueStorable : value.Storable)
    (ordered : comparison ≠ .eq ∧ comparison ≠ .ne) :
    comparison.orders stored value = true ↔ comparison.Relates stored value := by
  cases stored with
  | none => cases comparison <;> simp_all [orders, Relates]
  | some present =>
      have presentStorable := storedStorable present rfl
      have below := Comparand.compare?_comparand_eq_lt_iff presentStorable valueStorable
      have above := Comparand.compare?_comparand_eq_gt_iff presentStorable valueStorable
      have ties := Comparand.compare?_comparand_eq_eq_iff presentStorable valueStorable
      have meaning : comparison.Relates (some present) value ↔
          (present.comparand.compare? value.comparand).any comparison.admits = true := by
        cases comparison with
        | eq => exact absurd rfl ordered.1
        | ne => exact absurd rfl ordered.2
        | _ =>
            simp only [Relates, Option.mem_some_iff, exists_eq_left', ← below, ← above, ← ties]
            cases present.comparand.compare? value.comparand with
            | none => simp
            | some ordering => cases ordering <;> simp [admits]
      rw [meaning, orders]

/-- A comparison holds where its relation does. -/
theorem holds_iff (comparison : Comparison) {stored : Option Value} {value : Value}
    (storedStorable : ∀ present ∈ stored, present.Storable) (valueStorable : value.Storable) :
    comparison.holds stored value = true ↔ comparison.Relates stored value := by
  cases comparison with
  | eq => exact fieldEquals_iff storedStorable valueStorable
  | ne =>
      rw [holds, Relates, ← fieldEquals_iff storedStorable valueStorable]
      simp
  | lt | lte | gt | gte => exact orders_iff storedStorable valueStorable ⟨nofun, nofun⟩

end Comparison

namespace Placement

/-- A text is searched for at every place. -/
theorem occursIn_iff (search text : List Char) :
    occursIn search text = true ↔ search <:+: text := by
  induction text with
  | nil => simp [occursIn]
  | cons char text inductionHypothesis =>
      rw [occursIn, Bool.or_eq_true, List.isPrefixOf_iff_prefix, inductionHypothesis,
        List.infix_cons_iff]

/-- A placement finds a text where the library does. -/
theorem finds_iff (placement : Placement) (search text : List Char) :
    placement.finds search text = true ↔ placement.Finds search text := by
  cases placement with
  | anywhere => exact occursIn_iff search text
  | atStart => exact List.isPrefixOf_iff_prefix
  | atEnd => exact List.isSuffixOf_iff_suffix

/-- A search holds where its relation does. -/
theorem holds_iff (placement : Placement) (stored : Option Value) (search : String) :
    placement.holds stored search = true ↔ placement.Searches stored search := by
  unfold holds Searches
  split
  · simp [finds_iff]
  · next noText =>
      simp only [Bool.false_eq_true, false_iff, not_exists, not_and]
      rintro text rfl
      exact absurd rfl (noText text)

end Placement

/-- The null test is passed by null and by missing fields. -/
theorem isNullField_iff (stored : Option Value) :
    isNullField stored = true ↔ PassesNullTest stored := by
  unfold isNullField PassesNullTest
  split <;> simp_all

end DocumentStore

import DocumentStore.Proofs.Filter.Compilation
import DocumentStore.Proofs.Filter.Wire

/-!
This file compares a search for one of several values with a disjunction of equalities. They agree
except on null, because equality with null only tests whether the field itself is null.
-/

namespace DocumentStore

namespace Value

/-- Nothing but null is read as null. -/
theorem ofJson_eq_null_iff {json : Json} : ofJson json = .null ↔ json = .null := by
  cases json with
  | null => exact iff_of_true rfl rfl
  | number number =>
      obtain ⟨double, isNumber⟩ := exists_number_ofNumber number
      apply iff_of_false _ nofun
      intro isNull
      change ofNumber number = .null at isNull
      rw [isNull] at isNumber
      cases isNumber
  | _ => exact iff_of_false nofun nofun

/-- Null is among the elements of a stored list. -/
def HoldsNull (stored : Option Value) : Prop :=
  ∃ elements, stored = some (.array elements) ∧ .null ∈ elements

/-- A field equals null when it passes the null test or holds a list with null. -/
theorem equals_null_iff {stored : Option Value} :
    Equals stored .null ↔ PassesNullTest stored ∨ HoldsNull stored := by
  apply or_congr
  · rw [same_right_null_iff]
    cases stored <;> simp [PassesNullTest]
  · apply exists_congr
    intro elements
    simp [same_right_null_iff, IsList]

end Value

open Value in
/-- A listed value that is not null asks what equality with it asks. -/
theorem Comparison.equals_decodeDate_iff {stored : Option Value} {value : Value} :
    Equals stored value.decodeDate ↔
      eq.Tests stored value ∨ (value = .null ∧ HoldsNull stored) := by
  by_cases isNull : value = .null
  · subst isNull
    simp only [true_and]
    exact equals_null_iff
  · rw [tests_iff_relates isNull, or_iff_left fun both => isNull both.1]
    rfl

/-- One listed value is found when equality with one holds, or when null is listed and held. -/
theorem exists_equals_iff {stored : Option Value} {values : List Value} :
    (∃ value ∈ values, Value.Equals stored value.decodeDate) ↔
      (∃ value ∈ values, Comparison.eq.Tests stored value) ∨
        (.null ∈ values ∧ Value.HoldsNull stored) := by
  simp only [Comparison.equals_decodeDate_iff, and_or_left, exists_or]
  apply or_congr Iff.rfl
  constructor
  · rintro ⟨value, inside, rfl, holds⟩
    exact ⟨inside, holds⟩
  · rintro ⟨inside, holds⟩
    exact ⟨.null, inside, rfl, holds⟩

namespace Filter

/-- Leaves are read one by one. -/
theorem ofJsonList_leaves (operator : LeafOperator) (field : FieldName) (values : List Json) :
    ofJsonList (values.map (.leaf operator field.text)) =
      .ok ((values.map Value.ofJson).map (.leaf operator field)) := by
  induction values with
  | nil => rfl
  | cons value rest inductionHypothesis =>
      rw [List.map_cons, ofJsonList, ofJson_leaf, inductionHypothesis]
      rfl

/-- A comparison is never dropped. -/
theorem isEmpty_compileComparison (comparison : Comparison) (field : FieldName) (value : Value) :
    (compileComparison comparison field value).isEmpty = false := by
  unfold compileComparison
  split <;> rfl

/-- Comparisons are compiled one by one. -/
theorem compileList_comparisons (comparison : Comparison) (field : FieldName)
    (values : List Value) :
    compileList (values.map (.leaf (.compare comparison) field)) =
      .ok (values.map (compileComparison comparison field)) := by
  induction values with
  | nil => rfl
  | cons value rest inductionHypothesis =>
      rw [List.map_cons, compileList, inductionHypothesis]
      change Except.ok (if (compileComparison comparison field value).isEmpty then _ else _) = _
      rw [isEmpty_compileComparison]
      rfl

/-- Each comparison has its own constraint. -/
theorem constraints_leaves (item : Item) (comparison : Comparison) (field : FieldName)
    (values : List Value) :
    constraints item (values.map (.leaf (.compare comparison) field)) =
      values.map (comparison.Tests (item.get? field.text)) := by
  induction values with
  | nil => rfl
  | cons value rest inductionHypothesis =>
      rw [List.map_cons, constraints, inductionHypothesis]
      rfl

/-- A field has some of the listed values when it equals one of them. -/
theorem meaning_hasSome {item : Item} {field : FieldName} {values : List Value}
    (some : values ≠ []) :
    Meaning item (.leaf .hasSome field (.array values)) ↔
      ∃ value ∈ values, Value.Equals (item.get? field.text) value.decodeDate := by
  cases values with
  | nil => exact absurd rfl some
  | cons value rest => rfl

/-- A disjunction of comparisons holds when one of them does. -/
theorem meaning_disjunction {item : Item} {comparison : Comparison} {field : FieldName}
    {values : List Value} (some : values ≠ []) :
    Meaning item (.combine .or (values.map (.leaf (.compare comparison) field))) ↔
      ∃ value ∈ values, comparison.Tests (item.get? field.text) value := by
  rw [Meaning, constraint?, constraints_leaves]
  cases values with
  | nil => exact absurd rfl some
  | cons value rest =>
      change (∃ holds ∈ (value :: rest).map _, holds) ↔ _
      simp only [List.mem_map, exists_exists_and_eq_and]

/-- The listed values are read in order. -/
theorem ofJson_hasSome (field : FieldName) (values : List Json) :
    ofJson (.leaf .hasSome field.text (.array values)) =
      .ok (.leaf .hasSome field (.array (values.map Value.ofJson))) := by
  rw [ofJson_leaf, Value.ofJson, Value.ofJsonList_eq_map]

/-- A filter for listed values compiles to one test. -/
theorem compileWire_hasSome (field : FieldName) (values : List Json) :
    compileWire (some (.leaf .hasSome field.text (.array values))) =
      .ok (compileOneOf field (.array (values.map Value.ofJson))) := by
  rw [compileWire, ofJson_hasSome]
  rfl

theorem ofJson_disjunction (comparison : Comparison) (field : FieldName) (values : List Json) :
    ofJson (.combination .or (values.map (.leaf (.compare comparison) field.text))) =
      .ok (.combine .or ((values.map Value.ofJson).map (.leaf (.compare comparison) field))) :=
  ofJson_combination (by decide) (ofJsonList_leaves (.compare comparison) field values)

/-- A disjunction of comparisons keeps all of them. -/
theorem compile_disjunction (comparison : Comparison) (field : FieldName) (values : List Value) :
    compile (.combine .or (values.map (.leaf (.compare comparison) field))) =
      .ok (.join .or (values.map (compileComparison comparison field))) := by
  rw [compile, compileList_comparisons]
  rfl

/-- A disjunction of comparisons compiles to their join. -/
theorem compileWire_disjunction (comparison : Comparison) (field : FieldName)
    (values : List Json) :
    compileWire (some (.combination .or (values.map (.leaf (.compare comparison) field.text)))) =
      .ok (.join .or ((values.map Value.ofJson).map (compileComparison comparison field))) := by
  rw [compileWire, ofJson_disjunction]
  exact compile_disjunction comparison field _

/-- A search for listed values compiles, and so does the disjunction of the equalities with them.
Both always answer. The search matches more only when null is listed and stands in a stored
list. -/
theorem hasSome_iff_disjunction (field : FieldName) {values : List Json} (some : values ≠ []) :
    ∃ membership disjunction,
      compileWire (.some (.leaf .hasSome field.text (.array values))) = .ok membership ∧
      compileWire (.some (.combination .or
        (values.map (.leaf (.compare .eq) field.text)))) = .ok disjunction ∧
      ∀ item : Item, item.Storable → ∀ first second : PatternCache, ∃ isMember isEqual,
        (membership.evaluate item first).1 = .ok isMember ∧
        (disjunction.evaluate item second).1 = .ok isEqual ∧
        (isMember = true ↔
          isEqual = true ∨ (.null ∈ values ∧ Value.HoldsNull (item.get? field.text))) := by
  have compiled := compile_disjunction .eq field (values.map Value.ofJson)
  refine ⟨_, _, compileWire_hasSome field values, compileWire_disjunction .eq field values, ?_⟩
  intro item storable first second
  have listed : values.map Value.ofJson ≠ [] := by simpa using some
  have memberStorable := storable_ofJson _ (ofJson_hasSome field values)
  have equalStorable := storable_ofJson _ (ofJson_disjunction .eq field values)
  obtain ⟨isMember, memberAnswer, member⟩ := exists_verdict memberStorable rfl storable
  obtain ⟨isEqual, equalAnswer, equal⟩ := exists_verdict equalStorable compiled storable
  refine ⟨isMember, isEqual, ?_, ?_, ?_⟩
  · rw [Predicate.evaluate_fst]
    exact memberAnswer
  · rw [Predicate.evaluate_fst]
    exact equalAnswer
  · rw [member, equal, meaning_hasSome listed, meaning_disjunction listed, exists_equals_iff]
    simp [Value.ofJson_eq_null_iff]

/-- A missing field counts as null for both filters. -/
theorem hasSome_iff_disjunction_missing :
    ∃ membership disjunction,
      compileWire (some (.leaf .hasSome "name" (.array [.string "a", .null]))) = .ok membership ∧
      compileWire (some (.combination .or
        [.leaf (.compare .eq) "name" (.string "a"), .leaf (.compare .eq) "name" .null])) =
          .ok disjunction ∧
      (membership.evaluate [] .empty).1 = .ok true ∧
      (disjunction.evaluate [] .empty).1 = .ok true := by
  let field : FieldName := ⟨"name", by decide⟩
  have storable : Item.Storable [] := ⟨List.nodup_nil, List.forall_mem_nil _⟩
  obtain ⟨membership, disjunction, memberCompiled, equalCompiled, agree⟩ :=
    hasSome_iff_disjunction field (by decide : [Json.string "a", .null] ≠ [])
  obtain ⟨isMember, isEqual, memberAnswer, equalAnswer, same⟩ :=
    agree [] storable .empty .empty
  have compared : isEqual = true := by
    cases (compileWire_disjunction .eq field [.string "a", .null]).symm.trans equalCompiled
    cases equalAnswer
    rfl
  refine ⟨membership, disjunction, memberCompiled, equalCompiled, ?_, ?_⟩
  · rw [memberAnswer, same.mpr (.inl compared)]
  · rw [equalAnswer, compared]

/-- Null is found in a list, but the list does not equal null. -/
theorem hasSome_null_in_list :
    ∃ membership disjunction,
      compileWire (some (.leaf .hasSome "name" (.array [.null]))) = .ok membership ∧
      compileWire (some (.combination .or [.leaf (.compare .eq) "name" .null])) =
        .ok disjunction ∧
      Item.Storable [("name", .array [.null])] ∧
      (membership.evaluate [("name", .array [.null])] .empty).1 = .ok true ∧
      (disjunction.evaluate [("name", .array [.null])] .empty).1 = .ok false := by
  let field : FieldName := ⟨"name", by decide⟩
  refine ⟨_, _, compileWire_hasSome field [.null], compileWire_disjunction .eq field [.null],
    ?_, rfl, rfl⟩
  exact ⟨List.nodup_singleton _, by simp [Value.Storable.array, Value.Storable.null]⟩

end Filter

end DocumentStore

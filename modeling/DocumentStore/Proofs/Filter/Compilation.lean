import DocumentStore.Proofs.Evaluation.Decision
import DocumentStore.Proofs.Evaluation.Field
import DocumentStore.Proofs.Filter.Wire

/-!
This file shows that a compiled predicate decides what its filter means.
-/

namespace DocumentStore

/-- Undefined values are never stored. -/
theorem Value.Storable.eq_null_of_isAbsent {value : Value} (storable : value.Storable)
    (absent : value.isAbsent = true) : value = .null := by
  cases storable with
  | null => rfl
  | _ => cases absent

/-- Only null is compared in its own way. -/
theorem Comparison.tests_iff_relates {comparison : Comparison} {stored : Option Value}
    {value : Value} (notNull : value ≠ .null) :
    comparison.Tests stored value ↔ comparison.Relates stored value.decodeDate := by
  unfold Comparison.Tests
  split
  · exact absurd rfl notNull
  · exact absurd rfl notNull
  · rfl

namespace Filter

open Predicate

variable {item : Item}

/-- A comparison decides the relation of the stored field. -/
theorem compare_decides (itemStorable : item.Storable) (comparison : Comparison)
    (field : FieldName) {value : Value} (storable : value.Storable) :
    (Predicate.compare field comparison value).Decides item
      (comparison.Relates (item.get? field.text) value) :=
  ⟨_, verdict_compare item field comparison value,
    comparison.holds_iff (fun _ found => itemStorable.get? found) storable⟩

/-- The null test decides whether the field passes it. -/
theorem isNull_decides (field : FieldName) :
    (Predicate.isNull field).Decides item (PassesNullTest (item.get? field.text)) :=
  ⟨_, verdict_isNull item field, isNullField_iff _⟩

/-- A compiled comparison means its test. -/
theorem compileComparison_means (itemStorable : item.Storable) (comparison : Comparison)
    (field : FieldName) {value : Value} (storable : value.Storable) :
    (compileComparison comparison field value).Means item
      (some (comparison.Tests (item.get? field.text) value)) := by
  by_cases absent : value.isAbsent = true
  · cases storable.eq_null_of_isAbsent absent
    cases comparison with
    | eq => exact ⟨rfl, isNull_decides field⟩
    | ne => exact ⟨rfl, (isNull_decides field).not⟩
    | _ => exact ⟨rfl, compare_decides itemStorable _ field .null⟩
  · have notNull : value ≠ .null := by
      rintro rfl
      exact absent rfl
    have compiled : compileComparison comparison field value =
        .compare field comparison value.decodeDate := by
      unfold compileComparison
      split
      · contradiction
      · contradiction
      · rfl
    rw [compiled, Comparison.tests_iff_relates notNull]
    exact ⟨rfl, compare_decides itemStorable comparison field storable.decodeDate⟩

/-- The listed values are decoded one by one. -/
theorem listedValues_eq_map (value : Value) :
    listedValues value = value.alternatives.map Value.decodeDate := by
  cases value <;> rfl

/-- The listed values can be stored when the list can. -/
theorem storable_alternatives {value : Value} (storable : value.Storable) :
    ∀ alternative ∈ value.alternatives, alternative.Storable := by
  cases storable with
  | null => exact List.forall_mem_nil _
  | array elements => exact elements
  | _ =>
      intro alternative member
      cases List.mem_singleton.mp member
      constructor <;> assumption

/-- A test against listed values decides whether one of them equals the field. -/
theorem oneOf_decides (itemStorable : item.Storable) (field : FieldName) {values : List Value}
    (storable : ∀ value ∈ values, value.Storable) :
    (Predicate.oneOf field values).Decides item
      (∃ value ∈ values, Value.Equals (item.get? field.text) value) := by
  refine ⟨_, verdict_oneOf item field values, ?_⟩
  rw [List.any_eq_true]
  apply exists_congr
  intro value
  apply and_congr_right
  intro member
  exact fieldEquals_iff (fun _ found => itemStorable.get? found) (storable value member)

/-- A compiled test against listed values means its constraint. -/
theorem compileOneOf_means (itemStorable : item.Storable) (field : FieldName) {value : Value}
    (storable : value.Storable) :
    (compileOneOf field value).Means item
      (LeafOperator.hasSome.constraint? (item.get? field.text) value) := by
  unfold compileOneOf LeafOperator.constraint?
  rw [listedValues_eq_map]
  have alternativesStorable := storable_alternatives storable
  cases alternatives : value.alternatives with
  | nil => rfl
  | cons first rest =>
      rw [alternatives] at alternativesStorable
      have decides := oneOf_decides itemStorable field
        (List.forall_mem_map.mpr fun alternative member =>
          (alternativesStorable alternative member).decodeDate)
      simp only [List.mem_map, exists_exists_and_eq_and] at decides
      exact ⟨rfl, decides⟩

/-- A compiled search means its constraint. -/
theorem compileLike_means (placement : Placement) (field : FieldName) {value : Value}
    {predicate : Predicate} (compiled : compileLike placement field value = .ok predicate) :
    predicate.Means item
      ((LeafOperator.like placement).constraint? (item.get? field.text) value) := by
  unfold compileLike at compiled
  unfold LeafOperator.constraint?
  cases search : value.scalarText? with
  | none =>
      rw [search] at compiled
      cases compiled
  | some text =>
      rw [search] at compiled
      cases compiled
      by_cases none : text = ""
      · subst none
        rfl
      · have notEmpty : ¬ text.isEmpty = true := by simpa using none
        simp only [Option.getD_some, if_neg none, if_neg notEmpty]
        exact ⟨rfl, _, verdict_like item field placement text, placement.holds_iff _ text⟩

/-- Every token is a text, and its pattern matches the text itself. -/
theorem tokenPatterns_eq {values : List Value} {patterns : List (List Char)}
    (read : values.mapM tokenPattern = .ok patterns) :
    patterns = (Value.array values).tokens.map Pattern.escape := by
  induction values generalizing patterns with
  | nil =>
      cases read
      rfl
  | cons value rest inductionHypothesis =>
      rw [List.mapM_cons] at read
      obtain ⟨pattern, first, read⟩ := Outcome.bind_eq_ok.mp read
      obtain ⟨others, later, read⟩ := Outcome.bind_eq_ok.mp read
      cases read
      rw [inductionHypothesis later]
      unfold tokenPattern at first
      split at first
      · cases first
        rfl
      · cases first

/-- The pattern of tokens decides whether the field holds them. -/
theorem pattern_decides (field : FieldName) {tokens : List (List Char)} (some : tokens ≠ []) :
    (Predicate.pattern field
        (String.ofList (separator.intercalate (tokens.map Pattern.escape)))).Decides item
      (∃ text, item.get? field.text = .some (.string text) ∧
        HoldsTokens tokens (lowerCase text.toList)) := by
  unfold Decides
  rw [verdict_pattern, String.toList_ofList, Pattern.ofText?, Pattern.readFrom_tokens]
  split
  · next stored found =>
      refine ⟨_, rfl, ?_⟩
      rw [Pattern.occursIn_ofTokens_iff some, found]
      simp
  · next noText =>
      refine ⟨false, rfl, ?_⟩
      simp only [Bool.false_eq_true, false_iff, not_exists, not_and]
      intro text found
      exact absurd found (noText text)

theorem tokens_array_of_ok {value : Value} {values : List Value}
    (listed : tokens value = .ok values) : (Value.array values).tokens = value.tokens := by
  unfold tokens at listed
  split at listed
  · cases listed
    rfl
  · cases listed
    rfl
  · cases listed

/-- A compiled test for tokens means its constraint. -/
theorem compileTokens_means (field : FieldName) {value : Value} {predicate : Predicate}
    (compiled : compileTokens field value = .ok predicate) :
    predicate.Means item (LeafOperator.urlized.constraint? (item.get? field.text) value) := by
  unfold LeafOperator.constraint?
  unfold compileTokens at compiled
  obtain ⟨values, listed, compiled⟩ := Outcome.bind_eq_ok.mp compiled
  obtain ⟨patterns, read, compiled⟩ := Outcome.bind_eq_ok.mp compiled
  rw [tokenPatterns_eq read, tokens_array_of_ok listed] at compiled
  cases tokens : value.tokens with
  | nil =>
      rw [tokens] at compiled
      cases compiled
      rfl
  | cons token rest =>
      rw [tokens] at compiled
      cases compiled
      exact ⟨rfl, pattern_decides field (List.cons_ne_nil token rest)⟩

/-- A compiled leaf decides what its operator asks of the field. -/
theorem compileLeaf_means (itemStorable : item.Storable) (operator : LeafOperator)
    (field : FieldName) {value : Value} (storable : value.Storable) {predicate : Predicate}
    (compiled : compileLeaf operator field value = .ok predicate) :
    predicate.Means item (operator.constraint? (item.get? field.text) value) := by
  cases operator with
  | compare comparison =>
      cases compiled
      exact compileComparison_means itemStorable comparison field storable
  | hasSome =>
      cases compiled
      exact compileOneOf_means itemStorable field storable
  | like placement => exact compileLike_means placement field compiled
  | urlized => exact compileTokens_means field compiled

/-- A conjunction means that all constraints hold. -/
theorem join_and_means {predicates : List Predicate} {constraints : List Prop}
    (decide : List.Forall₂ (Decides item) predicates constraints) :
    (Predicate.join .and predicates).Means item
      (joined (fun constraints => ∀ holds ∈ constraints, holds) constraints) :=
  means_join decide rfl (and_decides decide)

/-- A disjunction means that some constraint holds. -/
theorem join_or_means {predicates : List Predicate} {constraints : List Prop}
    (decide : List.Forall₂ (Decides item) predicates constraints) :
    (Predicate.join .or predicates).Means item
      (joined (fun constraints => ∃ holds ∈ constraints, holds) constraints) :=
  means_join decide rfl (or_decides decide)

mutual

/-- The induction follows the compiler down the tree. -/
theorem compile_means (itemStorable : item.Storable) : (filter : Filter) → filter.Storable →
    ∀ {predicate}, filter.compile = .ok predicate → predicate.Means item (filter.constraint? item)
  | .unconstrained, _, _, compiled => by
      cases compiled
      exact ⟨rfl, true, verdict_always item, by simp⟩
  | .leaf operator field value, .leaf _ _ storable, _, compiled =>
      compileLeaf_means itemStorable operator field storable compiled
  | .combine .and children, .combine _ all, _, compiled => by
      rw [compile] at compiled
      obtain ⟨predicates, listed, joined⟩ := Outcome.bind_eq_ok.mp compiled
      cases joined
      exact join_and_means (compileList_decides itemStorable children all listed)
  | .combine .or children, .combine _ all, _, compiled => by
      rw [compile] at compiled
      obtain ⟨predicates, listed, joined⟩ := Outcome.bind_eq_ok.mp compiled
      cases joined
      exact join_or_means (compileList_decides itemStorable children all listed)
  | .combine .not [child], .combine _ all, _, compiled => by
      rw [compile] at compiled
      obtain ⟨predicate, inner, negated⟩ := Outcome.bind_eq_ok.mp compiled
      cases negated
      exact (compile_means itemStorable child (all child List.mem_cons_self) inner).negate
  | .combine .not [], _, _, compiled => by cases compiled
  | .combine .not (_ :: _ :: _), _, _, compiled => by cases compiled

/-- The compiled children that carry a constraint decide their constraints. -/
theorem compileList_decides (itemStorable : item.Storable) : (children : List Filter) →
    (∀ child ∈ children, child.Storable) → ∀ {predicates}, compileList children = .ok predicates →
      List.Forall₂ (Decides item) predicates (constraints item children)
  | [], _, _, compiled => by
      cases compiled
      exact .nil
  | child :: rest, all, _, compiled => by
      rw [List.forall_mem_cons] at all
      rw [compileList] at compiled
      obtain ⟨predicate, inner, compiled⟩ := Outcome.bind_eq_ok.mp compiled
      obtain ⟨predicates, later, compiled⟩ := Outcome.bind_eq_ok.mp compiled
      cases compiled
      exact (compile_means itemStorable child all.1 inner).cons
        (compileList_decides itemStorable rest all.2 later)

end

/-- A compiled filter always answers, and it answers what the filter means. -/
theorem exists_verdict {filter : Filter} {predicate : Predicate} (filterStorable : filter.Storable)
    (compiled : filter.compile = .ok predicate) (itemStorable : item.Storable) :
    ∃ answer, predicate.verdict item = .ok answer ∧ (answer = true ↔ filter.Meaning item) := by
  have means := compile_means itemStorable filter filterStorable compiled
  unfold Meaning
  cases constraint : filter.constraint? item with
  | none =>
      rw [constraint] at means
      cases predicate with
      | empty => exact ⟨true, verdict_empty item, by simp⟩
      | _ => cases means
  | some holds =>
      rw [constraint] at means
      exact means.2

/-- Whatever patterns the evaluator has read before, it answers what the filter means. -/
theorem evaluate_iff_meaning {json : Json} {filter : Filter} {predicate : Predicate}
    (read : ofJson json = .ok filter) (compiled : filter.compile = .ok predicate)
    (itemStorable : item.Storable) (cache : PatternCache) :
    ∃ answer, (predicate.evaluate item cache).1 = .ok answer ∧
      (answer = true ↔ filter.Meaning item) := by
  rw [evaluate_fst]
  exact exists_verdict (storable_ofJson json read) compiled itemStorable

/-- An empty list asks nothing, so this disjunction is left with the negation of its null test. -/
def emptyListOrNotNull : Filter :=
  .combine .or [.leaf .hasSome .id (.array []), .combine .not [.leaf (.compare .eq) .id .null]]

def emptyListOrNotNullJson : Json :=
  .object [
    ("operator", .string "$or"),
    ("value", .array [
      .object [("operator", .string "$hasSome"), ("fieldName", .string "_id"),
        ("value", .array [])],
      .object [("operator", .string "$not"), ("value", .object
        [("operator", .string "$eq"), ("fieldName", .string "_id")])]])]

theorem meaning_emptyListOrNotNull :
    emptyListOrNotNull.Meaning [("_id", .bool false)] ∧ ¬ emptyListOrNotNull.Meaning [] := by
  have read : ofJson emptyListOrNotNullJson = .ok emptyListOrNotNull := rfl
  have compiled : emptyListOrNotNull.compile = .ok (.or [.not (.isNull .id)]) := rfl
  constructor
  · have storable : Item.Storable [("_id", .bool false)] :=
      ⟨List.nodup_singleton _, by simp [Value.Storable.bool]⟩
    obtain ⟨answer, answered, meaning⟩ := evaluate_iff_meaning read compiled storable .empty
    cases answered
    exact meaning.mp rfl
  · have storable : Item.Storable [] := ⟨List.nodup_nil, List.forall_mem_nil _⟩
    obtain ⟨answer, answered, meaning⟩ := evaluate_iff_meaning read compiled storable .empty
    cases answered
    intro holds
    cases meaning.mpr holds

end Filter

end DocumentStore

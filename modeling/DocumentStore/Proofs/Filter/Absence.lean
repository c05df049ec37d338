import DocumentStore.Proofs.Evaluation.Preorder
import DocumentStore.Proofs.Filter.Comparison
import DocumentStore.Proofs.Filter.Membership

/-!
This file compares an item that holds null with one that lacks the field. They sort alike, and they
satisfy the same filters unless a filter asks for what is at most or at least null. A missing field
answers such a bound as if it were strict.
-/

namespace DocumentStore

/-- One item holds null under a key that the other lacks, and they agree on all other keys. -/
structure Item.DifferByNull (key : String) (holding lacking : Item) : Prop where
  null : holding.get? key = some .null
  missing : lacking.get? key = none
  others : ∀ name, name ≠ key → holding.get? name = lacking.get? name

/-- A test that takes a missing field for null answers both items alike. -/
theorem Item.DifferByNull.test_eq {key : String} {holding lacking : Item}
    (differ : DifferByNull key holding lacking) {β : Type} (test : Option Value → β)
    (blind : test none = test (some .null)) (name : String) :
    test (lacking.get? name) = test (holding.get? name) := by
  by_cases same : name = key
  · rw [same, differ.null, differ.missing, blind]
  · rw [differ.others name same]

namespace Comparison

/-- Null has an order with what counts as null, and they tie. -/
theorem orders_null (comparison : Comparison) (value : Value) :
    comparison.orders (some .null) value = (value.countsAsNull && comparison.admits .eq) := by
  cases value <;> simp [orders, Value.comparand, Comparand.compare?, Value.countsAsNull]

/-- A missing field answers a bound by null like a null answers the strict bound. -/
theorem answer_none_eq (comparison : Comparison) (value : Value) :
    comparison.answer none value =
      (if value.countsAsNull then comparison.strict else comparison).answer (some .null) value := by
  -- A missing field has no order, so the bound must not hold for null either.
  have outside (bound : Comparison) (strictly : (value.countsAsNull && bound.admits .eq) = false) :
      false = bound.orders (some .null) value.decodeDate := by
    rw [orders_null, Value.countsAsNull_decodeDate, strictly]
  cases comparison with
  | eq | ne =>
      rw [strict, ite_self]
      unfold answer
      cases value.isAbsent <;> rfl
  | lt =>
      rw [strict, ite_self]
      exact outside lt (Bool.and_false _)
  | lte =>
      cases counts : value.countsAsNull with
      | false => exact outside lte (by rw [counts, Bool.false_and])
      | true => exact outside lt (Bool.and_false _)
  | gt =>
      rw [strict, ite_self]
      exact outside gt (Bool.and_false _)
  | gte =>
      cases counts : value.countsAsNull with
      | false => exact outside gte (by rw [counts, Bool.false_and])
      | true => exact outside gt (Bool.and_false _)

end Comparison

/-- A bound by null becomes strict when it is asked of the key. -/
def LeafOperator.strictAt (key : String) (field : FieldName) (value : Value) :
    LeafOperator → LeafOperator
  | compare comparison =>
    compare (if field.text = key ∧ value.countsAsNull = true then comparison.strict else comparison)
  | operator => operator

namespace Filter

mutual

/-- All bounds of a key by null become strict. -/
def strictAt (key : String) : Filter → Filter
  | unconstrained => unconstrained
  | combine combinator children => combine combinator (strictAtList key children)
  | leaf operator field value => leaf (operator.strictAt key field value) field value

/-- The children of a combination are changed one by one. -/
def strictAtList (key : String) : List Filter → List Filter
  | [] => []
  | child :: rest => strictAt key child :: strictAtList key rest

end

/-- A filter bounds a key by null when a leaf at some depth asks for what is at most or at least
null. -/
inductive BoundsByNull (key : String) : Filter → Prop
  | leaf {comparison : Comparison} {field : FieldName} {value : Value}
      (inclusive : comparison.IsInclusive) (named : field.text = key)
      (null : value.countsAsNull = true) :
      BoundsByNull key (.leaf (.compare comparison) field value)
  | combine {combinator : Combinator} {children : List Filter} {child : Filter}
      (member : child ∈ children) (bounds : BoundsByNull key child) :
      BoundsByNull key (.combine combinator children)

/-- A leaf that does not bound by null stays. -/
theorem strictAt_eq_of_not_bounds_leaf {key : String} {operator : LeafOperator} {field : FieldName}
    {value : Value} (free : ¬ BoundsByNull key (.leaf operator field value)) :
    operator.strictAt key field value = operator := by
  cases operator with
  | compare comparison =>
      apply congrArg LeafOperator.compare
      split
      · next asked =>
          cases comparison with
          | lte => exact absurd (.leaf (.inl rfl) asked.1 asked.2) free
          | gte => exact absurd (.leaf (.inr rfl) asked.1 asked.2) free
          | _ => rfl
      · rfl
  | _ => rfl

mutual

/-- A filter without a bound by null stays as it is. -/
theorem strictAt_eq_of_not_bounds {key : String} : (filter : Filter) →
    ¬ filter.BoundsByNull key → filter.strictAt key = filter
  | .unconstrained, _ => rfl
  | .leaf _ field value, free =>
      congrArg (Filter.leaf · field value) (strictAt_eq_of_not_bounds_leaf free)
  | .combine combinator children, free =>
      congrArg (Filter.combine combinator)
        (strictAtList_eq_of_not_bounds children fun _ member bounds =>
          free (.combine member bounds))

/-- Children that do not bound by null stay. -/
theorem strictAtList_eq_of_not_bounds {key : String} : (children : List Filter) →
    (∀ child ∈ children, ¬ child.BoundsByNull key) → strictAtList key children = children
  | [], _ => rfl
  | child :: rest, free => by
      rw [List.forall_mem_cons] at free
      rw [strictAtList, strictAt_eq_of_not_bounds child free.1,
        strictAtList_eq_of_not_bounds rest free.2]

end

end Filter

namespace Order

/-- An item that lacks a field compares like one that holds null in it. -/
theorem compareItems_null (order : Order) {key : String} {holding lacking : Item}
    (differ : Item.DifferByNull key holding lacking) (other : Item) :
    order.compareItems holding other = order.compareItems lacking other := by
  unfold compareItems
  induction order.entries with
  | nil => rfl
  | cons entry rest inductionHypothesis =>
      rw [compareByEntries, compareByEntries, inductionHypothesis, compareByEntry, compareByEntry,
        differ.test_eq Comparand.ofField rfl]

/-- Sorting does not tell null from a missing field. -/
theorem compareItems_null_missing (order : Order) {key : String} {holding lacking : Item}
    (differ : Item.DifferByNull key holding lacking) :
    order.compareItems holding lacking = .eq := by
  rw [order.compareItems_null differ]
  exact compareByEntries_of_get?_eq fun _ _ => rfl

end Order

namespace Predicate

variable {left right : Item}

/-- Two predicates correspond when both or none is empty, and they answer alike about two items. -/
structure Corresponds (left right : Item) (first second : Predicate) : Prop where
  isEmpty : first.isEmpty = second.isEmpty
  verdict : first.verdict left = second.verdict right

/-- Children that correspond one by one have conjunctions that correspond. -/
theorem corresponds_and {firsts seconds : List Predicate}
    (alike : List.Forall₂ (Corresponds left right) firsts seconds) :
    Corresponds left right (and firsts) (and seconds) := by
  refine ⟨rfl, ?_⟩
  rw [verdict_and, verdict_and]
  induction alike with
  | nil => rfl
  | cons first rest inductionHypothesis =>
      rw [verdictAll_cons, verdictAll_cons, first.verdict, inductionHypothesis]

/-- The same holds of their disjunctions. -/
theorem corresponds_or {firsts seconds : List Predicate}
    (alike : List.Forall₂ (Corresponds left right) firsts seconds) :
    Corresponds left right (or firsts) (or seconds) := by
  refine ⟨rfl, ?_⟩
  rw [verdict_or, verdict_or]
  induction alike with
  | nil => rfl
  | cons first rest inductionHypothesis =>
      rw [verdictAny_cons, verdictAny_cons, first.verdict, inductionHypothesis]

/-- Negations correspond when their children do. -/
theorem Corresponds.negate {first second : Predicate}
    (corresponds : Corresponds left right first second) :
    Corresponds left right first.negate second.negate := by
  unfold Predicate.negate
  rw [corresponds.isEmpty]
  split
  · exact ⟨rfl, rfl⟩
  · exact ⟨rfl, by rw [verdict_not, verdict_not, corresponds.verdict]⟩

/-- Joins correspond when their children do. -/
theorem corresponds_join {combine : List Predicate → Predicate} {firsts seconds : List Predicate}
    (alike : List.Forall₂ (Corresponds left right) firsts seconds)
    (combined : Corresponds left right (combine firsts) (combine seconds)) :
    Corresponds left right (join combine firsts) (join combine seconds) := by
  cases alike with
  | nil => exact ⟨rfl, rfl⟩
  | cons first rest => exact combined

/-- Joins of compiled lists correspond when the lists do. -/
theorem corresponds_bind_join {combine : List Predicate → Predicate}
    {firsts seconds : Outcome (List Predicate)} {predicate : Predicate}
    (combined : ∀ {firsts seconds : List Predicate},
      List.Forall₂ (Corresponds left right) firsts seconds →
      Corresponds left right (combine firsts) (combine seconds))
    (listed : ∀ {predicates}, firsts = .ok predicates →
      ∃ others, seconds = .ok others ∧ List.Forall₂ (Corresponds left right) predicates others)
    (compiled : (do return join combine (← firsts)) = .ok predicate) :
    ∃ other, (do return join combine (← seconds)) = .ok other ∧
      Corresponds left right predicate other := by
  obtain ⟨predicates, first, joined⟩ := Outcome.bind_eq_ok.mp compiled
  cases joined
  obtain ⟨others, second, alike⟩ := listed first
  rw [second]
  exact ⟨_, rfl, corresponds_join alike (combined alike)⟩

/-- Empty predicates are left out of both lists. -/
theorem Corresponds.cons {first second : Predicate}
    (corresponds : Corresponds left right first second) {firsts seconds : List Predicate}
    (alike : List.Forall₂ (Corresponds left right) firsts seconds) :
    List.Forall₂ (Corresponds left right) (if first.isEmpty then firsts else first :: firsts)
      (if second.isEmpty then seconds else second :: seconds) := by
  rw [← corresponds.isEmpty]
  split
  · exact alike
  · exact .cons corresponds alike

end Predicate

namespace Filter

open Predicate

variable {key : String} {holding lacking : Item}

/-- A comparison with null becomes strict where the field is missing. -/
theorem corresponds_comparison (differ : Item.DifferByNull key holding lacking)
    (comparison : Comparison) (field : FieldName) (value : Value) :
    Corresponds lacking holding (compileComparison comparison field value)
      (compileComparison (if field.text = key ∧ value.countsAsNull = true then comparison.strict
        else comparison) field value) := by
  constructor
  · rw [isEmpty_compileComparison, isEmpty_compileComparison]
  · rw [verdict_compileComparison, verdict_compileComparison]
    apply congrArg
    by_cases named : field.text = key
    · rw [named, differ.missing, differ.null, Comparison.answer_none_eq]
      simp only [true_and]
    · rw [differ.others field.text named, if_neg fun asked => named asked.1]

/-- Listed values do not tell null from a missing field. -/
theorem corresponds_oneOf (differ : Item.DifferByNull key holding lacking) (field : FieldName)
    (value : Value) :
    Corresponds lacking holding (compileOneOf field value) (compileOneOf field value) := by
  refine ⟨rfl, ?_⟩
  unfold compileOneOf
  split
  · rfl
  · exact congrArg Except.ok (differ.test_eq
      (fun stored => (listedValues value).any fun value => fieldEquals stored value) rfl field.text)

/-- Searches find nothing in null or in a missing field. -/
theorem corresponds_like (differ : Item.DifferByNull key holding lacking) {placement : Placement}
    {field : FieldName} {value : Value} {predicate : Predicate}
    (compiled : compileLike placement field value = .ok predicate) :
    Corresponds lacking holding predicate predicate := by
  refine ⟨rfl, ?_⟩
  unfold compileLike at compiled
  split at compiled
  · cases compiled
  · next text _ =>
      cases compiled
      split
      · rfl
      · exact congrArg Except.ok (differ.test_eq
          (fun stored => placement.holds stored text) rfl field.text)

/-- Patterns find nothing in null or in a missing field. -/
theorem corresponds_tokens (differ : Item.DifferByNull key holding lacking) {field : FieldName}
    {value : Value} {predicate : Predicate} (compiled : compileTokens field value = .ok predicate) :
    Corresponds lacking holding predicate predicate := by
  refine ⟨rfl, ?_⟩
  unfold compileTokens at compiled
  obtain ⟨values, -, compiled⟩ := Outcome.bind_eq_ok.mp compiled
  obtain ⟨patterns, -, compiled⟩ := Outcome.bind_eq_ok.mp compiled
  split at compiled
  · cases compiled
    rfl
  · cases compiled
    exact differ.test_eq (fun stored => (PatternEngine.rows.holds stored _ .empty).1) rfl field.text

/-- A leaf answers about a missing field like its strict form about null. -/
theorem corresponds_leaf (differ : Item.DifferByNull key holding lacking) (operator : LeafOperator)
    (field : FieldName) (value : Value) {predicate : Predicate}
    (compiled : compileLeaf operator field value = .ok predicate) :
    ∃ strict, compileLeaf (operator.strictAt key field value) field value = .ok strict ∧
      Corresponds lacking holding predicate strict := by
  cases operator with
  | compare comparison =>
      cases compiled
      exact ⟨_, rfl, corresponds_comparison differ comparison field value⟩
  | hasSome =>
      cases compiled
      exact ⟨_, rfl, corresponds_oneOf differ field value⟩
  | like placement => exact ⟨predicate, compiled, corresponds_like differ compiled⟩
  | urlized => exact ⟨predicate, compiled, corresponds_tokens differ compiled⟩

mutual

/-- The induction follows the compiler down the tree. -/
theorem corresponds_compile (differ : Item.DifferByNull key holding lacking) : (filter : Filter) →
    ∀ {predicate}, filter.compile = .ok predicate →
      ∃ strict, (filter.strictAt key).compile = .ok strict ∧
        Corresponds lacking holding predicate strict
  | .unconstrained, _, compiled => by
      cases compiled
      exact ⟨.always, rfl, rfl, rfl⟩
  | .leaf operator field value, _, compiled => corresponds_leaf differ operator field value compiled
  | .combine .and children, _, compiled => by
      rw [compile] at compiled
      rw [strictAt, compile]
      exact corresponds_bind_join corresponds_and (corresponds_compileList differ children) compiled
  | .combine .or children, _, compiled => by
      rw [compile] at compiled
      rw [strictAt, compile]
      exact corresponds_bind_join corresponds_or (corresponds_compileList differ children) compiled
  | .combine .not [child], _, compiled => by
      rw [compile] at compiled
      obtain ⟨predicate, inner, negated⟩ := Outcome.bind_eq_ok.mp compiled
      cases negated
      obtain ⟨strict, strictInner, corresponds⟩ := corresponds_compile differ child inner
      refine ⟨strict.negate, ?_, corresponds.negate⟩
      rw [strictAt, strictAtList, strictAtList, compile, strictInner]
      rfl
  | .combine .not [], _, compiled => by cases compiled
  | .combine .not (_ :: _ :: _), _, compiled => by cases compiled

theorem corresponds_compileList (differ : Item.DifferByNull key holding lacking) :
    (children : List Filter) → ∀ {predicates}, compileList children = .ok predicates →
      ∃ stricts, compileList (strictAtList key children) = .ok stricts ∧
        List.Forall₂ (Corresponds lacking holding) predicates stricts
  | [], _, compiled => by
      cases compiled
      exact ⟨[], rfl, .nil⟩
  | child :: rest, _, compiled => by
      rw [compileList] at compiled
      obtain ⟨predicate, inner, compiled⟩ := Outcome.bind_eq_ok.mp compiled
      obtain ⟨predicates, later, compiled⟩ := Outcome.bind_eq_ok.mp compiled
      cases compiled
      obtain ⟨strict, strictInner, corresponds⟩ := corresponds_compile differ child inner
      obtain ⟨stricts, strictLater, alike⟩ := corresponds_compileList differ rest later
      refine ⟨_, ?_, corresponds.cons alike⟩
      rw [strictAtList, compileList, strictInner, strictLater]
      rfl

end

/-- A null and a missing field sort alike, and they satisfy the same filters unless a filter bounds
the field by null. Whatever the filter is, a missing field answers like a null when all such bounds
are strict. -/
theorem missing_answers_as_null (differ : Item.DifferByNull key holding lacking) :
    (∀ order : Order, order.compareItems holding lacking = .eq ∧
      ∀ other, order.compareItems holding other = order.compareItems lacking other) ∧
    ∀ {filter : Filter} {predicate : Predicate}, filter.compile = .ok predicate →
      (¬ filter.BoundsByNull key → ∀ first second : PatternCache,
        (predicate.evaluate holding first).1 = (predicate.evaluate lacking second).1) ∧
      ∃ strict, (filter.strictAt key).compile = .ok strict ∧ ∀ first second : PatternCache,
        (predicate.evaluate lacking first).1 = (strict.evaluate holding second).1 := by
  refine ⟨fun order => ⟨order.compareItems_null_missing differ, order.compareItems_null differ⟩, ?_⟩
  intro filter predicate compiled
  obtain ⟨strict, strictCompiled, corresponds⟩ := corresponds_compile differ filter compiled
  simp only [evaluate_fst]
  refine ⟨?_, strict, strictCompiled, fun _ _ => corresponds.verdict⟩
  intro free _ _
  rw [strictAt_eq_of_not_bounds filter free, compiled] at strictCompiled
  cases strictCompiled
  exact corresponds.verdict.symm

/-- This item holds null under its size, and the next one has no size. -/
def sizeNull : Item :=
  [("_id", .string "a"), ("size", .null)]

def sizeMissing : Item :=
  [("_id", .string "a")]

theorem sizeNull_differ : Item.DifferByNull "size" sizeNull sizeMissing := by
  refine ⟨rfl, rfl, ?_⟩
  intro name other
  simp [sizeNull, sizeMissing, Fields.get?, other.symm]

/-- This filter asks for all items except those whose size is at most five. -/
def notAtMostFive : Filter :=
  combine .not [leaf (.compare .lte) ⟨"size", by decide⟩ (.int32 5)]

/-- Both items are outside the bound, and they sort alike. -/
theorem missing_answers_as_null_size :
    (∀ order : Order, order.compareItems sizeNull sizeMissing = .eq) ∧
      ∃ predicate, notAtMostFive.compile = .ok predicate ∧
        (predicate.evaluate sizeNull .empty).1 = .ok true ∧
        (predicate.evaluate sizeMissing .empty).1 = .ok true := by
  obtain ⟨sorted, answered⟩ := missing_answers_as_null sizeNull_differ
  have free : ¬ notAtMostFive.BoundsByNull "size" := by
    intro bounds
    cases bounds with
    | combine member bounds =>
        cases List.mem_singleton.mp member
        cases bounds with
        | leaf _ _ null => cases null
  obtain ⟨alike, -⟩ := answered (rfl : notAtMostFive.compile = .ok _)
  exact ⟨fun order => (sorted order).1, _, rfl, rfl, (alike free .empty .empty).symm⟩

/-- A null is at most null, but a missing field is not. -/
theorem lte_null_tells_missing :
    Item.DifferByNull "size" sizeNull sizeMissing ∧
      ∃ predicate, compileWire (some (.leaf (.compare .lte) "size" .null)) = .ok predicate ∧
        (predicate.evaluate sizeNull .empty).1 = .ok true ∧
        (predicate.evaluate sizeMissing .empty).1 = .ok false :=
  ⟨sizeNull_differ, _, compileWire_comparison .lte ⟨"size", by decide⟩ .null, rfl, rfl⟩

end Filter

end DocumentStore

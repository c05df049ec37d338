import DocumentStore.Proofs.Evaluation.Engine

/-!
This file defines the verdict of a predicate, which is the answer of a fresh evaluator. The cache of
patterns does not change it.
-/

namespace DocumentStore

namespace Predicate

/-- This is the answer of an evaluator that has read no pattern yet. -/
def verdict (item : Item) (predicate : Predicate) : Outcome Bool :=
  (predicate.evaluate item .empty).1

/-- This asks without a cache whether an item satisfies all children. -/
def verdictAll (item : Item) (children : List Predicate) : Outcome Bool :=
  evaluateAllWith PatternEngine.rows.test item children

/-- This asks without a cache whether an item satisfies one of the children. -/
def verdictAny (item : Item) (children : List Predicate) : Outcome Bool :=
  evaluateAnyWith PatternEngine.rows.test item children

variable (item : Item)

/-- The verdict is the answer without a cache. -/
theorem verdict_eq (predicate : Predicate) :
    verdict item predicate = evaluateWith PatternEngine.rows.test item predicate :=
  PatternEngine.rows.answer_eq item predicate

/-- The answer of an evaluation is the same from every cache. -/
theorem evaluate_fst (predicate : Predicate) (cache : PatternCache) :
    (predicate.evaluate item cache).1 = predicate.verdict item :=
  PatternEngine.rows.gives_evaluate item predicate cache

@[simp] theorem verdict_empty : verdict item empty = .ok true := rfl

@[simp] theorem verdict_always : verdict item always = .ok true := rfl

/-- A conjunction asks its children in order. -/
theorem verdict_and (children : List Predicate) :
    verdict item (and children) = verdictAll item children :=
  verdict_eq item (and children)

/-- A disjunction asks its children in order. -/
theorem verdict_or (children : List Predicate) :
    verdict item (or children) = verdictAny item children :=
  verdict_eq item (or children)

/-- A negation fails where its child fails. -/
theorem verdict_not (child : Predicate) :
    verdict item (not child) = (verdict item child).map Bool.not := by
  rw [verdict_eq, verdict_eq, evaluateWith]
  rfl

/-- The null test never fails. -/
theorem verdict_isNull (field : FieldName) :
    verdict item (isNull field) = .ok (isNullField (item.get? field.text)) := rfl

/-- Comparisons never fail. -/
theorem verdict_compare (field : FieldName) (comparison : Comparison) (value : Value) :
    verdict item (compare field comparison value) =
      .ok (comparison.holds (item.get? field.text) value) := rfl

/-- Tests against listed values never fail. -/
theorem verdict_oneOf (field : FieldName) (values : List Value) :
    verdict item (oneOf field values) =
      .ok (values.any fun value => fieldEquals (item.get? field.text) value) := rfl

/-- Searches never fail. -/
theorem verdict_like (field : FieldName) (placement : Placement) (text : String) :
    verdict item (like field placement text) =
      .ok (placement.holds (item.get? field.text) text) := rfl

/-- A pattern is only read when it meets a text. -/
theorem verdict_pattern (field : FieldName) (source : String) :
    verdict item (.pattern field source) =
      match item.get? field.text with
      | some (.string stored) =>
        match Pattern.ofText? source.toList with
        | some found => .ok (found.occursIn (lowerCase stored.toList))
        | none => .error (.badRequest .pattern)
      | _ => .ok false := by
  rw [verdict_eq]
  change PatternEngine.rows.test (item.get? field.text) source = _
  cases item.get? field.text with
  | none => rfl
  | some value =>
      cases value with
      | string stored =>
          change (PatternEngine.rows.compile source >>= _) = _
          rw [PatternEngine.rows_compile]
          cases Pattern.ofText? source.toList <;> rfl
      | _ => rfl

@[simp] theorem verdictAll_nil : verdictAll item [] = .ok true := rfl

@[simp] theorem verdictAny_nil : verdictAny item [] = .ok false := rfl

/-- A join stops at the first child that decides it. -/
theorem verdictAll_cons (child : Predicate) (rest : List Predicate) :
    verdictAll item (child :: rest) =
      (verdict item child).bind fun holds => if holds then verdictAll item rest else .ok false := by
  rw [verdict_eq, verdictAll, evaluateAllWith]
  rfl

/-- The first child that holds or fails decides. -/
theorem verdictAny_cons (child : Predicate) (rest : List Predicate) :
    verdictAny item (child :: rest) =
      (verdict item child).bind fun holds => if holds then .ok true else verdictAny item rest := by
  rw [verdict_eq, verdictAny, evaluateAnyWith]
  rfl

end Predicate

end DocumentStore

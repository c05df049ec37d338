import DocumentStore.Proofs.Evaluation.Verdict
import DocumentStore.Proofs.Filter.Meaning

/-!
This file tells when a predicate decides a constraint, and how joins decide what their children do.

A filter without constraint compiles to the empty predicate, which the joins around it leave out.
-/

namespace DocumentStore

namespace Predicate

/-- A predicate decides a proposition when it answers, and answers by it. -/
def Decides (item : Item) (predicate : Predicate) (holds : Prop) : Prop :=
  ∃ answer, predicate.verdict item = .ok answer ∧ (answer = true ↔ holds)

/-- The empty predicate stands for no constraint, and every other one decides its constraint. -/
def Means (item : Item) (predicate : Predicate) : Option Prop → Prop
  | none => predicate.isEmpty = true
  | some holds => predicate.isEmpty = false ∧ predicate.Decides item holds

variable {item : Item}

/-- A negation decides the opposite. -/
theorem Decides.not {predicate : Predicate} {holds : Prop}
    (decides : predicate.Decides item holds) : (Predicate.not predicate).Decides item ¬ holds := by
  obtain ⟨answer, verdict, meaning⟩ := decides
  refine ⟨!answer, ?_, ?_⟩
  · rw [verdict_not, verdict]
    rfl
  · rw [← meaning]
    simp

/-- A conjunction of predicates decides that all constraints hold. -/
theorem verdictAll_decides {predicates : List Predicate} {constraints : List Prop}
    (decide : List.Forall₂ (Decides item) predicates constraints) :
    ∃ answer, verdictAll item predicates = .ok answer ∧
      (answer = true ↔ ∀ holds ∈ constraints, holds) := by
  induction decide with
  | nil => exact ⟨true, rfl, by simp⟩
  | cons first rest inductionHypothesis =>
      obtain ⟨answer, verdict, meaning⟩ := first
      obtain ⟨restAnswer, restVerdict, restMeaning⟩ := inductionHypothesis
      rw [verdictAll_cons, verdict, List.forall_mem_cons, ← meaning, ← restMeaning]
      cases answer with
      | false => exact ⟨false, rfl, by simp⟩
      | true => exact ⟨restAnswer, restVerdict, by simp⟩

/-- One accepting predicate is enough, and none has a fault. -/
theorem verdictAny_decides {predicates : List Predicate} {constraints : List Prop}
    (decide : List.Forall₂ (Decides item) predicates constraints) :
    ∃ answer, verdictAny item predicates = .ok answer ∧
      (answer = true ↔ ∃ holds ∈ constraints, holds) := by
  induction decide with
  | nil => exact ⟨false, rfl, by simp⟩
  | cons first rest inductionHypothesis =>
      obtain ⟨answer, verdict, meaning⟩ := first
      obtain ⟨restAnswer, restVerdict, restMeaning⟩ := inductionHypothesis
      rw [verdictAny_cons, verdict, List.exists_mem_cons_iff, ← meaning, ← restMeaning]
      cases answer with
      | false => exact ⟨restAnswer, restVerdict, by simp⟩
      | true => exact ⟨true, rfl, by simp⟩

/-- A conjunction decides whether all constraints hold. -/
theorem and_decides {predicates : List Predicate} {constraints : List Prop}
    (decide : List.Forall₂ (Decides item) predicates constraints) :
    (Predicate.and predicates).Decides item (∀ holds ∈ constraints, holds) := by
  obtain ⟨answer, verdict, meaning⟩ := verdictAll_decides decide
  exact ⟨answer, (verdict_and item predicates).trans verdict, meaning⟩

/-- A disjunction decides whether some constraint holds. -/
theorem or_decides {predicates : List Predicate} {constraints : List Prop}
    (decide : List.Forall₂ (Decides item) predicates constraints) :
    (Predicate.or predicates).Decides item (∃ holds ∈ constraints, holds) := by
  obtain ⟨answer, verdict, meaning⟩ := verdictAny_decides decide
  exact ⟨answer, (verdict_or item predicates).trans verdict, meaning⟩

/-- A join means what its predicates mean together, and asks nothing without any. -/
theorem means_join {combine : List Predicate → Predicate} {join : List Prop → Prop}
    {predicates : List Predicate} {constraints : List Prop}
    (decide : List.Forall₂ (Decides item) predicates constraints)
    (combined : (combine predicates).isEmpty = false)
    (decides : (combine predicates).Decides item (join constraints)) :
    (Predicate.join combine predicates).Means item (Filter.joined join constraints) := by
  cases decide with
  | nil => rfl
  | cons first rest => exact ⟨combined, decides⟩

/-- A predicate without constraint is left out of a list, and so is its constraint. -/
theorem Means.cons {predicate : Predicate} {constraint : Option Prop}
    (means : predicate.Means item constraint) {predicates : List Predicate}
    {constraints : List Prop} (decide : List.Forall₂ (Decides item) predicates constraints) :
    List.Forall₂ (Decides item)
      (if predicate.isEmpty then predicates else predicate :: predicates)
      (constraint.toList ++ constraints) := by
  cases constraint with
  | none =>
      have isEmpty : predicate.isEmpty = true := means
      rw [if_pos isEmpty]
      exact decide
  | some holds =>
      obtain ⟨notEmpty, decides⟩ := means
      rw [if_neg (by simp [notEmpty])]
      exact .cons decides decide

/-- A negation asks nothing when its child asks nothing. -/
theorem Means.negate {predicate : Predicate} {constraint : Option Prop}
    (means : predicate.Means item constraint) :
    predicate.negate.Means item (constraint.map Not) := by
  unfold Predicate.negate
  cases constraint with
  | none =>
      have isEmpty : predicate.isEmpty = true := means
      rw [if_pos isEmpty]
      rfl
  | some holds =>
      obtain ⟨notEmpty, decides⟩ := means
      rw [if_neg (by simp [notEmpty])]
      exact ⟨rfl, decides.not⟩

end Predicate

end DocumentStore

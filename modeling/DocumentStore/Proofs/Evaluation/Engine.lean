import DocumentStore.Evaluation.Matching
import DocumentStore.Proofs.Action

/-!
This file shows that an evaluation answers as if there was no cache of patterns, whatever the engine
accepts or refuses.

A cache only holds the patterns that their sources compile to. So a pattern that is looked up is the
one that would be compiled.
-/

namespace DocumentStore

open DocumentStore.Action

namespace Predicate

section

variable {σ : Type} {holds : Option Value → String → Action σ Bool}
  {test : Option Value → String → Outcome Bool}

mutual

/-- When the tests of patterns do not depend on the state, neither does an evaluation. -/
theorem gives_evaluateWith (item : Item)
    (patterns : ∀ stored source, Gives (holds stored source) (test stored source)) :
    (predicate : Predicate) →
    Gives (evaluateWith holds item predicate) (evaluateWith test item predicate)
  | empty => gives_pure _
  | always => gives_pure _
  | and children => gives_evaluateAllWith item patterns children
  | or children => gives_evaluateAnyWith item patterns children
  | not child => (gives_evaluateWith item patterns child).bind fun _ => gives_pure _
  | isNull _ | compare _ _ _ | oneOf _ _ | like _ _ _ => gives_pure _
  | pattern field source => patterns (item.get? field.text) source

/-- All children give what they give one by one. -/
theorem gives_evaluateAllWith (item : Item)
    (patterns : ∀ stored source, Gives (holds stored source) (test stored source)) :
    (children : List Predicate) →
    Gives (evaluateAllWith holds item children) (evaluateAllWith test item children)
  | [] => gives_pure _
  | child :: rest => by
      apply (gives_evaluateWith item patterns child).bind
      intro decided
      cases decided with
      | true => exact gives_evaluateAllWith item patterns rest
      | false => exact gives_pure _

/-- The children up to the first that holds give what they give one by one. -/
theorem gives_evaluateAnyWith (item : Item)
    (patterns : ∀ stored source, Gives (holds stored source) (test stored source)) :
    (children : List Predicate) →
    Gives (evaluateAnyWith holds item children) (evaluateAnyWith test item children)
  | [] => gives_pure _
  | child :: rest => by
      apply (gives_evaluateWith item patterns child).bind
      intro decided
      cases decided with
      | true => exact gives_pure _
      | false => exact gives_evaluateAnyWith item patterns rest

end

end

end Predicate

namespace PatternEngine

variable {Compiled : Type} (engine : PatternEngine Compiled)

/-- This is the answer of an evaluator that has compiled no pattern yet. -/
def answer (item : Item) (predicate : Predicate) : Outcome Bool :=
  (engine.evaluate item predicate .empty).1

/-- This tests a pattern without a cache. -/
def test (stored : Option Value) (source : String) : Outcome Bool :=
  match stored with
  | some (.string stored) => do
    return engine.occursIn (← engine.compile source) (lowerCase stored.toList)
  | _ => return false

/-- A pattern that is learned is the one that the engine compiles. -/
theorem gives_learn (source : String) : Gives (engine.learn source) (engine.compile source) := by
  intro cache
  unfold learn
  split
  · next pattern compiled => exact compiled.symm
  · next error refused => exact refused.symm

/-- A pattern in the cache is the one that its source compiles to. -/
theorem gives_lookup (source : String) : Gives (engine.lookup source) (engine.compile source) := by
  intro cache
  rw [lookup, run_bind_of_ok (run_get cache)]
  cases known : cache.patterns.get? source with
  | some pattern => exact (cache.sound source pattern known).symm
  | none => exact engine.gives_learn source cache

/-- A pattern from the cache holds where a new one does. -/
theorem gives_holds (stored : Option Value) (source : String) :
    Gives (engine.holds stored source) (engine.test stored source) := by
  cases stored with
  | none => exact gives_pure _
  | some value =>
      cases value with
      | string text => exact (engine.gives_lookup source).bind fun _ => gives_pure _
      | _ => exact gives_pure _

/-- A fresh evaluator answers as if it had no cache. -/
theorem answer_eq (item : Item) (predicate : Predicate) :
    engine.answer item predicate = predicate.evaluateWith engine.test item :=
  Predicate.gives_evaluateWith item engine.gives_holds predicate .empty

/-- From every cache, an evaluation gives the answer of a fresh evaluator. -/
theorem gives_evaluate (item : Item) (predicate : Predicate) :
    Gives (engine.evaluate item predicate) (engine.answer item predicate) := by
  rw [answer_eq]
  exact Predicate.gives_evaluateWith item engine.gives_holds predicate

/-- The engine of rows refuses what cannot be read as a row of letters and classes. -/
theorem rows_compile (source : String) :
    rows.compile source =
      match Pattern.ofText? source.toList with
      | some pattern => .ok pattern
      | none => .error (.badRequest .pattern) :=
  rfl

end PatternEngine

end DocumentStore

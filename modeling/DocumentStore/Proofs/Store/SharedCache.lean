import DocumentStore.Proofs.Store.Scan
import DocumentStore.Proofs.Store.Sorting

/-!
This file compares a scan with one cache for all items to evaluations that each start afresh.

A scan answers alike from every cache, also when it ends with an error. So every item is tested as
if it was the first one.
-/

namespace DocumentStore

namespace Store

variable (store : Store) (collection : String) (predicate : Predicate)

/-- A count is the number of items that a selection without a limit gives. -/
theorem count_eq_length_select (order : Order) :
    (store.select collection predicate order 0 none).map List.length =
      store.count collection predicate := by
  unfold select count
  cases store.find collection predicate with
  | error error => rfl
  | ok found =>
      have length : (if order.isEmpty then found else order.sort found).length = found.length := by
        split
        · rfl
        · exact (order.sort_perm found).length_eq
      exact congrArg Except.ok length

end Store

namespace PatternEngine

/-- A scan finds the items for which a fresh evaluator says yes, and it fails with the error of the
first item on which a fresh evaluator fails. Neither the patterns that are known already nor the
missing tests of an unconstrained predicate change this. The store scans in the same way, and it
counts the items that it selects without a limit. -/
theorem find_fresh {Compiled : Type} (engine : PatternEngine Compiled) (predicate : Predicate)
    (items : List Item) (store : Store) (collection : String) (order : Order) :
    (∀ found, engine.find predicate items = .ok found ↔
        (∀ item ∈ items, ∃ holds, engine.answer item predicate = .ok holds) ∧
          found = items.filter fun item => (engine.answer item predicate).toOption = some true) ∧
      (∀ error, engine.find predicate items = .error error ↔
        ∃ before item after, items = before ++ item :: after ∧
          (∀ earlier ∈ before, ∃ holds, engine.answer earlier predicate = .ok holds) ∧
          engine.answer item predicate = .error error) ∧
      (∀ patterns (sound : engine.Sound patterns),
        (engine.matching predicate items ⟨patterns, sound⟩).1 = engine.find predicate items ∧
          engine.Sound (engine.matching predicate items ⟨patterns, sound⟩).2.patterns) ∧
      store.find collection predicate = rows.find predicate (store.items collection) ∧
      (store.select collection predicate order 0 none).map List.length =
        store.count collection predicate := by
  -- No cache changes what an engine answers, so the scan from the empty one stands for all.
  have scans (cache : engine.Cache) :
      (engine.matching predicate items cache).1 = engine.find predicate items := by
    rw [find_eq_matchingWith]
    exact engine.gives_matching predicate items cache
  refine ⟨?_, ?_, fun _ _ => ⟨scans _, Cache.sound _⟩, rfl,
    store.count_eq_length_select collection predicate order⟩
  · intro found
    rw [find_eq_matchingWith]
    exact matchingWith_eq_ok_iff
  · intro error
    rw [find_eq_matchingWith]
    exact matchingWith_eq_error_iff

end PatternEngine

end DocumentStore

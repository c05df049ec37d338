import DocumentStore.Proofs.Filter.Compilation
import DocumentStore.Proofs.Store.Shelf

/-!
This file shows that a scan of a collection keeps exactly the items that a predicate accepts.
-/

namespace DocumentStore

open DocumentStore.Action

namespace Predicate

/-- This asks whether the answer for an item is yes. -/
def accepts (predicate : Predicate) (item : Item) : Bool :=
  match predicate.verdict item with
  | .ok answer => answer
  | .error _ => false

/-- A predicate answers on an item when its evaluation does not fail. -/
def Answers (predicate : Predicate) (item : Item) : Prop :=
  ∃ answer, predicate.verdict item = .ok answer

/-- The verdict of a predicate that answers is whether it accepts the item. -/
theorem Answers.verdict_eq {predicate : Predicate} {item : Item}
    (answers : predicate.Answers item) : predicate.verdict item = .ok (predicate.accepts item) := by
  obtain ⟨answer, verdict⟩ := answers
  rw [accepts, verdict]

/-- The comparison of identifiers holds no pattern, so nothing can fail. -/
theorem answers_idEquals (id : String) (item : Item) : (idEquals id).Answers item :=
  ⟨_, verdict_compare item .id .eq (.string id)⟩

/-- The identifier of a settled item is compared as a text. -/
theorem accepts_idEquals {item : Item} (settled : item.Settled) (id : String) :
    (idEquals id).accepts item = item.hasId id := by
  have known : item.get? FieldName.id.text = some (.string item.idText) := settled.get?_id
  have verdict := verdict_compare item .id .eq (.string id)
  rw [known] at verdict
  rw [accepts, idEquals, verdict, Item.hasId, settled.get?_id]
  rfl

end Predicate

/-- A compiled filter answers on every item that can be stored. -/
theorem Filter.answers_of_compileWire {wire : Option Json} {predicate : Predicate}
    (compiled : compileWire wire = .ok predicate) {item : Item} (storable : item.Storable) :
    predicate.Answers item := by
  unfold compileWire at compiled
  split at compiled
  · next json =>
      obtain ⟨filter, read, compiled⟩ := Outcome.bind_eq_ok.mp compiled
      obtain ⟨answer, verdict, -⟩ := exists_verdict (storable_ofJson json read) compiled storable
      exact ⟨answer, verdict⟩
  · cases compiled
    exact ⟨true, Predicate.verdict_always item⟩

namespace PatternEngine

/-- When the tests of items do not depend on the state, neither does a scan. -/
theorem gives_matchingWith {σ : Type} {test : Item → Action σ Bool}
    {answer : Item → Outcome Bool} (each : ∀ item, Gives (test item) (answer item))
    (items : List Item) : Gives (matchingWith test items) (matchingWith answer items) := by
  induction items with
  | nil => exact gives_pure _
  | cons item rest inductionHypothesis =>
      exact (each item).bind fun _ => inductionHypothesis.bind fun _ => gives_pure _

section

variable {answer : Item → Outcome Bool}

/-- A scan without a fault keeps the items with the answer yes. -/
theorem matchingWith_of_answers {holds : Item → Bool} {items : List Item}
    (answers : ∀ item ∈ items, answer item = .ok (holds item)) :
    matchingWith answer items = .ok (items.filter holds) := by
  induction items with
  | nil => rfl
  | cons item rest inductionHypothesis =>
      rw [List.forall_mem_cons] at answers
      rw [matchingWith, answers.1, inductionHypothesis answers.2, List.filter_cons]
      rfl

/-- A scan ends with the error of the first item whose test fails. -/
theorem matchingWith_of_error {before : List Item} {item : Item} {error : Error}
    (answers : ∀ earlier ∈ before, ∃ holds, answer earlier = .ok holds)
    (failed : answer item = .error error) (after : List Item) :
    matchingWith answer (before ++ item :: after) = .error error := by
  induction before with
  | nil =>
      rw [List.nil_append, matchingWith, failed]
      rfl
  | cons first rest inductionHypothesis =>
      rw [List.forall_mem_cons] at answers
      obtain ⟨⟨holds, answered⟩, restAnswers⟩ := answers
      rw [List.cons_append, matchingWith, answered, inductionHypothesis restAnswers]
      rfl

/-- Either all tests answer, or one of them is the first to fail. -/
theorem answers_or_first_fault (answer : Item → Outcome Bool) (items : List Item) :
    (∀ item ∈ items, ∃ holds, answer item = .ok holds) ∨
      ∃ before item after error, items = before ++ item :: after ∧
        (∀ earlier ∈ before, ∃ holds, answer earlier = .ok holds) ∧
        answer item = .error error := by
  induction items with
  | nil => exact .inl (List.forall_mem_nil _)
  | cons first rest inductionHypothesis =>
      cases answered : answer first with
      | error error => exact .inr ⟨[], first, rest, error, rfl, List.forall_mem_nil _, answered⟩
      | ok holds =>
          rcases inductionHypothesis with all | ⟨before, item, after, error, rfl, good, failed⟩
          · exact .inl (List.forall_mem_cons.mpr ⟨⟨holds, answered⟩, all⟩)
          · exact .inr ⟨first :: before, item, after, error, rfl,
              List.forall_mem_cons.mpr ⟨⟨holds, answered⟩, good⟩, failed⟩

/-- A scan succeeds when every item is answered, and finds those that are accepted. -/
theorem matchingWith_eq_ok_iff {items found : List Item} :
    matchingWith answer items = .ok found ↔
      (∀ item ∈ items, ∃ holds, answer item = .ok holds) ∧
        found = items.filter fun item => (answer item).toOption = some true := by
  have scanned (answers : ∀ item ∈ items, ∃ holds, answer item = .ok holds) :
      matchingWith answer items =
        .ok (items.filter fun item => (answer item).toOption = some true) := by
    apply matchingWith_of_answers
    intro item member
    obtain ⟨holds, answered⟩ := answers item member
    rw [answered]
    cases holds <;> rfl
  rcases answers_or_first_fault answer items with
    answers | ⟨before, item, after, error, rfl, good, failed⟩
  · rw [scanned answers, Except.ok.injEq, eq_comm]
    exact (and_iff_right answers).symm
  · rw [matchingWith_of_error good failed]
    apply iff_of_false nofun
    rintro ⟨answers, -⟩
    obtain ⟨holds, answered⟩ := answers item (List.mem_append_right _ List.mem_cons_self)
    cases failed.symm.trans answered

/-- A scan fails with the error of the first item that has one. -/
theorem matchingWith_eq_error_iff {items : List Item} {error : Error} :
    matchingWith answer items = .error error ↔
      ∃ before item after, items = before ++ item :: after ∧
        (∀ earlier ∈ before, ∃ holds, answer earlier = .ok holds) ∧
        answer item = .error error := by
  constructor
  · intro ended
    rcases answers_or_first_fault answer items with
      answers | ⟨before, item, after, first, rfl, good, failed⟩
    · cases ended.symm.trans (matchingWith_eq_ok_iff.mpr ⟨answers, rfl⟩)
    · cases ended.symm.trans (matchingWith_of_error good failed after)
      exact ⟨before, item, after, rfl, good, failed⟩
  · rintro ⟨before, item, after, rfl, good, failed⟩
    exact matchingWith_of_error good failed after

end

section

variable {Compiled : Type} (engine : PatternEngine Compiled) (predicate : Predicate)

/-- A scan tests every item as if it was the first one. -/
theorem gives_matching (items : List Item) :
    Gives (engine.matching predicate items)
      (matchingWith (fun item => engine.answer item predicate) items) :=
  gives_matchingWith (fun item => engine.gives_evaluate item predicate) items

variable {predicate}

theorem answer_of_isUnconstrained (unconstrained : predicate.isUnconstrained = true)
    (item : Item) : engine.answer item predicate = .ok true := by
  cases predicate with
  | empty => rfl
  | always => rfl
  | _ => cases unconstrained

variable (predicate)

/-- Every item is tested by a fresh evaluator, also where the test is left out. -/
theorem find_eq_matchingWith (items : List Item) :
    engine.find predicate items =
      matchingWith (fun item => engine.answer item predicate) items := by
  unfold find
  split
  · next unconstrained =>
      have all := matchingWith_of_answers fun item (_ : item ∈ items) =>
        engine.answer_of_isUnconstrained unconstrained item
      rw [all, List.filter_true]
  · exact engine.gives_matching predicate items .empty

end

end PatternEngine

/-- A store finds the items that a predicate accepts. -/
theorem Store.find_eq {store : Store} {collection : String} {predicate : Predicate}
    (answers : ∀ item ∈ store.items collection, predicate.Answers item) :
    store.find collection predicate =
      .ok ((store.items collection).filter predicate.accepts) := by
  rw [find, PatternEngine.find_eq_matchingWith]
  exact PatternEngine.matchingWith_of_answers fun item member => (answers item member).verdict_eq

end DocumentStore

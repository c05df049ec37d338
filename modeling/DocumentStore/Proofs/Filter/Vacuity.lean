import DocumentStore.Proofs.Filter.Wire
import DocumentStore.Proofs.Predicate.Literal
import DocumentStore.Proofs.Predicate.WellFormed

/-!
This file tells which filters have no constraint, and shows that such a filter leaves no trace in
the predicate that a tree around it compiles to.
-/

namespace DocumentStore

/-- Every number and every truth value has a text, so only a text can be empty. -/
theorem Value.scalarText?_eq_blank_iff {value : Value} (storable : value.Storable) :
    value.scalarText? = some "" ↔ value = .null ∨ value = .string "" := by
  have filled {text : String} (isWord : IsWord text.toList) : some text ≠ some "" := by
    rintro ⟨⟩
    exact isWord.ne_nil rfl
  cases storable with
  | null => simp [scalarText?]
  | string text => simp [scalarText?]
  | bool value => exact iff_of_false (filled (isWord_bool value)) nofun
  | int32 value => exact iff_of_false (filled (.inr (isNumberText_toString value.toInt))) nofun
  | int64 value => exact iff_of_false (filled (.inr (isNumberText_toString value.toInt))) nofun
  | double number =>
      have isWord : IsWord (Double.finite number).text.toList := by
        rw [Double.text, String.toList_ofList]
        exact .inr (isNumberText_plain number)
      exact iff_of_false (filled isWord) nofun
  | _ => exact iff_of_false nofun nofun

/-- A list, a text or a row of tokens that is null or empty asks nothing of a field. -/
def LeafOperator.AsksNothing : LeafOperator → Value → Prop
  | compare _, _ => False
  | hasSome, value => value = .null ∨ value = .array []
  | like _, value => value = .null ∨ value = .string ""
  | urlized, value => value = .null ∨ value = .array []

namespace Filter

open Predicate

/-- A filter is vacuous when nothing below it asks anything. -/
inductive Vacuous : Filter → Prop
  | and {children : List Filter} (all : ∀ child ∈ children, Vacuous child) :
      Vacuous (.combine .and children)
  | or {children : List Filter} (all : ∀ child ∈ children, Vacuous child) :
      Vacuous (.combine .or children)
  | not {child : Filter} (inner : Vacuous child) : Vacuous (.combine .not [child])
  | leaf {operator : LeafOperator} {value : Value} (field : FieldName)
      (nothing : operator.AsksNothing value) : Vacuous (.leaf operator field value)

/-- A comparison always asks something. -/
theorem compileComparison_ne_empty (comparison : Comparison) (field : FieldName) (value : Value) :
    compileComparison comparison field value ≠ .empty := by
  intro isEmpty
  have wellFormed := compileComparison_wellFormed comparison field value
  rw [isEmpty] at wellFormed
  cases wellFormed

/-- A test against listed values is dropped when none is listed. -/
theorem compileOneOf_eq_empty_iff (field : FieldName) (value : Value) :
    compileOneOf field value = .empty ↔ value = .null ∨ value = .array [] := by
  have listed : listedValues value = [] ↔ value = .null ∨ value = .array [] := by
    cases value <;> simp [listedValues]
  rw [← listed]
  unfold compileOneOf
  cases listedValues value <;> simp

/-- A search is dropped when its text is null or empty. -/
theorem compileLike_eq_empty_iff (placement : Placement) (field : FieldName) {value : Value}
    (storable : value.Storable) :
    compileLike placement field value = .ok .empty ↔ value = .null ∨ value = .string "" := by
  rw [← Value.scalarText?_eq_blank_iff storable]
  unfold compileLike
  cases value.scalarText? with
  | none => simp
  | some text => by_cases blank : text = "" <;> simp [blank]

/-- Every token has a pattern, so only an empty row of tokens has none. -/
theorem compileTokens_eq_empty_iff (field : FieldName) (value : Value) :
    compileTokens field value = .ok .empty ↔ value = .null ∨ value = .array [] := by
  constructor
  · intro compiled
    obtain ⟨values, listed, compiled⟩ := Outcome.bind_eq_ok.mp compiled
    obtain ⟨patterns, read, compiled⟩ := Outcome.bind_eq_ok.mp compiled
    cases values with
    | nil =>
        unfold tokens at listed
        split at listed
        · exact .inl rfl
        · cases listed
          exact .inr rfl
        · cases listed
    | cons token rest =>
        rw [List.mapM_cons] at read
        obtain ⟨pattern, -, read⟩ := Outcome.bind_eq_ok.mp read
        obtain ⟨others, -, read⟩ := Outcome.bind_eq_ok.mp read
        cases read
        cases compiled
  · rintro (rfl | rfl) <;> rfl

/-- A leaf is dropped exactly when it asks nothing. -/
theorem compileLeaf_eq_empty_iff (operator : LeafOperator) (field : FieldName) {value : Value}
    (storable : value.Storable) :
    compileLeaf operator field value = .ok .empty ↔ operator.AsksNothing value := by
  cases operator with
  | compare comparison =>
      apply iff_of_false
      · intro compiled
        exact compileComparison_ne_empty comparison field value (Except.ok.inj compiled)
      · exact id
  | hasSome => exact (Except.ok.injEq _ _).to_iff.trans (compileOneOf_eq_empty_iff field value)
  | like placement => exact compileLike_eq_empty_iff placement field storable
  | urlized => exact compileTokens_eq_empty_iff field value

/-- A join is only empty when all its children have been dropped. -/
theorem bind_join_eq_empty_iff (combine : List Predicate → Predicate)
    (apart : ∀ children, combine children ≠ .empty) {outcome : Outcome (List Predicate)} :
    (do return Predicate.join combine (← outcome)) = (.ok .empty : Outcome Predicate) ↔
      outcome = .ok [] := by
  cases outcome with
  | error error => exact ⟨nofun, nofun⟩
  | ok children =>
      cases children with
      | nil => exact ⟨fun _ => rfl, fun _ => rfl⟩
      | cons child rest =>
          apply iff_of_false
          · intro joined
            exact apart (child :: rest) (Except.ok.inj joined)
          · exact nofun

/-- A conjunction is dropped when all its children are. -/
theorem compile_and_eq_empty_iff (children : List Filter) :
    (combine .and children).compile = .ok .empty ↔ compileList children = .ok [] := by
  rw [compile]
  exact bind_join_eq_empty_iff .and nofun

/-- A disjunction is dropped when all its children are. -/
theorem compile_or_eq_empty_iff (children : List Filter) :
    (combine .or children).compile = .ok .empty ↔ compileList children = .ok [] := by
  rw [compile]
  exact bind_join_eq_empty_iff .or nofun

/-- A negation is dropped when its child is. -/
theorem compile_not_eq_empty_iff (child : Filter) :
    (combine .not [child]).compile = .ok .empty ↔ child.compile = .ok .empty := by
  rw [compile]
  cases child.compile with
  | error error => exact ⟨nofun, nofun⟩
  | ok predicate =>
      cases predicate with
      | empty => exact ⟨fun _ => rfl, fun _ => rfl⟩
      | _ => exact iff_of_false nofun nofun

/-- No child is left when the first is dropped and no other is left. -/
theorem compileList_cons_eq_nil_iff (child : Filter) (rest : List Filter) :
    compileList (child :: rest) = .ok [] ↔
      child.compile = .ok .empty ∧ compileList rest = .ok [] := by
  rw [compileList]
  constructor
  · intro compiled
    obtain ⟨predicate, done, compiled⟩ := Outcome.bind_eq_ok.mp compiled
    obtain ⟨predicates, later, compiled⟩ := Outcome.bind_eq_ok.mp compiled
    have dropped := Except.ok.inj compiled
    cases predicate with
    | empty => exact ⟨done, dropped ▸ later⟩
    | _ => cases dropped
  · rintro ⟨done, later⟩
    rw [done, later]
    rfl

theorem vacuous_and_iff {children : List Filter} :
    (combine .and children).Vacuous ↔ ∀ child ∈ children, child.Vacuous :=
  ⟨fun | .and all => all, .and⟩

theorem vacuous_or_iff {children : List Filter} :
    (combine .or children).Vacuous ↔ ∀ child ∈ children, child.Vacuous :=
  ⟨fun | .or all => all, .or⟩

theorem vacuous_not_iff {child : Filter} : (combine .not [child]).Vacuous ↔ child.Vacuous :=
  ⟨fun | .not inner => inner, .not⟩

theorem vacuous_leaf_iff {operator : LeafOperator} {field : FieldName} {value : Value} :
    (leaf operator field value).Vacuous ↔ operator.AsksNothing value :=
  ⟨fun | .leaf _ nothing => nothing, .leaf field⟩

mutual

/-- Exactly the vacuous filters compile to the empty predicate. -/
theorem compile_eq_empty_iff : (filter : Filter) → filter.Storable →
    (filter.compile = .ok .empty ↔ filter.Vacuous)
  | .unconstrained, _ => ⟨nofun, nofun⟩
  | .leaf operator field value, .leaf _ _ storable =>
      (compileLeaf_eq_empty_iff operator field storable).trans vacuous_leaf_iff.symm
  | .combine .and children, .combine _ all => by
      rw [compile_and_eq_empty_iff, compileList_eq_nil_iff children all, vacuous_and_iff]
  | .combine .or children, .combine _ all => by
      rw [compile_or_eq_empty_iff, compileList_eq_nil_iff children all, vacuous_or_iff]
  | .combine .not [child], .combine _ all => by
      rw [compile_not_eq_empty_iff, compile_eq_empty_iff child (all child List.mem_cons_self),
        vacuous_not_iff]
  | .combine .not [], _ => ⟨nofun, nofun⟩
  | .combine .not (_ :: _ :: _), _ => ⟨nofun, nofun⟩

/-- No child is left exactly when all of them are vacuous. -/
theorem compileList_eq_nil_iff : (children : List Filter) → (∀ child ∈ children, child.Storable) →
    (compileList children = .ok [] ↔ ∀ child ∈ children, child.Vacuous)
  | [], _ => ⟨fun _ => List.forall_mem_nil _, fun _ => rfl⟩
  | child :: rest, all => by
      obtain ⟨storable, restStorable⟩ := List.forall_mem_cons.mp all
      rw [compileList_cons_eq_nil_iff, compile_eq_empty_iff child storable,
        compileList_eq_nil_iff rest restStorable, List.forall_mem_cons]

end

mutual

/-- A filter is pruned when vacuous children are deleted from its joins, at any depth. -/
inductive Prunes : Filter → Filter → Prop
  | unconstrained : Prunes .unconstrained .unconstrained
  | leaf (operator : LeafOperator) (field : FieldName) (value : Value) :
      Prunes (.leaf operator field value) (.leaf operator field value)
  | and {children kept : List Filter} (deleted : PrunesList children kept) :
      Prunes (.combine .and children) (.combine .and kept)
  | or {children kept : List Filter} (deleted : PrunesList children kept) :
      Prunes (.combine .or children) (.combine .or kept)
  | not {child pruned : Filter} (inner : Prunes child pruned) :
      Prunes (.combine .not [child]) (.combine .not [pruned])

/-- Vacuous children may be deleted anywhere in a list. -/
inductive PrunesList : List Filter → List Filter → Prop
  | nil : PrunesList [] []
  | keep {child pruned : Filter} {rest kept : List Filter} (first : Prunes child pruned)
      (others : PrunesList rest kept) : PrunesList (child :: rest) (pruned :: kept)
  | delete {child : Filter} {rest kept : List Filter} (vacuous : child.Vacuous)
      (others : PrunesList rest kept) : PrunesList (child :: rest) kept

end

mutual

/-- Pruning does not change what a filter compiles to, and it hides no fault either. -/
theorem Prunes.compile_eq : {filter pruned : Filter} → filter.Storable → filter.Prunes pruned →
    pruned.compile = filter.compile
  | _, _, _, .unconstrained => rfl
  | _, _, _, .leaf _ _ _ => rfl
  | _, _, .combine _ all, .and deleted | _, _, .combine _ all, .or deleted => by
      rw [compile, compile, deleted.compileList_eq all]
  | _, _, .combine _ all, .not inner => by
      rw [compile, compile, inner.compile_eq (all _ List.mem_cons_self)]

/-- Deleted children leave the compiled ones as they are. -/
theorem PrunesList.compileList_eq : {children kept : List Filter} →
    (∀ child ∈ children, child.Storable) → PrunesList children kept →
    compileList kept = compileList children
  | _, _, _, .nil => rfl
  | _, _, all, .keep first others => by
      obtain ⟨storable, restStorable⟩ := List.forall_mem_cons.mp all
      rw [compileList, compileList, first.compile_eq storable, others.compileList_eq restStorable]
  | child :: rest, kept, all, .delete vacuous others => by
      obtain ⟨storable, restStorable⟩ := List.forall_mem_cons.mp all
      have dropped := (compile_eq_empty_iff child storable).mpr vacuous
      rw [compileList, dropped, others.compileList_eq restStorable]
      exact (bind_pure (compileList rest)).symm

end

/-- A filter from JSON that compiles gives a well-formed predicate, or the empty one when it is
vacuous. Deleting vacuous children from its joins does not change the predicate. -/
theorem shape_of_compile {json : Json} {filter : Filter} {predicate : Predicate}
    (read : ofJson json = .ok filter) (compiled : filter.compile = .ok predicate) :
    (predicate = .empty ∨ predicate.WellFormed) ∧
      (predicate = .empty ↔ filter.Vacuous) ∧
        ∀ pruned, filter.Prunes pruned → pruned.compile = .ok predicate := by
  have storable := storable_ofJson json read
  have isEmpty := compile_eq_empty_iff filter storable
  rw [compiled, Except.ok.injEq] at isEmpty
  refine ⟨compile_sound filter compiled, isEmpty, ?_⟩
  intro pruned prunes
  rw [prunes.compile_eq storable, compiled]

/-- This conjunction negates a disjunction of an empty list and an empty text. -/
def partlyVacuous (rest : List Filter) : Filter :=
  .combine .and (.combine .not [.combine .or
    [.leaf .hasSome .id (.array []), .leaf (.like .atStart) .id (.string "")]] :: rest)

def partlyVacuousJson (rest : List Json) : Json :=
  .object [
    ("operator", .string "$and"),
    ("value", .array (.object [
      ("operator", .string "$not"),
      ("value", .object [
        ("operator", .string "$or"),
        ("value", .array [
          .object [("operator", .string "$hasSome"), ("fieldName", .string "_id"),
            ("value", .array [])],
          .object [("operator", .string "$startsWith"), ("fieldName", .string "_id"),
            ("value", .string "")]])])] :: rest))]

/-- A filter without operator holds always, so it is no vacuous child and stays. -/
theorem shape_of_compile_partlyVacuous :
    (partlyVacuous []).Vacuous ∧ ¬ (partlyVacuous [.unconstrained]).Vacuous ∧
      (Predicate.and [.always]).WellFormed ∧
        (combine .and [.unconstrained]).compile = .ok (.and [.always]) := by
  have alone : ofJson (partlyVacuousJson []) = .ok (partlyVacuous []) := rfl
  have joined : ofJson (partlyVacuousJson [.null]) = .ok (partlyVacuous [.unconstrained]) := rfl
  obtain ⟨-, vacuousIff, -⟩ := shape_of_compile alone rfl
  obtain ⟨shape, joinedIff, pruned⟩ := shape_of_compile joined rfl
  have vacuous : (partlyVacuous []).Vacuous := vacuousIff.mp rfl
  refine ⟨vacuous, ?_, shape.resolve_left nofun, pruned _ ?_⟩
  · intro isVacuous
    cases joinedIff.mpr isVacuous
  · have negation := vacuous_and_iff.mp vacuous _ List.mem_cons_self
    exact .and (.delete negation (.keep .unconstrained .nil))

end Filter

end DocumentStore

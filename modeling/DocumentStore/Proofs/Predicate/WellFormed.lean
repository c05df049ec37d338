import DocumentStore.Predicate.Compile
import DocumentStore.Proofs.Action

/-!
This file shows that compiled predicates are well-formed, which is what everyone who walks a
predicate relies on.

A compiled filter is either empty as a whole or has no empty part at any depth.
-/

namespace DocumentStore

/-- A plain name has one or more ASCII letters, digits and underscores. -/
def FieldName.Plain (field : FieldName) : Prop :=
  field.text ≠ "" ∧ ∀ char ∈ field.text.toList, char.isAlphanum = true ∨ char = '_'

/-- A field name has nothing that must be quoted. -/
theorem FieldName.plain (field : FieldName) : field.Plain := by
  have allowed := field.allowed
  rw [isFieldName, Bool.and_eq_true, List.all_eq_true] at allowed
  obtain ⟨filled, chars⟩ := allowed
  constructor
  · intro blank
    rw [blank] at filled
    cases filled
  · intro char member
    simpa [isNameChar] using chars char member

/-- A value that is present is still present after it has been read as a date. -/
theorem Value.decodeDate_ne_null {value : Value} (present : value ≠ .null) :
    value.decodeDate ≠ .null := by
  unfold Value.decodeDate
  split
  · exact nofun
  · exact present

namespace Predicate

/-- A well-formed predicate has no empty part, no equality with null and only plain names. -/
inductive WellFormed : Predicate → Prop
  | always : WellFormed .always
  | and {children : List Predicate} (filled : children ≠ [])
      (all : ∀ child ∈ children, WellFormed child) : WellFormed (.and children)
  | or {children : List Predicate} (filled : children ≠ [])
      (all : ∀ child ∈ children, WellFormed child) : WellFormed (.or children)
  | not {child : Predicate} (inner : WellFormed child) : WellFormed (.not child)
  | isNull {field : FieldName} (plain : field.Plain) : WellFormed (.isNull field)
  | compare {field : FieldName} {comparison : Comparison} {value : Value} (plain : field.Plain)
      (present : comparison = .eq ∨ comparison = .ne → value ≠ .null) :
      WellFormed (.compare field comparison value)
  | oneOf {field : FieldName} {values : List Value} (plain : field.Plain) (filled : values ≠ []) :
      WellFormed (.oneOf field values)
  | like {field : FieldName} {text : String} (placement : Placement) (plain : field.Plain)
      (filled : text ≠ "") : WellFormed (.like field placement text)
  | pattern {field : FieldName} (source : String) (plain : field.Plain) :
      WellFormed (.pattern field source)

/-- A compiled filter has no constraint at all, or it is well-formed at every depth. -/
def Sound (predicate : Predicate) : Prop :=
  predicate = .empty ∨ predicate.WellFormed

/-- A closed property passes from the children of a predicate to the predicate. -/
structure Closed (motive : Predicate → Prop) : Prop where
  always : motive .always
  and {children : List Predicate} (filled : children ≠ [])
    (all : ∀ child ∈ children, motive child) : motive (.and children)
  or {children : List Predicate} (filled : children ≠ [])
    (all : ∀ child ∈ children, motive child) : motive (.or children)
  not {child : Predicate} (inner : motive child) : motive (.not child)

/-- Predicates that are well formed may be combined. -/
theorem closed_wellFormed : Closed WellFormed :=
  ⟨.always, .and, .or, .not⟩

variable {motive : Predicate → Prop}

/-- A join is only empty without children. -/
theorem join_eq_empty_or {combine : List Predicate → Predicate} {children : List Predicate}
    (combined : children ≠ [] → motive (combine children)) :
    Predicate.join combine children = .empty ∨ motive (Predicate.join combine children) := by
  unfold Predicate.join
  split
  · exact .inl rfl
  · next filled => exact .inr (combined (by simpa using filled))

/-- A negation is only empty when its child is. -/
theorem Closed.negate_eq_empty_or (closed : Closed motive) {child : Predicate}
    (known : child = .empty ∨ motive child) : child.negate = .empty ∨ motive child.negate := by
  unfold Predicate.negate
  rcases known with rfl | holds
  · exact .inl rfl
  · split
    · exact .inl rfl
    · exact .inr (closed.not holds)

end Predicate

namespace Filter

open Predicate

/-- A comparison is always asked. -/
theorem compileComparison_wellFormed (comparison : Comparison) (field : FieldName)
    (value : Value) : (compileComparison comparison field value).WellFormed := by
  unfold compileComparison
  split
  · exact .isNull field.plain
  · exact (WellFormed.isNull field.plain).not
  · next notEq notNe =>
      apply WellFormed.compare field.plain
      intro equality
      apply Value.decodeDate_ne_null
      rintro rfl
      rcases equality with rfl | rfl
      · exact notEq rfl rfl
      · exact notNe rfl rfl

/-- A test against listed values has at least one of them. -/
theorem compileOneOf_sound (field : FieldName) (value : Value) :
    (compileOneOf field value).Sound := by
  unfold compileOneOf
  split
  · exact .inl rfl
  · next filled => exact .inr (.oneOf field.plain filled)

/-- A search has a text that is not empty. -/
theorem compileLike_sound {placement : Placement} {field : FieldName} {value : Value}
    {predicate : Predicate} (compiled : compileLike placement field value = .ok predicate) :
    predicate.Sound := by
  unfold compileLike at compiled
  split at compiled
  · cases compiled
  · next text found =>
      cases compiled
      split
      · exact .inl rfl
      · next filled => exact .inr (.like placement field.plain (by simpa using filled))

/-- A test for tokens has a pattern for at least one of them. -/
theorem compileTokens_sound {field : FieldName} {value : Value} {predicate : Predicate}
    (compiled : compileTokens field value = .ok predicate) : predicate.Sound := by
  obtain ⟨values, -, compiled⟩ := Outcome.bind_eq_ok.mp compiled
  obtain ⟨patterns, -, compiled⟩ := Outcome.bind_eq_ok.mp compiled
  cases patterns with
  | nil =>
      cases compiled
      exact .inl rfl
  | cons pattern rest =>
      cases compiled
      exact .inr (.pattern _ field.plain)

/-- A leaf is empty or well formed. -/
theorem compileLeaf_sound {operator : LeafOperator} {field : FieldName} {value : Value}
    {predicate : Predicate} (compiled : compileLeaf operator field value = .ok predicate) :
    predicate.Sound := by
  cases operator with
  | compare comparison =>
      cases compiled
      exact .inr (compileComparison_wellFormed comparison field value)
  | hasSome =>
      cases compiled
      exact compileOneOf_sound field value
  | like placement => exact compileLike_sound compiled
  | urlized => exact compileTokens_sound compiled

/-- A leaf compiles into the empty predicate or has the property. -/
def LeavesSatisfy (motive : Predicate → Prop) : Prop :=
  ∀ {operator field value predicate}, compileLeaf operator field value = .ok predicate →
    predicate = .empty ∨ motive predicate

mutual

/-- The compiler drops empty children, so only the whole predicate can be empty. -/
theorem compile_closed {motive : Predicate → Prop} (closed : Closed motive)
    (leaves : LeavesSatisfy motive) : (filter : Filter) → ∀ {predicate},
      filter.compile = .ok predicate → predicate = .empty ∨ motive predicate
  | .unconstrained, _, compiled => by
      cases compiled
      exact .inr closed.always
  | .leaf operator field value, _, compiled => leaves compiled
  | .combine .and children, _, compiled => by
      rw [compile] at compiled
      obtain ⟨predicates, listed, joined⟩ := Outcome.bind_eq_ok.mp compiled
      cases joined
      exact join_eq_empty_or fun filled =>
        closed.and filled (compileList_closed closed leaves children listed)
  | .combine .or children, _, compiled => by
      rw [compile] at compiled
      obtain ⟨predicates, listed, joined⟩ := Outcome.bind_eq_ok.mp compiled
      cases joined
      exact join_eq_empty_or fun filled =>
        closed.or filled (compileList_closed closed leaves children listed)
  | .combine .not [child], _, compiled => by
      rw [compile] at compiled
      obtain ⟨predicate, inner, negated⟩ := Outcome.bind_eq_ok.mp compiled
      cases negated
      exact closed.negate_eq_empty_or (compile_closed closed leaves child inner)
  | .combine .not [], _, compiled => by cases compiled
  | .combine .not (_ :: _ :: _), _, compiled => by cases compiled

/-- Compiled children have every property that leaves have and combinations keep. -/
theorem compileList_closed {motive : Predicate → Prop} (closed : Closed motive)
    (leaves : LeavesSatisfy motive) : (children : List Filter) → ∀ {predicates},
      compileList children = .ok predicates → ∀ predicate ∈ predicates, motive predicate
  | [], _, compiled => by
      cases compiled
      exact List.forall_mem_nil _
  | child :: rest, _, compiled => by
      rw [compileList] at compiled
      obtain ⟨predicate, inner, compiled⟩ := Outcome.bind_eq_ok.mp compiled
      obtain ⟨predicates, later, compiled⟩ := Outcome.bind_eq_ok.mp compiled
      cases compiled
      have restHolds := compileList_closed closed leaves rest later
      rcases compile_closed closed leaves child inner with rfl | holds
      · exact restHolds
      · split
        · exact restHolds
        · exact List.forall_mem_cons.mpr ⟨holds, restHolds⟩

end

/-- A compiled filter is empty or well formed. -/
theorem compile_sound (filter : Filter) {predicate : Predicate}
    (compiled : filter.compile = .ok predicate) : predicate.Sound :=
  compile_closed closed_wellFormed compileLeaf_sound filter compiled

end Filter

end DocumentStore

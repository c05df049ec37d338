import DocumentStore.Proofs.Filter.Grammar
import DocumentStore.Proofs.Filter.Urlized
import DocumentStore.Proofs.FirstFault

/-!
This file says which leaves of a filter are ill-typed. A filter from JSON does not compile exactly
when one of its leaves is ill-typed, and the first of them is reported.

So the compiler looks at every leaf, also where the joins and negations around it have no
constraint.
-/

namespace DocumentStore

/-- A leaf of a filter tests one field. -/
structure FieldTest where
  operator : LeafOperator
  field : FieldName
  value : Value

/-- These values have a text of their own, and lists, documents and dates are not among them. -/
inductive Value.IsTextual : Value → Prop
  | null : IsTextual .null
  | undefined : IsTextual .undefined
  | bool (value : Bool) : IsTextual (.bool value)
  | int32 (value : Int32) : IsTextual (.int32 value)
  | int64 (value : Int64) : IsTextual (.int64 value)
  | double (value : Double) : IsTextual (.double value)
  | string (text : String) : IsTextual (.string text)

/-- The compiler takes the text of exactly these values. -/
theorem Value.scalarText?_eq_none_iff {value : Value} :
    value.scalarText? = none ↔ ¬ value.IsTextual := by
  constructor
  · rintro refused (_ | _ | _ | _ | _ | _ | _) <;> cases refused
  · intro noText
    cases value <;> first | rfl | exact absurd (by constructor) noText

namespace FieldTest

/-- A search needs a value with a text, and tokens are a list of texts or null. -/
inductive IllTyped : FieldTest → Prop
  | search {placement : Placement} {field : FieldName} {value : Value}
      (noText : ¬ value.IsTextual) : IllTyped ⟨.like placement, field, value⟩
  | tokens {field : FieldName} {value : Value} (present : value ≠ .null)
      (noTexts : ∀ tokens : List String, value ≠ .array (tokens.map .string)) :
      IllTyped ⟨.urlized, field, value⟩

/-- An ill-typed leaf is reported by its operator. -/
def typeError (test : FieldTest) : Error :=
  match test.operator with
  | .like placement => .badRequest (.scalarValue placement)
  | _ => .badRequest .tokenList

end FieldTest

namespace Filter

mutual

/-- These are the leaves of a filter at all depths, from the left to the right. -/
def leaves : Filter → List FieldTest
  | unconstrained => []
  | combine _ children => leavesOfList children
  | leaf operator field value => [⟨operator, field, value⟩]

/-- The leaves of the children follow each other. -/
def leavesOfList : List Filter → List FieldTest
  | [] => []
  | child :: rest => child.leaves ++ leavesOfList rest

end

/-- A compilation reports the first ill-typed leaf. -/
abbrev ReportsIllTyped {α : Type} (outcome : Outcome α) (tests : List FieldTest) : Prop :=
  Outcome.ReportsFirst FieldTest.IllTyped FieldTest.typeError outcome tests

/-- A search reports an operand that is no text. -/
theorem reports_compileLike (placement : Placement) (field : FieldName) (value : Value) :
    ReportsIllTyped (compileLike placement field value) [⟨.like placement, field, value⟩] := by
  unfold compileLike
  cases found : value.scalarText? with
  | none =>
      have illTyped : FieldTest.IllTyped ⟨.like placement, field, value⟩ :=
        .search (Value.scalarText?_eq_none_iff.mp found)
      exact .of_error illTyped
  | some text =>
      apply Outcome.ReportsFirst.none
      rw [List.forall_mem_singleton]
      rintro ⟨noText⟩
      cases found.symm.trans (Value.scalarText?_eq_none_iff.mpr noText)

/-- A single token that is no text spoils the whole list. -/
theorem mapM_tokenPattern_of_not_texts {values : List Value}
    (noTexts : ∀ tokens : List String, values ≠ tokens.map .string) :
    values.mapM tokenPattern = .error (.badRequest .tokenList) := by
  induction values with
  | nil => exact absurd rfl (noTexts [])
  | cons value rest inductionHypothesis =>
      rw [List.mapM_cons]
      cases value with
      | string token =>
          have restNoTexts : ∀ tokens : List String, rest ≠ tokens.map .string := by
            rintro tokens rfl
            exact noTexts (token :: tokens) rfl
          rw [inductionHypothesis restNoTexts]
          rfl
      | _ => rfl

/-- A test for tokens reports an operand that is no list of texts. -/
theorem reports_compileTokens (field : FieldName) (value : Value) :
    ReportsIllTyped (compileTokens field value) [⟨.urlized, field, value⟩] := by
  -- The compiler reads token after token, but the operand is judged as a whole.
  by_cases typed : value = .null ∨ ∃ tokens : List String, value = .array (tokens.map .string)
  · have compiled : ∃ predicate, compileTokens field value = .ok predicate := by
      rcases typed with rfl | ⟨tokens, rfl⟩
      · exact ⟨.empty, rfl⟩
      · by_cases some : tokens = []
        · subst some
          exact ⟨.empty, rfl⟩
        · exact ⟨_, compileTokens_strings field some⟩
    obtain ⟨predicate, compiled⟩ := compiled
    rw [compiled]
    apply Outcome.ReportsFirst.none
    rw [List.forall_mem_singleton]
    rintro (_ | ⟨present, noTexts⟩)
    rcases typed with absent | ⟨tokens, texts⟩
    · exact present absent
    · exact noTexts tokens texts
  · obtain ⟨present, noTexts⟩ := not_or.mp typed
    rw [not_exists] at noTexts
    have refused : compileTokens field value = .error (.badRequest .tokenList) := by
      cases value with
      | null => exact absurd rfl present
      | array values =>
          have spoiled := mapM_tokenPattern_of_not_texts fun tokens texts =>
            noTexts tokens (congrArg Value.array texts)
          change (values.mapM tokenPattern >>= _) = _
          rw [spoiled]
          rfl
      | _ => rfl
    rw [refused]
    have illTyped : FieldTest.IllTyped ⟨.urlized, field, value⟩ := .tokens present noTexts
    exact .of_error illTyped

/-- Every leaf reports its own operand. -/
theorem reports_compileLeaf (operator : LeafOperator) (field : FieldName) (value : Value) :
    ReportsIllTyped (compileLeaf operator field value) [⟨operator, field, value⟩] := by
  cases operator with
  | compare comparison => exact .none (List.forall_mem_singleton.mpr nofun)
  | hasSome => exact .none (List.forall_mem_singleton.mpr nofun)
  | like placement => exact reports_compileLike placement field value
  | urlized => exact reports_compileTokens field value

mutual

/-- The compiler meets the leaves in their order, and what it drops it has compiled before. -/
theorem reports_compile : (filter : Filter) → filter.SingleNegations →
    ReportsIllTyped filter.compile filter.leaves
  | .unconstrained, _ => .of_ok _
  | .leaf operator field value, _ => reports_compileLeaf operator field value
  | .combine .and children, .combine _ each | .combine .or children, .combine _ each => by
      rw [compile]
      exact (reports_compileList children each).map fun predicates => ⟨_, rfl⟩
  | .combine .not [child], .combine _ each => by
      rw [compile, leaves, leavesOfList, leavesOfList, List.append_nil]
      exact (reports_compile child (each child List.mem_cons_self)).map fun predicate => ⟨_, rfl⟩
  | .combine .not [], .combine single _ => nomatch single rfl
  | .combine .not (_ :: _ :: _), .combine single _ => nomatch single rfl

/-- Children report the first leaf with a wrong operand. -/
theorem reports_compileList : (children : List Filter) →
    (∀ child ∈ children, child.SingleNegations) →
      ReportsIllTyped (compileList children) (leavesOfList children)
  | [], _ => .of_ok _
  | child :: rest, each => by
      obtain ⟨single, restSingle⟩ := List.forall_mem_cons.mp each
      rw [compileList, leavesOfList]
      apply (reports_compile child single).bind
      intro predicate _
      exact (reports_compileList rest restSingle).map fun predicates => ⟨_, rfl⟩

end

/-- A filter from JSON does not compile exactly when some leaf is ill-typed. The error is the one of
the first such leaf. -/
theorem compile_eq_error_iff {json : Json} {filter : Filter} (read : ofJson json = .ok filter) :
    ((∃ error, filter.compile = .error error) ↔ ∃ test ∈ filter.leaves, test.IllTyped) ∧
      ∀ error, filter.compile = .error error ↔
        ∃ before test after, filter.leaves = before ++ test :: after ∧
          (∀ earlier ∈ before, ¬ earlier.IllTyped) ∧ test.IllTyped ∧ error = test.typeError := by
  have reports := reports_compile filter (inherited_singleNegations.of_ofJson read)
  exact ⟨reports.exists_error_iff, reports.eq_error_iff⟩

/-- A negated disjunction without constraint holds an ill-typed leaf, and another leaf follows. -/
def hiddenFault : Filter :=
  .combine .and [.combine .not [.combine .or
    [.leaf .hasSome .id (.array []), .leaf (.like .atEnd) .id (.array [])]],
    .leaf .urlized .id (.string "a")]

def hiddenFaultJson : Json :=
  .object [
    ("operator", .string "$and"),
    ("value", .array [
      .object [("operator", .string "$not"), ("value", .object [
        ("operator", .string "$or"),
        ("value", .array [
          .object [("operator", .string "$hasSome"), ("fieldName", .string "_id"),
            ("value", .array [])],
          .object [("operator", .string "$endsWith"), ("fieldName", .string "_id"),
            ("value", .array [])]])])],
      .object [("operator", .string "$urlized"), ("fieldName", .string "_id"),
        ("value", .string "a")]])]

theorem compile_eq_error_hiddenFault :
    ofJson hiddenFaultJson = .ok hiddenFault ∧
      hiddenFault.compile = .error (.badRequest (.scalarValue .atEnd)) := by
  have read : ofJson hiddenFaultJson = .ok hiddenFault := rfl
  refine ⟨read, ?_⟩
  obtain ⟨-, reported⟩ := compile_eq_error_iff read
  rw [reported]
  refine ⟨[⟨.hasSome, .id, .array []⟩], ⟨.like .atEnd, .id, .array []⟩, _, rfl, ?_, .search nofun,
    rfl⟩
  exact List.forall_mem_singleton.mpr nofun

end Filter

end DocumentStore

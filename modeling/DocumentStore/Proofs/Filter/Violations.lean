import DocumentStore.Proofs.Filter.Grammar
import DocumentStore.Proofs.FirstFault

/-!
This file lists all violations of the grammar of filters in the order of reading. The reader
reports the first of them, and a value without violations is read.
-/

namespace DocumentStore

/-- This is one way in which a value violates the grammar. -/
inductive Violation where
  | shape
  | operatorKind (given : Json)
  | unknownOperator (tag : String)
  | noField (operator : LeafOperator)
  | fieldName (name : String)
  | childrenKind (combinator : Combinator)
  | negationCount (count : Nat)

/-- An unknown operator is reported by its tag, and every other violation as a bad request. -/
def Violation.error : Violation → Error
  | shape => .badRequest .filterShape
  | operatorKind given => .badRequest (.filterOperator given)
  | unknownOperator tag => .unsupportedOperator tag
  | noField operator => .badRequest (.filterField operator)
  | fieldName name => .badRequest (.fieldName name)
  | childrenKind combinator => .badRequest (.filterList combinator)
  | negationCount count => .badRequest (.negationCount count)

namespace Json

/-- A leaf has to name a field. -/
def fieldViolations (operator : LeafOperator) (fields : Fields Json) : List Violation :=
  match fields.get? "fieldName" with
  | some (.string name) => if isFieldName name then [] else [.fieldName name]
  | _ => [.noField operator]

/-- A negation has exactly one child. -/
def countViolations (combinator : Combinator) (count : Nat) : List Violation :=
  if combinator = .not ∧ count ≠ 1 then [.negationCount count] else []

/-- The operator of a node is read first, and it tells what else the node has to hold. -/
def nodeViolations (fields : Fields Json) (below : Combinator → List Violation) :
    List Violation :=
  match fields.get? "operator" with
  | none => []
  | some .null => []
  | some (.string tag) =>
    match Operator.ofTag? tag with
    | none => [.unknownOperator tag]
    | some (.leaf operator) => fieldViolations operator fields
    | some (.logical combinator) => below combinator
  | some given => [.operatorKind given]

mutual

/-- These are all violations in a value, from the left to the right and each node before its
children. -/
def violations : Json → List Violation
  | .null => []
  | .object fields => nodeViolations fields fun combinator => violationsOfFields combinator fields
  | _ => [.shape]

/-- The children of a combination are looked for under their key. -/
def violationsOfFields (combinator : Combinator) : List (String × Json) → List Violation
  | [] => countViolations combinator 0
  | (key, value) :: rest =>
    if key = "value" then violationsOfValue combinator value else violationsOfFields combinator rest

/-- The number of the children is looked at after the children. -/
def violationsOfValue (combinator : Combinator) : Json → List Violation
  | .null => countViolations combinator 0
  | .array values => violationsOfList values ++ countViolations combinator values.length
  | .object fields =>
    if combinator = .not then
      nodeViolations fields fun combinator => violationsOfFields combinator fields
    else [.childrenKind combinator]
  | _ => [.childrenKind combinator]

/-- The violations of an array follow each other. -/
def violationsOfList : List Json → List Violation
  | [] => []
  | value :: rest => value.violations ++ violationsOfList rest

end

/-- A reader reports the first of some violations. -/
abbrev ReportsViolation {α : Type} (outcome : Outcome α) (violations : List Violation) : Prop :=
  Outcome.ReportsFirst (fun _ => True) Violation.error outcome violations

end Json

namespace Filter

open Json Outcome

/-- A violation is reported by its own error. -/
theorem reports_violation {α : Type} (violation : Violation) :
    ReportsViolation (.error violation.error : Outcome α) [violation] :=
  .of_error trivial

/-- A leaf reports a missing or refused field name. -/
theorem reports_leafOfFields (operator : LeafOperator) (fields : Fields Json) :
    ReportsViolation (leafOfFields operator fields) (fieldViolations operator fields) := by
  unfold leafOfFields fieldViolations
  match fields.get? "fieldName" with
  | some (.string name) =>
      by_cases allowed : isFieldName name = true
      · simp only [FieldName.ofText, dif_pos allowed, if_pos allowed]
        exact .of_ok _
      · simp only [FieldName.ofText, dif_neg allowed, if_neg allowed]
        exact reports_violation (.fieldName name)
  | none | some .null | some (.bool _) | some (.number _) | some (.array _) | some (.object _) =>
      exact reports_violation (.noField operator)

/-- A negation reports a wrong number of children. -/
theorem reports_combined (combinator : Combinator) (children : List Filter) :
    ReportsViolation (combined combinator children)
      (countViolations combinator children.length) := by
  unfold combined countViolations
  split
  · exact reports_violation (.negationCount children.length)
  · exact .of_ok _

/-- An object reports its operator first, then its leaf or its children. -/
theorem reports_ofFields {fields : Fields Json} {children : Combinator → Outcome (List Filter)}
    {below : Combinator → List Violation}
    (each : ∀ combinator, ReportsViolation (children combinator >>= combined combinator)
      (below combinator)) :
    ReportsViolation (ofFields fields children) (nodeViolations fields below) := by
  unfold ofFields operatorOfFields nodeViolations
  match fields.get? "operator" with
  | none | some .null => exact .of_ok _
  | some (.string tag) =>
      cases known : Operator.ofTag? tag with
      | none =>
          simp only [known]
          exact reports_violation (.unknownOperator tag)
      | some operator =>
          simp only [known]
          cases operator with
          | leaf operator => exact reports_leafOfFields operator fields
          | logical combinator => exact each combinator
  | some (.bool _) | some (.number _) | some (.array _) | some (.object _) =>
      exact reports_violation (.operatorKind _)

theorem length_ofJsonList {values : List Json} {children : List Filter}
    (read : ofJsonList values = .ok children) : children.length = values.length := by
  induction values generalizing children with
  | nil =>
      cases read
      rfl
  | cons value rest inductionHypothesis =>
      rw [ofJsonList] at read
      obtain ⟨child, -, read⟩ := Outcome.bind_eq_ok.mp read
      obtain ⟨others, later, read⟩ := Outcome.bind_eq_ok.mp read
      cases read
      rw [List.length_cons, List.length_cons, inductionHypothesis later]

mutual

/-- The reader follows the order in which the violations are listed, and stops at the first. -/
theorem reports_ofJson : (json : Json) → ReportsViolation (ofJson json) json.violations
  | .null => .of_ok _
  | .object fields =>
      reports_ofFields fun combinator => reports_childrenOfFields combinator fields
  | .bool _ | .number _ | .string _ => reports_violation .shape
  | .array _ => reports_violation .shape

/-- The children are reported before their number. -/
theorem reports_childrenOfFields (combinator : Combinator) : (fields : List (String × Json)) →
    ReportsViolation (childrenOfFields combinator fields >>= combined combinator)
      (violationsOfFields combinator fields)
  | [] => reports_combined combinator []
  | (key, value) :: rest => by
      rw [childrenOfFields, violationsOfFields]
      split
      · exact reports_childrenOfValue combinator value
      · exact reports_childrenOfFields combinator rest

/-- A value that holds no children is reported as such. -/
theorem reports_childrenOfValue (combinator : Combinator) : (json : Json) →
    ReportsViolation (childrenOfValue combinator json >>= combined combinator)
      (violationsOfValue combinator json)
  | .null => reports_combined combinator []
  | .array values => by
      apply (reports_ofJsonList values).bind
      intro children read
      rw [← length_ofJsonList read]
      exact reports_combined combinator children
  | .object fields => by
      rw [childrenOfValue, violationsOfValue]
      split
      · next negation =>
          subst negation
          -- A lone child is the only one, so nothing is counted after it.
          rw [bind_assoc]
          apply (reports_ofFields fun combinator =>
            reports_childrenOfFields combinator fields).map
          intro child
          exact ⟨.combine .not [child], rfl⟩
      · exact reports_violation (.childrenKind combinator)
  | .bool _ | .number _ => reports_violation (.childrenKind combinator)
  | .string _ => reports_violation (.childrenKind combinator)

/-- An array reports the first violation among its elements. -/
theorem reports_ofJsonList : (values : List Json) →
    ReportsViolation (ofJsonList values) (violationsOfList values)
  | [] => .of_ok _
  | value :: rest => by
      rw [ofJsonList, violationsOfList]
      apply (reports_ofJson value).bind
      intro child _
      apply (reports_ofJsonList rest).map
      intro children
      exact ⟨child :: children, rfl⟩

end

/-- A value is read as exactly the filter that it describes, and there every negation has one child.
A value that describes no filter is refused with its first violation. -/
theorem ofJson_exact (json : Json) :
    (∀ filter, ofJson json = .ok filter ↔ json.Describes filter) ∧
      (∀ filter, json.Describes filter → filter.SingleNegations) ∧
        ∀ error, ofJson json = .error error ↔
          ∃ violation later, json.violations = violation :: later ∧ error = violation.error := by
  refine ⟨ofJson_eq_ok_iff json, fun filter => inherited_singleNegations.of_describes, ?_⟩
  intro error
  rw [(reports_ofJson json).eq_error_iff]
  constructor
  · rintro ⟨before, violation, later, listed, good, -, reported⟩
    cases before with
    | nil => exact ⟨violation, later, listed, reported⟩
    | cons earlier before => exact absurd trivial (good earlier List.mem_cons_self)
  · rintro ⟨violation, later, listed, reported⟩
    exact ⟨[], violation, later, listed, List.forall_mem_nil _, trivial, reported⟩

-- The children of a negation are read before they are counted.
example :
    (Json.object [("operator", .string "$not"), ("value", .array [
      .object [("operator", .string "$near")],
      .object [("operator", .string "$eq"), ("fieldName", .string "a.b")]])]).violations =
      [.unknownOperator "$near", .fieldName "a.b", .negationCount 2] := rfl

end Filter

end DocumentStore

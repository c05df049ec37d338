import DocumentStore.Predicate.QueryDocument
import DocumentStore.Proofs.Predicate.WellFormed

/-!
This file gives the grammar of query documents, and shows that every compiled filter is written as
one.

A database reads a query by its keys. So the texts and the keys that a caller compares with must
only stand where the grammar has an operand.
-/

namespace DocumentStore

/-- A database takes such a key for one field, and for no operator and no path. -/
def IsFieldKey (key : String) : Prop :=
  key ≠ "" ∧ '$' ∉ key.toList ∧ '.' ∉ key.toList ∧ '\x00' ∉ key.toList

/-- A field name never looks like an operator. -/
theorem FieldName.isFieldKey (field : FieldName) : IsFieldKey field.text := by
  obtain ⟨filled, chars⟩ := field.plain
  have absent {char : Char} (special : ¬ (char.isAlphanum = true ∨ char = '_')) :
      char ∉ field.text.toList :=
    fun member => special (chars char member)
  exact ⟨filled, absent (by decide), absent (by decide), absent (by decide)⟩

mutual

/-- These are the fields that a filter names. -/
def Filter.fields : Filter → List FieldName
  | .unconstrained => []
  | .combine _ children => Filter.fieldsList children
  | .leaf _ field _ => [field]

/-- These are the fields that any of the filters names. -/
def Filter.fieldsList : List Filter → List FieldName
  | [] => []
  | child :: rest => child.fields ++ Filter.fieldsList rest

end

mutual

/-- These are the fields that a predicate looks at. -/
def Predicate.fields : Predicate → List FieldName
  | .empty => []
  | .always => []
  | .and children => Predicate.fieldsList children
  | .or children => Predicate.fieldsList children
  | .not child => child.fields
  | .isNull field => [field]
  | .compare field _ _ => [field]
  | .oneOf field _ => [field]
  | .like field _ _ => [field]
  | .pattern field _ => [field]

/-- These are the fields that any of the predicates looks at. -/
def Predicate.fieldsList : List Predicate → List FieldName
  | [] => []
  | child :: rest => child.fields ++ Predicate.fieldsList rest

end

namespace Filter

/-- A leaf only looks at its own field. -/
theorem compileLeaf_fields {operator : LeafOperator} {field : FieldName} {value : Value}
    {predicate : Predicate} (compiled : compileLeaf operator field value = .ok predicate) :
    predicate.fields ⊆ [field] := by
  cases operator with
  | compare comparison =>
      cases compiled
      unfold compileComparison
      split <;> exact List.Subset.refl _
  | hasSome =>
      cases compiled
      unfold compileOneOf
      split
      · exact List.nil_subset _
      · exact List.Subset.refl _
  | like placement =>
      simp only [compileLeaf, compileLike] at compiled
      split at compiled
      · cases compiled
      · cases compiled
        split
        · exact List.nil_subset _
        · exact List.Subset.refl _
  | urlized =>
      obtain ⟨values, -, compiled⟩ := Outcome.bind_eq_ok.mp compiled
      obtain ⟨patterns, -, compiled⟩ := Outcome.bind_eq_ok.mp compiled
      cases patterns with
      | nil =>
          cases compiled
          exact List.nil_subset _
      | cons pattern rest =>
          cases compiled
          exact List.Subset.refl _

/-- A negation looks at no other fields. -/
theorem fields_negate (child : Predicate) : child.negate.fields ⊆ child.fields := by
  unfold Predicate.negate
  split
  · exact List.nil_subset _
  · exact List.Subset.refl _

/-- A join looks at no other fields than its children. -/
theorem fields_join {combine : List Predicate → Predicate} {predicates : List Predicate}
    (combined : (combine predicates).fields = Predicate.fieldsList predicates) :
    (Predicate.join combine predicates).fields ⊆ Predicate.fieldsList predicates := by
  unfold Predicate.join
  split
  · exact List.nil_subset _
  · rw [combined]
    exact List.Subset.refl _

mutual

/-- A compiled filter names no field that the filter does not name. -/
theorem compile_fields : (filter : Filter) → ∀ {predicate}, filter.compile = .ok predicate →
    predicate.fields ⊆ filter.fields
  | .unconstrained, _, compiled => by
      cases compiled
      exact List.nil_subset _
  | .leaf _ _ _, _, compiled => compileLeaf_fields compiled
  | .combine .and children, _, compiled | .combine .or children, _, compiled => by
      rw [compile] at compiled
      obtain ⟨predicates, listed, joined⟩ := Outcome.bind_eq_ok.mp compiled
      cases joined
      exact List.Subset.trans (fields_join rfl) (compileList_fields children listed)
  | .combine .not [child], _, compiled => by
      rw [compile] at compiled
      obtain ⟨predicate, inner, negated⟩ := Outcome.bind_eq_ok.mp compiled
      cases negated
      have negatedFields := List.Subset.trans (fields_negate predicate) (compile_fields child inner)
      exact List.Subset.trans negatedFields (List.subset_append_left _ _)
  | .combine .not [], _, compiled => by cases compiled
  | .combine .not (_ :: _ :: _), _, compiled => by cases compiled

/-- Compiled children look at no other fields than their filters name. -/
theorem compileList_fields : (children : List Filter) → ∀ {predicates},
    compileList children = .ok predicates →
      Predicate.fieldsList predicates ⊆ Filter.fieldsList children
  | [], _, compiled => by
      cases compiled
      exact List.nil_subset _
  | child :: rest, _, compiled => by
      rw [compileList] at compiled
      obtain ⟨predicate, inner, compiled⟩ := Outcome.bind_eq_ok.mp compiled
      obtain ⟨predicates, later, compiled⟩ := Outcome.bind_eq_ok.mp compiled
      cases compiled
      have first := List.subset_append_of_subset_left (fieldsList rest)
        (compile_fields child inner)
      have others := List.subset_append_of_subset_right child.fields
        (compileList_fields rest later)
      split
      · exact others
      · exact List.append_subset.mpr ⟨first, others⟩

end

end Filter

namespace Query

/-- Below these operators stand queries. -/
def joinKeys : List String :=
  ["$and", "$or", "$nor"]

def comparisonKeys : List String :=
  ["$eq", "$ne", "$lt", "$lte", "$gt", "$gte"]

/-- This is what a query may ask of a field. An operand is any value. -/
inductive IsCondition : Value → Prop
  | null : IsCondition .null
  | compare {operator : String} (known : operator ∈ comparisonKeys) (operand : Value) :
      IsCondition (.document [(operator, operand)])
  | oneOf {operands : List Value} (filled : operands ≠ []) :
      IsCondition (.document [("$in", .array operands)])
  | search (source : String) :
      IsCondition (.document [("$regex", .string source), ("$options", .string "i")])

/-- A query asks nothing, joins queries, denies a query, or asks one of the given fields. -/
inductive IsQuery (fields : List FieldName) : Fields Value → Prop
  | all : IsQuery fields []
  | and {queries : List (Fields Value)} (filled : queries ≠ [])
      (each : ∀ query ∈ queries, IsQuery fields query) :
      IsQuery fields [("$and", .array (queries.map .document))]
  | or {queries : List (Fields Value)} (filled : queries ≠ [])
      (each : ∀ query ∈ queries, IsQuery fields query) :
      IsQuery fields [("$or", .array (queries.map .document))]
  | nor {query : Fields Value} (inner : IsQuery fields query) :
      IsQuery fields [("$nor", .array [.document query])]
  | field {field : FieldName} {condition : Value} (known : field ∈ fields)
      (isKey : IsFieldKey field.text) (asks : IsCondition condition) :
      IsQuery fields [(field.text, condition)]

mutual

/-- This hides the operands of a query, and the keys tell where they stand. -/
def hideOperands : List (String × Value) → List (String × Value)
  | [] => []
  | (key, value) :: rest =>
    (key, if key ∈ joinKeys then hideJoined value else hideCondition value) :: hideOperands rest

/-- The queries of a join are hidden one by one. -/
def hideJoined : Value → Value
  | .array queries => .array (hideList queries)
  | other => other

/-- This hides the operands of each query. -/
def hideList : List Value → List Value
  | [] => []
  | query :: rest => hideQuery query :: hideList rest

/-- Only documents are queries. -/
def hideQuery : Value → Value
  | .document fields => .document (hideOperands fields)
  | other => other

/-- The keys of a condition are its operators. -/
def hideCondition : Value → Value
  | .document conditions => .document (conditions.map fun condition => (condition.1, .null))
  | _ => .null

end

/-- A field is never taken for a join. -/
theorem text_not_mem_joinKeys (field : FieldName) : field.text ∉ joinKeys := by
  intro member
  obtain ⟨-, noOperator, -⟩ := field.isFieldKey
  have begins : ∀ key ∈ joinKeys, '$' ∈ key.toList := by decide
  exact noOperator (begins _ member)

/-- The operands of a join are hidden in its queries. -/
theorem hideOperands_join {key : String} (known : key ∈ joinKeys) (queries : List Value) :
    hideOperands [(key, .array queries)] = [(key, .array (hideList queries))] := by
  simp only [hideOperands, hideJoined, if_pos known]

/-- The operand of a field is hidden in its condition. -/
theorem hideOperands_field (field : FieldName) (condition : Value) :
    hideOperands [(field.text, condition)] = [(field.text, hideCondition condition)] := by
  simp only [hideOperands, if_neg (text_not_mem_joinKeys field)]

end Query

namespace Predicate

open Query

/-- The children of a join become documents one by one. -/
theorem queryDocuments_eq (children : List Predicate) :
    queryDocuments children = (children.map queryDocument).map .document := by
  induction children with
  | nil => rfl
  | cons child rest inductionHypothesis =>
      rw [queryDocuments, inductionHypothesis]
      rfl

/-- A child looks at no other fields than all children together. -/
theorem fields_subset_fieldsList {child : Predicate} {children : List Predicate}
    (member : child ∈ children) : child.fields ⊆ fieldsList children := by
  induction member with
  | head rest => exact List.subset_append_left _ _
  | tail first _ inductionHypothesis =>
      exact List.subset_append_of_subset_right _ inductionHypothesis

/-- Children that are queries for the same fields can be joined. -/
theorem isQuery_children {children : List Predicate} {fields : List FieldName}
    (known : fieldsList children ⊆ fields)
    (each : ∀ child ∈ children, child.fields ⊆ fields → IsQuery fields child.queryDocument) :
    ∀ query ∈ children.map queryDocument, IsQuery fields query := by
  rw [List.forall_mem_map]
  intro child member
  exact each child member (List.Subset.trans (fields_subset_fieldsList member) known)

/-- What the compiler promises is what the grammar asks for. -/
theorem WellFormed.isQuery {predicate : Predicate} (wellFormed : predicate.WellFormed)
    {fields : List FieldName} (known : predicate.fields ⊆ fields) :
    IsQuery fields predicate.queryDocument := by
  induction wellFormed with
  | always => exact .all
  | and filled all inductionHypothesis =>
      rw [queryDocument, queryDocuments_eq]
      exact .and (by simpa using filled) (isQuery_children known inductionHypothesis)
  | or filled all inductionHypothesis =>
      rw [queryDocument, queryDocuments_eq]
      exact .or (by simpa using filled) (isQuery_children known inductionHypothesis)
  | not inner inductionHypothesis => exact .nor (inductionHypothesis known)
  | @isNull field plain => exact .field (known List.mem_cons_self) field.isFieldKey .null
  | @compare field comparison value plain present =>
      have isOperator : comparison.tag ∈ comparisonKeys := by
        cases comparison <;> decide
      exact .field (known List.mem_cons_self) field.isFieldKey (.compare isOperator value)
  | @oneOf field values plain filled =>
      exact .field (known List.mem_cons_self) field.isFieldKey (.oneOf filled)
  | @like field text placement plain filled =>
      exact .field (known List.mem_cons_self) field.isFieldKey (.search _)
  | @pattern field source plain =>
      exact .field (known List.mem_cons_self) field.isFieldKey (.search _)

mutual

/-- An outline has the tree, the fields and the operators of a predicate, and no operands. -/
def outline : Predicate → Predicate
  | empty => empty
  | always => always
  | and children => and (outlineList children)
  | or children => or (outlineList children)
  | not child => not child.outline
  | isNull field => isNull field
  | compare field comparison _ => compare field comparison .null
  | oneOf field _ => oneOf field []
  | like field placement _ => like field placement ""
  | pattern field _ => pattern field ""

/-- The children of a join are outlined one by one. -/
def outlineList : List Predicate → List Predicate
  | [] => []
  | child :: rest => child.outline :: outlineList rest

end

mutual

/-- The operands of a predicate do not reach any place outside the operands of its query. -/
theorem hideOperands_outline (predicate : Predicate) :
    hideOperands predicate.outline.queryDocument = hideOperands predicate.queryDocument := by
  cases predicate with
  | empty | always | isNull _ => rfl
  | and children | or children =>
      rw [outline, queryDocument, queryDocument, hideOperands_join (by decide),
        hideOperands_join (by decide), hideList_outline children]
  | not child =>
      rw [outline, queryDocument, queryDocument, hideOperands_join (by decide),
        hideOperands_join (by decide)]
      simp only [hideList, hideQuery, hideOperands_outline child]
  | compare _ _ _ | oneOf _ _ | like _ _ _ | pattern _ _ =>
      rw [outline, queryDocument, queryDocument, hideOperands_field, hideOperands_field]
      rfl

/-- Hidden queries only depend on the outlines. -/
theorem hideList_outline : (children : List Predicate) →
    hideList (queryDocuments (outlineList children)) = hideList (queryDocuments children)
  | [] => rfl
  | child :: rest => by
      rw [outlineList, queryDocuments, queryDocuments, hideList, hideList, hideQuery, hideQuery,
        hideOperands_outline child, hideList_outline rest]

end

end Predicate

namespace Filter

open Query

/-- A filter that compiles is written as a query over its own fields. Its operands leave every
other place of the query as it is. -/
theorem queryDocument_of_compile {filter : Filter} {predicate : Predicate}
    (compiled : filter.compile = .ok predicate) :
    IsQuery filter.fields predicate.queryDocument ∧
      ∀ other : Predicate, other.outline = predicate.outline →
        hideOperands other.queryDocument = hideOperands predicate.queryDocument := by
  constructor
  · rcases compile_sound filter compiled with rfl | wellFormed
    · exact .all
    · exact wellFormed.isQuery (compile_fields filter compiled)
  · intro other sameOutline
    rw [← other.hideOperands_outline, sameOutline, predicate.hideOperands_outline]

/-- This asks for an identifier that is a query itself. -/
def injected : Filter :=
  .combine .not [.leaf (.compare .eq) .id (.document [("$where", .string "true")])]

theorem queryDocument_of_compile_injected :
    IsQuery [.id] [("$nor", .array [.document [("_id",
      .document [("$eq", .document [("$where", .string "true")])])]])] ∧
      hideOperands [("$nor", .array [.document [("_id",
        .document [("$eq", .document [("$where", .string "true")])])]])] =
        [("$nor", .array [.document [("_id", .document [("$eq", .null)])]])] := by
  have compiled : injected.compile =
      .ok (.not (.compare .id .eq (.document [("$where", .string "true")]))) := rfl
  obtain ⟨isQuery, sameOutside⟩ := queryDocument_of_compile compiled
  exact ⟨isQuery, (sameOutside (.not (.compare .id .eq .null)) rfl).symm⟩

end Filter

end DocumentStore

import DocumentStore.Proofs.Filter.Compilation
import DocumentStore.Proofs.Filter.Wire
import DocumentStore.Proofs.Predicate.QueryDocument

/-!
This file reads query documents back into the predicates that they were written from.

Nothing is lost on the way, apart from two differences that a database does not see. The empty
predicate and the one that always holds are both written as the empty query, and a search for a text
anywhere is written as the pattern of the escaped text.
-/

namespace DocumentStore

namespace Pattern

/-- This is the text that a pattern of letters stands for, and classes stand for no text. -/
def letters? : Pattern → Option (List Char)
  | [] => some []
  | .letter char :: rest => (letters? rest).map (char :: ·)
  | .oneOf _ :: _ => none

/-- This is the text that was escaped. -/
def literal? (source : List Char) : Option (List Char) :=
  (ofText? source).bind letters?

/-- A pattern of letters is read as their text. -/
theorem letters?_map_letter (text : List Char) : letters? (text.map .letter) = some text := by
  induction text with
  | nil => rfl
  | cons char rest inductionHypothesis =>
      rw [List.map_cons, letters?, inductionHypothesis]
      rfl

/-- An escaped text is read as its letters. -/
theorem ofText?_escape (text : List Char) : ofText? (escape text) = some (text.map .letter) := by
  have read := readFrom_escape text []
  simpa [ofText?, readFrom] using read

/-- An escaped text is read back. -/
theorem literal?_escape (text : List Char) : literal? (escape text) = some text := by
  rw [literal?, ofText?_escape]
  exact letters?_map_letter text

/-- An anchor is always escaped in a text, so a plain one makes the source unreadable. -/
theorem ofText?_start (source : List Char) : ofText? ('^' :: source) = none := by
  simp [ofText?, readFrom, isOperator]

/-- A text that has to stand at the end is no pattern of tokens. -/
theorem ofText?_end (text : List Char) : ofText? (escape text ++ ['$']) = none := by
  rw [ofText?, readFrom_escape]
  simp [readFrom, isOperator]

/-- A text that has to stand at the end does not look like one at the start. -/
theorem escape_append_ne_start (text rest : List Char) : escape text ++ ['$'] ≠ '^' :: rest := by
  cases text with
  | nil => simp [escape]
  | cons char text =>
      rw [escape, List.flatMap_cons]
      split
      · simp
      · next plain =>
          rintro same
          obtain ⟨rfl, -⟩ := List.cons.inj same
          exact plain rfl

end Pattern

namespace Placement

/-- This tells from a written search where the text has to occur, and the text itself. -/
def ofSource? (source : List Char) : Option (Placement × List Char) :=
  match Pattern.literal? source, source with
  | some text, _ => some (.anywhere, text)
  | none, '^' :: rest => (Pattern.literal? rest).map (.atStart, ·)
  | none, _ => (Pattern.literal? source.dropLast).map (.atEnd, ·)

/-- Every search is told apart from every other, whatever signs the texts hold. -/
theorem ofSource?_searchPattern (placement : Placement) (text : List Char) :
    ofSource? (placement.searchPattern text) = some (placement, text) := by
  unfold ofSource?
  -- Only a plain anchor makes a source unreadable, so a search anywhere is recognised first.
  cases placement with
  | anywhere =>
      rw [searchPattern, Pattern.literal?_escape]
  | atStart =>
      have unreadable : Pattern.literal? ('^' :: Pattern.escape text) = none := by
        rw [Pattern.literal?, Pattern.ofText?_start]
        rfl
      rw [searchPattern, unreadable]
      simp only [Pattern.literal?_escape]
      rfl
  | atEnd =>
      have unreadable : Pattern.literal? (Pattern.escape text ++ ['$']) = none := by
        rw [Pattern.literal?, Pattern.ofText?_end]
        rfl
      rw [searchPattern, unreadable]
      split
      · next found => cases found
      · next rest _ same => exact absurd same (Pattern.escape_append_ne_start text rest)
      · rw [List.dropLast_concat, Pattern.literal?_escape]
        rfl

end Placement

namespace Query

/-- A readable source is a pattern, and any other one has an anchor. -/
def search? (field : FieldName) (source : String) : Option Predicate :=
  match Pattern.ofText? source.toList with
  | some _ => some (.pattern field source)
  | none => (Placement.ofSource? source.toList).map fun search =>
    .like field search.1 (String.ofList search.2)

def operation? (field : FieldName) (operator : String) (operand : Value) : Option Predicate :=
  match Operator.ofTag? operator, operand with
  | some (.leaf (.compare comparison)), operand => some (.compare field comparison operand)
  | none, .array values => if operator = "$in" then some (.oneOf field values) else none
  | _, _ => none

/-- This reads what a query asks of a field. -/
def condition? (field : FieldName) : Value → Option Predicate
  | .null => some (.isNull field)
  | .document [(operator, operand)] => operation? field operator operand
  | .document [("$regex", .string source), ("$options", .string "i")] => search? field source
  | _ => none

/-- A denial holds one query. -/
def denied? : List Predicate → Option Predicate
  | [child] => some (.not child)
  | _ => none

mutual

/-- This reads a query, and its key tells whether it joins queries or asks a field. -/
def predicate? : List (String × Value) → Option Predicate
  | [] => some .empty
  | [(key, value)] =>
    if key = "$and" then (joined? value).map .and
    else if key = "$or" then (joined? value).map .or
    else if key = "$nor" then (joined? value).bind denied?
    else (FieldName.ofText key).toOption.bind fun field => condition? field value
  | _ => none

/-- The queries of a join stand in a list. -/
def joined? : Value → Option (List Predicate)
  | .array queries => predicates? queries
  | _ => none

/-- Every query of a list has to be readable. -/
def predicates? : List Value → Option (List Predicate)
  | [] => some []
  | query :: rest => do
    let child ← query? query
    let children ← predicates? rest
    return child :: children

/-- A query is a document. -/
def query? : Value → Option Predicate
  | .document fields => predicate? fields
  | _ => none

end

end Query

namespace Predicate

open Query

mutual

/-- This writes the predicate that always holds as the empty one, and a search anywhere as the
pattern of its escaped text. -/
def merged : Predicate → Predicate
  | empty => empty
  | always => empty
  | and children => and (mergedList children)
  | or children => or (mergedList children)
  | not child => not child.merged
  | isNull field => isNull field
  | compare field comparison value => compare field comparison value
  | oneOf field values => oneOf field values
  | like field .anywhere text => pattern field (String.ofList (Pattern.escape text.toList))
  | like field .atStart text => like field .atStart text
  | like field .atEnd text => like field .atEnd text
  | pattern field source => pattern field source

/-- Predicates in a list are merged one by one. -/
def mergedList : List Predicate → List Predicate
  | [] => []
  | child :: rest => child.merged :: mergedList rest

end

mutual

/-- What is merged is written alike. -/
theorem queryDocument_merged : (predicate : Predicate) →
    predicate.merged.queryDocument = predicate.queryDocument
  | .empty => rfl
  | .always => rfl
  | .and children | .or children => by
      rw [merged, queryDocument, queryDocument, queryDocuments_mergedList children]
  | .not child => by rw [merged, queryDocument, queryDocument, queryDocument_merged child]
  | .isNull _ | .compare _ _ _ | .oneOf _ _ => rfl
  | .like field .anywhere text => by
      rw [merged, queryDocument, queryDocument, String.toList_ofList]
      rfl
  | .like _ .atStart _ => rfl
  | .like _ .atEnd _ => rfl
  | .pattern _ _ => rfl

/-- Merging changes no query. -/
theorem queryDocuments_mergedList : (children : List Predicate) →
    queryDocuments (mergedList children) = queryDocuments children
  | [] => rfl
  | child :: rest => by
      rw [mergedList, queryDocuments, queryDocuments, queryDocument_merged child,
        queryDocuments_mergedList rest]

end

/-- A predicate is readable when its patterns are. -/
inductive Readable : Predicate → Prop
  | always : Readable .always
  | and {children : List Predicate} (all : ∀ child ∈ children, Readable child) :
      Readable (.and children)
  | or {children : List Predicate} (all : ∀ child ∈ children, Readable child) :
      Readable (.or children)
  | not {child : Predicate} (inner : Readable child) : Readable (.not child)
  | isNull (field : FieldName) : Readable (.isNull field)
  | compare (field : FieldName) (comparison : Comparison) (value : Value) :
      Readable (.compare field comparison value)
  | oneOf (field : FieldName) (values : List Value) : Readable (.oneOf field values)
  | like (field : FieldName) (placement : Placement) (text : String) :
      Readable (.like field placement text)
  | pattern (field : FieldName) {source : String} {pattern : Pattern}
      (read : Pattern.ofText? source.toList = some pattern) : Readable (.pattern field source)

/-- Readable predicates may be combined. -/
theorem closed_readable : Closed Readable :=
  ⟨.always, fun _ => .and, fun _ => .or, .not⟩

/-- A field is read with its condition. -/
theorem predicate?_field (field : FieldName) (condition : Value) :
    predicate? [(field.text, condition)] = condition? field condition := by
  have other {key : String} (known : key ∈ joinKeys) : field.text ≠ key := by
    rintro rfl
    exact text_not_mem_joinKeys field known
  rw [predicate?, if_neg (other (by decide)), if_neg (other (by decide)),
    if_neg (other (by decide)), FieldName.ofText_text]
  rfl

/-- A list of queries is read back when each of them is. -/
theorem predicates?_queryDocuments {children : List Predicate}
    (each : ∀ child ∈ children, predicate? child.queryDocument = some child.merged) :
    predicates? (queryDocuments children) = some (mergedList children) := by
  induction children with
  | nil => rfl
  | cons child rest inductionHypothesis =>
      obtain ⟨first, others⟩ := List.forall_mem_cons.mp each
      rw [queryDocuments, predicates?, query?, first, inductionHypothesis others]
      rfl

/-- A comparison is read back from its tag. -/
theorem operation?_tag (field : FieldName) (comparison : Comparison) (value : Value) :
    operation? field comparison.tag value = some (.compare field comparison value) := by
  have tagged : Operator.ofTag? comparison.tag = some (.leaf (.compare comparison)) :=
    Operator.ofTag?_tag (.leaf (.compare comparison))
  unfold operation?
  rw [tagged]

/-- A search text is read back with its placement, unless it is a pattern of tokens. -/
theorem search?_like (field : FieldName) {placement : Placement} (text : String)
    (unreadable : Pattern.ofText? (placement.searchPattern text.toList) = none) :
    search? field (String.ofList (placement.searchPattern text.toList)) =
      some (.like field placement text) := by
  rw [search?, String.toList_ofList, unreadable, Placement.ofSource?_searchPattern]
  simp

/-- A query is read back as its predicate, up to what is written alike. -/
theorem Readable.predicate?_queryDocument {predicate : Predicate}
    (readable : predicate.Readable) :
    predicate? predicate.queryDocument = some predicate.merged := by
  induction readable with
  | always => rfl
  | and all inductionHypothesis =>
      rw [queryDocument, predicate?, if_pos rfl, joined?,
        predicates?_queryDocuments inductionHypothesis]
      rfl
  | or all inductionHypothesis =>
      rw [queryDocument, predicate?, if_neg (by decide), if_pos rfl, joined?,
        predicates?_queryDocuments inductionHypothesis]
      rfl
  | @not child inner inductionHypothesis =>
      rw [queryDocument, predicate?, if_neg (by decide), if_neg (by decide), if_pos rfl, joined?,
        predicates?, query?, inductionHypothesis]
      rfl
  | isNull field => exact predicate?_field field .null
  | compare field comparison value =>
      rw [queryDocument, predicate?_field]
      exact operation?_tag field comparison value
  | oneOf field values =>
      rw [queryDocument, predicate?_field]
      rfl
  | like field placement text =>
      rw [queryDocument, predicate?_field]
      change search? field _ = _
      -- A text that may stand anywhere is written like a pattern of letters, which is why merging
      -- does not keep the two apart.
      cases placement with
      | anywhere =>
          rw [merged, search?, String.toList_ofList, Placement.searchPattern,
            Pattern.ofText?_escape]
      | atStart => exact search?_like field text (Pattern.ofText?_start _)
      | atEnd => exact search?_like field text (Pattern.ofText?_end _)
  | @pattern field source pattern read =>
      rw [queryDocument, predicate?_field]
      change search? field _ = _
      rw [merged, search?, String.ofList_toList, read]

end Predicate

namespace Filter

open Predicate

/-- Every compiled leaf is readable. -/
theorem compileLeaf_readable : LeavesSatisfy Readable := by
  intro operator field value predicate compiled
  cases operator with
  | compare comparison =>
      cases compiled
      unfold compileComparison
      split
      · exact .inr (.isNull field)
      · exact .inr (.not (.isNull field))
      · exact .inr (.compare field _ _)
  | hasSome =>
      cases compiled
      unfold compileOneOf
      split
      · exact .inl rfl
      · exact .inr (.oneOf field _)
  | like placement =>
      simp only [compileLeaf, compileLike] at compiled
      split at compiled
      · cases compiled
      · cases compiled
        split
        · exact .inl rfl
        · exact .inr (.like field placement _)
  | urlized =>
      obtain ⟨values, -, compiled⟩ := Outcome.bind_eq_ok.mp compiled
      obtain ⟨patterns, listed, compiled⟩ := Outcome.bind_eq_ok.mp compiled
      rw [tokenPatterns_eq listed] at compiled
      generalize (Value.array values).tokens = tokens at compiled
      cases tokens with
      | nil =>
          cases compiled
          exact .inl rfl
      | cons token rest =>
          cases compiled
          have read := Pattern.readFrom_tokens (token :: rest)
          rw [← String.toList_ofList (l := separator.intercalate _)] at read
          exact .inr (.pattern field read)

/-- The query of a compiled filter is read back as the predicate, up to what is written alike. -/
theorem predicate?_of_compile {filter : Filter} {predicate : Predicate}
    (compiled : filter.compile = .ok predicate) :
    Query.predicate? predicate.queryDocument = some predicate.merged := by
  rcases compile_closed closed_readable compileLeaf_readable filter compiled with rfl | readable
  · rfl
  · exact readable.predicate?_queryDocument

/-- Two compiled filters are written as one query exactly when they are equal once the predicate
that always holds is merged with the empty one, and a search anywhere with the pattern of its
escaped text. A written search tells where the text has to occur, and the exact text. -/
theorem queryDocument_eq_iff {filter other : Filter} {predicate otherPredicate : Predicate}
    (compiled : filter.compile = .ok predicate)
    (otherCompiled : other.compile = .ok otherPredicate) :
    (predicate.queryDocument = otherPredicate.queryDocument ↔
        predicate.merged = otherPredicate.merged) ∧
      ∀ (placement : Placement) (text : List Char),
        Placement.ofSource? (placement.searchPattern text) = some (placement, text) := by
  refine ⟨?_, Placement.ofSource?_searchPattern⟩
  constructor
  · intro same
    have read := predicate?_of_compile compiled
    rw [same, predicate?_of_compile otherCompiled] at read
    exact (Option.some.inj read).symm
  · intro same
    rw [← predicate.queryDocument_merged, same, otherPredicate.queryDocument_merged]

/-- A search for a dot is written as the pattern of a token with a dot. A backslash before an anchor
is not mixed up with a dollar sign. -/
theorem queryDocument_eq_iff_signs :
    (Predicate.like .id .anywhere "a.b").queryDocument =
        (Predicate.pattern .id "a\x5c.b").queryDocument ∧
      (Predicate.like .id .atEnd "a\x5c").queryDocument ≠
        (Predicate.like .id .anywhere "a$").queryDocument := by
  have dotted : (leaf (.like .anywhere) .id (.string "a.b")).compile =
      .ok (.like .id .anywhere "a.b") := rfl
  have token : (leaf .urlized .id (.array [.string "A.b"])).compile =
      .ok (.pattern .id "a\x5c.b") := rfl
  have backslash : (leaf (.like .atEnd) .id (.string "a\x5c")).compile =
      .ok (.like .id .atEnd "a\x5c") := rfl
  have dollar : (leaf (.like .anywhere) .id (.string "a$")).compile =
      .ok (.like .id .anywhere "a$") := rfl
  constructor
  · exact (queryDocument_eq_iff dotted token).1.mpr rfl
  · intro same
    cases (queryDocument_eq_iff backslash dollar).1.mp same

end Filter

end DocumentStore

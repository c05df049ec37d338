import DocumentStore.Predicate.Text
import DocumentStore.Proofs.Predicate.Literal
import DocumentStore.Proofs.Predicate.WellFormed

/-!
This file reads the text of a compiled predicate back into the tree that it was written from.

A field may have the name of a keyword. What follows the name tells the two apart, because a keyword
is followed by a bracket and a name by a blank and another character.
-/

namespace DocumentStore

namespace Placement

/-- This reads a search text up to its first wildcard. -/
def readPlain : List Char → List Char × List Char
  | [] => ([], [])
  | '%' :: rest => ([], '%' :: rest)
  | '\x5c' :: char :: rest => (char :: (readPlain rest).1, (readPlain rest).2)
  | char :: rest => (char :: (readPlain rest).1, (readPlain rest).2)

/-- The wildcards at the ends of a search text tell where the text has to occur. -/
def ofSearchText : List Char → Placement × List Char
  | '%' :: rest =>
    let (text, wildcard) := readPlain rest
    (if wildcard.isEmpty then atEnd else anywhere, text)
  | search => (atStart, (readPlain search).1)

/-- Escaped wildcards do not end a search text. -/
theorem readPlain_escapeWildcards (text : List Char) {rest : List Char}
    (ends : readPlain rest = ([], rest)) :
    readPlain (Literal.escapeWildcards text ++ rest) = (text, rest) := by
  induction text with
  | nil => exact ends
  | cons char text inductionHypothesis =>
      rw [Literal.escapeWildcards, List.flatMap_cons, ← Literal.escapeWildcards]
      split
      · simp [readPlain, inductionHypothesis]
      · next plain =>
          simp only [List.mem_cons, List.not_mem_nil, or_false, not_or] at plain
          obtain ⟨notBackslash, notPercent, -⟩ := plain
          rw [List.append_assoc, List.singleton_append, readPlain, inductionHypothesis]
          · exact notPercent
          · intro _ _ same
            exact absurd same notBackslash

/-- A text that is not empty never starts like a search text with a wildcard in front. -/
theorem escapeWildcards_ne_wildcard {text : List Char} (nonempty : text ≠ [])
    (rest others : List Char) : Literal.escapeWildcards text ++ rest ≠ '%' :: others := by
  obtain ⟨char, tail, rfl⟩ := List.exists_cons_of_ne_nil nonempty
  rw [Literal.escapeWildcards, List.flatMap_cons]
  intro same
  split at same
  · exact absurd (List.cons.inj same).1 (by decide)
  · next plain =>
      have isPercent : char = '%' := (List.cons.inj same).1
      simp [isPercent] at plain

/-- A search text that is not empty tells its placement. -/
theorem ofSearchText_searchText (placement : Placement) {text : List Char} (nonempty : text ≠ []) :
    ofSearchText (placement.searchText text) = (placement, text) := by
  have closed : readPlain (Literal.escapeWildcards text ++ ['%']) = (text, ['%']) :=
    readPlain_escapeWildcards text rfl
  have bare : readPlain (Literal.escapeWildcards text ++ []) = (text, []) :=
    readPlain_escapeWildcards text rfl
  rw [List.append_nil] at bare
  cases placement with
  | anywhere => simp [searchText, ofSearchText, closed]
  | atStart =>
      rw [searchText, ofSearchText, closed]
      exact escapeWildcards_ne_wildcard nonempty _
  | atEnd => simp [searchText, ofSearchText, bare]

end Placement

/-- This is what the text of a predicate says. -/
inductive Skeleton where
  | always
  | single (child : Skeleton)
  | and (children : List Skeleton)
  | or (children : List Skeleton)
  | not (child : Skeleton)
  | isNull (field : String)
  | compare (field : String) (comparison : Comparison) (literal : LiteralToken)
  | oneOf (field : String) (literals : List LiteralToken)
  | like (field : String) (placement : Placement) (text : List Char)
  | pattern (field : String) (source : List Char)

namespace Skeleton

/-- A single child is joined with nothing, so its text does not tell by which join. -/
def join (combine : List Skeleton → Skeleton) (children : List Skeleton) : Skeleton :=
  match children with
  | [child] => single child
  | children => combine children

/-- This reads the sign of a comparison and the blank behind it. -/
def readSign : List Char → Option (Comparison × List Char)
  | '=' :: ' ' :: rest => some (.eq, rest)
  | '<' :: '>' :: ' ' :: rest => some (.ne, rest)
  | '<' :: ' ' :: rest => some (.lt, rest)
  | '<' :: '=' :: ' ' :: rest => some (.lte, rest)
  | '>' :: ' ' :: rest => some (.gt, rest)
  | '>' :: '=' :: ' ' :: rest => some (.gte, rest)
  | _ => none

/-- A word is compared with itself where everything is accepted. -/
def comparison (field : String) (sign : Comparison) (literal : LiteralToken) : Skeleton :=
  match sign, literal with
  | .eq, .word text =>
    if field = "TRUE" ∧ text = "TRUE".toList then always else compare field .eq (.word text)
  | sign, literal => compare field sign literal

/-- This reads what follows a field name. -/
def readLeaf (fuel : Nat) (field : String) (text : List Char) : Option (Skeleton × List Char) :=
  match text.dropPrefix? " IS NULL".toList, text.dropPrefix? " IN (".toList,
    text.dropPrefix? " LIKE \x27".toList with
  | some rest, _, _ => some (isNull field, rest)
  | _, some rest, _ =>
    (LiteralToken.readList fuel rest).map fun (literals, rest) => (oneOf field literals, rest)
  | _, _, some rest =>
    (Literal.readQuoted rest).map fun (search, rest) =>
      (like field (Placement.ofSearchText search).1 (Placement.ofSearchText search).2, rest)
  | none, none, none => do
    let (sign, rest) ← readSign (← text.dropPrefix? [' '])
    let (literal, rest) ← LiteralToken.read fuel rest
    return (comparison field sign literal, rest)

/-- This reads the field name in lower case and the pattern that it is matched with. -/
def readPattern (text : List Char) : Option (Skeleton × List Char) := do
  let rest ← (text.dropWhile isNameChar).dropPrefix? ") RLIKE \x27".toList
  let (source, rest) ← Literal.readQuoted rest
  return (pattern (String.ofList (text.takeWhile isNameChar)) source, rest)

mutual

/-- This reads one predicate. Brackets and keywords tell what has to be read. -/
def read : Nat → List Char → Option (Skeleton × List Char)
  | 0, _ => none
  | fuel + 1, text =>
    match text.dropPrefix? ['('], text.dropPrefix? "NOT (".toList,
      text.dropPrefix? "LOWER(".toList with
    | some rest, _, _ => do
      let (first, rest) ← read fuel rest
      if (rest.dropPrefix? " OR ".toList).isSome then
        let (others, rest) ← readOthers fuel " OR ".toList rest
        return (join or (first :: others), rest)
      else
        let (others, rest) ← readOthers fuel " AND ".toList rest
        return (join and (first :: others), rest)
    | _, some rest, _ => do
      let (child, rest) ← read fuel rest
      return (not child, ← rest.dropPrefix? [')'])
    | _, _, some rest => readPattern rest
    | none, none, none =>
      readLeaf fuel (String.ofList (text.takeWhile isNameChar)) (text.dropWhile isNameChar)

/-- This reads the other children of a join up to its closing bracket. -/
def readOthers : Nat → List Char → List Char → Option (List Skeleton × List Char)
  | 0, _, _ => none
  | fuel + 1, separator, text =>
    match text.dropPrefix? [')'] with
    | some rest => some ([], rest)
    | none => do
      let (child, rest) ← read fuel (← text.dropPrefix? separator)
      let (others, rest) ← readOthers fuel separator rest
      return (child :: others, rest)

end

/-- This reads a whole text as one predicate. -/
def ofText? (text : String) : Option Skeleton :=
  match read (text.length + 1) text.toList with
  | some (skeleton, []) => some skeleton
  | _ => none

end Skeleton

namespace Predicate

mutual

/-- An empty predicate has no text, and no compiled predicate has an empty one inside. -/
def skeleton : Predicate → Skeleton
  | empty => .and []
  | always => .always
  | and children => .join .and (skeletonList children)
  | or children => .join .or (skeletonList children)
  | not child => .not (skeleton child)
  | isNull field => .isNull field.text
  | compare field comparison value => .compare field.text comparison value.token
  | oneOf field values => .oneOf field.text (Value.tokenList values)
  | like field placement text => .like field.text placement text.toList
  | pattern field source => .pattern field.text source.toList

/-- The children of a join keep their order. -/
def skeletonList : List Predicate → List Skeleton
  | [] => []
  | child :: rest => skeleton child :: skeletonList rest

end

mutual

/-- A proper predicate has no empty part. -/
def Proper : Predicate → Prop
  | empty => False
  | always => True
  | and children => children ≠ [] ∧ ProperList children
  | or children => children ≠ [] ∧ ProperList children
  | not child => Proper child
  | isNull _ => True
  | compare _ _ _ => True
  | oneOf _ values => values ≠ []
  | like _ _ text => text ≠ ""
  | pattern _ _ => True

/-- All children of a join are proper. -/
def ProperList : List Predicate → Prop
  | [] => True
  | child :: rest => Proper child ∧ ProperList rest

end

end Predicate

namespace Predicate

mutual

/-- Where a predicate is well formed, nothing empty is inside. -/
theorem WellFormed.proper : (predicate : Predicate) → predicate.WellFormed → predicate.Proper
  | .always, _ => trivial
  | .and children, .and filled all
  | .or children, .or filled all => ⟨filled, properList_of_wellFormed children all⟩
  | .not child, .not inner => WellFormed.proper child inner
  | .isNull _, _ => trivial
  | .compare _ _ _, _ => trivial
  | .oneOf _ _, .oneOf _ filled => filled
  | .like _ _ _, .like _ _ filled => filled
  | .pattern _ _, _ => trivial

/-- Children that are well formed are proper. -/
theorem properList_of_wellFormed : (predicates : List Predicate) →
    (∀ predicate ∈ predicates, predicate.WellFormed) → ProperList predicates
  | [], _ => trivial
  | predicate :: rest, all => by
      obtain ⟨first, others⟩ := List.forall_mem_cons.mp all
      exact ⟨WellFormed.proper predicate first, properList_of_wellFormed rest others⟩

end

end Predicate

/-- The compiler drops empty children, so only the whole predicate can be empty. -/
theorem Filter.compile_proper (filter : Filter) {predicate : Predicate}
    (compiled : filter.compile = .ok predicate) : predicate = .empty ∨ predicate.Proper :=
  (compile_sound filter compiled).imp_right (Predicate.WellFormed.proper predicate)

namespace Predicate

theorem render_isNull (field : FieldName) :
    (isNull field).render = field.text.toList ++ " IS NULL".toList := rfl

theorem render_compare (field : FieldName) (sign : Comparison) (value : Value) :
    (compare field sign value).render =
      field.text.toList ++ ' ' :: sign.sign ++ ' ' :: Literal.ofValue value := rfl

theorem render_oneOf (field : FieldName) (values : List Value) :
    (oneOf field values).render =
      field.text.toList ++ " IN (".toList ++ Literal.ofList values ++ [')'] := rfl

theorem render_like (field : FieldName) (placement : Placement) (text : String) :
    (like field placement text).render =
      field.text.toList ++ " LIKE ".toList ++
        Literal.ofText (placement.searchText text.toList) := rfl

theorem render_pattern (field : FieldName) (source : String) :
    (pattern field source).render =
      "LOWER(".toList ++ field.text.toList ++ ") RLIKE ".toList ++
        Literal.ofText source.toList := rfl

theorem render_not (child : Predicate) :
    (not child).render = "NOT (".toList ++ child.render ++ [')'] := rfl

theorem render_and (children : List Predicate) :
    (and children).render = '(' :: renderList " AND ".toList children ++ [')'] := rfl

theorem render_or (children : List Predicate) :
    (or children).render = '(' :: renderList " OR ".toList children ++ [')'] := rfl

end Predicate

namespace Skeleton

/-- A prefix is dropped from the text that it starts. -/
theorem dropPrefix?_append (start rest : List Char) :
    (start ++ rest).dropPrefix? start = some rest :=
  List.dropPrefix?_eq_some_iff.mpr ⟨start, rfl, beq_self_eq_true start⟩

/-- No sign is read as another, although one starts with another. -/
theorem readSign_sign (comparison : Comparison) (rest : List Char) :
    readSign (comparison.sign ++ ' ' :: rest) = some (comparison, rest) := by
  cases comparison <;> rfl

/-- No word that a value is written as makes a comparison accept everything. -/
theorem comparison_token (field : String) (sign : Comparison) (value : Value) :
    comparison field sign value.token = compare field sign value.token := by
  unfold comparison
  split
  · next text isWord =>
      have notTrue : ¬ (field = "TRUE" ∧ text = "TRUE".toList) := by
        rintro ⟨-, rfl⟩
        exact value.token_ne_true isWord
      rw [if_neg notTrue, isWord]
  · rfl

variable {fuel : Nat}

/-- A null test is read from its keyword. -/
theorem readLeaf_isNull (field : String) (rest : List Char) :
    readLeaf fuel field (" IS NULL".toList ++ rest) = some (isNull field, rest) := by
  rw [readLeaf, dropPrefix?_append]

/-- The listed values are read up to the bracket. -/
theorem readLeaf_oneOf (field : String) {values : List Value} (filled : values ≠ [])
    (enough : (Literal.ofList values).length + 1 < fuel) (rest : List Char) :
    readLeaf fuel field (" IN (".toList ++ (Literal.ofList values ++ ')' :: rest)) =
      some (oneOf field (Value.tokenList values), rest) := by
  have notNull : (" IN (".toList ++ (Literal.ofList values ++ ')' :: rest)).dropPrefix?
      " IS NULL".toList = none := rfl
  rw [readLeaf, notNull, dropPrefix?_append]
  dsimp only
  rw [Value.readList_ofList filled enough]
  rfl

/-- A search is read from its quoted text. -/
theorem readLeaf_like (field : String) (placement : Placement) {text : List Char}
    (nonempty : text ≠ []) (rest : List Char) :
    readLeaf fuel field
        (" LIKE ".toList ++ (Literal.ofText (placement.searchText text) ++ rest)) =
      some (like field placement text, rest) := by
  have opened : " LIKE ".toList ++ (Literal.ofText (placement.searchText text) ++ rest) =
      " LIKE \x27".toList ++
        ((placement.searchText text).flatMap Literal.escapeChar ++ '\x27' :: rest) := by
    simp [Literal.ofText]
  rw [opened]
  generalize search : placement.searchText text = searchText
  have notNull : (" LIKE \x27".toList ++ (searchText.flatMap Literal.escapeChar ++
      '\x27' :: rest)).dropPrefix? " IS NULL".toList = none := rfl
  have notIn : (" LIKE \x27".toList ++ (searchText.flatMap Literal.escapeChar ++
      '\x27' :: rest)).dropPrefix? " IN (".toList = none := rfl
  rw [readLeaf, notNull, notIn, dropPrefix?_append]
  dsimp only
  rw [Literal.readQuoted_ofText, ← search, Option.map_some,
    Placement.ofSearchText_searchText placement nonempty]

/-- A sign that is no keyword starts a comparison. -/
theorem readLeaf_sign (field : String) (sign : Comparison) (text : List Char) :
    readLeaf fuel field (' ' :: (sign.sign ++ ' ' :: text)) = do
      let (literal, rest) ← LiteralToken.read fuel text
      return (comparison field sign literal, rest) := by
  have keywords : ∀ keyword ∈ [" IS NULL".toList, " IN (".toList, " LIKE \x27".toList],
      (' ' :: (sign.sign ++ ' ' :: text)).dropPrefix? keyword = none := by
    intro keyword member
    simp only [List.mem_cons, List.not_mem_nil, or_false] at member
    rcases member with rfl | rfl | rfl <;> cases sign <;> rfl
  rw [List.forall_mem_cons, List.forall_mem_cons, List.forall_mem_singleton] at keywords
  obtain ⟨notNull, notIn, notLike⟩ := keywords
  have blank : (' ' :: (sign.sign ++ ' ' :: text)).dropPrefix? [' '] =
      some (sign.sign ++ ' ' :: text) := dropPrefix?_append [' '] _
  rw [readLeaf, notNull, notIn, notLike, blank]
  change ((readSign _ >>= _) : Option _) = _
  rw [readSign_sign]
  rfl

/-- A comparison is read from its sign and its literal. -/
theorem readLeaf_compare (field : String) (sign : Comparison) (value : Value)
    (enough : (Literal.ofValue value).length < fuel) {rest : List Char}
    (stops : StopsAt isWordChar rest) :
    readLeaf fuel field (' ' :: (sign.sign ++ ' ' :: (Literal.ofValue value ++ rest))) =
      some (compare field sign value.token, rest) := by
  rw [readLeaf_sign, value.read_ofValue enough stops, ← comparison_token]
  rfl

/-- A keyword with its bracket only stands where the name is the keyword. -/
theorem eq_of_dropPrefix? {name rest keyword mark remaining : List Char}
    (nameChars : ∀ char ∈ name, isNameChar char = true) (stops : StopsAt isNameChar rest)
    (keywordChars : ∀ char ∈ keyword, isNameChar char = true)
    (markStops : StopsAt isNameChar (mark ++ remaining))
    (dropped : (name ++ rest).dropPrefix? (keyword ++ mark) = some remaining) :
    name = keyword ∧ rest = mark ++ remaining := by
  obtain ⟨start, same, matched⟩ := List.dropPrefix?_eq_some_iff.mp dropped
  rw [eq_of_beq matched, List.append_assoc] at same
  constructor
  · have taken := takeWhile_of_stopsAt nameChars stops
    rw [same, takeWhile_of_stopsAt keywordChars markStops] at taken
    exact taken.symm
  · have droppedName := dropWhile_of_stopsAt nameChars stops
    rw [same, dropWhile_of_stopsAt keywordChars markStops] at droppedName
    exact droppedName.symm

/-- A field name is followed by a blank and another character than a bracket. -/
def OpensLeaf (text : List Char) : Prop :=
  ∃ second rest, text = ' ' :: second :: rest ∧ second ≠ '('

/-- A sign may follow a field name. -/
theorem opensLeaf_sign (sign : Comparison) (rest : List Char) :
    OpensLeaf (' ' :: (sign.sign ++ ' ' :: rest)) := by
  cases sign <;> exact ⟨_, _, rfl, by decide⟩

/-- A field name ends where a leaf goes on. -/
theorem OpensLeaf.stopsAt {text : List Char} (opens : OpensLeaf text) :
    StopsAt isNameChar text := by
  obtain ⟨second, rest, rfl, -⟩ := opens
  exact stopsAt_cons rfl _

/-- No keyword with its bracket stands where a field is, even when the name is the keyword. -/
theorem dropPrefix?_keyword (field : FieldName) {text : List Char} (opens : OpensLeaf text)
    {keyword : List Char} (keywordChars : ∀ char ∈ keyword, isNameChar char = true)
    {mark : List Char} (isMark : mark ∈ [['('], [' ', '(']]) :
    (field.text.toList ++ text).dropPrefix? (keyword ++ mark) = none := by
  have nameChars := field.isNameChar_of_mem
  have stops := opens.stopsAt
  obtain ⟨second, rest, rfl, notBracket⟩ := opens
  apply Option.eq_none_iff_forall_ne_some.mpr
  intro remaining dropped
  rcases List.mem_cons.mp isMark with rfl | last
  · obtain ⟨-, same⟩ := eq_of_dropPrefix? nameChars stops keywordChars (stopsAt_cons rfl _) dropped
    exact absurd (List.cons.inj same).1 (by decide)
  · cases List.mem_singleton.mp last
    obtain ⟨-, same⟩ := eq_of_dropPrefix? nameChars stops keywordChars (stopsAt_cons rfl _) dropped
    exact notBracket (List.cons.inj (List.cons.inj same).2).1

/-- A name is read as a field when it is followed like one, also when it is a keyword. -/
theorem read_leaf (field : FieldName) {text : List Char} (opens : OpensLeaf text) :
    read (fuel + 1) (field.text.toList ++ text) = readLeaf fuel field.text text := by
  have nameChars := field.isNameChar_of_mem
  have stops := opens.stopsAt
  have notJoin : (field.text.toList ++ text).dropPrefix? ['('] = none :=
    dropPrefix?_keyword field opens (List.forall_mem_nil _) List.mem_cons_self
  have notNegation : (field.text.toList ++ text).dropPrefix? "NOT (".toList = none :=
    dropPrefix?_keyword field opens (List.all_eq_true.mp rfl : ∀ char ∈ "NOT".toList, _)
      (List.mem_cons_of_mem _ List.mem_cons_self)
  have notPattern : (field.text.toList ++ text).dropPrefix? "LOWER(".toList = none :=
    dropPrefix?_keyword field opens (List.all_eq_true.mp rfl : ∀ char ∈ "LOWER".toList, _)
      List.mem_cons_self
  rw [read, notJoin, notNegation, notPattern]
  dsimp only
  rw [takeWhile_of_stopsAt nameChars stops, dropWhile_of_stopsAt nameChars stops,
    String.ofList_toList]

/-- A bracket opens a join, and the first separator tells by which it joins. -/
theorem read_join (text : List Char) :
    read (fuel + 1) ('(' :: text) = do
      let (first, rest) ← read fuel text
      if (rest.dropPrefix? " OR ".toList).isSome then
        let (others, rest) ← readOthers fuel " OR ".toList rest
        return (join or (first :: others), rest)
      else
        let (others, rest) ← readOthers fuel " AND ".toList rest
        return (join and (first :: others), rest) := by
  have opened : ('(' :: text).dropPrefix? ['('] = some text := dropPrefix?_append ['('] text
  rw [read, opened]

/-- A negation has one child in brackets. -/
theorem read_negation (text : List Char) :
    read (fuel + 1) ("NOT (".toList ++ text) = do
      let (child, rest) ← read fuel text
      return (not child, ← rest.dropPrefix? [')']) := by
  have notJoin : ("NOT (".toList ++ text).dropPrefix? ['('] = none := rfl
  rw [read, notJoin, dropPrefix?_append]

/-- A pattern is read with its field in lower case. -/
theorem read_pattern (field : FieldName) (source : String) (rest : List Char) :
    read (fuel + 1) ((Predicate.pattern field source).render ++ rest) =
      some (pattern field.text source.toList, rest) := by
  have nameChars := field.isNameChar_of_mem
  have unfolded : (Predicate.pattern field source).render ++ rest =
      "LOWER(".toList ++ (field.text.toList ++ (") RLIKE \x27".toList ++
        (source.toList.flatMap Literal.escapeChar ++ '\x27' :: rest))) := by
    simp [Predicate.render_pattern, Literal.ofText]
  rw [unfolded]
  generalize remaining : source.toList.flatMap Literal.escapeChar ++ '\x27' :: rest = text
  have stops : StopsAt isNameChar (") RLIKE \x27".toList ++ text) := stopsAt_cons rfl _
  have notJoin : ("LOWER(".toList ++ (field.text.toList ++ (") RLIKE \x27".toList ++
    text))).dropPrefix? ['('] = none := rfl
  have notNegation : ("LOWER(".toList ++ (field.text.toList ++ (") RLIKE \x27".toList ++
    text))).dropPrefix? "NOT (".toList = none := rfl
  rw [read, notJoin, notNegation, dropPrefix?_append]
  dsimp only
  rw [readPattern, dropWhile_of_stopsAt nameChars stops, takeWhile_of_stopsAt nameChars stops,
    dropPrefix?_append, ← remaining]
  change (Literal.readQuoted _ >>= _) = _
  rw [Literal.readQuoted_ofText, String.ofList_toList]
  rfl

/-- A null test is read with its field. -/
theorem read_isNull (field : FieldName) (rest : List Char) :
    read (fuel + 1) ((Predicate.isNull field).render ++ rest) =
      some (isNull field.text, rest) := by
  have opens : OpensLeaf (" IS NULL".toList ++ rest) :=
    ⟨'I', "S NULL".toList ++ rest, by simp, by decide⟩
  rw [Predicate.render_isNull, List.append_assoc, read_leaf field opens, readLeaf_isNull]

/-- A comparison is read with its field. -/
theorem read_compare (field : FieldName) (sign : Comparison) (value : Value)
    (enough : (Predicate.compare field sign value).render.length < fuel + 1) {rest : List Char}
    (stops : StopsAt isWordChar rest) :
    read (fuel + 1) ((Predicate.compare field sign value).render ++ rest) =
      some (compare field.text sign value.token, rest) := by
  have literalFuel : (Literal.ofValue value).length < fuel := by
    simp only [Predicate.render_compare, List.length_append, List.length_cons] at enough
    omega
  have unfolded : (Predicate.compare field sign value).render ++ rest =
      field.text.toList ++ ' ' :: (sign.sign ++ ' ' :: (Literal.ofValue value ++ rest)) := by
    simp [Predicate.render_compare]
  rw [unfolded, read_leaf field (opensLeaf_sign sign _),
    readLeaf_compare _ _ _ literalFuel stops]

/-- A test against listed values is read with its field. -/
theorem read_oneOf (field : FieldName) {values : List Value} (filled : values ≠ [])
    (enough : (Predicate.oneOf field values).render.length < fuel + 1) (rest : List Char) :
    read (fuel + 1) ((Predicate.oneOf field values).render ++ rest) =
      some (oneOf field.text (Value.tokenList values), rest) := by
  have listFuel : (Literal.ofList values).length + 1 < fuel := by
    have keyword : " IN (".toList.length = 5 := rfl
    simp only [Predicate.render_oneOf, List.length_append, List.length_cons, List.length_nil,
      keyword] at enough
    omega
  have unfolded : (Predicate.oneOf field values).render ++ rest =
      field.text.toList ++ (" IN (".toList ++ (Literal.ofList values ++ ')' :: rest)) := by
    simp [Predicate.render_oneOf]
  have opens : OpensLeaf (" IN (".toList ++ (Literal.ofList values ++ ')' :: rest)) :=
    ⟨'I', "N (".toList ++ (Literal.ofList values ++ ')' :: rest), by simp, by decide⟩
  rw [unfolded, read_leaf field opens, readLeaf_oneOf _ filled listFuel]

/-- A search is read with its field. -/
theorem read_like (field : FieldName) (placement : Placement) {text : String} (nonempty : text ≠ "")
    (rest : List Char) :
    read (fuel + 1) ((Predicate.like field placement text).render ++ rest) =
      some (like field.text placement text.toList, rest) := by
  have filled : text.toList ≠ [] := by
    simpa using nonempty
  have unfolded : (Predicate.like field placement text).render ++ rest =
      field.text.toList ++
        (" LIKE ".toList ++ (Literal.ofText (placement.searchText text.toList) ++ rest)) := by
    simp [Predicate.render_like]
  have opens : OpensLeaf
      (" LIKE ".toList ++ (Literal.ofText (placement.searchText text.toList) ++ rest)) :=
    ⟨'L', "IKE ".toList ++ (Literal.ofText (placement.searchText text.toList) ++ rest), by simp,
      by decide⟩
  rw [unfolded, read_leaf field opens, readLeaf_like _ placement filled]

/-- The predicate without a condition is read as a comparison of a word with itself. -/
theorem read_always {rest : List Char} (stops : StopsAt isWordChar rest) :
    read (fuel + 2) ("TRUE = TRUE".toList ++ rest) = some (always, rest) := by
  let field : FieldName := ⟨"TRUE", by decide⟩
  let signed := ' ' :: (Comparison.eq.sign ++ ' ' :: ("TRUE".toList ++ rest))
  have opened : "TRUE = TRUE".toList ++ rest = field.text.toList ++ signed := by
    simp [field, signed, Comparison.sign]
  have word : LiteralToken.read (fuel + 1) ("TRUE".toList ++ rest) =
      some (.word "TRUE".toList, rest) :=
    LiteralToken.read_word (by decide) (List.all_eq_true.mp rfl) stops fuel
  have tautology : comparison field.text .eq (.word "TRUE".toList) = always := by
    rw [comparison]
    exact if_pos ⟨rfl, rfl⟩
  rw [opened, read_leaf field (opensLeaf_sign .eq _), readLeaf_sign, word, ← tautology]
  rfl

end Skeleton

namespace Predicate

/-- This is the text of the other children of a join. -/
def renderOthers (separator : List Char) (others : List Predicate) : List Char :=
  others.flatMap fun other => separator ++ other.render

/-- Every other child has a separator before it. -/
theorem renderOthers_cons (separator : List Char) (other : Predicate) (others : List Predicate) :
    renderOthers separator (other :: others) =
      separator ++ (other.render ++ renderOthers separator others) := by
  rw [renderOthers, List.flatMap_cons, List.append_assoc]
  rfl

/-- The first child has no separator before it. -/
theorem renderList_cons (separator : List Char) (first : Predicate) (others : List Predicate) :
    renderList separator (first :: others) = first.render ++ renderOthers separator others := by
  induction others generalizing first with
  | nil => exact (List.append_nil _).symm
  | cons other others inductionHypothesis =>
      rw [renderList, inductionHypothesis, renderOthers_cons, List.append_assoc]
      exact List.cons_ne_nil other others

/-- The fuel for a join suffices for its children. -/
theorem join_fuel {separator : List Char} {first : Predicate} {others : List Predicate}
    {fuel : Nat}
    (enough : ('(' :: renderList separator (first :: others) ++ [')']).length < fuel + 1) :
    first.render.length < fuel ∧ (renderOthers separator others).length + 1 < fuel := by
  rw [renderList_cons] at enough
  simp only [List.cons_append, List.length_cons, List.length_append, List.length_nil] at enough
  omega

/-- A literal does not go on into what follows a child. -/
theorem stopsAt_renderOthers {separator : List Char} (opens : separator.head? = some ' ')
    (others : List Predicate) (rest : List Char) :
    StopsAt isWordChar (renderOthers separator others ++ ')' :: rest) := by
  cases others with
  | nil => exact stopsAt_cons rfl rest
  | cons other others =>
      obtain ⟨tail, rfl⟩ := List.head?_eq_some_iff.mp opens
      exact stopsAt_cons rfl _

end Predicate

namespace Skeleton

open Predicate

section

variable {fuel : Nat} {first : Predicate} {others : List Predicate} {rest : List Char}

/-- A conjunction is read when its children are. -/
theorem read_and
    (firstRead : read fuel (first.render ++ (renderOthers " AND ".toList others ++ ')' :: rest)) =
      some (first.skeleton, renderOthers " AND ".toList others ++ ')' :: rest))
    (othersRead : readOthers fuel " AND ".toList
      (renderOthers " AND ".toList others ++ ')' :: rest) = some (skeletonList others, rest)) :
    read (fuel + 1) ((Predicate.and (first :: others)).render ++ rest) =
      some ((Predicate.and (first :: others)).skeleton, rest) := by
  have unfolded : (Predicate.and (first :: others)).render ++ rest =
      '(' :: (first.render ++ (renderOthers " AND ".toList others ++ ')' :: rest)) := by
    simp [render_and, renderList_cons]
  have notOr : ((renderOthers " AND ".toList others ++ ')' :: rest).dropPrefix?
      " OR ".toList).isSome = false := by
    cases others <;> rfl
  rw [unfolded, read_join, firstRead]
  change (if (List.dropPrefix? _ _).isSome = true then _ else _) = _
  rw [notOr, if_neg Bool.false_ne_true, othersRead]
  rfl

/-- A disjunction of at least two is read when its children are. -/
theorem read_or {second : Predicate}
    (firstRead : read fuel
        (first.render ++ (renderOthers " OR ".toList (second :: others) ++ ')' :: rest)) =
      some (first.skeleton, renderOthers " OR ".toList (second :: others) ++ ')' :: rest))
    (othersRead : readOthers fuel " OR ".toList
        (renderOthers " OR ".toList (second :: others) ++ ')' :: rest) =
      some (skeletonList (second :: others), rest)) :
    read (fuel + 1) ((Predicate.or (first :: second :: others)).render ++ rest) =
      some ((Predicate.or (first :: second :: others)).skeleton, rest) := by
  have unfolded : (Predicate.or (first :: second :: others)).render ++ rest =
      '(' :: (first.render ++ (renderOthers " OR ".toList (second :: others) ++ ')' :: rest)) := by
    simp [render_or, renderList_cons]
  have isOr : ((renderOthers " OR ".toList (second :: others) ++ ')' :: rest).dropPrefix?
      " OR ".toList).isSome = true := by
    rw [renderOthers_cons, List.append_assoc, dropPrefix?_append]
    rfl
  rw [unfolded, read_join, firstRead]
  change (if (List.dropPrefix? _ _).isSome = true then _ else _) = _
  rw [isOr, if_pos rfl, othersRead]
  rfl

/-- A negation is read when its child is. -/
theorem read_not {child : Predicate}
    (childRead : read fuel (child.render ++ ')' :: rest) = some (child.skeleton, ')' :: rest)) :
    read (fuel + 1) ((Predicate.not child).render ++ rest) =
      some ((Predicate.not child).skeleton, rest) := by
  have unfolded : (Predicate.not child).render ++ rest =
      "NOT (".toList ++ (child.render ++ ')' :: rest) := by
    simp [render_not]
  have closed : (')' :: rest).dropPrefix? [')'] = some rest := dropPrefix?_append [')'] rest
  rw [unfolded, read_negation, childRead]
  change ((List.dropPrefix? _ _ >>= _) : Option _) = _
  rw [closed]
  rfl

/-- Another child is read behind its separator. -/
theorem readOthers_cons {separator : List Char} (opens : separator.head? = some ' ')
    {child : Predicate}
    (childRead : read fuel (child.render ++ (renderOthers separator others ++ ')' :: rest)) =
      some (child.skeleton, renderOthers separator others ++ ')' :: rest))
    (othersRead : readOthers fuel separator (renderOthers separator others ++ ')' :: rest) =
      some (skeletonList others, rest)) :
    readOthers (fuel + 1) separator (renderOthers separator (child :: others) ++ ')' :: rest) =
      some (skeletonList (child :: others), rest) := by
  have notClosed : (separator ++ (child.render ++
      (renderOthers separator others ++ ')' :: rest))).dropPrefix? [')'] = none := by
    obtain ⟨tail, rfl⟩ := List.head?_eq_some_iff.mp opens
    rfl
  rw [renderOthers_cons, List.append_assoc, List.append_assoc, readOthers, notClosed,
    dropPrefix?_append]
  change (read _ _ >>= _) = _
  rw [childRead]
  change (readOthers _ _ _ >>= _) = _
  rw [othersRead]
  rfl

end

mutual

/-- A predicate is read back from its text, whatever follows. The fuel has to exceed the length. -/
theorem read_render : (predicate : Predicate) → predicate.Proper → ∀ {fuel : Nat}
    {rest : List Char}, predicate.render.length < fuel → StopsAt isWordChar rest →
      read fuel (predicate.render ++ rest) = some (predicate.skeleton, rest)
  | _, _, 0, _, enough, _ => absurd enough (Nat.not_lt_zero _)
  | .empty, proper, _, _, _, _ => proper.elim
  | .always, _, 1, _, enough, _ => absurd (Nat.lt_of_succ_lt_succ enough) (Nat.not_lt_zero _)
  | .always, _, _ + 2, _, _, stops => read_always stops
  | .and [], ⟨filled, _⟩, _, _, _, _ => absurd rfl filled
  | .and (first :: others), ⟨_, firstProper, othersProper⟩, fuel + 1, rest, enough, _ => by
      obtain ⟨firstFuel, othersFuel⟩ := join_fuel enough
      exact read_and (read_render first firstProper firstFuel (stopsAt_renderOthers rfl _ _))
        (readOthers_render others othersProper rfl othersFuel rest)
  | .or [], ⟨filled, _⟩, _, _, _, _ => absurd rfl filled
  | .or [child], ⟨_, childProper, _⟩, fuel + 1, rest, enough, _ => by
      obtain ⟨childFuel, othersFuel⟩ := join_fuel enough
      have noOthers : (renderOthers " AND ".toList []).length + 1 < fuel := othersFuel
      have closed : StopsAt isWordChar (')' :: rest) := stopsAt_cons rfl rest
      -- Without a second child the text does not name the join, so it is read as the other one.
      have single : read (fuel + 1) ((Predicate.and [child]).render ++ rest) =
          some ((Predicate.and [child]).skeleton, rest) :=
        read_and (read_render child childProper childFuel closed)
          (readOthers_render [] trivial rfl noOthers rest)
      exact single
  | .or (first :: second :: others), ⟨_, firstProper, othersProper⟩, fuel + 1, rest, enough, _ => by
      obtain ⟨firstFuel, othersFuel⟩ := join_fuel enough
      exact read_or (read_render first firstProper firstFuel (stopsAt_renderOthers rfl _ _))
        (readOthers_render (second :: others) othersProper rfl othersFuel rest)
  | .not child, proper, fuel + 1, rest, enough, _ => by
      have childFuel : child.render.length < fuel := by
        rw [render_not] at enough
        simp only [List.length_append, List.length_cons, List.length_nil] at enough
        omega
      have closed : StopsAt isWordChar (')' :: rest) := stopsAt_cons rfl rest
      exact read_not (read_render child proper childFuel closed)
  | .isNull field, _, _ + 1, rest, _, _ => read_isNull field rest
  | .compare field sign value, _, _ + 1, _, enough, stops =>
      read_compare field sign value enough stops
  | .oneOf field values, filled, _ + 1, rest, enough, _ => read_oneOf field filled enough rest
  | .like field placement text, nonempty, _ + 1, rest, _, _ =>
      read_like field placement nonempty rest
  | .pattern field source, _, _ + 1, rest, _, _ => read_pattern field source rest

/-- All other children are read up to the bracket. -/
theorem readOthers_render : (others : List Predicate) → ProperList others →
    ∀ {separator : List Char}, separator.head? = some ' ' → ∀ {fuel : Nat},
      (renderOthers separator others).length + 1 < fuel → ∀ rest : List Char,
        readOthers fuel separator (renderOthers separator others ++ ')' :: rest) =
          some (skeletonList others, rest)
  | _, _, _, _, 0, enough, _ => absurd enough (Nat.not_lt_zero _)
  | [], _, _, _, fuel + 1, _, rest => by
      have closed : (')' :: rest).dropPrefix? [')'] = some rest := dropPrefix?_append [')'] rest
      change readOthers (fuel + 1) _ (')' :: rest) = _
      rw [readOthers, closed]
      rfl
  | child :: others, ⟨childProper, othersProper⟩, separator, opens, fuel + 1, enough, rest => by
      have mark : 0 < separator.length := by
        obtain ⟨tail, rfl⟩ := List.head?_eq_some_iff.mp opens
        exact Nat.succ_pos _
      rw [renderOthers_cons] at enough
      simp only [List.length_append] at enough
      have childFuel : child.render.length < fuel := by omega
      have othersFuel : (renderOthers separator others).length + 1 < fuel := by omega
      exact readOthers_cons opens
        (read_render child childProper childFuel (stopsAt_renderOthers opens _ _))
        (readOthers_render others othersProper opens othersFuel rest)

end

/-- The whole text of a proper predicate is read as its skeleton. -/
theorem ofText?_text {predicate : Predicate} (proper : predicate.Proper) :
    ofText? predicate.text = some predicate.skeleton := by
  have length : predicate.text.length = predicate.render.length := String.length_ofList
  have ends : StopsAt isWordChar [] := nofun
  have whole := read_render predicate proper (Nat.lt_succ_self predicate.render.length) ends
  rw [List.append_nil] at whole
  rw [ofText?, length, Predicate.text, String.toList_ofList, whole]

end Skeleton

end DocumentStore

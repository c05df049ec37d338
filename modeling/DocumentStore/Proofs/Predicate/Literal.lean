import Mathlib.Data.List.Basic
import DocumentStore.Filter.FieldName
import DocumentStore.Predicate.Literal

/-!
This file reads the literals of compiled text back.

A literal is a word, a text in quotes or a list of literals in brackets. A word ends where no
character follows that could continue it, and a quoted text ends at the first quote that no
backslash escapes.
-/

namespace DocumentStore

namespace Literal

/-- This is the character that stands behind a backslash. -/
def unescape? : Char → Option Char
  | '0' => some '\x00'
  | 'b' => some '\x08'
  | 't' => some '\t'
  | 'n' => some '\n'
  | 'r' => some '\r'
  | 'Z' => some '\x1a'
  | '\x22' => some '\x22'
  | '\x27' => some '\x27'
  | '\x5c' => some '\x5c'
  | _ => none

/-- This reads a quoted text after its first quote. -/
def readQuoted : List Char → Option (List Char × List Char)
  | [] => none
  | '\x27' :: rest => some ([], rest)
  | '\x5c' :: escaped :: rest => do
    let char ← unescape? escaped
    let (text, rest) ← readQuoted rest
    return (char :: text, rest)
  | char :: rest => do
    let (text, rest) ← readQuoted rest
    return (char :: text, rest)

/-- A character without an escape stands for itself. -/
theorem readQuoted_plain {char : Char} (notQuote : char ≠ '\x27') (notBackslash : char ≠ '\x5c')
    {text rest remaining : List Char} (read : readQuoted rest = some (text, remaining)) :
    readQuoted (char :: rest) = some (char :: text, remaining) := by
  rw [readQuoted, read]
  · rfl
  · exact notQuote
  · intro _ _ same
    exact absurd same notBackslash

/-- An escaped character is read as the character it stands for. -/
theorem readQuoted_escapeChar (char : Char) {text rest remaining : List Char}
    (read : readQuoted rest = some (text, remaining)) :
    readQuoted (escapeChar char ++ rest) = some (char :: text, remaining) := by
  unfold escapeChar
  split
  case h_10 notQuote notBackslash => exact readQuoted_plain notQuote notBackslash read
  all_goals
    simp only [List.cons_append, List.nil_append, readQuoted, unescape?, read]
    rfl

/-- A quoted text ends at its own quote, whatever it holds and whatever follows. -/
theorem readQuoted_ofText (text rest : List Char) :
    readQuoted (text.flatMap escapeChar ++ '\x27' :: rest) = some (text, rest) := by
  induction text with
  | nil => rfl
  | cons char text inductionHypothesis =>
      rw [List.flatMap_cons, List.append_assoc]
      exact readQuoted_escapeChar char inductionHypothesis

theorem ofText_append (text rest : List Char) :
    ofText text ++ rest = '\x27' :: (text.flatMap escapeChar ++ '\x27' :: rest) := by
  simp [ofText]

/-- This reads one quoted text with both of its quotes. -/
def readLiteral : List Char → Option (List Char × List Char)
  | '\x27' :: rest => readQuoted rest
  | _ => none

/-- A quoted text ends at its own quote, whatever follows. -/
theorem readLiteral_ofText (text rest : List Char) :
    readLiteral (ofText text ++ rest) = some (text, rest) := by
  rw [ofText_append, readLiteral, readQuoted_ofText]

/-- A reading consumes what stands before the part that it leaves. -/
structure Consumes (source consumed text rest : List Char) : Prop where
  reads : readLiteral source = some (text, rest)
  split : source = consumed ++ rest

/-- A literal that starts another one is the whole of it, because both end at the same quote. -/
theorem eq_of_ofText_startsWith {text other : List Char} (start : ofText text <+: ofText other) :
    text = other := by
  obtain ⟨tail, whole⟩ := start
  have read := readLiteral_ofText other []
  rw [List.append_nil, ← whole, readLiteral_ofText] at read
  exact (Prod.mk.inj (Option.some.inj read)).1

/-- A literal delimits itself: whatever follows it, exactly the literal is consumed, and its text is
read. So different texts have different literals, and none of them is the start of another. -/
theorem ofText_delimits (text other following consumed value rest : List Char) :
    (Consumes (ofText text ++ following) consumed value rest ↔
      consumed = ofText text ∧ value = text ∧ rest = following) ∧
    (ofText text = ofText other ↔ text = other) ∧
    (ofText text <+: ofText other ↔ ofText text = ofText other) := by
  refine ⟨⟨?_, ?_⟩, ⟨?_, congrArg ofText⟩, ⟨?_, ?_⟩⟩
  · rintro ⟨reads, split⟩
    rw [readLiteral_ofText] at reads
    obtain ⟨rfl, rfl⟩ := Prod.mk.inj (Option.some.inj reads)
    exact ⟨(List.append_cancel_right split).symm, rfl, rfl⟩
  · rintro ⟨rfl, rfl, rfl⟩
    exact ⟨readLiteral_ofText value rest, rfl⟩
  · intro same
    exact eq_of_ofText_startsWith (same ▸ List.prefix_rfl)
  · intro start
    exact congrArg ofText (eq_of_ofText_startsWith start)
  · intro same
    exact same ▸ List.prefix_rfl

/-- A text that ends in a backslash does not swallow the text behind its literal. -/
example : readLiteral (ofText ['a', '\x5c'] ++ ['\x27', '\x5c', '0']) =
    some (['a', '\x5c'], ['\x27', '\x5c', '0']) := by decide

end Literal

/-- The literals of compiled text are words, texts in quotes and lists in brackets. -/
inductive LiteralToken where
  | word (text : List Char)
  | quoted (text : List Char)
  | tuple (tokens : List LiteralToken)

/-- These are the characters of words. -/
def isWordChar (char : Char) : Bool :=
  isNameChar char || char = '-' || char = '.'

/-- This is the text of a number in plain form. -/
def IsNumberText (text : List Char) : Prop :=
  text ≠ [] ∧ ∀ char ∈ text, char.isDigit = true ∨ char = '-' ∨ char = '.'

/-- The digits of a natural number are the text of a number. -/
theorem isNumberText_toDigits (count : Nat) : IsNumberText (Nat.toDigits 10 count) := by
  refine ⟨Nat.toDigits_ne_nil, ?_⟩
  intro char member
  exact .inl (Nat.isDigit_of_mem_toDigits (by decide) (by decide) member)

/-- A number may have a sign. -/
theorem IsNumberText.signed {text : List Char} (number : IsNumberText text) :
    IsNumberText ('-' :: text) :=
  ⟨List.cons_ne_nil _ _, List.forall_mem_cons.mpr ⟨.inr (.inl rfl), number.2⟩⟩

/-- An integer is written as a number. -/
theorem isNumberText_toString (value : Int) : IsNumberText (toString value).toList := by
  rw [Int.toString_eq_repr, Int.repr_eq_if]
  split
  · rw [Nat.toList_repr]
    exact isNumberText_toDigits _
  · rw [String.toList_append, Nat.toList_repr]
    exact (isNumberText_toDigits _).signed

/-- A decimal without an exponent is written as a number. -/
theorem isNumberText_positional (decimal : Decimal) : IsNumberText (decimal.positional []) := by
  have digits : ∀ char ∈ decimal.digits, char.isDigit = true ∨ char = '-' ∨ char = '.' :=
    (isNumberText_toDigits decimal.count).2
  have zero : ('0').isDigit = true := rfl
  have nonempty : decimal.digits ≠ [] := Nat.toDigits_ne_nil
  unfold Decimal.positional
  dsimp only
  -- The point stands behind all digits, among them or before them.
  split
  · constructor
    · simp [nonempty]
    · intro char member
      simp only [List.append_nil, List.mem_append, List.mem_replicate] at member
      rcases member with digit | ⟨-, rfl⟩
      · exact digits char digit
      · exact .inl zero
  · split
    · constructor
      · simp
      · intro char member
        rcases List.mem_append.mp member with whole | fraction
        · exact digits char (List.mem_of_mem_take whole)
        · rcases List.mem_cons.mp fraction with point | digit
          · exact .inr (.inr point)
          · exact digits char (List.mem_of_mem_drop digit)
    · constructor
      · simp
      · intro char member
        simp only [List.cons_append, List.mem_cons, List.mem_append, List.mem_replicate] at member
        rcases member with rfl | point | ⟨-, rfl⟩ | digit
        · exact .inl zero
        · exact .inr (.inr point)
        · exact .inl zero
        · exact digits char digit

/-- A finite double is written as a number. -/
theorem isNumberText_plain (number : FiniteDouble) : IsNumberText (number.text .plain) := by
  have zero : IsNumberText ['0'] := isNumberText_toDigits 0
  have positional := isNumberText_positional (number.magnitude.shortest .up)
  unfold FiniteDouble.text
  dsimp only
  split
  · split
    · exact zero.signed
    · exact zero
  · split
    · exact positional.signed
    · exact positional

/-- Words are the null word, the truth values and numbers. -/
def IsWord (text : List Char) : Prop :=
  text ∈ [Literal.nullText, "true".toList, "false".toList] ∨ IsNumberText text

theorem IsWord.ne_nil {text : List Char} (isWord : IsWord text) : text ≠ [] := by
  rcases isWord with named | number
  · revert text
    decide
  · exact number.1

/-- A word only has characters that words may have. -/
theorem IsWord.isWordChar {text : List Char} (isWord : IsWord text) :
    ∀ char ∈ text, isWordChar char = true := by
  rcases isWord with named | number
  · simp only [List.mem_cons, List.not_mem_nil, or_false] at named
    rcases named with rfl | rfl | rfl <;> exact List.all_eq_true.mp rfl
  · intro char member
    rcases number.2 char member with digit | rfl | rfl
    · simp [DocumentStore.isWordChar, isNameChar, Char.isAlphanum, digit]
    · rfl
    · rfl

/-- No word is the keyword that the predicate without a condition compares. -/
theorem IsWord.ne_true {text : List Char} (isWord : IsWord text) : text ≠ "TRUE".toList := by
  rcases isWord with named | number
  · revert text
    decide
  · rintro rfl
    have first := number.2 'T' List.mem_cons_self
    revert first
    decide

/-- A flag is written as a word. -/
theorem isWord_bool (value : Bool) : IsWord (toString value).toList := by
  cases value with
  | false => exact .inl (by decide)
  | true => exact .inl (by decide)

/-- Null is written as a word. -/
theorem isWord_null : IsWord Literal.nullText :=
  .inl List.mem_cons_self

/-- Such a text cannot continue a run of characters that pass the test. -/
def StopsAt (test : Char → Bool) (rest : List Char) : Prop :=
  ∀ char ∈ rest.head?, test char = false

/-- A character that fails the test ends the word before it. -/
theorem stopsAt_cons {test : Char → Bool} {char : Char} (stop : test char = false)
    (rest : List Char) : StopsAt test (char :: rest) := by
  rintro _ ⟨⟩
  exact stop

/-- A word is taken up to its end. -/
theorem takeWhile_of_stopsAt {test : Char → Bool} {word rest : List Char}
    (passes : ∀ char ∈ word, test char = true) (stops : StopsAt test rest) :
    (word ++ rest).takeWhile test = word := by
  have none : rest.takeWhile test = [] := by
    cases rest with
    | nil => rfl
    | cons char rest => rw [List.takeWhile_cons, stops char rfl, if_neg Bool.false_ne_true]
  rw [List.takeWhile_append_of_pos passes, none, List.append_nil]

/-- What follows a word is left. -/
theorem dropWhile_of_stopsAt {test : Char → Bool} {word rest : List Char}
    (passes : ∀ char ∈ word, test char = true) (stops : StopsAt test rest) :
    (word ++ rest).dropWhile test = rest := by
  rw [List.dropWhile_append_of_pos passes]
  cases rest with
  | nil => rfl
  | cons char rest => rw [List.dropWhile_cons, stops char rfl, if_neg Bool.false_ne_true]

namespace LiteralToken

mutual

/-- This writes a token as the literal that it was read from. -/
def render : LiteralToken → List Char
  | word text => text
  | quoted text => Literal.ofText text
  | tuple tokens => '(' :: renderList tokens ++ [')']

/-- Tokens in a list are separated by a comma and a blank. -/
def renderList : List LiteralToken → List Char
  | [] => []
  | [token] => render token
  | token :: rest => render token ++ ',' :: ' ' :: renderList rest

end

mutual

/-- All words in the token are words of compiled text. -/
def Proper : LiteralToken → Prop
  | word text => IsWord text
  | quoted _ => True
  | tuple tokens => ProperList tokens

/-- All tokens in a list are proper. -/
def ProperList : List LiteralToken → Prop
  | [] => True
  | token :: rest => Proper token ∧ ProperList rest

end

mutual

/-- The first character of a literal tells its kind. -/
def read : Nat → List Char → Option (LiteralToken × List Char)
  | 0, _ => none
  | fuel + 1, text =>
    match text with
    | '\x27' :: rest => (Literal.readQuoted rest).map fun (text, rest) => (quoted text, rest)
    | '(' :: ')' :: rest => some (tuple [], rest)
    | '(' :: rest => (readList fuel rest).map fun (tokens, rest) => (tuple tokens, rest)
    | text => some (word (text.takeWhile isWordChar), text.dropWhile isWordChar)

/-- This reads literals up to the bracket that closes their list. -/
def readList : Nat → List Char → Option (List LiteralToken × List Char)
  | 0, _ => none
  | fuel + 1, text => do
    let (token, rest) ← read fuel text
    match rest with
    | ')' :: rest => return ([token], rest)
    | ',' :: ' ' :: rest => do
      let (tokens, rest) ← readList fuel rest
      return (token :: tokens, rest)
    | _ => none

end

/-- A word is read up to its end. -/
theorem read_word {text : List Char} (nonempty : text ≠ [])
    (passes : ∀ char ∈ text, isWordChar char = true) {rest : List Char}
    (stops : StopsAt isWordChar rest) (fuel : Nat) :
    read (fuel + 1) (text ++ rest) = some (word text, rest) := by
  obtain ⟨first, others, rfl⟩ := List.exists_cons_of_ne_nil nonempty
  have taken := takeWhile_of_stopsAt passes stops
  have dropped := dropWhile_of_stopsAt passes stops
  have firstPasses := passes first List.mem_cons_self
  have notQuote : first ≠ '\x27' := by
    rintro rfl
    cases firstPasses
  have notBracket : first ≠ '(' := by
    rintro rfl
    cases firstPasses
  rw [List.cons_append] at taken dropped ⊢
  rw [read, taken, dropped]
  · intro _ same
    exact notQuote (List.cons.inj same).1
  · intro _ same
    exact notBracket (List.cons.inj same).1
  · intro _ same
    exact notBracket (List.cons.inj same).1

/-- A quoted text is read up to its own quote. -/
theorem read_quoted (text rest : List Char) (fuel : Nat) :
    read (fuel + 1) (Literal.ofText text ++ rest) = some (quoted text, rest) := by
  rw [Literal.ofText_append, read, Literal.readQuoted_ofText]
  rfl

/-- No literal starts with the bracket that ends a list. -/
theorem render_ne_bracket {token : LiteralToken} (proper : token.Proper)
    (rest others : List Char) : token.render ++ rest ≠ ')' :: others := by
  intro same
  cases token with
  | word text =>
      obtain ⟨first, tail, rfl⟩ := List.exists_cons_of_ne_nil (IsWord.ne_nil proper)
      have isBracket : first = ')' := (List.cons.inj same).1
      have firstPasses := IsWord.isWordChar proper first List.mem_cons_self
      rw [isBracket] at firstPasses
      cases firstPasses
  | quoted text => exact absurd (List.cons.inj same).1 (by decide)
  | tuple tokens => exact absurd (List.cons.inj same).1 (by decide)

/-- A bracket opens a list. -/
theorem read_tuple {text : List Char} (filled : ∀ others, text ≠ ')' :: others) (fuel : Nat) :
    read (fuel + 1) ('(' :: text) =
      (readList fuel text).map fun (tokens, rest) => (tuple tokens, rest) := by
  rw [read]
  intro _ same
  exact filled _ same

theorem renderList_cons (token : LiteralToken) (others : List LiteralToken) :
    renderList (token :: others) =
      token.render ++ match others with
        | [] => []
        | next :: rest => ',' :: ' ' :: renderList (next :: rest) := by
  cases others with
  | nil => exact (List.append_nil _).symm
  | cons next rest => rfl

mutual

/-- A literal is read back, whatever follows it. The fuel has to exceed its length. -/
theorem read_render : (token : LiteralToken) → token.Proper → ∀ {fuel : Nat} {rest : List Char},
    token.render.length < fuel → StopsAt isWordChar rest →
      read fuel (token.render ++ rest) = some (token, rest)
  | _, _, 0, _, enough, _ => absurd enough (Nat.not_lt_zero _)
  | .word text, proper, fuel + 1, rest, _, stops =>
      read_word (IsWord.ne_nil proper) (IsWord.isWordChar proper) stops fuel
  | .quoted text, _, fuel + 1, rest, _, _ => read_quoted text rest fuel
  | .tuple [], _, fuel + 1, rest, _, _ => rfl
  | .tuple (token :: others), proper, fuel + 1, rest, enough, _ => by
      have listFuel : (renderList (token :: others)).length + 1 < fuel := by
        simp only [render, List.length_append, List.length_cons, List.length_nil] at enough
        omega
      have filled : ∀ tail,
          renderList (token :: others) ++ ')' :: rest ≠ ')' :: tail := by
        intro tail
        rw [renderList_cons, List.append_assoc]
        exact render_ne_bracket proper.1 _ tail
      have unfolded : (tuple (token :: others)).render ++ rest =
          '(' :: (renderList (token :: others) ++ ')' :: rest) := by
        simp [render]
      rw [unfolded, read_tuple filled, readList_render token others proper listFuel rest]
      rfl

/-- A list is read up to its bracket, token by token. -/
theorem readList_render : (token : LiteralToken) → (others : List LiteralToken) →
    ProperList (token :: others) → ∀ {fuel : Nat},
      (renderList (token :: others)).length + 1 < fuel → ∀ rest : List Char,
        readList fuel (renderList (token :: others) ++ ')' :: rest) =
          some (token :: others, rest)
  | _, _, _, 0, enough, _ => absurd enough (Nat.not_lt_zero _)
  | token, [], ⟨proper, _⟩, fuel + 1, enough, rest => by
      -- The bracket ends the last token.
      have closed : StopsAt isWordChar (')' :: rest) := stopsAt_cons rfl rest
      have first := read_render token proper (Nat.lt_of_succ_lt_succ enough) closed
      rw [readList, renderList, first]
      rfl
  | token, next :: others, ⟨proper, othersProper⟩, fuel + 1, enough, rest => by
      simp only [renderList, List.length_append, List.length_cons] at enough
      -- A comma ends every token before it.
      have apart : StopsAt isWordChar
          (',' :: ' ' :: (renderList (next :: others) ++ ')' :: rest)) := stopsAt_cons rfl _
      have first := read_render token proper (by omega : token.render.length < fuel) apart
      have later := readList_render next others othersProper
        (by omega : (renderList (next :: others)).length + 1 < fuel) rest
      have unfolded : renderList (token :: next :: others) ++ ')' :: rest =
          token.render ++ ',' :: ' ' :: (renderList (next :: others) ++ ')' :: rest) := by
        simp [renderList]
      rw [unfolded, readList, first]
      change (readList fuel _ >>= _) = _
      rw [later]
      rfl

end

end LiteralToken

namespace Value

mutual

/-- This is the literal that a value is written as. -/
def token : Value → LiteralToken
  | null => .word Literal.nullText
  | undefined => .word Literal.nullText
  | bool value => .word (toString value).toList
  | int32 value => .word (toString value.toInt).toList
  | int64 value => .word (toString value.toInt).toList
  | double value => .word (Literal.ofDouble value)
  | string text => .quoted text.toList
  | date instant =>
    match instant.literal? with
    | some text => .quoted text
    | none => .word Literal.nullText
  | array values => .tuple (tokenList values)
  | other => .quoted other.display

/-- The elements of a list become tokens one by one. -/
def tokenList : List Value → List LiteralToken
  | [] => []
  | value :: rest => token value :: tokenList rest

end

mutual

/-- The literal of a value is its token as text. -/
theorem ofValue_eq_render (value : Value) : Literal.ofValue value = value.token.render := by
  cases value with
  | date instant =>
      change Literal.ofInstant instant = (token (.date instant)).render
      unfold Literal.ofInstant token
      cases instant.literal? <;> rfl
  | array values =>
      change '(' :: Literal.ofList values ++ [')'] =
        '(' :: LiteralToken.renderList (tokenList values) ++ [')']
      rw [ofList_eq_render values]
  | _ => rfl

/-- The literals of a list are its tokens as text. -/
theorem ofList_eq_render : (values : List Value) →
    Literal.ofList values = LiteralToken.renderList (tokenList values)
  | [] => rfl
  | [value] => ofValue_eq_render value
  | value :: next :: rest => by
      change Literal.ofValue value ++ ',' :: ' ' :: Literal.ofList (next :: rest) =
        value.token.render ++ ',' :: ' ' :: LiteralToken.renderList (tokenList (next :: rest))
      rw [ofValue_eq_render value, ofList_eq_render (next :: rest)]

end

mutual

/-- Every value becomes a proper token. -/
theorem proper_token (value : Value) : value.token.Proper := by
  cases value with
  | null => exact isWord_null
  | undefined => exact isWord_null
  | bool value => exact isWord_bool value
  | int32 value => exact .inr (isNumberText_toString value.toInt)
  | int64 value => exact .inr (isNumberText_toString value.toInt)
  | double value =>
      cases value with
      | finite number => exact .inr (isNumberText_plain number)
      | _ => exact isWord_null
  | date instant =>
      unfold token
      cases instant.literal? with
      | none => exact isWord_null
      | some text => trivial
  | array values => exact proper_tokenList values
  | _ => trivial

/-- The elements of a list become proper tokens. -/
theorem proper_tokenList : (values : List Value) → LiteralToken.ProperList (tokenList values)
  | [] => trivial
  | value :: rest => ⟨proper_token value, proper_tokenList rest⟩

end

/-- No value is written as the word that compiled text uses for what holds always. -/
theorem token_ne_true (value : Value) : value.token ≠ .word "TRUE".toList := by
  intro same
  have proper := proper_token value
  rw [same] at proper
  exact IsWord.ne_true proper rfl

/-- The literal of a value is read back as its token. -/
theorem read_ofValue (value : Value) {fuel : Nat} {rest : List Char}
    (enough : (Literal.ofValue value).length < fuel) (stops : StopsAt isWordChar rest) :
    LiteralToken.read fuel (Literal.ofValue value ++ rest) = some (value.token, rest) := by
  rw [ofValue_eq_render] at enough ⊢
  exact LiteralToken.read_render value.token (proper_token value) enough stops

/-- The literals of a list are read back up to the bracket. -/
theorem readList_ofList {values : List Value} (filled : values ≠ []) {fuel : Nat}
    (enough : (Literal.ofList values).length + 1 < fuel) (rest : List Char) :
    LiteralToken.readList fuel (Literal.ofList values ++ ')' :: rest) =
      some (tokenList values, rest) := by
  obtain ⟨value, others, rfl⟩ := List.exists_cons_of_ne_nil filled
  rw [ofList_eq_render] at enough ⊢
  exact LiteralToken.readList_render value.token (tokenList others)
    (proper_tokenList (value :: others)) enough rest

end Value

end DocumentStore

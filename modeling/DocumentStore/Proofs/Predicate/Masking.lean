import DocumentStore.Proofs.Predicate.Skeleton

/-!
This file hides the quoted texts of compiled text. What is left does not depend on the texts that a
filter holds, so no text can change the structure around it.
-/

namespace DocumentStore

namespace Literal

/-- This leaves out the rest of a quoted text when a quote is open. -/
def maskFrom : Bool → List Char → List Char
  | _, [] => []
  | false, '\x27' :: rest => '?' :: maskFrom true rest
  | false, char :: rest => char :: maskFrom false rest
  | true, '\x27' :: rest => maskFrom false rest
  | true, '\x5c' :: _ :: rest => maskFrom true rest
  | true, _ :: rest => maskFrom true rest

/-- A question mark takes the place of every quoted text. -/
def mask (text : List Char) : List Char :=
  maskFrom false text

/-- A character outside of quotes stays. -/
theorem mask_plain {char : Char} (notQuote : char ≠ '\x27') (rest : List Char) :
    mask (char :: rest) = char :: mask rest := by
  rw [mask, maskFrom]
  · rfl
  · exact notQuote

/-- An escaped character leaves nothing and does not end the quoted text. -/
theorem maskFrom_escapeChar (char : Char) (rest : List Char) :
    maskFrom true (escapeChar char ++ rest) = maskFrom true rest := by
  unfold escapeChar
  split
  case h_10 notQuote notBackslash =>
      rw [List.singleton_append, maskFrom]
      · exact notQuote
      · intro _ _ same
        exact absurd same notBackslash
  all_goals rfl

/-- All quoted texts look the same behind the mask. -/
theorem mask_ofText (text rest : List Char) : mask (ofText text ++ rest) = '?' :: mask rest := by
  have closed : maskFrom true (text.flatMap escapeChar ++ '\x27' :: rest) = mask rest := by
    induction text with
    | nil => rfl
    | cons char text inductionHypothesis =>
        rw [List.flatMap_cons, List.append_assoc, maskFrom_escapeChar, inductionHypothesis]
  rw [ofText_append, ← closed]
  rfl

/-- Two texts are alike when the mask does not tell them apart, whatever follows them. -/
def Alike (left right : List Char) : Prop :=
  ∀ leftRest rightRest, mask leftRest = mask rightRest →
    mask (left ++ leftRest) = mask (right ++ rightRest)

/-- Texts that are alike are masked to the same text. -/
theorem Alike.mask_eq {left right : List Char} (alike : Alike left right) :
    mask left = mask right := by
  have whole := alike [] [] rfl
  rwa [List.append_nil, List.append_nil] at whole

/-- Texts that are alike part by part are alike. -/
theorem Alike.append {left right leftTail rightTail : List Char} (first : Alike left right)
    (later : Alike leftTail rightTail) : Alike (left ++ leftTail) (right ++ rightTail) := by
  intro leftRest rightRest same
  rw [List.append_assoc, List.append_assoc]
  exact first _ _ (later _ _ same)

/-- The same character may stand before both texts. -/
theorem Alike.cons {left right : List Char} (alike : Alike left right) {char : Char}
    (notQuote : char ≠ '\x27') : Alike (char :: left) (char :: right) := by
  intro leftRest rightRest same
  rw [List.cons_append, List.cons_append, mask_plain notQuote, mask_plain notQuote,
    alike _ _ same]

/-- A text without quotes is like itself. -/
theorem alike_plain {text : List Char} (plain : '\x27' ∉ text) : Alike text text := by
  induction text with
  | nil => exact fun _ _ same => same
  | cons char text inductionHypothesis =>
      rw [List.mem_cons, not_or] at plain
      exact (inductionHypothesis plain.2).cons (Ne.symm plain.1)

/-- This adds the bracket that closes a list or a join. -/
theorem Alike.closed {left right : List Char} (alike : Alike left right) :
    Alike (left ++ [')']) (right ++ [')']) :=
  alike.append (alike_plain (by decide))

/-- All quoted texts are alike. -/
theorem alike_quoted (left right : List Char) : Alike (ofText left) (ofText right) := by
  intro leftRest rightRest same
  rw [mask_ofText, mask_ofText, same]

/-- A word has no quotes. -/
theorem alike_word {text : List Char} (isWord : IsWord text) : Alike text text := by
  apply alike_plain
  intro quote
  have wordChar := isWord.isWordChar _ quote
  revert wordChar
  decide

end Literal

namespace Value

open Literal

mutual

/-- This empties all texts of a value. -/
def blank : Value → Value
  | string _ => string ""
  | symbol _ => symbol ""
  | code _ => code ""
  | codeWithScope _ scope => codeWithScope "" (blankFields scope)
  | dbPointer _ id => dbPointer "" id
  | array values => array (blankList values)
  | document fields => document (blankFields fields)
  | other => other

/-- The elements of a list are blanked one by one. -/
def blankList : List Value → List Value
  | [] => []
  | value :: rest => blank value :: blankList rest

/-- Keys stay, and the values under them are blanked. -/
def blankFields : List (String × Value) → List (String × Value)
  | [] => []
  | (key, value) :: rest => (key, blank value) :: blankFields rest

end

mutual

/-- A literal does not show what the texts of its value hold. -/
theorem alike_blank (value : Value) : Alike (ofValue value) (ofValue value.blank) := by
  cases value with
  | null => exact alike_word isWord_null
  | undefined => exact alike_word isWord_null
  | bool value => exact alike_word (isWord_bool value)
  | int32 value => exact alike_word (.inr (isNumberText_toString value.toInt))
  | int64 value => exact alike_word (.inr (isNumberText_toString value.toInt))
  | double value =>
      cases value with
      | finite number => exact alike_word (.inr (isNumberText_plain number))
      | _ => exact alike_word isWord_null
  | date instant =>
      change Alike (ofInstant instant) (ofInstant instant)
      unfold ofInstant
      cases instant.literal? with
      | none => exact alike_word isWord_null
      | some text => exact alike_quoted text text
  | array values => exact ((alike_blankList values).cons (by decide)).closed
  | _ => exact alike_quoted _ _

/-- The literals of a list are like those of its blanked elements. -/
theorem alike_blankList : (values : List Value) → Alike (ofList values) (ofList (blankList values))
  | [] => alike_plain List.not_mem_nil
  | [value] => alike_blank value
  | value :: next :: rest => by
      have separator := alike_plain (by decide : '\x27' ∉ [',', ' '])
      exact (alike_blank value).append (separator.append (alike_blankList (next :: rest)))

end

end Value

namespace Predicate

open Literal

mutual

/-- This empties all texts that a predicate compares with. -/
def blank : Predicate → Predicate
  | and children => and (blankList children)
  | or children => or (blankList children)
  | not child => not (blank child)
  | compare field comparison value => compare field comparison value.blank
  | oneOf field values => oneOf field (Value.blankList values)
  | like field placement _ => like field placement ""
  | pattern field _ => pattern field ""
  | other => other

/-- The children of a join are blanked one by one. -/
def blankList : List Predicate → List Predicate
  | [] => []
  | child :: rest => blank child :: blankList rest

end

/-- A field name has no quotes. -/
theorem alike_name (field : FieldName) : Alike field.text.toList field.text.toList := by
  apply alike_plain
  intro quote
  have nameChar := field.isNameChar_of_mem _ quote
  revert nameChar
  decide

mutual

/-- The text of a predicate does not show what it compares with, apart from its quoted texts. -/
theorem alike_blank : (predicate : Predicate) → Alike predicate.render predicate.blank.render
  | .empty => alike_plain List.not_mem_nil
  | .always => alike_plain (by decide)
  | .and children | .or children => ((alike_blankList (by decide) children).cons (by decide)).closed
  | .not child => by
      have opened := alike_plain (by decide : '\x27' ∉ "NOT (".toList)
      exact (opened.append (alike_blank child)).closed
  | .isNull field =>
      (alike_name field).append (alike_plain (by decide : '\x27' ∉ " IS NULL".toList))
  | .compare field sign value => by
      have signPlain : '\x27' ∉ sign.sign := by
        cases sign <;> decide
      have signed := (alike_name field).append
        ((alike_plain signPlain).cons (by decide : ' ' ≠ '\x27'))
      exact signed.append ((Value.alike_blank value).cons (by decide))
  | .oneOf field values => by
      have opened := (alike_name field).append
        (alike_plain (by decide : '\x27' ∉ " IN (".toList))
      exact (opened.append (Value.alike_blankList values)).closed
  | .like field placement text => by
      have keyword := (alike_name field).append
        (alike_plain (by decide : '\x27' ∉ " LIKE ".toList))
      exact keyword.append (alike_quoted _ _)
  | .pattern field source => by
      have lowered := (alike_plain (by decide : '\x27' ∉ "LOWER(".toList)).append
        (alike_name field)
      have keyword := lowered.append (alike_plain (by decide : '\x27' ∉ ") RLIKE ".toList))
      exact keyword.append (alike_quoted _ _)

theorem alike_blankList {separator : List Char} (plain : '\x27' ∉ separator) :
    (children : List Predicate) →
      Alike (renderList separator children) (renderList separator (blankList children))
  | [] => alike_plain List.not_mem_nil
  | [child] => alike_blank child
  | child :: next :: rest => by
      have separated := (alike_blank child).append (alike_plain plain)
      exact separated.append (alike_blankList plain (next :: rest))

end

end Predicate

namespace Filter

/-- The text of a compiled filter is read back as the tree that it was written from. Behind the mask
it is the text of every predicate that differs only in the texts that it compares with. -/
theorem text_of_compile {filter : Filter} {predicate : Predicate}
    (compiled : filter.compile = .ok predicate) (constrained : predicate ≠ .empty) :
    Skeleton.ofText? predicate.text = some predicate.skeleton ∧
      ∀ other : Predicate, other.blank = predicate.blank →
        Literal.mask other.text.toList = Literal.mask predicate.text.toList := by
  constructor
  · exact Skeleton.ofText?_text ((compile_proper filter compiled).resolve_left constrained)
  · intro other same
    have hidden : ∀ shown : Predicate,
        Literal.mask shown.text.toList = Literal.mask shown.blank.render := by
      intro shown
      rw [Predicate.text, String.toList_ofList]
      exact (Predicate.alike_blank shown).mask_eq
    rw [hidden, hidden, same]

/-- The fields of this filter have the names of keywords, and its text tries to end its quotes. -/
def hostile (text : String) : Filter :=
  .combine .and
    [.leaf (.compare .eq) ⟨"TRUE", by decide⟩ (.bool true),
      .combine .not [.leaf (.like .anywhere) ⟨"NOT", by decide⟩ (.string text)]]

theorem text_of_compile_hostile :
    Skeleton.ofText? "(TRUE = true AND NOT (NOT LIKE \x27%\\\x27 OR 5\\\\%%\x27))" =
        some (.and [.compare "TRUE" .eq (.word "true".toList),
          .not (.like "NOT" .anywhere "\x27 OR 5%".toList)]) ∧
      Literal.mask "(TRUE = true AND NOT (NOT LIKE \x27%name%\x27))".toList =
        Literal.mask
          "(TRUE = true AND NOT (NOT LIKE \x27%\\\x27 OR 5\\\\%%\x27))".toList := by
  let compiled (text : String) : Predicate :=
    .and [.compare ⟨"TRUE", by decide⟩ .eq (.bool true),
      .not (.like ⟨"NOT", by decide⟩ .anywhere text)]
  have done : (hostile "\x27 OR 5%").compile = .ok (compiled "\x27 OR 5%") := rfl
  obtain ⟨read, alike⟩ := text_of_compile done nofun
  have other := alike (compiled "name") rfl
  have text : (compiled "\x27 OR 5%").text =
      "(TRUE = true AND NOT (NOT LIKE \x27%\\\x27 OR 5\\\\%%\x27))" := by decide
  have otherText : (compiled "name").text =
      "(TRUE = true AND NOT (NOT LIKE \x27%name%\x27))" := by decide
  rw [text] at read other
  rw [otherText] at other
  exact ⟨read, other⟩

end Filter

end DocumentStore

import Mathlib.Data.List.Forall2
import DocumentStore.Predicate.Compile
import DocumentStore.Proofs.Text.Fold

/-!
This file says which texts hold a row of tokens. The compiled pattern of the tokens is well formed,
and it occurs in exactly these texts.
-/

namespace DocumentStore

/-- Two texts have the same letters without regard to case. -/
abbrev SameLetters : List Char → List Char → Prop :=
  List.Forall₂ fun expected char => sameLetter expected char = true

/-- A text spells tokens when it has their letters in a row, with a hyphen or a blank between two
tokens. -/
inductive Spells : List (List Char) → List Char → Prop
  | last {token segment : List Char} (letters : SameLetters token segment) :
      Spells [token] segment
  | cons {token segment : List Char} {tokens : List (List Char)} {text : List Char} {between : Char}
      (letters : SameLetters token segment) (separates : between = '-' ∨ between = ' ')
      (rest : Spells tokens text) : Spells (token :: tokens) (segment ++ between :: text)

/-- Tokens are spelled one after another, with a dash or a blank between them. -/
theorem spells_cons_iff {token next : List Char} {rest : List (List Char)} {text : List Char} :
    Spells (token :: next :: rest) text ↔
      ∃ segment between more, SameLetters token segment ∧ (between = '-' ∨ between = ' ') ∧
        Spells (next :: rest) more ∧ text = segment ++ between :: more := by
  constructor
  · intro spelled
    cases spelled with
    | cons letters separates rest => exact ⟨_, _, _, letters, separates, rest, rfl⟩
  · rintro ⟨segment, between, more, letters, separates, spelled, rfl⟩
    exact .cons letters separates spelled

/-- A text holds tokens when a part of it spells them. -/
def HoldsTokens (tokens : List (List Char)) (text : List Char) : Prop :=
  ∃ segment, Spells tokens segment ∧ segment <:+: text

namespace Pattern

/-- This matches a hyphen or a blank. -/
def separatorElement : PatternElement :=
  .oneOf ['-', ' ']

/-- This is the pattern that the tokens stand for. -/
def ofTokens : List (List Char) → Pattern
  | [] => []
  | [token] => token.map .letter
  | token :: rest => token.map .letter ++ separatorElement :: ofTokens rest

/-- Every operator of patterns is escaped. -/
theorem isMeta_of_isOperator {char : Char} (operator : isOperator char = true) :
    isMeta char = true := by
  simp only [isOperator, decide_eq_true_eq, List.mem_cons, List.not_mem_nil, or_false] at operator
  simp only [isMeta, decide_eq_true_eq, List.mem_cons, List.not_mem_nil, or_false]
  tauto

/-- A letter that is not special is read as itself. -/
theorem readFrom_plain {char : Char} (plain : isMeta char = false) (rest : List Char) :
    readFrom none (char :: rest) = (readFrom none rest).map (.letter char :: ·) := by
  have noOperator : isOperator char = false := by
    by_contra operator
    rw [isMeta_of_isOperator (by simpa using operator)] at plain
    cases plain
  have noBackslash : char ≠ '\x5c' := by
    rintro rfl
    cases noOperator
  have noBracket : char ≠ '[' := by
    rintro rfl
    cases noOperator
  rw [readFrom.eq_4 _ _ (fun _ _ same _ => noBackslash same) noBracket]
  simp [noOperator]

/-- An escaped token is read as its letters. -/
theorem readFrom_escape (token rest : List Char) :
    readFrom none (escape token ++ rest) =
      (readFrom none rest).map (token.map .letter ++ ·) := by
  induction token with
  | nil => simp [escape]
  | cons char token inductionHypothesis =>
      have step : readFrom none (escape (char :: token) ++ rest) =
          (readFrom none (escape token ++ rest)).map (.letter char :: ·) := by
        by_cases special : isMeta char = true
        · simp [escape, readFrom, special]
        · rw [escape, List.flatMap_cons, if_neg special]
          exact readFrom_plain (by simpa using special) _
      rw [step, inductionHypothesis, Option.map_map]
      rfl

/-- The separator is read as one element. -/
theorem readFrom_separator (rest : List Char) :
    readFrom none (Filter.separator ++ rest) =
      (readFrom none rest).map (separatorElement :: ·) := by
  simp [Filter.separator, readFrom, separatorElement]

/-- The compiled pattern of tokens can be read, and it stands for the tokens. -/
theorem readFrom_tokens (tokens : List (List Char)) :
    readFrom none (Filter.separator.intercalate (tokens.map escape)) = some (ofTokens tokens) := by
  induction tokens with
  | nil => rfl
  | cons token rest inductionHypothesis =>
      cases rest with
      | nil =>
          have single := readFrom_escape token []
          simpa [ofTokens, readFrom] using single
      | cons next rest =>
          rw [List.map_cons, List.map_cons, List.intercalate_cons_cons, List.append_assoc,
            readFrom_escape, readFrom_separator, ← List.map_cons, inductionHypothesis]
          rfl

/-- A pattern starts a text that has a matching segment in front. -/
theorem startsText_iff (pattern : Pattern) (text : List Char) :
    pattern.startsText text = true ↔
      ∃ segment, List.Forall₂ (fun element char => element.accepts char = true) pattern segment ∧
        segment <+: text := by
  induction pattern generalizing text with
  | nil => simp [startsText]
  | cons element rest inductionHypothesis =>
      cases text with
      | nil => simp [startsText]
      | cons char text =>
          rw [startsText, Bool.and_eq_true, inductionHypothesis]
          constructor
          · rintro ⟨first, segment, later, inside⟩
            exact ⟨char :: segment, .cons first later, List.cons_prefix_cons.mpr ⟨rfl, inside⟩⟩
          · rintro ⟨segment, matched, inside⟩
            cases matched with
            | cons first later =>
                obtain ⟨rfl, insideRest⟩ := List.cons_prefix_cons.mp inside
                exact ⟨first, _, later, insideRest⟩

/-- A pattern occurs where a segment matches it. -/
theorem occursIn_iff (pattern : Pattern) (text : List Char) :
    pattern.occursIn text = true ↔
      ∃ segment, List.Forall₂ (fun element char => element.accepts char = true) pattern segment ∧
        segment <:+: text := by
  induction text with
  | nil => simp [occursIn, startsText_iff]
  | cons char text inductionHypothesis =>
      simp only [occursIn, Bool.or_eq_true, startsText_iff, inductionHypothesis,
        List.infix_cons_iff, and_or_left, exists_or]

/-- A match of two patterns in a row splits the text. -/
theorem forall₂_append_left {α β : Type} {relation : α → β → Prop} {first second : List α}
    {text : List β} (matched : List.Forall₂ relation (first ++ second) text) :
    ∃ segment rest, List.Forall₂ relation first segment ∧ List.Forall₂ relation second rest ∧
      text = segment ++ rest := by
  induction first generalizing text with
  | nil => exact ⟨[], text, .nil, matched, rfl⟩
  | cons element first inductionHypothesis =>
      cases matched with
      | cons same later =>
          obtain ⟨segment, rest, left, right, rfl⟩ := inductionHypothesis later
          exact ⟨_ :: segment, rest, .cons same left, right, rfl⟩

/-- Letters match a segment of the same letters, whatever their case is. -/
theorem forall₂_letters_iff (token segment : List Char) :
    List.Forall₂ (fun element char => PatternElement.accepts element char = true)
        (token.map .letter) segment ↔ SameLetters token segment := by
  rw [List.forall₂_map_left_iff]
  rfl

/-- A separator is a dash or a blank. -/
theorem accepts_separatorElement_iff (char : Char) :
    separatorElement.accepts char = true ↔ char = '-' ∨ char = ' ' := by
  have hyphen : sameLetter '-' char = true ↔ char = '-' :=
    sameLetter_sign_iff (by decide) (by decide) (by decide)
  have blank : sameLetter ' ' char = true ↔ char = ' ' :=
    sameLetter_sign_iff (by decide) (by decide) (by decide)
  simp [separatorElement, PatternElement.accepts, hyphen, blank]

/-- The pattern of tokens matches the texts that spell them. -/
theorem forall₂_ofTokens_iff {tokens : List (List Char)} (some : tokens ≠ [])
    (segment : List Char) :
    List.Forall₂ (fun element char => PatternElement.accepts element char = true)
        (ofTokens tokens) segment ↔ Spells tokens segment := by
  induction tokens generalizing segment with
  | nil => exact absurd rfl some
  | cons token rest inductionHypothesis =>
      -- The last token has no separator behind it.
      cases rest with
      | nil =>
          rw [ofTokens, forall₂_letters_iff]
          constructor
          · exact .last
          · intro spelled
            cases spelled with
            | last letters => exact letters
            | cons letters separates rest => cases rest
      | cons next rest =>
          rw [ofTokens, spells_cons_iff]
          · constructor
            · intro matched
              obtain ⟨segment, more, letters, tail, rfl⟩ := forall₂_append_left matched
              cases tail with
              | cons between later =>
                  exact ⟨segment, _, _, (forall₂_letters_iff _ _).mp letters,
                    (accepts_separatorElement_iff _).mp between,
                    (inductionHypothesis nofun _).mp later, rfl⟩
            · rintro ⟨segment, between, more, letters, separates, spelled, rfl⟩
              exact List.rel_append ((forall₂_letters_iff _ _).mpr letters)
                (.cons ((accepts_separatorElement_iff _).mpr separates)
                  ((inductionHypothesis nofun _).mpr spelled))
          · nofun

/-- The pattern of tokens occurs in the texts that hold the tokens. -/
theorem occursIn_ofTokens_iff {tokens : List (List Char)} (some : tokens ≠ []) (text : List Char) :
    (ofTokens tokens).occursIn text = true ↔ HoldsTokens tokens text := by
  simp only [occursIn_iff, forall₂_ofTokens_iff some, HoldsTokens]

end Pattern

end DocumentStore

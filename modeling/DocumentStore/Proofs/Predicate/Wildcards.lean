import Mathlib.Data.List.Infix
import DocumentStore.Predicate.Text
import DocumentStore.Proofs.Filter.Meaning
import DocumentStore.Proofs.Predicate.Literal

/-!
This file reads the search texts of compiled text as rows of wildcards. A search text matches the
texts that hold what was searched for in the right place, because escaped signs only match
themselves.
-/

namespace DocumentStore

/-- This is a part of a search text. -/
inductive Wildcard where
  | anyRun
  | anyChar
  | exactly (char : Char)
  deriving DecidableEq

namespace Wildcard

/-- A backslash takes the meaning from the next sign, so none may stand at the end. -/
def readAll : List Char → Option (List Wildcard)
  | [] => some []
  | '%' :: rest => (readAll rest).map (anyRun :: ·)
  | '_' :: rest => (readAll rest).map (anyChar :: ·)
  | ['\x5c'] => none
  | '\x5c' :: char :: rest => (readAll rest).map (exactly char :: ·)
  | char :: rest => (readAll rest).map (exactly char :: ·)

/-- A run may end anywhere, so all places are tried. -/
def matchesText : List Wildcard → List Char → Bool
  | [], text => text.isEmpty
  | anyRun :: rest, text => text.tails.any (matchesText rest)
  | anyChar :: _, [] => false
  | anyChar :: rest, _ :: text => matchesText rest text
  | exactly _ :: _, [] => false
  | exactly expected :: rest, char :: text => char = expected && matchesText rest text

/-- A character that is no wildcard stands for itself. -/
theorem readAll_plain {char : Char} (plain : char ∉ ['\x5c', '%', '_']) (rest : List Char) :
    readAll (char :: rest) = (readAll rest).map (exactly char :: ·) := by
  simp only [List.mem_cons, List.not_mem_nil, or_false, not_or] at plain
  obtain ⟨noBackslash, noPercent, noUnderscore⟩ := plain
  rw [readAll]
  · exact noPercent
  · exact noUnderscore
  · intro same _
    exact noBackslash same
  · intro _ _ same _
    exact noBackslash same

/-- A character behind the escape sign stands for itself. -/
theorem readAll_escaped (char : Char) (rest : List Char) :
    readAll ('\x5c' :: char :: rest) = (readAll rest).map (exactly char :: ·) := by
  rw [readAll]

/-- Escaped text is read as the characters of the text itself. -/
theorem readAll_escapeWildcards (text rest : List Char) :
    readAll (Literal.escapeWildcards text ++ rest) =
      (readAll rest).map (text.map exactly ++ ·) := by
  induction text with
  | nil => simp [Literal.escapeWildcards]
  | cons char text inductionHypothesis =>
      have unfolded : Literal.escapeWildcards (char :: text) ++ rest =
          (if char ∈ ['\x5c', '%', '_'] then ['\x5c', char] else [char]) ++
            (Literal.escapeWildcards text ++ rest) := by
        rw [Literal.escapeWildcards, List.flatMap_cons, List.append_assoc]
        rfl
      have step : readAll (Literal.escapeWildcards (char :: text) ++ rest) =
          (readAll (Literal.escapeWildcards text ++ rest)).map (exactly char :: ·) := by
        rw [unfolded]
        split
        · exact readAll_escaped char _
        · next plain => exact readAll_plain plain _
      rw [step, inductionHypothesis, Option.map_map]
      rfl

/-- A run of any length leaves some end of the text. -/
theorem matchesText_anyRun_iff {rest : List Wildcard} {text : List Char} :
    matchesText (anyRun :: rest) text = true ↔
      ∃ remaining, remaining <:+ text ∧ matchesText rest remaining = true := by
  rw [matchesText, List.any_eq_true]
  apply exists_congr
  intro remaining
  rw [List.mem_tails]

/-- Characters only match themselves. -/
theorem matchesText_exactly_iff {search : List Char} {rest : List Wildcard} {text : List Char} :
    matchesText (search.map exactly ++ rest) text = true ↔
      ∃ remaining, text = search ++ remaining ∧ matchesText rest remaining = true := by
  induction search generalizing text with
  | nil => simp
  | cons expected search inductionHypothesis =>
      cases text with
      | nil => simp [matchesText]
      | cons char text =>
          rw [List.map_cons, List.cons_append, matchesText, Bool.and_eq_true, inductionHypothesis]
          simp [and_assoc]

theorem matchesText_nil_iff {text : List Char} : matchesText [] text = true ↔ text = [] :=
  List.isEmpty_iff

/-- A run at the end matches whatever is left. -/
theorem matchesText_anyRun (text : List Char) : matchesText [anyRun] text = true :=
  matchesText_anyRun_iff.mpr ⟨[], List.nil_suffix, rfl⟩

end Wildcard

namespace Literal

/-- This puts a backslash before each occurrence of one sign. -/
def escapeSign (sign : Char) (text : List Char) : List Char :=
  text.flatMap fun char => if char = sign then ['\x5c', sign] else [char]

/-- The signs may be escaped one after another when the backslash is the first. -/
theorem escapeWildcards_eq_escapeSign (text : List Char) :
    escapeWildcards text = escapeSign '_' (escapeSign '%' (escapeSign '\x5c' text)) := by
  unfold escapeWildcards escapeSign
  rw [List.flatMap_assoc, List.flatMap_assoc]
  apply List.flatMap_congr
  intro char _
  by_cases backslash : char = '\x5c'
  · subst backslash
    rfl
  · by_cases percent : char = '%'
    · subst percent
      rfl
    · by_cases underscore : char = '_'
      · subst underscore
        rfl
      · simp [backslash, percent, underscore]

end Literal

namespace Placement

/-- These are the wildcards that a search text is read as. -/
def wildcards (placement : Placement) (search : List Char) : List Wildcard :=
  match placement with
  | anywhere => .anyRun :: (search.map .exactly ++ [.anyRun])
  | atStart => search.map .exactly ++ [.anyRun]
  | atEnd => .anyRun :: search.map .exactly

/-- A search text is read as its wildcards. -/
theorem readAll_searchText (placement : Placement) (search : List Char) :
    Wildcard.readAll (placement.searchText search) = some (placement.wildcards search) := by
  have percent : Wildcard.readAll ['%'] = some [.anyRun] := rfl
  have nothing := Wildcard.readAll_escapeWildcards search []
  rw [List.append_nil] at nothing
  cases placement with
  | anywhere =>
      change (Wildcard.readAll (Literal.escapeWildcards search ++ ['%'])).map _ = _
      rw [Wildcard.readAll_escapeWildcards, percent]
      rfl
  | atStart =>
      change Wildcard.readAll (Literal.escapeWildcards search ++ ['%']) = _
      rw [Wildcard.readAll_escapeWildcards, percent]
      rfl
  | atEnd =>
      change (Wildcard.readAll (Literal.escapeWildcards search)).map _ = _
      rw [nothing]
      simp [wildcards, Wildcard.readAll]

example : Wildcard.readAll (Placement.atStart.searchText ['5', '%', '\x5c']) =
    some [.exactly '5', .exactly '%', .exactly '\x5c', .anyRun] := rfl

/-- The wildcards match the texts that hold the search text in the right place. -/
theorem matchesText_wildcards_iff (placement : Placement) (search text : List Char) :
    Wildcard.matchesText (placement.wildcards search) text = true ↔
      placement.Finds search text := by
  cases placement with
  | anywhere =>
      simp only [wildcards, Wildcard.matchesText_anyRun_iff, Wildcard.matchesText_exactly_iff]
      constructor
      · rintro ⟨_, ⟨before, rfl⟩, after, rfl, -⟩
        exact ⟨before, after, List.append_assoc before search after⟩
      · rintro ⟨before, after, rfl⟩
        exact ⟨search ++ after, ⟨before, (List.append_assoc before search after).symm⟩, after, rfl,
          [], List.nil_suffix, rfl⟩
  | atStart =>
      simp only [wildcards, Wildcard.matchesText_exactly_iff]
      constructor
      · rintro ⟨after, rfl, -⟩
        exact ⟨after, rfl⟩
      · rintro ⟨after, rfl⟩
        exact ⟨after, rfl, Wildcard.matchesText_anyRun after⟩
  | atEnd =>
      -- The run in front leaves any end of the text, and the search text has to be all of it.
      have whole (remaining : List Char) :
          Wildcard.matchesText (search.map .exactly) remaining = true ↔ remaining = search := by
        rw [← List.append_nil (search.map Wildcard.exactly), Wildcard.matchesText_exactly_iff]
        simp [Wildcard.matchesText_nil_iff]
      simp only [wildcards, Wildcard.matchesText_anyRun_iff, whole, exists_eq_right]
      rfl

end Placement

namespace Predicate

/-- The literal of a text search is read back as a search text, and the search text matches exactly
the texts that hold what was searched for in the right place. -/
theorem like_literal_matches_iff (field : FieldName) (placement : Placement) (search : String) :
    ∃ literal searchText wildcards,
      (like field placement search).text.toList =
        field.text.toList ++ " LIKE ".toList ++ '\x27' :: literal ∧
      Literal.readQuoted literal = some (searchText, []) ∧
      Wildcard.readAll searchText = some wildcards ∧
      ∀ text : String, Wildcard.matchesText wildcards text.toList = true ↔
        placement.Finds search.toList text.toList := by
  refine ⟨_, placement.searchText search.toList, placement.wildcards search.toList, ?_,
    Literal.readQuoted_ofText _ [], placement.readAll_searchText search.toList, ?_⟩
  · rw [text, String.toList_ofList]
    rfl
  · intro text
    exact placement.matchesText_wildcards_iff search.toList text.toList

end Predicate

end DocumentStore

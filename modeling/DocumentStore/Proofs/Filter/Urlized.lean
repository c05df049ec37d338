import DocumentStore.Proofs.Filter.Compilation
import DocumentStore.Proofs.Filter.Wire

/-!
This file shows that a list of tokens always compiles into a pattern that can be read. The pattern
matches the texts that hold the tokens in a row, and every character of a token stands for itself.
-/

namespace DocumentStore

namespace Filter

/-- Every token becomes an escaped text in lower case. -/
theorem mapM_tokenPattern (tokens : List String) :
    (tokens.map Value.string).mapM tokenPattern =
      .ok (tokens.map fun token => Pattern.escape (lowerCase token.toList)) := by
  induction tokens with
  | nil => rfl
  | cons token rest inductionHypothesis =>
      rw [List.map_cons, List.mapM_cons, inductionHypothesis]
      rfl

/-- This is the source of the pattern that some tokens compile into. -/
def tokenSource (tokens : List String) : String :=
  String.ofList (separator.intercalate
    ((tokens.map fun token => lowerCase token.toList).map Pattern.escape))

/-- The pattern of tokens is read back with its separators. -/
theorem ofText?_tokenSource (tokens : List String) :
    Pattern.ofText? (tokenSource tokens).toList =
      some (Pattern.ofTokens (tokens.map fun token => lowerCase token.toList)) := by
  rw [tokenSource, String.toList_ofList]
  exact Pattern.readFrom_tokens _

/-- A list of texts that is not empty compiles to one pattern. -/
theorem compileTokens_strings (field : FieldName) {tokens : List String} (some : tokens ≠ []) :
    compileTokens field (.array (tokens.map .string)) =
      .ok (.pattern field (tokenSource tokens)) := by
  unfold compileTokens
  change ((tokens.map Value.string).mapM tokenPattern >>= _) = _
  rw [mapM_tokenPattern, tokenSource, List.map_map]
  cases tokens with
  | nil => exact absurd rfl some
  | cons token rest => rfl

/-- A filter for tokens compiles to one pattern. -/
theorem compileWire_urlized (field : FieldName) {tokens : List String} (some : tokens ≠ []) :
    compileWire (.some (.leaf .urlized field.text (.array (tokens.map .string)))) =
      .ok (.pattern field (tokenSource tokens)) := by
  have strings : Value.ofJson (.array (tokens.map .string)) = .array (tokens.map .string) := by
    rw [Value.ofJson, Value.ofJsonList_eq_map, List.map_map]
    rfl
  rw [compileWire_leaf, strings]
  exact compileTokens_strings field some

/-- Tokens compile into a pattern that can be read as them. A text matches when a part of its lower
case spells the lower case of the tokens, with a hyphen or a blank between two tokens. -/
theorem urlized_matches_iff (field : FieldName) {tokens : List String} (some : tokens ≠ []) :
    ∃ source,
      compileWire (.some (.leaf .urlized field.text (.array (tokens.map .string)))) =
        .ok (.pattern field source) ∧
      Pattern.ofText? source.toList =
        .some (Pattern.ofTokens (tokens.map fun token => lowerCase token.toList)) ∧
      ∀ (item : Item) (text : String) (cache : PatternCache),
        item.get? field.text = .some (.string text) →
          ∃ answer, ((Predicate.pattern field source).evaluate item cache).1 = .ok answer ∧
            (answer = true ↔
              HoldsTokens (tokens.map fun token => lowerCase token.toList)
                (lowerCase text.toList)) := by
  refine ⟨tokenSource tokens, compileWire_urlized field some, ofText?_tokenSource tokens, ?_⟩
  intro item text cache stored
  have lowered : (tokens.map fun token => lowerCase token.toList) ≠ [] := by
    simpa using some
  have decides : (Predicate.pattern field (tokenSource tokens)).Decides item _ :=
    pattern_decides field lowered
  obtain ⟨answer, verdict, meaning⟩ := decides
  refine ⟨answer, ?_, ?_⟩
  · rw [Predicate.evaluate_fst]
    exact verdict
  · rw [meaning, stored]
    simp

/-- A dot and a bracket only match themselves, and an empty token takes no room. -/
theorem urlized_matches_signs :
    ∃ source,
      compileWire (some (.leaf .urlized "name" (.array [.string "A.[", .string "", .string "B"]))) =
        .ok (.pattern ⟨"name", by decide⟩ source) ∧
      ((Predicate.pattern ⟨"name", by decide⟩ source).evaluate
        [("name", .string "1 a.[- b 2")] .empty).1 = .ok true ∧
      ((Predicate.pattern ⟨"name", by decide⟩ source).evaluate
        [("name", .string "1 axx- b 2")] .empty).1 = .ok false := by
  let field : FieldName := ⟨"name", by decide⟩
  obtain ⟨source, compiled, read, matched⟩ :=
    urlized_matches_iff field (by decide : ["A.[", "", "B"] ≠ [])
  refine ⟨source, compiled, ?_, ?_⟩
  · obtain ⟨answer, given, meaning⟩ := matched [("name", .string "1 a.[- b 2")] _ .empty rfl
    have holds : answer = true := by
      rw [meaning, ← Pattern.occursIn_ofTokens_iff (by simp)]
      decide +kernel
    rw [given, holds]
  · obtain ⟨answer, given, meaning⟩ := matched [("name", .string "1 axx- b 2")] _ .empty rfl
    have fails : answer ≠ true := by
      rw [ne_eq, meaning, ← Pattern.occursIn_ofTokens_iff (by simp)]
      decide +kernel
    rw [given, Bool.eq_false_iff.mpr fails]

end Filter

end DocumentStore

import DocumentStore.Proofs.Filter.Compilation
import DocumentStore.Proofs.Filter.Wire
import DocumentStore.Proofs.Text.Lower

/-!
This file tells which texts are found wherever they stand. Both texts are compared in lower case,
where a capital sigma at the edge of the search text may have another form than inside the stored
text.
-/

namespace DocumentStore

namespace Placement

/-- Nothing stands before a text at the start, and nothing behind a text at the end. -/
def Admits (before after : List Char) : Placement → Prop
  | anywhere => True
  | atStart => before = []
  | atEnd => after = []

/-- Some text that holds the search text in the right place gives it another lower case. -/
def exposes (search : List Char) : Placement → Bool
  | anywhere => opensWithSigma search || closesWithSigma search
  | atStart => closesWithSigma search
  | atEnd => opensWithSigma search

/-- A search text is found when it can be cut out at its place. -/
theorem finds_iff_exists {placement : Placement} {search text : List Char} :
    placement.Finds search text ↔
      ∃ before after, text = before ++ (search ++ after) ∧ placement.Admits before after := by
  cases placement with
  | anywhere =>
      constructor
      · rintro ⟨before, after, rfl⟩
        exact ⟨before, after, List.append_assoc before search after, trivial⟩
      · rintro ⟨before, after, rfl, -⟩
        exact ⟨before, after, List.append_assoc before search after⟩
  | atStart =>
      constructor
      · rintro ⟨after, rfl⟩
        exact ⟨[], after, rfl, rfl⟩
      · rintro ⟨before, after, rfl, rfl⟩
        exact ⟨after, rfl⟩
  | atEnd =>
      constructor
      · rintro ⟨before, rfl⟩
        exact ⟨before, [], by rw [List.append_nil], rfl⟩
      · rintro ⟨before, after, rfl, rfl⟩
        exact ⟨before, by rw [List.append_nil]⟩

/-- What is found occurs somewhere. -/
theorem isInfix_of_finds {placement : Placement} {search text : List Char}
    (found : placement.Finds search text) : search <:+: text := by
  obtain ⟨before, after, rfl, -⟩ := finds_iff_exists.mp found
  exact ⟨before, after, List.append_assoc before search after⟩

/-- A search text is found where its lower case is the same as alone. -/
theorem finds_of_lowerBetween_eq {placement : Placement} {before search after : List Char}
    (admitted : placement.Admits before after)
    (same : lowerBetween before.reverse search after = lowerCase search) :
    placement.Finds (lowerCase search) (lowerCase (before ++ (search ++ after))) := by
  rw [finds_iff_exists, lowerCase_append, same]
  refine ⟨_, _, rfl, ?_⟩
  cases placement with
  | anywhere => exact trivial
  | atStart =>
      have nothing : before = [] := admitted
      rw [nothing]
      rfl
  | atEnd =>
      have nothing : after = [] := admitted
      rw [nothing]
      rfl

/-- A steady search text is still found in lower case. -/
theorem finds_lowerCase {placement : Placement} {search text : List Char}
    (steady : placement.exposes search = false) (found : placement.Finds search text) :
    placement.Finds (lowerCase search) (lowerCase text) := by
  obtain ⟨before, after, rfl, admitted⟩ := finds_iff_exists.mp found
  apply finds_of_lowerBetween_eq admitted
  cases placement with
  | anywhere =>
      obtain ⟨opening, closing⟩ := Bool.or_eq_false_iff.mp steady
      exact lowerBetween_eq_lowerCase (.inr opening) (.inr closing)
  | atStart =>
      have nothing : before = [] := admitted
      exact lowerBetween_eq_lowerCase (.inl (List.reverse_eq_nil_iff.mpr nothing)) (.inr steady)
  | atEnd => exact lowerBetween_eq_lowerCase (.inr steady) (.inl admitted)

end Placement

/-- A text is no part of another text of its length with one more letter behind it. -/
theorem not_infix_concat {list other : List Char} {last : Char}
    (sameLength : list.length = other.length) (different : list ≠ other)
    (apart : list.getLast? ≠ some last) : ¬ list <:+: other ++ [last] := by
  rw [List.infix_concat_iff, List.suffix_concat_iff]
  rintro ((rfl | ⟨start, rfl, -⟩) | inside)
  · exact different (List.length_eq_zero_iff.mp sameLength.symm).symm
  · exact apart List.getLast?_concat
  · exact different (inside.eq_of_length sameLength)

theorem not_infix_cons {list other : List Char} {first : Char}
    (sameLength : list.length = other.length) (different : list ≠ other)
    (apart : list.head? ≠ some first) : ¬ list <:+: first :: other := by
  rw [← List.reverse_infix, List.reverse_cons]
  apply not_infix_concat
  · simpa using sameLength
  · simpa using different
  · simpa using apart

/-- There is always another small letter than a known one. -/
theorem exists_small_letter (known : Option Char) :
    ∃ letter, known ≠ some letter ∧ isCased letter = true ∧ isCaseIgnorable letter = false ∧
      ∀ before after, lowerBetween before [letter] after = [letter] := by
  by_cases isA : known = some 'a'
  · refine ⟨'b', ?_, by decide +kernel, by decide +kernel, fun _ _ => rfl⟩
    rw [isA]
    decide
  · exact ⟨'a', isA, by decide +kernel, by decide +kernel, fun _ _ => rfl⟩

/-- A word that goes on hides a search text that ends in a capital sigma. -/
theorem exists_text_behind {search : List Char} (closes : closesWithSigma search = true) :
    ∃ letter, ¬ lowerCase search <:+: lowerCase ([] ++ (search ++ [letter])) := by
  obtain ⟨letter, other, cased, notIgnorable, lower⟩ :=
    exists_small_letter (lowerCase search).getLast?
  refine ⟨letter, ?_⟩
  rw [lowerCase_append, lower, lowerBetween, List.nil_append]
  -- Only one letter is left over, so the search text has no room to stand elsewhere.
  apply not_infix_concat
  · rw [lowerCase_eq]
    exact length_lowerBetween _ _ _ _ _
  · exact (lowerBetween_ne_of_closes closes cased notIgnorable _ _).symm
  · exact other

/-- A word before it hides a search text that begins with a capital sigma. -/
theorem exists_text_before {search : List Char} (opens : opensWithSigma search = true) :
    ∃ letter, ¬ lowerCase search <:+: lowerCase ([letter] ++ (search ++ [])) := by
  obtain ⟨letter, other, cased, notIgnorable, lower⟩ :=
    exists_small_letter (lowerCase search).head?
  refine ⟨letter, ?_⟩
  rw [lowerCase_append, lower, lowerBetween, List.append_nil, List.singleton_append]
  apply not_infix_cons
  · rw [lowerCase_eq]
    exact length_lowerBetween _ _ _ _ _
  · exact (lowerBetween_ne_of_opens opens cased notIgnorable _).symm
  · exact other

namespace Placement

/-- A search text that is missed inside of a longer one is missed in some text. -/
theorem exists_missed_of_not_infix {placement : Placement} {before search after : List Char}
    (admitted : placement.Admits before after)
    (missed : ¬ lowerCase search <:+: lowerCase (before ++ (search ++ after))) :
    ∃ text, placement.Finds search text ∧
      ¬ placement.Finds (lowerCase search) (lowerCase text) :=
  ⟨_, finds_iff_exists.mpr ⟨before, after, rfl, admitted⟩,
    fun found => missed (isInfix_of_finds found)⟩

/-- An exposed search text is missed in some text that holds it. -/
theorem exists_missed {placement : Placement} {search : List Char}
    (exposed : placement.exposes search = true) :
    ∃ text, placement.Finds search text ∧
      ¬ placement.Finds (lowerCase search) (lowerCase text) := by
  cases placement with
  | anywhere =>
      rcases Bool.or_eq_true_iff.mp exposed with opens | closes
      · obtain ⟨letter, missed⟩ := exists_text_before opens
        exact exists_missed_of_not_infix (trivial : anywhere.Admits [letter] []) missed
      · obtain ⟨letter, missed⟩ := exists_text_behind closes
        exact exists_missed_of_not_infix (trivial : anywhere.Admits [] [letter]) missed
  | atStart =>
      obtain ⟨letter, missed⟩ := exists_text_behind exposed
      exact exists_missed_of_not_infix (rfl : atStart.Admits [] [letter]) missed
  | atEnd =>
      obtain ⟨letter, missed⟩ := exists_text_before exposed
      exact exists_missed_of_not_infix (rfl : atEnd.Admits [letter] []) missed

end Placement

namespace Filter

/-- A filter for a text compiles to one search, unless the text is empty. -/
theorem compileWire_like (placement : Placement) (field : FieldName) (search : String) :
    compileWire (some (.leaf (.like placement) field.text (.string search))) =
      .ok (if search.isEmpty then .empty else .like field placement search) :=
  compileWire_leaf (.like placement) field (.string search)

/-- A compiled search matches a stored text when it finds the one lower case in the other. -/
theorem exists_like (placement : Placement) (field : FieldName) (search : String) :
    ∃ predicate,
      compileWire (some (.leaf (.like placement) field.text (.string search))) = .ok predicate ∧
      ∀ (item : Item) (text : String) (cache : PatternCache),
        item.get? field.text = some (.string text) →
          ((predicate.evaluate item cache).1 = .ok true ↔
            placement.Finds (lowerCase search.toList) (lowerCase text.toList)) := by
  refine ⟨_, compileWire_like placement field search, ?_⟩
  intro item text cache stored
  rw [Predicate.evaluate_fst]
  by_cases none : search = ""
  · subst none
    have everywhere : placement.Finds [] (lowerCase text.toList) := by
      cases placement with
      | anywhere => exact List.nil_infix
      | atStart => exact List.nil_prefix
      | atEnd => exact List.nil_suffix
    exact iff_of_true rfl everywhere
  · have notEmpty : ¬ search.isEmpty = true := by simpa using none
    rw [if_neg notEmpty, Predicate.verdict_like, Except.ok.injEq, stored, placement.holds_iff]
    unfold Placement.Searches
    simp

/-- A search matches a text wherever it stands with the lower case that it has alone. It matches
all texts that hold it unless a capital sigma at its edge may have another form there. -/
theorem like_matches_iff (placement : Placement) (field : FieldName) (search : String) :
    ∃ predicate,
      compileWire (some (.leaf (.like placement) field.text (.string search))) = .ok predicate ∧
      (∀ (item : Item) (text : String) (before after : List Char) (cache : PatternCache),
        item.get? field.text = some (.string text) →
        text.toList = before ++ (search.toList ++ after) → placement.Admits before after →
        lowerBetween before.reverse search.toList after = lowerCase search.toList →
          (predicate.evaluate item cache).1 = .ok true) ∧
      ((∀ (item : Item) (text : String) (cache : PatternCache),
        item.get? field.text = some (.string text) →
        placement.Finds search.toList text.toList →
          (predicate.evaluate item cache).1 = .ok true) ↔
        placement.exposes search.toList = false) := by
  obtain ⟨predicate, compiled, decides⟩ := exists_like placement field search
  refine ⟨predicate, compiled, ?_, ?_⟩
  · intro item text before after cache stored parts admitted same
    rw [decides item text cache stored, parts]
    exact Placement.finds_of_lowerBetween_eq admitted same
  · constructor
    · intro every
      by_contra exposed
      -- An exposed search text is missed in some text, and an item with this text is not matched.
      obtain ⟨text, found, missed⟩ := Placement.exists_missed (Bool.not_eq_false _ ▸ exposed)
      let item : Item := [(field.text, .string (String.ofList text))]
      have stored : item.get? field.text = some (.string (String.ofList text)) := if_pos rfl
      have matched := every item (String.ofList text) .empty stored
        (by rw [String.toList_ofList]; exact found)
      rw [decides item _ .empty stored, String.toList_ofList] at matched
      exact missed matched
    · intro steady item text cache stored found
      rw [decides item text cache stored]
      exact Placement.finds_lowerCase steady found

/-- The text "ΑΣΑ" starts with "ΑΣ" and is missed, because only "ΑΣ" alone ends in a final sigma. A
blank behind "ΑΣ" does not hide it. -/
theorem like_matches_final_sigma :
    ∃ predicate,
      compileWire (some (.leaf (.like .atStart) "name" (.string "ΑΣ"))) = .ok predicate ∧
      (predicate.evaluate [("name", .string "ΑΣ Α")] .empty).1 = .ok true ∧
      Placement.atStart.Finds "ΑΣ".toList "ΑΣΑ".toList ∧
      (predicate.evaluate [("name", .string "ΑΣΑ")] .empty).1 = .ok false ∧
      Placement.atStart.exposes "ΑΣ".toList = true := by
  let field : FieldName := ⟨"name", by decide⟩
  let longer : Item := [("name", .string "ΑΣΑ")]
  obtain ⟨predicate, compiled, kept, every⟩ := like_matches_iff .atStart field "ΑΣ"
  have own : predicate = .like field .atStart "ΑΣ" := by
    cases (compileWire_like .atStart field "ΑΣ").symm.trans compiled
    rfl
  have found : Placement.atStart.Finds "ΑΣ".toList "ΑΣΑ".toList := ⟨['Α'], rfl⟩
  have missed : (predicate.evaluate longer .empty).1 = .ok false := by
    rw [own, Predicate.evaluate_fst, Predicate.verdict_like]
    exact congrArg _ (by decide +kernel)
  refine ⟨predicate, compiled, ?_, found, missed, ?_⟩
  · exact kept _ "ΑΣ Α" [] " Α".toList .empty rfl rfl rfl (by decide +kernel)
  · by_contra steady
    have matched := every.mpr (Bool.not_eq_true _ ▸ steady) longer "ΑΣΑ" .empty rfl found
    cases missed.symm.trans matched

end Filter

end DocumentStore

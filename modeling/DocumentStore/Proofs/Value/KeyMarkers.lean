import DocumentStore.Proofs.Value.Renaming

/-!
This file tells which keys are restored after they have been sanitized.

The markers are read from the left. A key is only lost when a marker can be read from its sanitized
form at a place where the key does not hold the refused character.
-/

namespace DocumentStore

namespace KeyMarkers

section

variable {marker : Char × List Char}

theorem mark_cons (marker : Char × List Char) (char : Char) (rest : List Char) :
    mark marker (char :: rest) =
      (if char = marker.1 then marker.2 else [char]) ++ mark marker rest :=
  List.flatMap_cons

/-- The refused character becomes its marker. -/
theorem mark_own (marker : Char × List Char) (rest : List Char) :
    mark marker (marker.1 :: rest) = marker.2 ++ mark marker rest := by
  rw [mark_cons, if_pos rfl]

/-- All other characters stay. -/
theorem mark_other {char : Char} (other : char ≠ marker.1) (rest : List Char) :
    mark marker (char :: rest) = char :: mark marker rest := by
  rw [mark_cons, if_neg other]
  rfl

/-- The rest of a marker that was read is skipped. -/
theorem unmarkFrom_append (marker : Char × List Char) (skipped rest : List Char) :
    unmarkFrom marker skipped.length (skipped ++ rest) = unmark marker rest := by
  induction skipped with
  | nil => rfl
  | cons char skipped inductionHypothesis => exact inductionHypothesis

/-- A marker at the start is taken back. -/
theorem unmark_marker (nonempty : marker.2 ≠ []) (rest : List Char) :
    unmark marker (marker.2 ++ rest) = marker.1 :: unmark marker rest := by
  obtain ⟨first, others, same⟩ := List.exists_cons_of_ne_nil nonempty
  have isPrefix : marker.2.isPrefixOf (first :: (others ++ rest)) = true := by
    rw [List.isPrefixOf_iff_prefix, same]
    exact List.prefix_append (first :: others) rest
  have length : marker.2.length - 1 = others.length := by
    rw [same]
    rfl
  have skipped := unmarkFrom_append marker others rest
  have start : marker.2 ++ rest = first :: (others ++ rest) := by
    rw [same]
    rfl
  rw [start, unmark, unmarkFrom, if_pos isPrefix, length, skipped]

/-- A character stays where no marker starts with it. -/
theorem unmark_cons {char : Char} {rest : List Char} (apart : ¬ marker.2 <+: char :: rest) :
    unmark marker (char :: rest) = char :: unmark marker rest := by
  have notPrefix : ¬ marker.2.isPrefixOf (char :: rest) = true := by
    rw [List.isPrefixOf_iff_prefix]
    exact apart
  rw [unmark, unmarkFrom, if_neg notPrefix]
  rfl

/-- A text forges a marker when the marker stands in its marked form at a place where the text has
another character than the marked one. -/
def Forges (marker : Char × List Char) (text : List Char) : Prop :=
  ∃ part, part <:+ text ∧ part.head? ≠ some marker.1 ∧ marker.2 <+: mark marker part

/-- A text forges a marker at its start or later. -/
theorem forges_cons_iff {char : Char} {rest : List Char} :
    Forges marker (char :: rest) ↔
      (char ≠ marker.1 ∧ marker.2 <+: mark marker (char :: rest)) ∨ Forges marker rest := by
  constructor
  · rintro ⟨part, inside, other, forged⟩
    rcases List.suffix_cons_iff.mp inside with rfl | later
    · exact .inl ⟨fun same => other (congrArg some same), forged⟩
    · exact .inr ⟨part, later, other, forged⟩
  · rintro (⟨other, forged⟩ | ⟨part, inside, other, forged⟩)
    · exact ⟨char :: rest, List.suffix_rfl, fun same => other (Option.some.inj same), forged⟩
    · exact ⟨part, inside.trans (List.suffix_cons char rest), other, forged⟩

/-- The characters that a marker stands for come back when the text does not forge the marker. -/
theorem unmark_mark_iff (nonempty : marker.2 ≠ []) (text : List Char) :
    unmark marker (mark marker text) = text ↔ ¬ Forges marker text := by
  induction text with
  | nil =>
      apply iff_of_true rfl
      rintro ⟨part, inside, -, forged⟩
      rw [List.suffix_nil.mp inside] at forged
      exact nonempty (List.prefix_nil.mp forged)
  | cons char rest inductionHypothesis =>
      rw [forges_cons_iff]
      by_cases own : char = marker.1
      · subst own
        rw [mark_own, unmark_marker nonempty, List.cons.injEq, inductionHypothesis]
        simp
      -- A marker in front that does not come from the first character is read as the refused one.
      · by_cases forged : marker.2 <+: mark marker (char :: rest)
        · apply iff_of_false
          · intro back
            obtain ⟨others, same⟩ := forged
            rw [← same, unmark_marker nonempty] at back
            exact own (List.cons.inj back).1.symm
          · intro honest
            exact honest (.inl ⟨own, forged⟩)
        · have marked := mark_other own rest
          have read : unmark marker (char :: mark marker rest) =
              char :: unmark marker (mark marker rest) := by
            apply unmark_cons
            rw [← marked]
            exact forged
          rw [marked, read, ← marked, List.cons.injEq, inductionHypothesis]
          simp [forged]

/-- A text without the marked character can be marked again after the markers are taken back. -/
theorem mark_unmark (nonempty : marker.2 ≠ []) {text : List Char} (clean : marker.1 ∉ text) :
    mark marker (unmark marker text) = text := by
  -- A marker that is taken back skips several characters, so the induction is on the length.
  induction size : text.length using Nat.strongRecOn generalizing text with
  | ind bound inductionHypothesis =>
      cases text with
      | nil => rfl
      | cons char rest =>
          rw [List.mem_cons, not_or] at clean
          by_cases marked : marker.2 <+: char :: rest
          · obtain ⟨others, same⟩ := marked
            have shorter : others.length < bound := by
              have positive := List.length_pos_iff.mpr nonempty
              have lengths := congrArg List.length same
              rw [List.length_append] at lengths
              omega
            have othersClean : marker.1 ∉ others := by
              intro member
              have inside : marker.1 ∈ char :: rest := by
                rw [← same]
                exact List.mem_append_right _ member
              rcases List.mem_cons.mp inside with isChar | later
              · exact clean.1 isChar
              · exact clean.2 later
            rw [← same, unmark_marker nonempty, mark_own,
              inductionHypothesis _ shorter othersClean rfl]
          · have shorter : rest.length < bound := by
              rw [← size, List.length_cons]
              exact Nat.lt_succ_self _
            rw [unmark_cons marked, mark_other (Ne.symm clean.1),
              inductionHypothesis _ shorter clean.2 rfl]

/-- Marking only brings in the characters of the marker. -/
theorem mem_mark {char : Char} {text : List Char} (member : char ∈ mark marker text) :
    char ∈ text ∨ char ∈ marker.2 := by
  obtain ⟨source, sourceMember, inside⟩ := List.mem_flatMap.mp member
  split at inside
  · exact .inr inside
  · rw [List.mem_singleton.mp inside]
    exact .inl sourceMember

/-- The refused character is gone when the marker does without it. -/
theorem notMem_mark (plain : marker.1 ∉ marker.2) (text : List Char) :
    marker.1 ∉ mark marker text := by
  intro member
  obtain ⟨source, -, inside⟩ := List.mem_flatMap.mp member
  split at inside
  · exact plain inside
  · next other => exact other (List.mem_singleton.mp inside).symm

/-- Taking a marker back only brings in the refused character. -/
theorem mem_unmark {char : Char} {text : List Char} (member : char ∈ unmark marker text) :
    char = marker.1 ∨ char ∈ text := by
  suffices ∀ skip, char ∈ unmarkFrom marker skip text → char = marker.1 ∨ char ∈ text from
    this 0 member
  clear member
  induction text with
  | nil =>
      intro skip member
      cases member
  | cons first rest inductionHypothesis =>
      intro skip member
      cases skip with
      | succ skip =>
          exact (inductionHypothesis skip member).imp_right (List.mem_cons_of_mem first)
      | zero =>
          rw [unmarkFrom] at member
          split at member
          · rcases List.mem_cons.mp member with same | later
            · exact .inl same
            · exact (inductionHypothesis _ later).imp_right (List.mem_cons_of_mem first)
          · rcases List.mem_cons.mp member with same | later
            · exact .inr (same ▸ List.mem_cons_self)
            · exact (inductionHypothesis _ later).imp_right (List.mem_cons_of_mem first)

end

section

variable {markers : List (Char × List Char)}

/-- The markers are written one after another, and taken back in the opposite order. -/
def markAll (markers : List (Char × List Char)) (text : List Char) : List Char :=
  markers.foldl (fun text marker => mark marker text) text

/-- The markers are taken back from the last to the first. -/
def unmarkAll (markers : List (Char × List Char)) (text : List Char) : List Char :=
  markers.reverse.foldl (fun text marker => unmark marker text) text

theorem markAll_cons (marker : Char × List Char) (markers : List (Char × List Char))
    (text : List Char) : markAll (marker :: markers) text = markAll markers (mark marker text) :=
  rfl

theorem unmarkAll_cons (marker : Char × List Char) (markers : List (Char × List Char))
    (text : List Char) :
    unmarkAll (marker :: markers) text = unmark marker (unmarkAll markers text) := by
  rw [unmarkAll, List.reverse_cons, List.foldl_concat]
  rfl

/-- No two markers stand for one character, and no marker contains a marked character. -/
def Apart : List (Char × List Char) → Prop
  | [] => True
  | marker :: rest =>
    marker.2 ≠ [] ∧ marker.1 ∉ marker.2 ∧
      (∀ other ∈ rest, marker.1 ≠ other.1 ∧ marker.1 ∉ other.2 ∧ other.1 ∉ marker.2) ∧ Apart rest

/-- Whether markers stand apart can be computed. -/
instance decidableApart : (markers : List (Char × List Char)) → Decidable (Apart markers)
  | [] => isTrue trivial
  | marker :: rest =>
    have := decidableApart rest
    inferInstanceAs (Decidable (marker.2 ≠ [] ∧ marker.1 ∉ marker.2 ∧
      (∀ other ∈ rest, marker.1 ≠ other.1 ∧ marker.1 ∉ other.2 ∧ other.1 ∉ marker.2) ∧ Apart rest))

/-- A character that no marker has is not brought in. -/
theorem notMem_markAll {char : Char} (apart : ∀ marker ∈ markers, char ∉ marker.2)
    {text : List Char} (clean : char ∉ text) : char ∉ markAll markers text := by
  induction markers generalizing text with
  | nil => exact clean
  | cons marker rest inductionHypothesis =>
      obtain ⟨own, others⟩ := List.forall_mem_cons.mp apart
      exact inductionHypothesis others fun member => (mem_mark member).elim clean own

/-- A character that is not refused is not brought in. -/
theorem notMem_unmarkAll {char : Char} (apart : ∀ marker ∈ markers, char ≠ marker.1)
    {text : List Char} (clean : char ∉ text) : char ∉ unmarkAll markers text := by
  induction markers with
  | nil => exact clean
  | cons marker rest inductionHypothesis =>
      obtain ⟨own, others⟩ := List.forall_mem_cons.mp apart
      rw [unmarkAll_cons]
      intro member
      exact (mem_unmark member).elim own (inductionHypothesis others)

/-- A marked text stays the same when all markers are taken back and written again. -/
theorem markAll_unmarkAll (apart : Apart markers) {text : List Char}
    (clean : ∀ marker ∈ markers, marker.1 ∉ text) :
    markAll markers (unmarkAll markers text) = text := by
  induction markers with
  | nil => rfl
  | cons marker rest inductionHypothesis =>
      obtain ⟨nonempty, -, others, restApart⟩ := apart
      obtain ⟨ownClean, restClean⟩ := List.forall_mem_cons.mp clean
      have stillClean : marker.1 ∉ unmarkAll rest text :=
        notMem_unmarkAll (fun other member => (others other member).1) ownClean
      rw [unmarkAll_cons, markAll_cons, mark_unmark nonempty stillClean]
      exact inductionHypothesis restApart restClean

/-- Markers that stand apart remove all refused characters. -/
theorem clean_markAll (apart : Apart markers) (text : List Char) :
    ∀ marker ∈ markers, marker.1 ∉ markAll markers text := by
  induction markers generalizing text with
  | nil => exact List.forall_mem_nil _
  | cons marker rest inductionHypothesis =>
      obtain ⟨-, plain, others, restApart⟩ := apart
      rw [List.forall_mem_cons, markAll_cons]
      refine ⟨?_, inductionHypothesis restApart _⟩
      exact notMem_markAll (fun other member => (others other member).2.1)
        (notMem_mark plain text)

/-- A text forges one of several markers that are written one after another. -/
def ForgesAny : List (Char × List Char) → List Char → Prop
  | [], _ => False
  | marker :: rest, text => Forges marker text ∨ ForgesAny rest (mark marker text)

/-- The first marker is taken back last, so every marker has to come back by itself. -/
theorem unmarkAll_markAll_iff (apart : Apart markers) (text : List Char) :
    unmarkAll markers (markAll markers text) = text ↔ ¬ ForgesAny markers text := by
  induction markers generalizing text with
  | nil => exact iff_of_true rfl id
  | cons marker rest inductionHypothesis =>
      obtain ⟨nonempty, plain, others, restApart⟩ := apart
      have restBack := inductionHypothesis restApart (mark marker text)
      rw [ForgesAny, not_or, ← unmark_mark_iff nonempty, ← restBack, unmarkAll_cons, markAll_cons]
      have clean : marker.1 ∉ unmarkAll rest (markAll rest (mark marker text)) := by
        apply notMem_unmarkAll fun other member => (others other member).1
        exact notMem_markAll (fun other member => (others other member).2.1)
          (notMem_mark plain text)
      constructor
      · intro back
        have again := mark_unmark nonempty clean
        rw [back] at again
        refine ⟨?_, again.symm⟩
        rw [again]
        exact back
      · rintro ⟨back, same⟩
        rw [same, back]

end

/-- The sanitized form of an ambiguous key can be read in another way. -/
def Ambiguous (key : String) : Prop :=
  ForgesAny all key.toList

/-- None of the three markers gets in the way of another. -/
theorem apart_all : Apart all := by
  decide

theorem toList_sanitize (key : String) : (sanitize key).toList = markAll all key.toList :=
  String.toList_ofList

theorem toList_restore (key : String) : (restore key).toList = unmarkAll all key.toList :=
  String.toList_ofList

/-- Exactly the ambiguous keys are lost. -/
theorem restore_sanitize_iff (key : String) : restore (sanitize key) = key ↔ ¬ Ambiguous key := by
  rw [← String.toList_inj, toList_restore, toList_sanitize]
  exact unmarkAll_markAll_iff apart_all key.toList

/-- A key may be lost, but its sanitized form is not. -/
theorem sanitize_restore_sanitize (key : String) :
    sanitize (restore (sanitize key)) = sanitize key := by
  rw [← String.toList_inj, toList_sanitize, toList_restore, toList_sanitize]
  exact markAll_unmarkAll apart_all (clean_markAll apart_all key.toList)

/-- A key is ambiguous when it shares its sanitized form with another key that is not. -/
theorem ambiguous_iff (key : String) :
    Ambiguous key ↔ ∃ other, other ≠ key ∧ ¬ Ambiguous other ∧ sanitize other = sanitize key := by
  constructor
  · intro ambiguous
    refine ⟨restore (sanitize key), ?_, ?_, sanitize_restore_sanitize key⟩
    · intro back
      exact (restore_sanitize_iff key).mp back ambiguous
    · rw [← restore_sanitize_iff, sanitize_restore_sanitize]
  · rintro ⟨other, different, plain, same⟩
    by_contra notAmbiguous
    have back := (restore_sanitize_iff key).mpr notAmbiguous
    have otherBack := (restore_sanitize_iff other).mpr plain
    rw [same, back] at otherBack
    exact different otherBack.symm

end KeyMarkers

namespace Item

/-- A sanitized item is restored when none of its keys is ambiguous. An ambiguous key is one that is
sanitized like another key that can be restored. -/
theorem restoreKeys_sanitizeKeys_iff {item : Item} (keyed : Value.Keyed (.document item)) :
    (item.sanitizeKeys.restoreKeys = item ↔
      ∀ key ∈ Value.keysWithinFields item, ¬ KeyMarkers.Ambiguous key) ∧
      ∀ key, KeyMarkers.Ambiguous key ↔ ∃ other, other ≠ key ∧ ¬ KeyMarkers.Ambiguous other ∧
        KeyMarkers.sanitize other = KeyMarkers.sanitize key := by
  refine ⟨?_, KeyMarkers.ambiguous_iff⟩
  simp only [← KeyMarkers.restore_sanitize_iff]
  have renamed : Value.renameKeys KeyMarkers.restore
      (Value.renameKeys KeyMarkers.sanitize (.document item)) = .document item ↔
        ∀ key ∈ Value.keysWithin (.document item),
          KeyMarkers.restore (KeyMarkers.sanitize key) = key :=
    Value.renameKeys_renameKeys_iff (.document item) keyed
  rw [Value.renameKeys, Value.renameKeys, Value.document.injEq] at renamed
  exact renamed

/-- Dots and dollar signs come back from the keys of the first item. The key of the second item
holds the rest of a marker between two dots, and it comes back as another key. -/
theorem restoreKeys_sanitizeKeys_price :
    restoreKeys (sanitizeKeys
        [("price.net", .int32 5), ("links", .array [.document [("$ref", .null)]])]) =
      [("price.net", .int32 5), ("links", .array [.document [("$ref", .null)]])] ∧
    restoreKeys (sanitizeKeys [("price.dollar.net", .int32 5)]) ≠
      [("price.dollar.net", .int32 5)] ∧
    ∃ other, other ≠ "price.dollar.net" ∧ ¬ KeyMarkers.Ambiguous other ∧
      KeyMarkers.sanitize other = KeyMarkers.sanitize "price.dollar.net" := by
  have plain : ∀ key ∈ ["price.net", "links", "$ref"], ¬ KeyMarkers.Ambiguous key := by
    intro key member
    rw [← KeyMarkers.restore_sanitize_iff]
    revert key
    decide
  have ambiguous : KeyMarkers.Ambiguous "price.dollar.net" := by
    apply not_not.mp
    rw [← KeyMarkers.restore_sanitize_iff]
    decide
  have twoKeys : ["price.net", "links"].Nodup := by decide
  have oneKey : ∀ key : String, [key].Nodup := List.nodup_singleton
  have firstKeyed : Value.Keyed
      (.document [("price.net", .int32 5), ("links", .array [.document [("$ref", .null)]])]) :=
    ⟨twoKeys, trivial, ⟨⟨oneKey _, trivial, trivial⟩, trivial⟩, trivial⟩
  have secondKeyed : Value.Keyed (.document [("price.dollar.net", .int32 5)]) :=
    ⟨oneKey _, trivial, trivial⟩
  obtain ⟨first, -⟩ := restoreKeys_sanitizeKeys_iff firstKeyed
  obtain ⟨second, shared⟩ := restoreKeys_sanitizeKeys_iff secondKeyed
  refine ⟨first.mpr plain, ?_, (shared _).mp ambiguous⟩
  intro back
  exact second.mp back _ List.mem_cons_self ambiguous

end Item

end DocumentStore

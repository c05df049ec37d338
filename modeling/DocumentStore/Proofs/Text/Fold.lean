import DocumentStore.Text.Case.Fold

/-!
This file shows that the signs before the small letters have no other case.
-/

namespace DocumentStore

/-- This is the code of the letter `a`. -/
def firstSmallLetter : Nat :=
  0x61

/-- A code is only lost when it becomes the null character. -/
theorem toNat_ofNat_eq {code : Nat} {char : Char} (same : Char.ofNat code = char)
    (notNull : char.toNat ≠ 0) : code = char.toNat := by
  by_cases valid : code.isValidChar
  · have known : Char.ofNat code = Char.ofNatAux code valid := dif_pos valid
    rw [← same, known]
    rfl
  · have null : (Char.ofNat code).toNat = 0 := congrArg Char.toNat (dif_neg valid)
    rw [← same] at notNull
    exact absurd null notNull

/-- No run of letters has small forms before the first small letter. -/
theorem firstSmallLetter_le_of_mem_lowerRuns :
    ∀ run ∈ lowerRuns, (firstSmallLetter : Int) ≤ run.first + run.shift := by
  decide +kernel

/-- The lower case of another letter is a small letter. -/
theorem eq_of_lowerLetter_eq {char sign : Char} (same : lowerLetter char = sign)
    (notNull : sign.toNat ≠ 0) (early : sign.toNat < firstSmallLetter) : char = sign := by
  unfold lowerLetter at same
  split at same
  · next run found =>
      have member := List.mem_of_find?_eq_some found
      have contained := List.find?_some found
      have code := toNat_ofNat_eq same notNull
      have late := firstSmallLetter_le_of_mem_lowerRuns run member
      simp only [CaseRun.contains, Bool.and_eq_true, decide_eq_true_eq] at contained
      omega
  · exact same

/-- No variant of a letter stands before the first small letter. -/
theorem firstSmallLetter_le_of_mem_letterVariants :
    ∀ variant ∈ letterVariants, firstSmallLetter ≤ variant.2 := by
  decide

/-- A sign before the small letters only stands for itself. -/
theorem eq_of_foldLetter_eq {char sign : Char} (same : foldLetter char = sign)
    (notNull : sign.toNat ≠ 0) (early : sign.toNat < firstSmallLetter) : char = sign := by
  unfold foldLetter at same
  split at same
  · next code found =>
      have member : (char.toNat, code) ∈ letterVariants := by
        obtain ⟨before, after, split, -⟩ := List.lookup_eq_some_iff.mp found
        rw [split]
        exact List.mem_append_right before List.mem_cons_self
      have late := firstSmallLetter_le_of_mem_letterVariants _ member
      have sameCode := toNat_ofNat_eq same notNull
      omega
  · split at same
    · exact same
    · exact eq_of_lowerLetter_eq same notNull early

/-- A sign that folds to itself is the same letter as nothing else. -/
theorem sameLetter_sign_iff {sign char : Char} (folded : foldLetter sign = sign)
    (notNull : sign.toNat ≠ 0) (early : sign.toNat < firstSmallLetter) :
    sameLetter sign char = true ↔ char = sign := by
  unfold sameLetter
  rw [decide_eq_true_eq, folded]
  constructor
  · intro same
    exact eq_of_foldLetter_eq same.symm notNull early
  · rintro rfl
    exact folded.symm

end DocumentStore

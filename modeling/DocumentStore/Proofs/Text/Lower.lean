import Mathlib.Data.List.Infix
import Mathlib.Data.List.TakeWhile
import DocumentStore.Text.Case.Lower

/-!
This file follows a part of a text into the lower case of the whole text. Only a capital sigma at
the edge of the part may get another form there than it has in the part alone.
-/

namespace DocumentStore

/-- This is the lower case of a text that stands between others. The text before it is given
backwards, so its nearest letter comes first. -/
def lowerBetween (before : List Char) : List Char → List Char → List Char
  | [], _ => []
  | char :: rest, after =>
    lowerForm (continuesWord before) char (rest ++ after) ++
      lowerBetween (char :: before) rest after

/-- A capital sigma between two texts is a final one when a word stands before it and none goes on
behind it. -/
def endsWord (before after : List Char) : Bool :=
  continuesWord before && !continuesWord after

/-- This tests what follows the first letter of a text when that letter is a capital sigma. -/
def afterSigma (test : List Char → Bool) (text : List Char) : Bool :=
  match text.dropWhile isCaseIgnorable with
  | 'Σ' :: rest => test rest
  | _ => false

/-- The first letter is a capital sigma, and no letter of its word follows. -/
def opensWithSigma (text : List Char) : Bool :=
  afterSigma (fun rest => !continuesWord rest) text

/-- The last letter is a capital sigma, and a letter of its word stands before it. -/
def closesWithSigma (text : List Char) : Bool :=
  afterSigma continuesWord text.reverse

/-- Words ignore all characters of such a text. -/
def Ignorable (text : List Char) : Prop :=
  ∀ char ∈ text, isCaseIgnorable char = true

theorem continuesWord_cons (char : Char) (rest : List Char) :
    continuesWord (char :: rest) =
      if isCaseIgnorable char then continuesWord rest else isCased char := by
  by_cases ignorable : isCaseIgnorable char = true
  · simp [continuesWord, ignorable]
  · simp [continuesWord, ignorable]

/-- Ignorable characters are looked through. -/
theorem Ignorable.continuesWord_append {text : List Char} (ignorable : Ignorable text)
    (more : List Char) : continuesWord (text ++ more) = continuesWord more := by
  induction text with
  | nil => rfl
  | cons char rest inductionHypothesis =>
      obtain ⟨first, others⟩ := List.forall_mem_cons.mp ignorable
      rw [List.cons_append, continuesWord_cons, if_pos first, inductionHypothesis others]

/-- A text of ignorable characters continues no word. -/
theorem Ignorable.continuesWord_eq {text : List Char} (ignorable : Ignorable text) :
    continuesWord text = false := by
  have alone := ignorable.continuesWord_append []
  rw [List.append_nil] at alone
  exact alone

/-- The first letter that words do not ignore decides, so what stands behind it does not matter. -/
theorem continuesWord_append {text : List Char} (letter : ¬ Ignorable text) (more : List Char) :
    continuesWord (text ++ more) = continuesWord text := by
  induction text with
  | nil => exact absurd (List.forall_mem_nil _) letter
  | cons char rest inductionHypothesis =>
      rw [List.cons_append, continuesWord_cons, continuesWord_cons]
      split
      · next ignorable =>
          apply inductionHypothesis
          intro others
          exact letter (List.forall_mem_cons.mpr ⟨ignorable, others⟩)
      · rfl

/-- Sigma is a letter and not looked through. -/
theorem isCaseIgnorable_sigma : isCaseIgnorable 'Σ' = false := by
  decide +kernel

/-- The first sigma behind ignorable characters splits the text. -/
theorem dropWhile_eq_sigma_iff {text rest : List Char} :
    text.dropWhile isCaseIgnorable = 'Σ' :: rest ↔
      ∃ start, text = start ++ 'Σ' :: rest ∧ Ignorable start := by
  constructor
  · intro dropped
    refine ⟨text.takeWhile isCaseIgnorable, ?_, fun _ member => List.mem_takeWhile_imp member⟩
    rw [← dropped, List.takeWhile_append_dropWhile]
  · rintro ⟨start, rfl, ignorable⟩
    have letter : ¬ isCaseIgnorable 'Σ' = true := by
      rw [isCaseIgnorable_sigma]
      decide
    rw [List.dropWhile_append_of_pos ignorable, List.dropWhile_cons_of_neg letter]

/-- A test behind the first sigma is made where only ignorable characters stand before it. -/
theorem afterSigma_iff {test : List Char → Bool} {text : List Char} :
    afterSigma test text = true ↔
      ∃ start rest, text = start ++ 'Σ' :: rest ∧ Ignorable start ∧ test rest = true := by
  unfold afterSigma
  split
  · next rest dropped =>
      constructor
      · intro passes
        obtain ⟨start, split, ignorable⟩ := dropWhile_eq_sigma_iff.mp dropped
        exact ⟨start, rest, split, ignorable, passes⟩
      · rintro ⟨start, other, split, ignorable, passes⟩
        have again := dropWhile_eq_sigma_iff.mpr ⟨start, split, ignorable⟩
        rw [dropped] at again
        rw [(List.cons.inj again).2]
        exact passes
  · next noSigma =>
      apply iff_of_false nofun
      rintro ⟨start, rest, split, ignorable, -⟩
      exact noSigma rest (dropWhile_eq_sigma_iff.mpr ⟨start, split, ignorable⟩)

/-- A text opens with sigma when no word goes on behind it. -/
theorem opensWithSigma_iff {text : List Char} :
    opensWithSigma text = true ↔
      ∃ start rest, text = start ++ 'Σ' :: rest ∧ Ignorable start ∧ continuesWord rest = false := by
  simp [opensWithSigma, afterSigma_iff]

/-- A text closes with sigma when a word stands before it. -/
theorem closesWithSigma_iff {text : List Char} :
    closesWithSigma text = true ↔
      ∃ start rest, text = start ++ 'Σ' :: rest ∧ continuesWord start.reverse = true ∧
        Ignorable rest := by
  rw [closesWithSigma, afterSigma_iff]
  constructor
  · rintro ⟨rest, start, split, ignorable, continues⟩
    refine ⟨start.reverse, rest.reverse, ?_, ?_, ?_⟩
    · rw [← text.reverse_reverse, split]
      simp
    · rw [List.reverse_reverse]
      exact continues
    · intro char member
      exact ignorable char (List.mem_reverse.mp member)
  · rintro ⟨start, rest, rfl, continues, ignorable⟩
    refine ⟨rest.reverse, start.reverse, by simp, ?_, continues⟩
    intro char member
    exact ignorable char (List.mem_reverse.mp member)

/-- A part of a text is followed by what comes after it in the whole text. -/
theorem lowerFrom_append (before text after : List Char) :
    lowerFrom (continuesWord before) (text ++ after) =
      lowerBetween before text after ++
        lowerFrom (continuesWord (text.reverse ++ before)) after := by
  induction text generalizing before with
  | nil => rfl
  | cons char rest inductionHypothesis =>
      have later := inductionHypothesis (char :: before)
      rw [continuesWord_cons] at later
      rw [List.cons_append, lowerFrom, later, lowerBetween, List.append_assoc, List.reverse_cons,
        List.append_assoc]
      rfl

/-- Whether a word goes on is all that lower-casing keeps of the text before. -/
theorem lowerFrom_eq (before text : List Char) :
    lowerFrom (continuesWord before) text = lowerBetween before text [] := by
  have whole := lowerFrom_append before text []
  rw [List.append_nil, lowerFrom, List.append_nil] at whole
  exact whole

theorem lowerCase_eq (text : List Char) : lowerCase text = lowerBetween [] text [] :=
  lowerFrom_eq [] text

/-- The lower case of a text in three parts has three parts. -/
theorem lowerCase_append (before text after : List Char) :
    lowerCase (before ++ (text ++ after)) =
      lowerBetween [] before (text ++ after) ++ (lowerBetween before.reverse text after ++
        lowerBetween (text.reverse ++ before.reverse) after []) := by
  have first := lowerFrom_append [] before (text ++ after)
  have second := lowerFrom_append before.reverse text after
  have third := lowerFrom_eq (text.reverse ++ before.reverse) after
  rw [List.append_nil, second, third] at first
  exact first

/-- Only the dotted capital becomes two characters. -/
theorem length_lowerForm (inWord : Bool) (char : Char) (rest : List Char) :
    (lowerForm inWord char rest).length = if char = 'İ' then 2 else 1 := by
  unfold lowerForm
  by_cases sigma : char = 'Σ'
  · subst sigma
    simp only [if_true]
    split <;> rfl
  · rw [if_neg sigma]
    split <;> rfl

/-- What stands around a text does not change the length of its lower case. -/
theorem length_lowerBetween (before text after others more : List Char) :
    (lowerBetween before text after).length = (lowerBetween others text more).length := by
  induction text generalizing before others with
  | nil => rfl
  | cons char rest inductionHypothesis =>
      rw [lowerBetween, lowerBetween, List.length_append, List.length_append, length_lowerForm,
        length_lowerForm, inductionHypothesis (char :: before) (char :: others)]

/-- Only the form of a capital sigma depends on what stands around it. -/
theorem lowerForm_eq_iff (before after others more : List Char) (char : Char) :
    lowerForm (continuesWord before) char after = lowerForm (continuesWord others) char more ↔
      (char = 'Σ' → endsWord before after = endsWord others more) := by
  unfold lowerForm endsWord
  by_cases sigma : char = 'Σ'
  · subst sigma
    simp only [if_true, forall_const]
    generalize (continuesWord before && !continuesWord after) = left
    generalize (continuesWord others && !continuesWord more) = right
    cases left <;> cases right <;> decide
  · simp [sigma]

/-- A text has the same lower case in two places when every capital sigma ends a word in both of
them or in neither. -/
theorem lowerBetween_eq_iff (before text after others more : List Char) :
    lowerBetween before text after = lowerBetween others text more ↔
      ∀ start rest, text = start ++ 'Σ' :: rest →
        endsWord (start.reverse ++ before) (rest ++ after) =
          endsWord (start.reverse ++ others) (rest ++ more) := by
  induction text generalizing before others with
  | nil => simp [lowerBetween]
  | cons char text inductionHypothesis =>
      have later := inductionHypothesis (char :: before) (char :: others)
      have sameLength : (lowerForm (continuesWord before) char (text ++ after)).length =
          (lowerForm (continuesWord others) char (text ++ more)).length := by
        rw [length_lowerForm, length_lowerForm]
      -- A letter has forms of one length, so the first forms agree and so does what follows.
      have parts : lowerBetween before (char :: text) after =
            lowerBetween others (char :: text) more ↔
          lowerForm (continuesWord before) char (text ++ after) =
              lowerForm (continuesWord others) char (text ++ more) ∧
            lowerBetween (char :: before) text after = lowerBetween (char :: others) text more := by
        rw [lowerBetween, lowerBetween]
        constructor
        · intro same
          exact List.append_inj same sameLength
        · rintro ⟨first, rest⟩
          rw [first, rest]
      rw [parts, lowerForm_eq_iff, later]
      constructor
      · rintro ⟨first, inside⟩ start rest split
        rcases List.cons_eq_append_iff.mp split with ⟨rfl, cut⟩ | ⟨start, rfl, cut⟩
        · obtain ⟨sigma, rfl⟩ := List.cons.inj cut
          exact first sigma.symm
        · rw [List.reverse_cons, List.append_assoc, List.append_assoc]
          exact inside start rest cut
      · intro every
        constructor
        · rintro rfl
          exact every [] text rfl
        · intro start rest split
          have inside := every (char :: start) rest (by rw [split, List.cons_append])
          rw [List.reverse_cons, List.append_assoc, List.append_assoc] at inside
          exact inside

/-- A last sigma has no word before it, unless the text closes with sigma. -/
theorem continuesWord_eq_false_of_not_closes {start rest : List Char}
    (notClosing : closesWithSigma (start ++ 'Σ' :: rest) = false) (last : Ignorable rest) :
    continuesWord start.reverse = false := by
  by_contra word
  have closes := closesWithSigma_iff.mpr ⟨start, rest, rfl, by simpa using word, last⟩
  rw [notClosing] at closes
  cases closes

/-- A first sigma has a word behind it, unless the text opens with sigma. -/
theorem continuesWord_eq_true_of_not_opens {start rest : List Char}
    (notOpening : opensWithSigma (start ++ 'Σ' :: rest) = false) (first : Ignorable start) :
    continuesWord rest = true := by
  by_contra ends
  have opens := opensWithSigma_iff.mpr ⟨start, rest, rfl, first, by simpa using ends⟩
  rw [notOpening] at opens
  cases opens

/-- What stands behind a text only decides about a sigma that ends the last word of the text. -/
theorem endsWord_append_right {start rest after : List Char}
    (closing : after = [] ∨ closesWithSigma (start ++ 'Σ' :: rest) = false) :
    endsWord start.reverse (rest ++ after) = endsWord start.reverse rest := by
  unfold endsWord
  rcases closing with rfl | notClosing
  · rw [List.append_nil]
  · by_cases last : Ignorable rest
    · rw [continuesWord_eq_false_of_not_closes notClosing last, Bool.false_and, Bool.false_and]
    · rw [continuesWord_append last]

/-- What stands before a text only decides about a sigma that opens the text and ends its word. -/
theorem endsWord_append_left {before start rest : List Char} (after : List Char)
    (opening : before = [] ∨ opensWithSigma (start ++ 'Σ' :: rest) = false) :
    endsWord (start.reverse ++ before) (rest ++ after) =
      endsWord start.reverse (rest ++ after) := by
  unfold endsWord
  rcases opening with rfl | notOpening
  · rw [List.append_nil]
  · by_cases bare : Ignorable start.reverse
    · -- No word stands before the sigma in the text alone, so its word must go on behind it.
      have first : Ignorable start := fun char member => bare char (List.mem_reverse.mpr member)
      have goesOn := continuesWord_eq_true_of_not_opens notOpening first
      have letter : ¬ Ignorable rest := by
        intro ignored
        rw [ignored.continuesWord_eq] at goesOn
        cases goesOn
      rw [continuesWord_append letter, goesOn, Bool.not_true, Bool.and_false, Bool.and_false]
    · rw [continuesWord_append bare]

/-- A text keeps its lower case between others unless its first or its last letter is a capital
sigma that may become a final one or stop being one. -/
theorem lowerBetween_eq_lowerCase {before text after : List Char}
    (opening : before = [] ∨ opensWithSigma text = false)
    (closing : after = [] ∨ closesWithSigma text = false) :
    lowerBetween before text after = lowerCase text := by
  rw [lowerCase_eq, lowerBetween_eq_iff]
  rintro start rest rfl
  rw [List.append_nil, List.append_nil, endsWord_append_left after opening,
    endsWord_append_right closing]

/-- A capital sigma at the end of a word is no final one when the word goes on. -/
theorem lowerBetween_ne_of_closes {text : List Char} (closes : closesWithSigma text = true)
    {char : Char} (cased : isCased char = true) (letter : isCaseIgnorable char = false)
    (before after : List Char) : lowerBetween before text (char :: after) ≠ lowerCase text := by
  obtain ⟨start, rest, split, word, ignorable⟩ := closesWithSigma_iff.mp closes
  rw [lowerCase_eq, ne_eq, lowerBetween_eq_iff]
  intro same
  have here := same start rest split
  have goesOn : continuesWord (char :: after) = true := by
    rw [continuesWord_cons, letter]
    exact cased
  simp [endsWord, ignorable.continuesWord_append, ignorable.continuesWord_eq, goesOn, word] at here

/-- A capital sigma alone is no final one, and it becomes one behind a word. -/
theorem lowerBetween_ne_of_opens {text : List Char} (opens : opensWithSigma text = true)
    {char : Char} (cased : isCased char = true) (letter : isCaseIgnorable char = false)
    (before : List Char) : lowerBetween (char :: before) text [] ≠ lowerCase text := by
  obtain ⟨start, rest, split, ignorable, ends⟩ := opensWithSigma_iff.mp opens
  rw [lowerCase_eq, ne_eq, lowerBetween_eq_iff]
  intro same
  have here := same start rest split
  have backwards : Ignorable start.reverse :=
    fun char member => ignorable char (List.mem_reverse.mp member)
  have word : continuesWord (char :: before) = true := by
    rw [continuesWord_cons, letter]
    exact cased
  simp [endsWord, backwards.continuesWord_append, backwards.continuesWord_eq, word, ends] at here

end DocumentStore

import DocumentStore.Proofs.Instant.Digits

/-!
This file tells which characters a text with the shape of an ISO date-time has. It has digits and
signs, and no white space.
-/

namespace DocumentStore

/-- Two classes whose ranges lie apart share no character. -/
theorem CharClass.contains_eq_false {first second : CharClass} {char : Char}
    (apart : ∀ range ∈ first, ∀ other ∈ second, range.2 < other.1 ∨ other.2 < range.1)
    (inside : first.contains char = true) : second.contains char = false := by
  obtain ⟨range, member, within⟩ := List.any_eq_true.mp inside
  apply List.any_eq_false.mpr
  intro other otherMember
  have lies := apart range member other otherMember
  simp only [Bool.and_eq_true, decide_eq_true_eq] at within ⊢
  omega

/-- No digit is a blank. -/
theorem isBlank_of_isDecimalDigit {char : Char} (digit : isDecimalDigit char = true) :
    isBlank char = false :=
  CharClass.contains_eq_false (by decide) digit

/-- The digits of all scripts include the common ones. -/
theorem isDecimalDigit_of_isDigit {char : Char} (digit : char.isDigit = true) :
    isDecimalDigit char = true := by
  obtain ⟨lower, upper⟩ := Char.isDigit_iff_toNat.mp digit
  apply List.any_eq_true.mpr
  refine ⟨(0x30, 0x39), List.mem_cons_self, ?_⟩
  exact Bool.and_eq_true_iff.mpr ⟨decide_eq_true lower, decide_eq_true upper⟩

namespace IsoText

/-- Digits are dropped as far as they are counted. -/
theorem dropDigits_append {digits : List Char} (all : ∀ char ∈ digits, isDecimalDigit char = true)
    (rest : List Char) : dropDigits digits.length (digits ++ rest) = some rest := by
  induction digits with
  | nil => rfl
  | cons digit others inductionHypothesis =>
      rw [List.forall_mem_cons] at all
      exact (if_pos all.1).trans (inductionHypothesis all.2)

/-- A padded value is dropped by its width. -/
theorem dropDigits_padded {width value : Nat} (positive : 0 < width) (small : value < 10 ^ width)
    (rest : List Char) : dropDigits width (padded width value ++ rest) = some rest := by
  have digits : ∀ char ∈ padded width value, isDecimalDigit char = true :=
    fun _ member => isDecimalDigit_of_isDigit (isDigit_of_mem_padded member)
  have dropped := dropDigits_append digits rest
  rwa [length_padded positive small] at dropped

/-- No character of the text is white space. -/
def Unblank (text : List Char) : Prop :=
  ∀ char ∈ text, isBlank char = false

theorem unblank_cons {char : Char} {rest : List Char} :
    Unblank (char :: rest) ↔ isBlank char = false ∧ Unblank rest :=
  List.forall_mem_cons

theorem unblank_append {front back : List Char} :
    Unblank (front ++ back) ↔ Unblank front ∧ Unblank back :=
  List.forall_mem_append

/-- Dropped digits were no blanks. -/
theorem Unblank.of_dropDigits {count : Nat} {text rest : List Char}
    (dropped : dropDigits count text = some rest) (unblank : Unblank rest) : Unblank text := by
  induction count generalizing text with
  | zero =>
      cases dropped
      exact unblank
  | succ count inductionHypothesis =>
      cases text with
      | nil => cases dropped
      | cons char others =>
          simp only [dropDigits] at dropped
          split at dropped
          · next digit =>
              exact unblank_cons.mpr
                ⟨isBlank_of_isDecimalDigit digit, inductionHypothesis dropped⟩
          · cases dropped

/-- A dropped character that is no blank leaves the text without blanks. -/
theorem Unblank.of_dropChar {char : Char} {text rest : List Char}
    (dropped : dropChar char text = some rest) (visible : isBlank char = false)
    (unblank : Unblank rest) : Unblank text := by
  rw [dropChar_eq_some_iff.mp dropped]
  exact unblank_cons.mpr ⟨visible, unblank⟩

/-- The shape of a fraction has no blanks. -/
theorem Unblank.of_fractionShape {text rest : List Char} (dropped : fractionShape text = some rest)
    (unblank : Unblank rest) : Unblank text := by
  simp only [fractionShape, Option.bind_eq_bind, Option.bind_eq_some_iff] at dropped
  obtain ⟨tail, point, same⟩ := dropped
  have back : tail.dropWhile isDecimalDigit = rest := Option.some.inj same
  have front : Unblank (tail.takeWhile isDecimalDigit) :=
    fun _ member => isBlank_of_isDecimalDigit (List.mem_takeWhile_imp member)
  have whole := List.takeWhile_append_dropWhile (p := isDecimalDigit) (l := tail)
  rw [back] at whole
  rw [← whole] at point
  exact .of_dropChar point (by decide) (unblank_append.mpr ⟨front, unblank⟩)

/-- The shape of an offset has no blanks. -/
theorem Unblank.of_offsetShape {text : List Char} (shaped : offsetShape text = true) :
    Unblank text := by
  unfold offsetShape at shaped
  split at shaped
  · exact List.forall_mem_nil _
  · exact List.forall_mem_singleton.mpr (by decide)
  · next sign rest _ =>
      rw [Bool.and_eq_true, List.all_eq_true] at shaped
      obtain ⟨signed, digits⟩ := shaped
      simp only [Bool.or_eq_true, decide_eq_true_eq] at signed digits
      apply unblank_cons.mpr
      constructor
      · rcases signed with rfl | rfl <;> decide
      · intro char member
        rcases digits char member with (digit | rfl) | rfl
        · exact isBlank_of_isDecimalDigit digit
        · decide
        · decide

/-- A text of the shape has no blanks, so lenient readers cannot skip any. -/
theorem unblank_of_hasShape {text : List Char} (shaped : hasShape text = true) :
    Unblank text := by
  obtain ⟨rest, found, offset⟩ := (Option.any_eq_true _ _).mp shaped
  simp only [shape?, Option.bind_eq_bind, Option.bind_eq_some_iff] at found
  obtain ⟨_, year, _, dash, _, month, _, hyphen, _, day, _, mark, _, hour, _, colon, _, minute, _,
    divider, _, second, fraction⟩ := found
  exact .of_dropDigits year <| .of_dropChar dash (by decide) <|
    .of_dropDigits month <| .of_dropChar hyphen (by decide) <|
    .of_dropDigits day <| .of_dropChar mark (by decide) <|
    .of_dropDigits hour <| .of_dropChar colon (by decide) <|
    .of_dropDigits minute <| .of_dropChar divider (by decide) <|
    .of_dropDigits second <| .of_fractionShape fraction <| .of_offsetShape offset

end IsoText

end DocumentStore

import DocumentStore.Proofs.Fields
import DocumentStore.Sort

/-!
This file reads the entries of an order back from its text and from its sort document.

A field name has neither blanks nor commas, so these separate the entries, also when a field is
named like a direction.
-/

namespace DocumentStore

/-- A list that is written member by member is read back when every member is. -/
theorem mapM_written {α β : Type} {write : α → β} {read? : β → Option α}
    (members : ∀ value, read? (write value) = some value) (values : List α) :
    (values.map write).mapM read? = some values := by
  induction values with
  | nil => rfl
  | cons value rest inductionHypothesis =>
      rw [List.map_cons, List.mapM_cons, members, inductionHypothesis]
      rfl

namespace Direction

/-- This reads the word of a direction. -/
def ofWord? : String → Option Direction
  | "ASC" => some ascending
  | "DESC" => some descending
  | _ => none

/-- This reads the number of a direction. -/
def ofValue? : Value → Option Direction
  | .int32 value =>
    if value = 1 then some ascending else if value = -1 then some descending else none
  | _ => none

variable (direction : Direction)

/-- A direction is read back from its word. -/
theorem ofWord?_word : ofWord? direction.word = some direction := by
  cases direction <;> rfl

/-- A direction is read back from its number. -/
theorem ofValue?_directionValue :
    ofValue? (Order.directionValue direction) = some direction := by
  cases direction <;> rfl

/-- The word of a direction has neither commas nor blanks. -/
theorem isNameChar_of_mem_word : ∀ char ∈ direction.word.toList, isNameChar char = true := by
  apply List.all_eq_true.mp
  cases direction <;> rfl

end Direction

namespace SortEntry

/-- This reads an entry that stands behind a blank. -/
def ofPart? (part : List Char) : Option SortEntry :=
  match part.splitOn ' ' with
  | [[], name, word] => do
    let field ← (FieldName.ofText (String.ofList name)).toOption
    let direction ← Direction.ofWord? (String.ofList word)
    return { field, direction }
  | _ => none

/-- This reads an entry from a field of a sort document. -/
def ofField? (name : String) (value : Value) : Option SortEntry := do
  let field ← (FieldName.ofText name).toOption
  let direction ← Direction.ofValue? value
  return { field, direction }

variable (entry : SortEntry)

/-- An entry is read back from its part of the text. -/
theorem ofPart?_text : ofPart? (' ' :: entry.text) = some entry := by
  have words : ' ' :: entry.text =
      [' '].intercalate [[], entry.field.text.toList, entry.direction.word.toList] := by
    simp [text, List.intercalate]
  have noBlank : ∀ word ∈ [[], entry.field.text.toList, entry.direction.word.toList],
      ' ' ∉ word := by
    simp only [List.forall_mem_cons]
    refine ⟨List.not_mem_nil, ?_, ?_, List.forall_mem_nil _⟩
    · intro blank
      exact absurd (entry.field.isNameChar_of_mem ' ' blank) (by decide)
    · intro blank
      exact absurd (entry.direction.isNameChar_of_mem_word ' ' blank) (by decide)
  rw [ofPart?, words, List.splitOn_intercalate ' ' noBlank (List.cons_ne_nil _ _)]
  dsimp only
  rw [String.ofList_toList, String.ofList_toList, FieldName.ofText_text, Direction.ofWord?_word]
  rfl

/-- Commas only stand between entries. -/
theorem comma_notMem_text : ',' ∉ entry.text := by
  intro comma
  rcases List.mem_append.mp comma with inName | inRest
  · exact absurd (entry.field.isNameChar_of_mem ',' inName) (by decide)
  · rcases List.mem_cons.mp inRest with blank | inWord
    · exact absurd blank (by decide)
    · exact absurd (entry.direction.isNameChar_of_mem_word ',' inWord) (by decide)

/-- An entry is read back from its field in the sort document. -/
theorem ofField?_directionValue :
    ofField? entry.field.text (Order.directionValue entry.direction) = some entry := by
  rw [ofField?, FieldName.ofText_text, Direction.ofValue?_directionValue]
  rfl

end SortEntry

namespace SortList

/-- This reads the text of an order, where a comma and a blank stand between two entries. -/
def ofText? (text : String) : Option SortList :=
  if text.toList = [] then some []
  else ((' ' :: text.toList).splitOn ',').mapM SortEntry.ofPart?

/-- This reads a sort document, and the order of insertion has none. -/
def ofSortDocument? : Option (Fields Value) → Option SortList
  | none => some []
  | some fields => fields.mapM fun field => SortEntry.ofField? field.1 field.2

/-- With one more blank in front, every entry stands behind a blank. -/
theorem blank_intercalate (first : List Char) (others : List (List Char)) :
    ' ' :: [',', ' '].intercalate (first :: others) =
      [','].intercalate ((first :: others).map (' ' :: ·)) := by
  induction others generalizing first with
  | nil => simp [List.intercalate]
  | cons second rest inductionHypothesis =>
      rw [List.intercalate_cons_cons, List.map_cons, List.map_cons, List.intercalate_cons_cons,
        ← List.map_cons, ← inductionHypothesis]
      simp

end SortList

namespace Order

variable (order : Order)

/-- The entries are read back from the text of an order. -/
theorem ofText?_text : SortList.ofText? order.text = some order.entries := by
  cases entries : order.entries with
  | nil =>
      rw [text, entries]
      rfl
  | cons first rest =>
      have nonempty : order.text.toList ≠ [] := by
        cases rest <;> simp [text, entries, SortEntry.text, List.intercalate]
      have parts : ' ' :: order.text.toList =
          [','].intercalate ((first :: rest).map fun entry => ' ' :: entry.text) := by
        rw [text, entries, String.toList_ofList, List.map_cons, SortList.blank_intercalate,
          ← List.map_cons, List.map_map]
        rfl
      have noComma : ∀ part ∈ (first :: rest).map fun entry => ' ' :: entry.text, ',' ∉ part := by
        intro part member comma
        obtain ⟨entry, -, rfl⟩ := List.mem_map.mp member
        rcases List.mem_cons.mp comma with blank | inText
        · exact absurd blank (by decide)
        · exact entry.comma_notMem_text inText
      rw [SortList.ofText?, if_neg nonempty, parts,
        List.splitOn_intercalate ',' noComma (List.cons_ne_nil _ _)]
      exact mapM_written SortEntry.ofPart?_text (first :: rest)

/-- The names of an order are different, so no field of its sort document replaces another. -/
theorem sortDocument?_eq (sorted : order.entries ≠ []) :
    order.sortDocument? =
      some (order.entries.map fun entry => (entry.field.text, directionValue entry.direction)) := by
  have names : Fields.Distinct
      (order.entries.map fun entry => (entry.field.text, directionValue entry.direction)) := by
    have distinct := order.distinct.map FieldName.text_injective
    rw [List.map_map] at distinct
    rw [Fields.Distinct, Fields.keys, List.map_map]
    exact distinct
  have notEmpty : ¬ order.isEmpty = true := by
    rw [isEmpty, List.isEmpty_iff]
    exact sorted
  rw [sortDocument?, if_neg notEmpty, Fields.ofList_distinct names]

/-- The entries are read back from the sort document of an order. -/
theorem ofSortDocument?_sortDocument? :
    SortList.ofSortDocument? order.sortDocument? = some order.entries := by
  by_cases sorted : order.entries = []
  · have none : order.sortDocument? = none := if_pos (List.isEmpty_iff.mpr sorted)
    rw [none, sorted]
    rfl
  · rw [sortDocument?_eq order sorted]
    exact mapM_written SortEntry.ofField?_directionValue order.entries

/-- The entries of every compiled sort list can be read from its text, whatever its fields are
named, and from its sort document, which has one field for each entry in order. -/
theorem ofList_recovered (entries : SortList) :
    SortList.ofText? (ofList entries).text = some (ofList entries).entries ∧
      SortList.ofSortDocument? (ofList entries).sortDocument? = some (ofList entries).entries ∧
      (ofList entries).sortDocument? =
        if (ofList entries).entries = [] then none
        else some ((ofList entries).entries.map fun entry => (entry.field.text,
          match entry.direction with
          | .ascending => .int32 1
          | .descending => .int32 (-1))) := by
  refine ⟨ofText?_text _, ofSortDocument?_sortDocument? _, ?_⟩
  split
  · next empty => exact if_pos (List.isEmpty_iff.mpr empty)
  · next sorted =>
      rw [sortDocument?_eq _ sorted]
      rfl

example :
    SortList.ofText? "DESC ASC, ASC DESC, 1 ASC" =
      some [⟨⟨"DESC", rfl⟩, .ascending⟩, ⟨⟨"ASC", rfl⟩, .descending⟩,
        ⟨⟨"1", rfl⟩, .ascending⟩] := by
  decide

end Order

end DocumentStore

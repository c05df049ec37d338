import Mathlib.Data.List.Induction
import DocumentStore.Evaluation.Sorting

/-!
This file shows that the repeated entries of a sort list never decide.

A sort list grows by one entry at a time. A new entry of a field that is listed already is dropped,
because two items that tie under the first entry of the field tie under the new one too.
-/

namespace DocumentStore

namespace Order

/-- Two items tie under an entry when the values of its field tie, whatever the direction is. -/
theorem compareByEntry_eq_eq_iff (entry : SortEntry) (left right : Item) :
    compareByEntry entry left right = .eq ↔
      (Comparand.ofField (left.get? entry.field.text)).sortOrder
        (Comparand.ofField (right.get? entry.field.text)) = .eq := by
  unfold compareByEntry
  cases entry.direction with
  | ascending => exact Iff.rfl
  | descending => exact Ordering.swap_eq_eq

end Order

namespace SortList

/-- Two items compare by all entries of a sort list, one after another. -/
def lexicographic (entries : SortList) : Item → Item → Ordering :=
  entries.foldr (fun entry rest => compareLex (Order.compareByEntry entry) rest) fun _ _ => .eq

/-- The comparison that stops early is the lexicographic one. -/
theorem compareByEntries_eq (entries : SortList) :
    Order.compareByEntries entries = entries.lexicographic := by
  funext left right
  induction entries with
  | nil => rfl
  | cons entry rest inductionHypothesis =>
      rw [Order.compareByEntries, inductionHypothesis]
      rfl

variable (entries : SortList) (last : SortEntry) (left right : Item)

/-- The last entry decides when the others do not. -/
theorem lexicographic_concat :
    lexicographic (entries ++ [last]) left right =
      (entries.lexicographic left right).then (Order.compareByEntry last left right) := by
  induction entries with
  | nil => exact Ordering.then_eq
  | cons entry rest inductionHypothesis =>
      change (Order.compareByEntry entry left right).then
        (lexicographic (rest ++ [last]) left right) = _
      rw [inductionHypothesis, ← Ordering.then_assoc]
      rfl

/-- Two items tie when they tie under every entry. -/
theorem lexicographic_eq_eq_iff :
    entries.lexicographic left right = .eq ↔
      ∀ entry ∈ entries, Order.compareByEntry entry left right = .eq := by
  induction entries with
  | nil => exact iff_of_true rfl (List.forall_mem_nil _)
  | cons entry rest inductionHypothesis =>
      rw [List.forall_mem_cons, ← inductionHypothesis]
      exact Ordering.then_eq_eq

/-- A repeated entry does not decide, because its field has tied before. -/
theorem lexicographic_concat_of_repeated (repeated : last.field ∈ entries.map SortEntry.field) :
    lexicographic (entries ++ [last]) left right = entries.lexicographic left right := by
  rw [lexicographic_concat]
  cases decided : entries.lexicographic left right with
  | lt => rfl
  | gt => rfl
  | eq =>
      obtain ⟨first, member, sameField⟩ := List.mem_map.mp repeated
      have tie := (lexicographic_eq_eq_iff entries left right).mp decided first member
      rw [Order.compareByEntry_eq_eq_iff, sameField, ← Order.compareByEntry_eq_eq_iff] at tie
      rw [tie]
      rfl

/-- A new entry is only kept when its field is not listed before. -/
theorem firstEntries_concat :
    firstEntries (entries ++ [last]) =
      if last.field ∈ entries.map SortEntry.field then entries.firstEntries
      else entries.firstEntries ++ [last] := by
  induction entries with
  | nil => rfl
  | cons entry rest inductionHypothesis =>
      rw [List.cons_append, firstEntries, firstEntries, inductionHypothesis, List.map_cons]
      by_cases sameField : last.field = entry.field
      · have dropped : [last].filter (fun other => other.field ≠ entry.field) = [] := by
          simp [sameField]
        rw [if_pos (List.mem_cons.mpr (.inl sameField))]
        split
        · rfl
        · rw [List.filter_append, dropped, List.append_nil]
      · have kept : [last].filter (fun other => other.field ≠ entry.field) = [last] := by
          simp [sameField]
        simp only [List.mem_cons, sameField, false_or]
        split
        · rfl
        · rw [List.filter_append, kept, List.cons_append]

/-- The entries that a sort list keeps compare like the whole list. -/
theorem lexicographic_firstEntries :
    lexicographic entries.firstEntries left right = entries.lexicographic left right := by
  induction entries using List.reverseRecOn with
  | nil => rfl
  | append_singleton entries last inductionHypothesis =>
      rw [firstEntries_concat]
      split
      · next repeated =>
          rw [inductionHypothesis,
            lexicographic_concat_of_repeated entries last left right repeated]
      · rw [lexicographic_concat, lexicographic_concat, inductionHypothesis]

/-- The kept entries name the fields in the order in which they are listed first. -/
theorem fields_firstEntries :
    entries.firstEntries.map SortEntry.field = (entries.map SortEntry.field).eraseDups := by
  induction entries using List.reverseRecOn with
  | nil => rfl
  | append_singleton entries last inductionHypothesis =>
      rw [firstEntries_concat, List.map_append, List.eraseDups_append, ← inductionHypothesis,
        List.map_singleton, List.removeAll, List.filter_cons, List.filter_nil]
      split
      · next repeated => simp [-List.mem_map, repeated]
      · next fresh => simp [-List.mem_map, fresh, List.eraseDups_cons]

/-- Every field keeps its first entry. -/
theorem find?_firstEntries (field : FieldName) :
    (firstEntries entries).find? (fun entry => entry.field = field) =
      entries.find? fun entry => entry.field = field := by
  induction entries using List.reverseRecOn with
  | nil => rfl
  | append_singleton entries last inductionHypothesis =>
      rw [firstEntries_concat, List.find?_append, ← inductionHypothesis]
      split
      · next repeated =>
          cases found : List.find? (fun entry => entry.field = field) (firstEntries entries) with
          | some first => rfl
          | none =>
              -- The field is not listed before, so it is not the repeated one.
              rw [inductionHypothesis, List.find?_eq_none] at found
              obtain ⟨first, member, sameField⟩ := List.mem_map.mp repeated
              have other := found first member
              rw [sameField] at other
              rw [List.find?_singleton, if_neg other]
              rfl
      · rw [List.find?_append]

/-- Entries of different fields are all kept. -/
theorem firstEntries_of_distinct (distinct : (entries.map SortEntry.field).Nodup) :
    entries.firstEntries = entries := by
  induction entries with
  | nil => rfl
  | cons entry rest inductionHypothesis =>
      rw [List.map_cons, List.nodup_cons] at distinct
      rw [firstEntries, inductionHypothesis distinct.2, List.cons_inj_right, List.filter_eq_self]
      intro other member
      have different : other.field ≠ entry.field := by
        intro sameField
        exact distinct.1 (sameField ▸ List.mem_map_of_mem member)
      exact decide_eq_true different

end SortList

namespace Order

/-- An order is compiled to itself. -/
theorem ofList_entries (order : Order) : ofList order.entries = order := by
  obtain ⟨entries, distinct⟩ := order
  unfold ofList
  congr
  exact SortList.firstEntries_of_distinct entries distinct

/-- A compiled sort list compares all items as the list does with its repeated entries. It lists
every field once, in the order in which the fields come first and with their first directions. -/
theorem ofList_ignores_repeats (entries : SortList) (left right : Item) :
    (ofList entries).compareItems left right = entries.lexicographic left right ∧
      ((ofList entries).entries.map SortEntry.field).Nodup ∧
      (ofList entries).entries.map SortEntry.field = (entries.map SortEntry.field).eraseDups ∧
      (∀ field, ((ofList entries).entries.find? fun entry => entry.field = field) =
        entries.find? fun entry => entry.field = field) ∧
      ofList (ofList entries).entries = ofList entries := by
  refine ⟨?_, firstEntries_distinct entries, entries.fields_firstEntries,
    entries.find?_firstEntries, ofList_entries _⟩
  calc (ofList entries).compareItems left right
      = SortList.lexicographic entries.firstEntries left right :=
        congrFun (congrFun (SortList.compareByEntries_eq entries.firstEntries) left) right
    _ = entries.lexicographic left right := entries.lexicographic_firstEntries left right

end Order

end DocumentStore

import Mathlib.Data.List.Flatten
import Mathlib.Data.List.Nodup
import Mathlib.Data.List.Perm.Subperm
import DocumentStore.Fields

/-!
This file relates the lookup of a key to the fields themselves.
-/

namespace DocumentStore.Fields

variable {α β : Type}

@[simp] theorem keys_nil : keys ([] : Fields α) = [] := rfl

@[simp] theorem keys_cons (field : String × α) (rest : Fields α) :
    keys (field :: rest) = field.1 :: keys rest := rfl

/-- Keys are distinct when the first does not come again and the others are distinct. -/
theorem distinct_cons (field : String × α) (rest : Fields α) :
    Distinct (field :: rest) ↔ field.1 ∉ keys rest ∧ Distinct rest :=
  List.nodup_cons

/-- A value that is found stands in the fields under its key. -/
theorem mem_of_get? {fields : Fields α} {key : String} {value : α}
    (found : fields.get? key = some value) : (key, value) ∈ fields := by
  induction fields with
  | nil => cases found
  | cons field rest inductionHypothesis =>
      obtain ⟨name, first⟩ := field
      rw [get?] at found
      split at found
      · next same =>
          cases found
          rw [same]
          exact List.mem_cons_self
      · exact List.mem_cons_of_mem _ (inductionHypothesis found)

theorem mem_keys_of_mem {fields : Fields α} {key : String} {value : α}
    (member : (key, value) ∈ fields) : key ∈ fields.keys :=
  List.mem_map.mpr ⟨(key, value), member, rfl⟩

/-- Nothing is found exactly under the keys that do not stand in the fields. -/
theorem get?_eq_none_iff {fields : Fields α} {key : String} :
    fields.get? key = none ↔ key ∉ fields.keys := by
  induction fields with
  | nil => simp [get?]
  | cons field rest inductionHypothesis =>
      obtain ⟨name, first⟩ := field
      by_cases same : name = key
      · simp [get?, same]
      · simp [get?, same, inductionHypothesis, Ne.symm same]

/-- A key stands in the fields exactly when a value is found under it. -/
theorem mem_keys_iff {fields : Fields α} {key : String} :
    key ∈ fields.keys ↔ ∃ value, fields.get? key = some value := by
  rw [← Option.isSome_iff_exists, ← not_iff_not, ← get?_eq_none_iff]
  simp

/-- Distinct fields are found under their keys. -/
theorem Distinct.get?_of_mem {fields : Fields α} (distinct : fields.Distinct) {key : String}
    {value : α} (member : (key, value) ∈ fields) : fields.get? key = some value := by
  induction fields with
  | nil => cases member
  | cons field rest inductionHypothesis =>
      obtain ⟨fresh, restDistinct⟩ := (distinct_cons field rest).mp distinct
      obtain ⟨name, first⟩ := field
      rw [get?]
      rcases List.mem_cons.mp member with same | later
      · cases same
        rw [if_pos rfl]
      · have different : name ≠ key := by
          intro same
          exact fresh (same ▸ mem_keys_of_mem later)
        rw [if_neg different]
        exact inductionHypothesis restDistinct later

/-- Keys without repetition that are all found among as many others are these in some order. -/
theorem Distinct.keys_perm {fields : Fields α} {others : Fields β} (distinct : fields.Distinct)
    (found : fields.keys ⊆ others.keys) (enough : others.length ≤ fields.length) :
    fields.keys.Perm others.keys := by
  have sameLength : others.keys.length ≤ fields.keys.length := by
    simpa only [keys, List.length_map] using enough
  exact (List.Nodup.subperm distinct found).perm_of_length_le sameLength

/-- A change of the values that may look at the keys. -/
theorem keys_mapValues (fields : Fields α) (change : String → α → β) :
    keys (fields.map fun field => (field.1, change field.1 field.2)) = fields.keys := by
  simp [keys, Function.comp_def]

/-- A change of the values changes what is found under each key. -/
theorem get?_mapValues (fields : Fields α) (change : String → α → β) (key : String) :
    get? (fields.map fun field => (field.1, change field.1 field.2)) key =
      (fields.get? key).map (change key) := by
  induction fields with
  | nil => rfl
  | cons field rest inductionHypothesis =>
      obtain ⟨name, first⟩ := field
      rw [List.map_cons, get?, get?]
      split
      · next same => rw [← same, Option.map_some]
      · exact inductionHypothesis

/-- A key that is inserted with the value that it has changes nothing. -/
theorem insert_of_get? {fields : Fields α} {key : String} {value : α}
    (known : fields.get? key = some value) : fields.insert key value = fields := by
  induction fields with
  | nil => cases known
  | cons field rest inductionHypothesis =>
      obtain ⟨name, first⟩ := field
      rw [get?] at known
      rw [insert]
      split
      · next same =>
          rw [if_pos same] at known
          rw [Option.some.inj known]
      · next different =>
          rw [if_neg different] at known
          rw [inductionHypothesis known]

/-- A change of the values may come before an insertion or after it. -/
theorem insert_mapValues (fields : Fields α) (change : α → β) (key : String) (value : α) :
    insert (fields.map fun field => (field.1, change field.2)) key (change value) =
      (fields.insert key value).map fun field => (field.1, change field.2) := by
  induction fields with
  | nil => rfl
  | cons field rest inductionHypothesis =>
      obtain ⟨name, first⟩ := field
      rw [List.map_cons, insert, insert, inductionHypothesis]
      split <;> rfl

/-- The fields on the left hide those on the right. -/
theorem get?_append (left right : Fields α) (key : String) :
    get? (left ++ right) key = (left.get? key).or (right.get? key) := by
  induction left with
  | nil => rfl
  | cons field rest inductionHypothesis =>
      obtain ⟨name, first⟩ := field
      rw [List.cons_append, get?, get?, inductionHypothesis]
      split <;> rfl

/-- Removing one key does not hide the others. -/
theorem get?_filter_ne (fields : Fields α) {removed key : String} (other : key ≠ removed) :
    get? (fields.filter fun field => field.1 ≠ removed) key = fields.get? key := by
  induction fields with
  | nil => rfl
  | cons field rest inductionHypothesis =>
      obtain ⟨name, first⟩ := field
      rw [List.filter_cons, get?]
      by_cases isRemoved : name = removed
      · have notKey : name ≠ key := fun isKey => other (isKey.symm.trans isRemoved)
        rw [if_neg (by simpa using isRemoved), if_neg notKey, inductionHypothesis]
      · rw [if_pos (by simpa using isRemoved), get?, inductionHypothesis]

/-- Distinct fields are equal when they have the same keys in order and the same values. -/
theorem Distinct.ext {left right : Fields α} (distinct : left.Distinct)
    (named : left.keys = right.keys) (values : ∀ key, left.get? key = right.get? key) :
    left = right := by
  induction left generalizing right with
  | nil => exact (List.map_eq_nil_iff.mp named.symm).symm
  | cons field rest inductionHypothesis =>
      obtain ⟨fresh, restDistinct⟩ := (distinct_cons field rest).mp distinct
      obtain ⟨name, first⟩ := field
      cases right with
      | nil => cases named
      | cons other others =>
          obtain ⟨otherName, second⟩ := other
          obtain ⟨sameName, sameKeys⟩ := List.cons.inj named
          change keys rest = keys others at sameKeys
          cases sameName
          have sameFirst := values name
          rw [get?, get?, if_pos rfl, if_pos rfl] at sameFirst
          have sameRest : rest = others := by
            apply inductionHypothesis restDistinct sameKeys
            intro key
            -- The key of the first field is found in neither rest.
            by_cases isName : name = key
            · have absent : key ∉ keys rest := isName ▸ fresh
              have otherAbsent : key ∉ keys others := sameKeys ▸ absent
              rw [get?_eq_none_iff.mpr absent, get?_eq_none_iff.mpr otherAbsent]
            · have sameValue := values key
              rw [get?, get?, if_neg isName, if_neg isName] at sameValue
              exact sameValue
          rw [Option.some.inj sameFirst, sameRest]

/-- After an insertion every field is the new one or was there before. -/
theorem mem_insert {fields : Fields α} {key : String} {value : α} {field : String × α}
    (member : field ∈ fields.insert key value) : field = (key, value) ∨ field ∈ fields := by
  induction fields with
  | nil => exact .inl (List.mem_singleton.mp member)
  | cons first rest inductionHypothesis =>
      obtain ⟨name, old⟩ := first
      rw [insert] at member
      split at member
      · next same =>
          rcases List.mem_cons.mp member with new | later
          · exact .inl (new.trans (by rw [same]))
          · exact .inr (List.mem_cons_of_mem _ later)
      · rcases List.mem_cons.mp member with kept | later
        · exact .inr (kept ▸ List.mem_cons_self)
        · exact (inductionHypothesis later).imp_right (List.mem_cons_of_mem _)

/-- Insertions never repeat a key. -/
theorem foldl_insert_keeps_distinct (pairs : List (String × α)) (fields : Fields α)
    (distinct : fields.Distinct) :
    Distinct (pairs.foldl (fun fields pair => fields.insert pair.1 pair.2) fields) := by
  induction pairs generalizing fields with
  | nil => exact distinct
  | cons pair rest inductionHypothesis =>
      exact inductionHypothesis _ (distinct.insert pair.1 pair.2)

theorem mem_foldl_insert (pairs : List (String × α)) (fields : Fields α) {field : String × α}
    (member : field ∈ pairs.foldl (fun fields pair => fields.insert pair.1 pair.2) fields) :
    field ∈ fields ∨ field ∈ pairs := by
  induction pairs generalizing fields with
  | nil => exact .inl member
  | cons pair rest inductionHypothesis =>
      rcases inductionHypothesis _ member with early | late
      · rcases mem_insert early with same | old
        · exact .inr (same ▸ List.mem_cons_self)
        · exact .inl old
      · exact .inr (List.mem_cons_of_mem _ late)

/-- Inserted pairs leave no key twice, whatever the pairs are. -/
theorem distinct_ofList (pairs : List (String × α)) : Distinct (ofList pairs) :=
  foldl_insert_keeps_distinct pairs [] List.nodup_nil

/-- No field is made up when fields collapse. -/
theorem mem_of_mem_ofList {pairs : List (String × α)} {field : String × α}
    (member : field ∈ ofList pairs) : field ∈ pairs :=
  (mem_foldl_insert pairs [] member).resolve_left List.not_mem_nil

/-- Every pair that is inserted is kept or replaced, and none is made up. -/
theorem ofList_subperm (pairs : List (String × α)) : (ofList pairs).Subperm pairs :=
  List.subperm_of_subset (List.Nodup.of_map Prod.fst (distinct_ofList pairs))
    fun _ => mem_of_mem_ofList

/-- Fields that collapse lose parts, but gain none and repeat none. -/
theorem flatMap_ofList_subperm (pairs : List (String × α)) (parts : String × α → List β) :
    ((ofList pairs).flatMap parts).Subperm (pairs.flatMap parts) := by
  obtain ⟨kept, same, inside⟩ := ofList_subperm pairs
  exact ⟨kept.flatMap parts, same.flatMap_right parts, inside.flatMap parts⟩

/-- Fields that collapse become fewer. -/
theorem length_ofList_le (pairs : List (String × α)) : (ofList pairs).length ≤ pairs.length :=
  (ofList_subperm pairs).length_le

/-- Pairs that all find a place have different keys. -/
theorem distinct_of_length_le {pairs : List (String × α)}
    (enough : pairs.length ≤ (ofList pairs).length) : Distinct pairs := by
  have same : (ofList pairs).Perm pairs := (ofList_subperm pairs).perm_of_length_le enough
  exact (same.map Prod.fst).nodup_iff.mp (distinct_ofList pairs)

end DocumentStore.Fields

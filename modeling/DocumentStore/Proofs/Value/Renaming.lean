import DocumentStore.Proofs.Fields
import DocumentStore.Value.KeyMarkers

/-!
This file tells what a renaming of keys keeps of a value, and when another renaming takes it back.

Keys that are renamed to one key collapse into one field. So all fields are kept when no two keys of
one document become equal, and a value that comes back as it was had no such keys.
-/

namespace DocumentStore

namespace Value

mutual

/-- No document in the value repeats a key. -/
def Keyed : Value → Prop
  | array values => KeyedList values
  | document fields => Fields.Distinct fields ∧ KeyedFields fields
  | _ => True

/-- No document in an element repeats a key. -/
def KeyedList : List Value → Prop
  | [] => True
  | value :: rest => Keyed value ∧ KeyedList rest

/-- No document in the value of a field repeats a key. -/
def KeyedFields : List (String × Value) → Prop
  | [] => True
  | (_, value) :: rest => Keyed value ∧ KeyedFields rest

end

mutual

/-- These are the keys of all documents in the value, those in lists of lists included. The scope of
a piece of code is no document in the value, but belongs to the code. -/
def keysWithin : Value → List String
  | array values => keysWithinList values
  | document fields => keysWithinFields fields
  | _ => []

/-- These are the keys in all elements. -/
def keysWithinList : List Value → List String
  | [] => []
  | value :: rest => keysWithin value ++ keysWithinList rest

/-- The keys of a document stand before those in its values. -/
def keysWithinFields : List (String × Value) → List String
  | [] => []
  | (key, value) :: rest => key :: (keysWithin value ++ keysWithinFields rest)

end

variable {forth back : String → String}

/-- Before any fields collapse, the keys are renamed one by one. -/
theorem keys_renameKeysFields (rename : String → String) (fields : List (String × Value)) :
    Fields.keys (renameKeysFields rename fields) = fields.map fun field => rename field.1 := by
  induction fields with
  | nil => rfl
  | cons field rest inductionHypothesis =>
      rw [renameKeysFields, Fields.keys_cons, inductionHypothesis, List.map_cons]

/-- Before any fields collapse, there are as many as before. -/
theorem length_renameKeysFields (rename : String → String) (fields : List (String × Value)) :
    (renameKeysFields rename fields).length = fields.length := by
  induction fields with
  | nil => rfl
  | cons field rest inductionHypothesis =>
      rw [renameKeysFields, List.length_cons, List.length_cons, inductionHypothesis]

/-- A renaming that is taken back has not let any two fields collapse. -/
theorem ofList_renameKeysFields_iff {fields : Fields Value} (distinct : fields.Distinct) :
    Fields.ofList (renameKeysFields back (Fields.ofList (renameKeysFields forth fields))) = fields ↔
      renameKeysFields back (renameKeysFields forth fields) = fields := by
  constructor
  · intro same
    -- A field that collapses cannot come back, so equal lengths show that none did.
    have lengths := congrArg List.length same
    have backShorter := Fields.length_ofList_le
      (renameKeysFields back (Fields.ofList (renameKeysFields forth fields)))
    have forthShorter := Fields.length_ofList_le (renameKeysFields forth fields)
    rw [length_renameKeysFields] at backShorter forthShorter
    have forthDistinct : Fields.Distinct (renameKeysFields forth fields) := by
      apply Fields.distinct_of_length_le
      rw [length_renameKeysFields]
      omega
    rw [Fields.ofList_distinct forthDistinct] at same lengths
    have backDistinct :
        Fields.Distinct (renameKeysFields back (renameKeysFields forth fields)) := by
      apply Fields.distinct_of_length_le
      rw [length_renameKeysFields, length_renameKeysFields]
      exact Nat.le_of_eq lengths.symm
    rwa [Fields.ofList_distinct backDistinct] at same
  · intro same
    have backDistinct :
        Fields.Distinct (renameKeysFields back (renameKeysFields forth fields)) := by
      rw [same]
      exact distinct
    have forthDistinct : Fields.Distinct (renameKeysFields forth fields) := by
      have renamed := keys_renameKeysFields back (renameKeysFields forth fields)
      rw [Fields.Distinct, renamed] at backDistinct
      have split : ((renameKeysFields forth fields).map fun field => back field.1) =
          (Fields.keys (renameKeysFields forth fields)).map back := by
        rw [Fields.keys, List.map_map]
        rfl
      rw [split] at backDistinct
      exact List.Nodup.of_map back backDistinct
    rw [Fields.ofList_distinct forthDistinct, Fields.ofList_distinct backDistinct, same]

mutual

/-- A renaming is taken back when it is taken back for every key. -/
theorem renameKeys_renameKeys_iff (value : Value) (keyed : value.Keyed) :
    renameKeys back (renameKeys forth value) = value ↔
      ∀ key ∈ value.keysWithin, back (forth key) = key := by
  cases value with
  | array values =>
      rw [renameKeys, renameKeys, array.injEq, keysWithin]
      exact renameKeysList_renameKeysList_iff values keyed
  | document fields =>
      obtain ⟨distinct, keyed⟩ := keyed
      rw [renameKeys, renameKeys, document.injEq, keysWithin,
        ofList_renameKeysFields_iff distinct]
      exact renameKeysFields_renameKeysFields_iff fields keyed
  | _ => exact iff_of_true rfl (List.forall_mem_nil _)

theorem renameKeysList_renameKeysList_iff : (values : List Value) → KeyedList values →
    (renameKeysList back (renameKeysList forth values) = values ↔
      ∀ key ∈ keysWithinList values, back (forth key) = key)
  | [], _ => by simp [renameKeysList, keysWithinList]
  | value :: rest, ⟨keyed, restKeyed⟩ => by
      rw [renameKeysList, renameKeysList, List.cons.injEq, keysWithinList,
        List.forall_mem_append, renameKeys_renameKeys_iff value keyed,
        renameKeysList_renameKeysList_iff rest restKeyed]

theorem renameKeysFields_renameKeysFields_iff : (fields : List (String × Value)) →
    KeyedFields fields →
    (renameKeysFields back (renameKeysFields forth fields) = fields ↔
      ∀ key ∈ keysWithinFields fields, back (forth key) = key)
  | [], _ => by simp [renameKeysFields, keysWithinFields]
  | (key, value) :: rest, ⟨keyed, restKeyed⟩ => by
      rw [renameKeysFields, renameKeysFields, List.cons.injEq, Prod.mk.injEq, keysWithinFields,
        List.forall_mem_cons, List.forall_mem_append, renameKeys_renameKeys_iff value keyed,
        renameKeysFields_renameKeysFields_iff rest restKeyed, and_assoc]

end

section

variable {rename : String → String}

/-- The keys within a document come from its fields, which lets facts about lists carry over. -/
theorem keysWithinFields_eq_flatMap (fields : List (String × Value)) :
    keysWithinFields fields = fields.flatMap fun field => field.1 :: keysWithin field.2 := by
  induction fields with
  | nil => rfl
  | cons field rest inductionHypothesis =>
      rw [keysWithinFields, inductionHypothesis, List.flatMap_cons, List.cons_append]

/-- No field repeats a key inside when none of the values does. -/
theorem keyedFields_iff {fields : List (String × Value)} :
    KeyedFields fields ↔ ∀ field ∈ fields, field.2.Keyed := by
  induction fields with
  | nil => exact iff_of_true trivial (List.forall_mem_nil _)
  | cons field rest inductionHypothesis =>
      rw [KeyedFields, inductionHypothesis, List.forall_mem_cons]

mutual

/-- A renamed value repeats no key, because equal keys collapse. -/
theorem keyed_renameKeys (value : Value) : (renameKeys rename value).Keyed := by
  cases value with
  | array values => exact keyedList_renameKeysList values
  | document fields =>
      have fieldsKeyed := keyedFields_iff.mp (keyedFields_renameKeysFields fields)
      refine ⟨Fields.distinct_ofList _, keyedFields_iff.mpr ?_⟩
      intro field member
      exact fieldsKeyed field (Fields.mem_of_mem_ofList member)
  | _ => trivial

/-- Renamed elements repeat no keys. -/
theorem keyedList_renameKeysList : (values : List Value) →
    KeyedList (renameKeysList rename values)
  | [] => trivial
  | value :: rest => ⟨keyed_renameKeys value, keyedList_renameKeysList rest⟩

/-- The values of renamed fields repeat no keys. -/
theorem keyedFields_renameKeysFields : (fields : List (String × Value)) →
    KeyedFields (renameKeysFields rename fields)
  | [] => trivial
  | (_, value) :: rest => ⟨keyed_renameKeys value, keyedFields_renameKeysFields rest⟩

end

mutual

/-- Every key of a renamed value is the new name of a key. -/
theorem keysWithin_renameKeys (value : Value) :
    ((renameKeys rename value).keysWithin).Subperm (value.keysWithin.map rename) := by
  cases value with
  | array values => exact keysWithinList_renameKeysList values
  | document fields =>
      have kept := Fields.flatMap_ofList_subperm (renameKeysFields rename fields)
        fun field => field.1 :: keysWithin field.2
      rw [← keysWithinFields_eq_flatMap, ← keysWithinFields_eq_flatMap] at kept
      exact kept.trans (keysWithinFields_renameKeysFields fields)
  | _ => exact .refl []

theorem keysWithinList_renameKeysList : (values : List Value) →
    (keysWithinList (renameKeysList rename values)).Subperm ((keysWithinList values).map rename)
  | [] => .refl []
  | value :: rest => by
      rw [renameKeysList, keysWithinList, keysWithinList, List.map_append]
      exact (keysWithin_renameKeys value).append (keysWithinList_renameKeysList rest)

theorem keysWithinFields_renameKeysFields : (fields : List (String × Value)) →
    (keysWithinFields (renameKeysFields rename fields)).Subperm
      ((keysWithinFields fields).map rename)
  | [] => .refl []
  | (key, value) :: rest => by
      rw [renameKeysFields, keysWithinFields, keysWithinFields, List.map_cons, List.map_append,
        List.subperm_cons]
      exact (keysWithin_renameKeys value).append (keysWithinFields_renameKeysFields rest)

end

mutual

/-- A renaming that keeps every key of a value changes nothing. -/
theorem renameKeys_of_kept (value : Value) (keyed : value.Keyed)
    (kept : ∀ key ∈ value.keysWithin, rename key = key) : renameKeys rename value = value := by
  cases value with
  | array values => rw [renameKeys, renameKeysList_of_kept values keyed kept]
  | document fields =>
      obtain ⟨distinct, keyed⟩ := keyed
      rw [renameKeys, renameKeysFields_of_kept fields keyed kept, Fields.ofList_distinct distinct]
  | _ => rfl

/-- Elements whose keys are kept stay as they are. -/
theorem renameKeysList_of_kept : (values : List Value) → KeyedList values →
    (∀ key ∈ keysWithinList values, rename key = key) → renameKeysList rename values = values
  | [], _, _ => rfl
  | value :: rest, ⟨keyed, restKeyed⟩, kept => by
      rw [keysWithinList, List.forall_mem_append] at kept
      rw [renameKeysList, renameKeys_of_kept value keyed kept.1,
        renameKeysList_of_kept rest restKeyed kept.2]

/-- Fields whose keys are kept stay as they are. -/
theorem renameKeysFields_of_kept : (fields : List (String × Value)) → KeyedFields fields →
    (∀ key ∈ keysWithinFields fields, rename key = key) → renameKeysFields rename fields = fields
  | [], _, _ => rfl
  | (key, value) :: rest, ⟨keyed, restKeyed⟩, kept => by
      rw [keysWithinFields, List.forall_mem_cons, List.forall_mem_append] at kept
      rw [renameKeysFields, kept.1, renameKeys_of_kept value keyed kept.2.1,
        renameKeysFields_of_kept rest restKeyed kept.2.2]

end

mutual

/-- This gives every key its new name where it stands, also when keys become equal. -/
def relabel (rename : String → String) : Value → Value
  | array values => array (relabelList rename values)
  | document fields => document (relabelFields rename fields)
  | other => other

/-- Elements are relabelled one by one. -/
def relabelList (rename : String → String) : List Value → List Value
  | [] => []
  | value :: rest => relabel rename value :: relabelList rename rest

/-- Fields with equal new keys all stay. -/
def relabelFields (rename : String → String) : List (String × Value) → List (String × Value)
  | [] => []
  | (key, value) :: rest => (rename key, relabel rename value) :: relabelFields rename rest

end

mutual

/-- All fields of a value stay where they are when no two keys of one document become equal. -/
theorem renameKeys_eq_relabel (value : Value) (keyed : (relabel rename value).Keyed) :
    renameKeys rename value = relabel rename value := by
  cases value with
  | array values => exact congrArg array (renameKeysList_eq_relabelList values keyed)
  | document fields =>
      obtain ⟨distinct, keyed⟩ := keyed
      rw [renameKeys, relabel, renameKeysFields_eq_relabelFields fields keyed,
        Fields.ofList_distinct distinct]
  | _ => rfl

theorem renameKeysList_eq_relabelList : (values : List Value) →
    KeyedList (relabelList rename values) → renameKeysList rename values = relabelList rename values
  | [], _ => rfl
  | value :: rest, ⟨keyed, restKeyed⟩ => by
      rw [renameKeysList, relabelList, renameKeys_eq_relabel value keyed,
        renameKeysList_eq_relabelList rest restKeyed]

theorem renameKeysFields_eq_relabelFields : (fields : List (String × Value)) →
    KeyedFields (relabelFields rename fields) →
    renameKeysFields rename fields = relabelFields rename fields
  | [], _ => rfl
  | (key, value) :: rest, ⟨keyed, restKeyed⟩ => by
      rw [renameKeysFields, relabelFields, renameKeys_eq_relabel value keyed,
        renameKeysFields_eq_relabelFields rest restKeyed]

end

end

end Value

end DocumentStore

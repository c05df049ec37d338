import DocumentStore.Item
import DocumentStore.Proofs.Action
import DocumentStore.Proofs.Value.Storable

/-!
This file follows an item from its wire form into the store.

A stored item has a text that is not empty as its identifier. Its other values come from JSON, and
those that name a date have become dates.
-/

namespace DocumentStore

/-- A choice that sets the empty text apart keeps a text when the text is not empty. -/
theorem ite_isEmpty_eq_iff {α : Type} {blank : α} {keep : String → α} {text value : String}
    (apart : blank ≠ keep value) (same : keep text = keep value ↔ text = value) :
    (if text.isEmpty then blank else keep text) = keep value ↔ text = value ∧ value ≠ "" := by
  simp only [String.isEmpty_iff]
  split
  · next isEmpty =>
      apply iff_of_false apart
      intro both
      exact both.2 (both.1.symm.trans isEmpty)
  · next nonEmpty =>
      rw [same, iff_self_and]
      intro equal
      exact equal ▸ nonEmpty

namespace Value

theorem exists_json_of_mem_ofJsonFields {fields : Fields Json} {field : String × Value}
    (member : field ∈ ofJsonFields fields) : ∃ json, field.2 = ofJson json := by
  rw [ofJsonFields_eq_map] at member
  obtain ⟨source, -, same⟩ := List.mem_map.mp member
  exact ⟨source.2, congrArg Prod.snd same.symm⟩

end Value

namespace Item

/-- This is the item as it is read from its wire form, maybe with a fresh identifier. -/
structure Parsed (item : Item) : Prop where
  distinct : item.Distinct
  values : ∀ field ∈ item, ∃ json, field.2 = Value.ofJson json

/-- A settled item is ready to be stored. -/
structure Settled (item : Item) : Prop where
  distinct : item.Distinct
  identified : ∃ id, id ≠ "" ∧ item.get? idKey = some (.string id)
  decoded : ∀ field ∈ item, field.1 ≠ idKey → ∃ json, field.2 = (Value.ofJson json).decodeDate

/-- Items from the wire repeat no key and hold what was read from JSON. -/
theorem parsed_ofWire (item : WireItem) : (Item.ofWire item).Parsed where
  distinct := Fields.distinct_ofList _
  values _ member := Value.exists_json_of_mem_ofJsonFields (Fields.mem_of_mem_ofList member)

/-- Nothing collapses in an item whose keys are distinct. -/
theorem ofWire_eq_map {wire : WireItem} (distinct : Fields.Distinct wire) :
    ofWire wire = wire.map fun field => (field.1, Value.ofJson field.2) :=
  Value.ofList_ofJsonFields distinct

/-- A field of the item is read from the field of the same key. -/
theorem get?_ofWire {wire : WireItem} (distinct : Fields.Distinct wire) (key : String) :
    (ofWire wire).get? key = (Fields.get? wire key).map Value.ofJson := by
  rw [ofWire_eq_map distinct]
  exact Fields.get?_mapValues wire (fun _ => Value.ofJson) key

/-- A generated identifier keeps the item parsed. -/
theorem Parsed.insertId {item : Item} (parsed : item.Parsed) (id : String) :
    Item.Parsed (item.insert idKey (.string id)) where
  distinct := parsed.distinct.insert idKey (.string id)
  values field member := by
    rcases Fields.mem_insert member with new | old
    · exact ⟨.string id, congrArg Prod.snd new⟩
    · exact parsed.values field old

/-- Every field is decoded but the identifier. -/
theorem get?_decodeDates (item : Item) (key : String) :
    item.decodeDates.get? key =
      (item.get? key).map fun value => if key = idKey then value else value.decodeDate :=
  Fields.get?_mapValues item (fun name value => if name = idKey then value else value.decodeDate)
    key

/-- An identifier is not read as a date. -/
theorem get?_decodeDates_id (item : Item) : item.decodeDates.get? idKey = item.get? idKey := by
  rw [get?_decodeDates]
  cases item.get? idKey <;> rfl

/-- A parsed item with an identifier is settled once its dates are decoded. -/
theorem Parsed.settle {item : Item} (parsed : item.Parsed) {id : String} (named : id ≠ "")
    (known : item.get? idKey = some (.string id)) : item.decodeDates.Settled where
  distinct := by
    have sameKeys : item.decodeDates.keys = item.keys := Fields.keys_mapValues item
      fun name value => if name = idKey then value else value.decodeDate
    rw [Fields.Distinct, sameKeys]
    exact parsed.distinct
  identified := ⟨id, named, by rw [get?_decodeDates_id, known]⟩
  decoded field member other := by
    obtain ⟨source, sourceMember, rfl⟩ := List.mem_map.mp member
    obtain ⟨json, value⟩ := parsed.values source sourceMember
    refine ⟨json, ?_⟩
    rw [← value]
    exact if_neg other

theorem Settled.storable {item : Item} (settled : item.Settled) : item.Storable where
  distinct := settled.distinct
  values field member := by
    by_cases isId : field.1 = idKey
    · obtain ⟨id, -, known⟩ := settled.identified
      have found := settled.distinct.get?_of_mem member
      rw [isId, known] at found
      rw [← Option.some.inj found]
      exact .string id
    · obtain ⟨json, value⟩ := settled.decoded field member isId
      rw [value]
      exact (Value.storable_ofJson json).decodeDate

/-- An item has an identifier when its field holds a text that is not empty. -/
theorem id?_eq_some_iff {item : Item} {id : String} :
    item.id? = .ok (some id) ↔ item.get? idKey = some (.string id) ∧ id ≠ "" := by
  unfold id?
  split
  · next absent => simp [absent]
  · next absent => simp [absent]
  · next text found =>
      have choice : (if text.isEmpty then none else some text) = some id ↔ text = id ∧ id ≠ "" :=
        ite_isEmpty_eq_iff nofun (Option.some.injEq text id).to_iff
      simpa [found] using choice
  · next other notText found =>
      simp only [reduceCtorEq, false_iff, found, not_and]
      intro same
      exact absurd (Option.some.inj same) (notText id)

/-- An item without an identifier takes the fresh one. -/
theorem withId_of_none {item : Item} (absent : item.id? = .ok none) (fresh : String) :
    item.withId fresh = .ok (fresh, item.insert idKey (.string fresh)) := by
  rw [withId, absent]
  rfl

/-- An identifier that is already there stays. -/
theorem withId_of_some {item : Item} {id : String} (known : item.id? = .ok (some id))
    (fresh : String) : item.withId fresh = .ok (id, item) := by
  rw [withId, known]
  rfl

/-- A chosen identifier is the one that the item holds from then on. -/
theorem withId_eq_ok {item : Item} (parsed : item.Parsed) {fresh : String} (named : fresh ≠ "")
    {id : String} {chosen : Item} (done : item.withId fresh = .ok (id, chosen)) :
    chosen.Parsed ∧ chosen.get? idKey = some (.string id) ∧ id ≠ "" := by
  unfold withId at done
  obtain ⟨found, read, done⟩ := Outcome.bind_eq_ok.mp done
  cases found with
  | none =>
      cases done
      refine ⟨parsed.insertId fresh, ?_, named⟩
      rw [Fields.get?_insert, if_pos rfl]
  | some known =>
      cases done
      obtain ⟨holds, nonEmpty⟩ := id?_eq_some_iff.mp read
      exact ⟨parsed, holds, nonEmpty⟩

end Item

end DocumentStore

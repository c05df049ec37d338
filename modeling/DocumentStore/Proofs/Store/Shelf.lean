import DocumentStore.Proofs.Item
import DocumentStore.Store.Basic

/-!
This file shows the items of a collection as a shelf, on which every item stands under its own
identifier. What a store does to the items by search, a shelf does by key.
-/

namespace DocumentStore

namespace Item

/-- This is the identifier of an item, and an item without one has the empty text. -/
def idText (item : Item) : String :=
  match item.get? idKey with
  | some (.string id) => id
  | _ => ""

/-- The text of an identifier is read back from its field. -/
theorem idText_eq {item : Item} {id : String} (known : item.get? idKey = some (.string id)) :
    item.idText = id := by
  rw [idText, known]

/-- A settled item has its identifier as text. -/
theorem Settled.get?_id {item : Item} (settled : item.Settled) :
    item.get? idKey = some (.string item.idText) := by
  obtain ⟨id, -, known⟩ := settled.identified
  rw [idText_eq known, known]

theorem Settled.idText_ne {item : Item} (settled : item.Settled) : item.idText ≠ "" := by
  obtain ⟨id, named, known⟩ := settled.identified
  rw [idText_eq known]
  exact named

/-- The search for an identifier compares texts. -/
theorem Settled.hasId_iff {item : Item} (settled : item.Settled) (id : String) :
    item.hasId id = true ↔ item.idText = id := by
  rw [hasId, settled.get?_id]
  exact decide_eq_true_iff

/-- The identifier of a settled item is never refused. -/
theorem Settled.requireId_eq {item : Item} (settled : item.Settled) :
    item.requireId = .ok item.idText := by
  rw [requireId, settled.get?_id]

end Item

/-- A shelf keeps items under their identifiers in order of insertion. -/
abbrev Shelf :=
  Fields Item

/-- This puts every item under its own identifier. -/
def shelve (items : List Item) : Shelf :=
  items.map fun item => (item.idText, item)

namespace Shelf

/-- No two items share an identifier, and every item is settled. -/
structure Sound (shelf : Shelf) : Prop where
  distinct : shelf.Distinct
  own : ∀ entry ∈ shelf, entry.2.idText = entry.1
  settled : ∀ entry ∈ shelf, entry.2.Settled

/-- These are the items on a shelf in order. -/
def items (shelf : Shelf) : List Item :=
  shelf.map Prod.snd

/-- The item takes the place of the one with the same identifier. -/
def replace (shelf : Shelf) (id : String) (item : Item) : Shelf :=
  shelf.map fun entry => (entry.1, if entry.1 = id then item else entry.2)

/-- Removing an identifier keeps the order of the others. -/
def remove (shelf : Shelf) (id : String) : Shelf :=
  shelf.filter fun entry => entry.1 ≠ id

/-- A replacement goes through the entries one by one. -/
theorem replace_cons (entry : String × Item) (shelf : Shelf) (id : String) (item : Item) :
    replace (entry :: shelf) id item =
      (entry.1, if entry.1 = id then item else entry.2) :: shelf.replace id item := rfl

/-- Nothing is replaced under an unknown identifier. -/
theorem replace_of_notMem {shelf : Shelf} {key : String} (absent : key ∉ shelf.keys)
    (item : Item) : shelf.replace key item = shelf := by
  have unchanged : ∀ entry ∈ shelf,
      (entry.1, if entry.1 = key then item else entry.2) = id entry := by
    intro entry member
    have different : entry.1 ≠ key := by
      intro same
      exact absent (same ▸ Fields.mem_keys_of_mem member)
    rw [if_neg different]
    rfl
  exact (List.map_congr_left unchanged).trans (List.map_id shelf)

/-- An item that takes its own place changes nothing. -/
theorem replace_self {shelf : Shelf} (distinct : shelf.Distinct) {id : String} {item : Item}
    (known : shelf.get? id = some item) : shelf.replace id item = shelf := by
  have unchanged : ∀ entry ∈ shelf, (entry.1, if entry.1 = id then item else entry.2) = entry := by
    intro entry member
    split
    · next same =>
        have own := distinct.get?_of_mem member
        rw [same, known] at own
        rw [Option.some.inj own]
    · rfl
  exact (List.map_congr_left unchanged).trans (List.map_id shelf)

/-- A replaced item is found under its identifier. -/
theorem get?_replace_self {shelf : Shelf} {id : String} (member : id ∈ shelf.keys) (item : Item) :
    (shelf.replace id item).get? id = some item := by
  obtain ⟨old, known⟩ := Fields.mem_keys_iff.mp member
  have replaced := Fields.get?_mapValues shelf (fun key old => if key = id then item else old) id
  rw [known, Option.map_some, if_pos rfl] at replaced
  exact replaced

/-- Nothing is removed under an unknown identifier. -/
theorem remove_of_notMem {shelf : Shelf} {id : String} (absent : id ∉ shelf.keys) :
    shelf.remove id = shelf := by
  apply List.filter_eq_self.mpr
  intro entry member
  have different : entry.1 ≠ id := by
    intro same
    exact absent (same ▸ Fields.mem_keys_of_mem member)
  simpa using different

/-- Removing the last item again only leaves what would be left without it. -/
theorem remove_append_own (shelf : Shelf) (id : String) (item : Item) :
    remove (shelf ++ [(id, item)]) id = shelf.remove id := by
  simp [remove]

/-- An item that is removed may have been replaced before. -/
theorem remove_replace (shelf : Shelf) (id : String) (item : Item) :
    (shelf.replace id item).remove id = shelf.remove id := by
  induction shelf with
  | nil => rfl
  | cons entry rest inductionHypothesis =>
      unfold remove replace at inductionHypothesis ⊢
      rw [List.map_cons, List.filter_cons, List.filter_cons, inductionHypothesis]
      by_cases same : entry.1 = id
      · simp [same]
      · simp [same]

/-- What has been removed once is gone. -/
theorem remove_remove (shelf : Shelf) (id : String) :
    (shelf.remove id).remove id = shelf.remove id := by
  simp [remove]

/-- An empty shelf is sound. -/
theorem sound_nil : Sound [] :=
  ⟨List.nodup_nil, List.forall_mem_nil _, List.forall_mem_nil _⟩

/-- A settled item with a fresh identifier may be put at the end. -/
theorem Sound.append {shelf : Shelf} (sound : shelf.Sound) {item : Item} (settled : item.Settled)
    (fresh : item.idText ∉ shelf.keys) : Sound (shelf ++ [(item.idText, item)]) where
  distinct := by
    have disjoint : shelf.keys.Disjoint [item.idText] := by
      intro id member same
      rw [List.mem_singleton.mp same] at member
      exact fresh member
    rw [Fields.Distinct, Fields.keys, List.map_append]
    exact sound.distinct.append (List.nodup_singleton _) disjoint
  own entry member := by
    rcases List.mem_append.mp member with old | new
    · exact sound.own entry old
    · rw [List.mem_singleton.mp new]
  settled entry member := by
    rcases List.mem_append.mp member with old | new
    · exact sound.settled entry old
    · rw [List.mem_singleton.mp new]
      exact settled

/-- A settled item may take the place of another under its identifier. -/
theorem Sound.replace {shelf : Shelf} (sound : shelf.Sound) {item : Item}
    (settled : item.Settled) : Sound (shelf.replace item.idText item) where
  distinct := by
    have sameKeys : Fields.keys (shelf.replace item.idText item) = shelf.keys :=
      Fields.keys_mapValues shelf fun id old => if id = item.idText then item else old
    rw [Fields.Distinct, sameKeys]
    exact sound.distinct
  own entry member := by
    obtain ⟨old, oldMember, rfl⟩ := List.mem_map.mp member
    by_cases same : old.1 = item.idText
    · simp [same]
    · simp [same, sound.own old oldMember]
  settled entry member := by
    obtain ⟨old, oldMember, rfl⟩ := List.mem_map.mp member
    by_cases same : old.1 = item.idText
    · simp [same, settled]
    · simp [same, sound.settled old oldMember]

/-- A sound shelf stays sound when an item is removed. -/
theorem Sound.remove {shelf : Shelf} (sound : shelf.Sound) (id : String) :
    Sound (shelf.remove id) where
  distinct := sound.distinct.sublist (List.filter_sublist.map Prod.fst)
  own entry member := sound.own entry (List.mem_of_mem_filter member)
  settled entry member := sound.settled entry (List.mem_of_mem_filter member)

/-- These are the items with other identifiers. -/
theorem Sound.items_remove {shelf : Shelf} (sound : shelf.Sound) (id : String) :
    (shelf.remove id).items = shelf.items.filter fun item => item.idText ≠ id := by
  unfold items Shelf.remove
  rw [List.filter_map]
  apply congrArg
  apply List.filter_congr
  intro entry member
  rw [Function.comp_apply, sound.own entry member]

theorem items_cons (entry : String × Item) (shelf : Shelf) :
    items (entry :: shelf) = entry.2 :: shelf.items := rfl

/-- At most one item of a shelf has an identifier. -/
theorem Sound.filter_idText {shelf : Shelf} (sound : shelf.Sound) (id : String) :
    (shelf.items.filter fun item => item.idText = id) = (shelf.get? id).toList := by
  induction shelf with
  | nil => rfl
  | cons entry rest inductionHypothesis =>
      obtain ⟨fresh, restDistinct⟩ := (Fields.distinct_cons entry rest).mp sound.distinct
      have restSound : Shelf.Sound rest :=
        ⟨restDistinct, (List.forall_mem_cons.mp sound.own).2,
          (List.forall_mem_cons.mp sound.settled).2⟩
      have later := inductionHypothesis restSound
      have own : entry.2.idText = entry.1 := sound.own entry List.mem_cons_self
      rw [items_cons, List.filter_cons, later, own]
      by_cases same : entry.1 = id
      · have absent : Fields.get? rest id = none := Fields.get?_eq_none_iff.mpr (same ▸ fresh)
        simp [Fields.get?, same, absent]
      · simp [Fields.get?, same]

/-- No item stands under the empty text. -/
theorem Sound.get?_blank {shelf : Shelf} (sound : shelf.Sound) : shelf.get? "" = none := by
  apply Fields.get?_eq_none_iff.mpr
  intro blank
  obtain ⟨entry, member, isBlank⟩ := List.mem_map.mp blank
  apply (sound.settled entry member).idText_ne
  rw [sound.own entry member, isBlank]

end Shelf

/-- The items on the shelf of a list are those of the list. -/
theorem items_shelve (items : List Item) : Shelf.items (shelve items) = items := by
  simp [Shelf.items, shelve, Function.comp_def]

theorem shelve_cons (item : Item) (rest : List Item) :
    shelve (item :: rest) = (item.idText, item) :: shelve rest := rfl

/-- A new item stands at the end of the shelf. -/
theorem shelve_append (items : List Item) (item : Item) :
    shelve (items ++ [item]) = shelve items ++ [(item.idText, item)] := by
  simp [shelve]

/-- The search for an identifier finds what stands under it. -/
theorem find?_hasId {items : List Item} (settled : ∀ item ∈ items, item.Settled) (id : String) :
    items.find? (Item.hasId id) = (shelve items).get? id := by
  induction items with
  | nil => rfl
  | cons item rest inductionHypothesis =>
      rw [List.forall_mem_cons] at settled
      have later := inductionHypothesis settled.2
      rw [List.find?_cons]
      by_cases same : item.idText = id
      · rw [(settled.1.hasId_iff id).mpr same]
        simp [shelve, Fields.get?, same]
      · have different : item.hasId id = false := by
          rw [← Bool.not_eq_true, settled.1.hasId_iff]
          exact same
        rw [different]
        simpa [shelve, Fields.get?, same] using later

/-- Some item has an identifier exactly when it stands on the shelf. -/
theorem any_hasId_iff {items : List Item} (settled : ∀ item ∈ items, item.Settled) (id : String) :
    items.any (Item.hasId id) = true ↔ id ∈ (shelve items).keys := by
  rw [List.any_eq_true]
  have keys : (shelve items).keys = items.map Item.idText := by
    simp [Fields.keys, shelve, Function.comp_def]
  rw [keys, List.mem_map]
  apply exists_congr
  intro item
  apply and_congr_right
  intro member
  exact (settled item member).hasId_iff id

/-- A search that stops at the first item deletes the only one. -/
theorem shelve_eraseP {items : List Item} (settled : ∀ item ∈ items, item.Settled)
    (distinct : (shelve items).Distinct) (id : String) :
    shelve (items.eraseP (Item.hasId id)) = (shelve items).remove id := by
  induction items with
  | nil => rfl
  | cons item rest inductionHypothesis =>
      rw [List.forall_mem_cons] at settled
      obtain ⟨fresh, restDistinct⟩ := (Fields.distinct_cons _ _).mp distinct
      by_cases same : item.idText = id
      · have isFirst : item.hasId id = true := (settled.1.hasId_iff id).mpr same
        have others : Shelf.remove (shelve rest) id = shelve rest :=
          Shelf.remove_of_notMem (same ▸ fresh)
        rw [List.eraseP_cons_of_pos isFirst, ← others]
        simp [shelve, Shelf.remove, same]
      · have notFirst : ¬ item.hasId id = true := by
          rw [settled.1.hasId_iff]
          exact same
        have later := inductionHypothesis settled.2 restDistinct
        rw [List.eraseP_cons_of_neg notFirst]
        simpa [shelve, Shelf.remove, same] using later

/-- An item that is found is replaced in its place, and no item is added. -/
theorem shelve_replaceFirst {items : List Item} (settled : ∀ item ∈ items, item.Settled)
    (distinct : (shelve items).Distinct) (item : Item) :
    (Store.replaceFirst item.idText item items).map shelve =
      if item.idText ∈ (shelve items).keys then some (Shelf.replace (shelve items) item.idText item)
      else none := by
  induction items with
  | nil => rfl
  | cons first rest inductionHypothesis =>
      rw [List.forall_mem_cons] at settled
      obtain ⟨fresh, restDistinct⟩ := (Fields.distinct_cons _ _).mp distinct
      by_cases same : first.idText = item.idText
      · have isFirst : first.hasId item.idText = true := (settled.1.hasId_iff _).mpr same
        -- Identifiers are distinct, so the replacement leaves the rest of the shelf.
        have others : Shelf.replace (shelve rest) item.idText item = shelve rest :=
          Shelf.replace_of_notMem (same ▸ fresh) item
        have member : item.idText ∈ (shelve (first :: rest)).keys := same ▸ List.mem_cons_self
        rw [Store.replaceFirst, if_pos isFirst, if_pos member, Option.map_some, shelve_cons,
          shelve_cons, Shelf.replace_cons, others, if_pos same, same]
      · have notFirst : ¬ first.hasId item.idText = true := by
          rw [settled.1.hasId_iff]
          exact same
        have later := inductionHypothesis settled.2 restDistinct
        have members : item.idText ∈ (shelve (first :: rest)).keys ↔
            item.idText ∈ (shelve rest).keys :=
          List.mem_cons.trans (or_iff_right (Ne.symm same))
        have keepsFirst : shelve ∘ (first :: ·) = ((first.idText, first) :: ·) ∘ shelve := rfl
        rw [Store.replaceFirst, if_neg notFirst, Option.map_map, keepsFirst, ← Option.map_map,
          later]
        simp only [members]
        split
        · rw [shelve_cons, Shelf.replace_cons, if_neg same, Option.map_some]
        · rfl

end DocumentStore

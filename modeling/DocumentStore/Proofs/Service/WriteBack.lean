import DocumentStore.Proofs.Service.History
import DocumentStore.Proofs.Service.Lookup

/-!
This file tells what happens when an item is written back as it was given out. The store stays as it
was, unless the item has a date in a year that does not have four digits.
-/

namespace DocumentStore

open DocumentStore.Action

namespace Item

/-- This is what is read from the wire form of a stored item. -/
def returned (item : Item) : Item :=
  item.map fun (key, value) => (key, if key = idKey then value else value.returned)

/-- All dates of the item lie in years of four digits. -/
def HasNearDates (item : Item) : Prop :=
  ∀ field ∈ item, ∀ instant, field.2 = .date instant → instant.HasFourDigitYear

variable {item : Item}

/-- An item that is given out repeats no key, so nothing collapses when it is read again. -/
theorem ofWire_outbound (distinct : item.Distinct) :
    ofWire item.outbound =
      item.map fun field => (field.1, Value.ofJson field.2.encodeDate.toJson) := by
  have sameKeys : Fields.keys item.outbound = item.keys := by
    rw [outbound_eq_map]
    exact Fields.keys_mapValues item fun _ value => value.encodeDate.toJson
  have outDistinct : Fields.Distinct item.outbound := by
    rw [Fields.Distinct, sameKeys]
    exact distinct
  rw [ofWire_eq_map outDistinct, outbound_eq_map, List.map_map]
  rfl

/-- The identifier of a settled item is its text. -/
theorem Settled.value_of_id (settled : item.Settled) {field : String × Value}
    (member : field ∈ item) (isId : field.1 = idKey) : field.2 = .string item.idText := by
  have found := settled.distinct.get?_of_mem member
  rw [isId, settled.get?_id] at found
  exact (Option.some.inj found).symm

/-- What is given out is read and decoded to what comes back. -/
theorem Settled.decodeDates_ofWire (settled : item.Settled) :
    (ofWire item.outbound).decodeDates = item.returned := by
  rw [ofWire_outbound settled.distinct, decodeDates, returned, List.map_map]
  apply List.map_congr_left
  intro field member
  by_cases isId : field.1 = idKey
  · simp only [Function.comp_apply, isId, if_true, settled.value_of_id member isId]
    rfl
  · simp only [Function.comp_apply, isId, if_false]
    rfl

/-- An item comes back as it was when all its dates come back. -/
theorem Settled.returned_eq_self_iff (settled : item.Settled) :
    item.returned = item ↔ item.HasNearDates := by
  have same : item.returned = item.map id ↔
      ∀ field ∈ item, (if field.1 = idKey then field.2 else field.2.returned) = field.2 := by
    rw [returned, List.map_inj_left]
    simp [Prod.ext_iff]
  rw [List.map_id] at same
  rw [same]
  apply forall₂_congr
  intro field member
  by_cases isId : field.1 = idKey
  · have noDate : ∀ instant, field.2 ≠ .date instant := by
      rw [settled.value_of_id member isId]
      nofun
    rw [if_pos isId]
    exact iff_of_true rfl fun instant dated => absurd dated (noDate instant)
  · obtain ⟨json, decoded⟩ := settled.decoded field member isId
    rw [if_neg isId]
    exact Value.returned_eq_self_iff json decoded

/-- What comes back is given out in the same form. -/
theorem Settled.outbound_returned (settled : item.Settled) :
    item.returned.outbound = item.outbound := by
  rw [outbound_eq_map, outbound_eq_map, returned, List.map_map]
  apply List.map_congr_left
  intro field member
  by_cases isId : field.1 = idKey
  · simp [isId]
  · obtain ⟨json, decoded⟩ := settled.decoded field member isId
    simp [isId, Value.toJson_encodeDate_returned json decoded]

end Item

/-- This asks to replace an item by what has been given out. -/
def ItemRequest.writeBack (collection : String) (item : WireItem) : ItemRequest where
  collectionName := some collection
  item := some item

namespace Service

variable {store : Store}

/-- An item that is given out may be sent back as it is. -/
theorem replacement_writeBack {collection : String} (titled : collection ≠ "") {item : Item}
    (settled : item.Settled) :
    (ItemRequest.writeBack collection item.outbound).replacement =
      .ok (collection, item.idText, item.returned) := by
  have named : requireCollection (some collection) = .ok collection :=
    requireText_eq_ok_iff.mpr ⟨rfl, titled⟩
  have known : (Item.ofWire item.outbound).get? idKey = some (.string item.idText) := by
    have read := Fields.get?_mapValues item
      (fun _ value => Value.ofJson (Value.toJson (Value.encodeDate value))) idKey
    rw [settled.get?_id] at read
    rw [Item.ofWire_outbound settled.distinct]
    exact read
  have identified : (Item.ofWire item.outbound).id? = .ok (some item.idText) :=
    Item.id?_eq_some_iff.mpr ⟨known, settled.idText_ne⟩
  have required : requireItem (some item.outbound) = .ok (Item.ofWire item.outbound) := rfl
  unfold ItemRequest.replacement ItemRequest.writeBack
  rw [named, required, ← settled.decodeDates_ofWire]
  change ((Item.ofWire item.outbound).id? >>= _) = _
  rw [identified]
  rfl

/-- An item that is written back as it was given out is accepted and given out again. What is read
from its wire form takes its place, and the store stays as it was when all dates of the item lie in
years of four digits. -/
theorem update_given (reachable : store.Reachable) {collection : String} {item : Item}
    (member : item ∈ store.items collection) :
    givenItem store collection item.idText = [item.outbound] ∧
      ∃ next, update Store.handle (.writeBack collection item.outbound) store =
          (.ok ⟨item.outbound⟩, next) ∧
        next.catalog = store.catalog.put collection
          ((store.catalog.shelf collection).replace item.idText item.returned) ∧
        (next = store ↔ item.HasNearDates) := by
  have sound := reachable.sound
  have settled := Store.settled_of_sound sound collection item member
  have known := Store.get?_shelf sound member
  have inside : item.idText ∈ (store.catalog.shelf collection).keys :=
    Fields.mem_keys_iff.mpr ⟨item, known⟩
  have opened := sound.opened_of_mem inside
  have titled := sound.titled collection opened
  obtain ⟨next, updated, view⟩ :=
    update_run_of_mem sound (replacement_writeBack titled settled) inside
  rw [settled.outbound_returned] at updated
  refine ⟨?_, next, updated, view, ?_⟩
  · rw [givenItem_eq sound titled, known]
    rfl
  · rw [← settled.returned_eq_self_iff]
    constructor
    · intro unchanged
      -- The shelf tells what was stored, so an unchanged store holds the item that came back.
      have shelves := congrArg (fun catalog => catalog.shelf collection) view
      rw [unchanged, Catalog.shelf_put, if_pos rfl] at shelves
      have replaced := Shelf.get?_replace_self inside item.returned
      rw [← shelves, known] at replaced
      exact (Option.some.inj replaced).symm
    · intro same
      rw [same, Shelf.replace_self (sound.shelves collection).distinct known,
        Catalog.put_self opened] at view
      exact Store.eq_of_catalog_eq sound.distinct view

/-- This adds an item with a date in the year 1970 and an item with a date in the year 10000. -/
def addVisits : List Operation :=
  [.insert "visit" (by decide)
    { collectionName := some "visits",
      item := some [("_id", .string "near"), ("at", .string "1970-01-01T00:00:00.000")] },
  .insert "visit" (by decide)
    { collectionName := some "visits",
      item := some [("_id", .string "far"), ("at", .string "9999-12-31T23:30:00.000-01:00")] }]

/-- The first item can be written back, and the second one is changed by it. -/
theorem update_given_visits :
    ∃ near far : Store,
      update Store.handle
          (.writeBack "visits"
            [("_id", .string "near"),
              ("at", .object [("date", .string "1970-01-01T00:00:00.000")])])
          (storeAfter addVisits) =
        (.ok ⟨[("_id", .string "near"),
          ("at", .object [("date", .string "1970-01-01T00:00:00.000")])]⟩, near) ∧
      near = storeAfter addVisits ∧
      update Store.handle
          (.writeBack "visits"
            [("_id", .string "far"),
              ("at", .object [("date", .string "+10000-01-01T00:30:00.000")])])
          (storeAfter addVisits) =
        (.ok ⟨[("_id", .string "far"),
          ("at", .object [("date", .string "+10000-01-01T00:30:00.000")])]⟩, far) ∧
      far ≠ storeAfter addVisits := by
  have reachable : Store.Reachable (storeAfter addVisits) := ⟨addVisits, rfl⟩
  let nearItem : Item := [("_id", .string "near"), ("at", .date ⟨0⟩)]
  let farItem : Item := [("_id", .string "far"), ("at", .date ⟨253402302600000⟩)]
  have items : (storeAfter addVisits).items "visits" = [nearItem, farItem] := rfl
  have nearMember : nearItem ∈ (storeAfter addVisits).items "visits" := by
    rw [items]
    exact List.mem_cons_self
  have farMember : farItem ∈ (storeAfter addVisits).items "visits" := by
    rw [items]
    exact List.mem_cons_of_mem _ List.mem_cons_self
  obtain ⟨-, near, nearUpdated, -, nearKept⟩ := update_given reachable nearMember
  obtain ⟨-, far, farUpdated, -, farKept⟩ := update_given reachable farMember
  have nearDates : nearItem.HasNearDates := by
    intro field member instant dated
    rcases List.mem_cons.mp member with rfl | last
    · cases dated
    · rw [List.mem_singleton.mp last] at dated
      cases dated
      decide
  have farDates : ¬ farItem.HasNearDates := by
    intro nearAll
    have year := nearAll ("at", .date ⟨253402302600000⟩)
      (List.mem_cons_of_mem _ List.mem_cons_self) _ rfl
    exact absurd year (by decide)
  exact ⟨near, far, nearUpdated, nearKept.mpr nearDates, farUpdated, mt farKept.mp farDates⟩

end Service

end DocumentStore

import DocumentStore.Proofs.Service.WriteBack
import DocumentStore.Proofs.Value.Normal

/-!
This file follows an item from its insertion to later requests for it. The item is given out in its
normal form, and no operation on other items changes that.
-/

namespace DocumentStore

open DocumentStore.Action

namespace WireItem

/-- This is the identifier that an item is added under. The fresh one stands in for a missing, null
or empty one, and an identifier that is no text is refused. -/
def chosenId? (wire : WireItem) (fresh : String) : Option String :=
  match Fields.get? wire idKey with
  | none => some fresh
  | some .null => some fresh
  | some (.string text) => some (if text = "" then fresh else text)
  | some _ => none

/-- This is the form in which an item is given out after it has been added. The identifier stays a
text whatever it looks like. -/
def normalForm (wire : WireItem) (id : String) : WireItem :=
  (Fields.insert wire idKey (.string id)).map fun (key, value) =>
    (key, if key = idKey then value else value.settled)

/-- All keys keep their places, and an identifier that is missing comes last. -/
theorem keys_normalForm (wire : WireItem) (id : String) :
    Fields.keys (wire.normalForm id) =
      if idKey ∈ Fields.keys wire then Fields.keys wire else Fields.keys wire ++ [idKey] := by
  have sameKeys := Fields.keys_mapValues (Fields.insert wire idKey (.string id))
    fun key value => if key = idKey then value else value.settled
  exact sameKeys.trans (Fields.keys_insert wire idKey (.string id))

/-- Every field of the normal form is settled but the identifier. -/
theorem get?_normalForm (wire : WireItem) (id key : String) :
    Fields.get? (wire.normalForm id) key =
      if key = idKey then some (.string id) else (Fields.get? wire key).map Json.settled := by
  have found := Fields.get?_mapValues (Fields.insert wire idKey (.string id))
    (fun key value => if key = idKey then value else value.settled) key
  rw [Fields.get?_insert] at found
  refine found.trans ?_
  by_cases isId : key = idKey
  · simp [isId]
  · simp [isId, Ne.symm isId]

end WireItem

namespace Item

/-- An item that is read from its wire form takes the identifier that is chosen for it. -/
theorem withId_ofWire {wire : WireItem} (distinct : Fields.Distinct wire) {fresh id : String}
    (chosen : wire.chosenId? fresh = some id) :
    (ofWire wire).withId fresh =
      .ok (id, Fields.insert (ofWire wire) idKey (.string id)) := by
  have known := get?_ofWire distinct idKey
  unfold WireItem.chosenId? at chosen
  split at chosen
  · next absent =>
      cases chosen
      rw [absent] at known
      exact withId_of_none (by rw [id?, known]; rfl) fresh
  · next absent =>
      cases chosen
      rw [absent] at known
      exact withId_of_none (by rw [id?, known]; rfl) fresh
  · next text own =>
      rw [own] at known
      have stored : (ofWire wire).get? idKey = some (.string text) := known
      by_cases blank : text = ""
      · rw [if_pos blank] at chosen
        cases chosen
        subst blank
        exact withId_of_none (by rw [id?, stored]; rfl) fresh
      · rw [if_neg blank] at chosen
        cases chosen
        rw [Fields.insert_of_get? stored]
        exact withId_of_some (id?_eq_some_iff.mpr ⟨stored, blank⟩) fresh
  · cases chosen

/-- What has been added is given out in its normal form. -/
theorem outbound_normalForm {wire : WireItem} (keyed : Json.Keyed (.object wire)) (id : String) :
    (decodeDates (Fields.insert (ofWire wire) idKey (.string id))).outbound =
      wire.normalForm id := by
  obtain ⟨distinct, valuesKeyed⟩ := keyed
  have read : Fields.insert (ofWire wire) idKey (.string id) =
      (Fields.insert wire idKey (.string id)).map fun field => (field.1, Value.ofJson field.2) := by
    rw [ofWire_eq_map distinct]
    exact Fields.insert_mapValues wire Value.ofJson idKey (.string id)
  rw [read, outbound_eq_map, decodeDates, WireItem.normalForm, List.map_map, List.map_map]
  apply List.map_congr_left
  intro field member
  by_cases isId : field.1 = idKey
  · have own := (distinct.insert idKey (.string id)).get?_of_mem member
    rw [Fields.get?_insert, if_pos isId.symm] at own
    simp only [Function.comp_apply, isId, if_true, ← Option.some.inj own]
    rfl
  · have old : field ∈ wire := by
      rcases Fields.mem_insert member with new | old
      · exact absurd (congrArg Prod.fst new) isId
      · exact old
    have settled := Value.toJson_decodeDate (Json.keyed_of_mem valuesKeyed old)
    simp only [Function.comp_apply, isId, if_false, settled]

end Item

/-- An identifier that no stored item has is not on the shelf. -/
theorem Store.notMem_shelf_of_free {store : Store} (sound : store.catalog.Sound)
    {collection id : String}
    (free : ∀ item ∈ store.items collection, item.get? idKey ≠ some (.string id)) :
    id ∉ (store.catalog.shelf collection).keys := by
  intro member
  obtain ⟨entry, entryMember, isId⟩ := List.mem_map.mp member
  obtain ⟨item, itemMember, rfl⟩ := List.mem_map.mp entryMember
  have own : item.idText = id := isId
  apply free item itemMember
  rw [(Store.settled_of_sound sound collection item itemMember).get?_id, own]

/-- An operation alters an item when it is to replace or to remove it. -/
def Operation.Alters : Operation → String → String → Prop
  | .update request, collection, id => ∃ item, request.replacement = .ok (collection, id, item)
  | .remove request, collection, id => request.address = .ok (collection, id)
  | _, _, _ => False

namespace Catalog

variable {collection id : String} {item : Item}

/-- An item stays on its shelf until an operation alters it. -/
theorem get?_shelf_of_change {catalog next : Catalog} {operation : Operation}
    (change : catalog.Change operation next) (unaltered : ¬ operation.Alters collection id)
    (stored : (catalog.shelf collection).get? id = some item) :
    (next.shelf collection).get? id = some item := by
  -- What changes on the shelf has another identifier, or the operation would alter the item.
  cases change with
  | keep => exact stored
  | @add fresh named request changed added new addition absent =>
      rw [shelf_put]
      split
      · next same =>
          rw [same, Fields.get?_append, stored]
          rfl
      · exact stored
  | @replace request changed replaced new replacement member =>
      rw [shelf_put]
      split
      · next same =>
          subst same
          have other : id ≠ replaced := by
            intro isReplaced
            subst isReplaced
            exact unaltered ⟨new, replacement⟩
          have found := Fields.get?_mapValues (catalog.shelf changed)
            (fun key old => if key = replaced then new else old) id
          rw [stored, Option.map_some, if_neg other] at found
          exact found
      · exact stored
  | @remove request changed removed addressed member =>
      rw [shelf_put]
      split
      · next same =>
          subst same
          have other : id ≠ removed := by
            intro isRemoved
            subst isRemoved
            exact unaltered addressed
          exact (Fields.get?_filter_ne (catalog.shelf changed) other).trans stored
      · exact stored

/-- An item stays on its shelf until an operation alters it. -/
theorem get?_shelf_session {later : List Operation} {catalog : Catalog}
    (unaltered : ∀ operation ∈ later, ¬ operation.Alters collection id)
    (stored : (catalog.shelf collection).get? id = some item) :
    ((session perform later catalog).2.shelf collection).get? id = some item := by
  induction later generalizing catalog with
  | nil => exact stored
  | cons operation rest inductionHypothesis =>
      obtain ⟨first, others⟩ := List.forall_mem_cons.mp unaltered
      exact inductionHypothesis others
        (get?_shelf_of_change (change_perform catalog operation) first stored)

end Catalog

namespace Service

variable {store : Store}

/-- An item with an admissible identifier is added under it. -/
theorem addition_eq_ok {collection : String} (titled : collection ≠ "") {wire : WireItem}
    (distinct : Fields.Distinct wire) {fresh id : String}
    (chosen : wire.chosenId? fresh = some id) :
    ItemRequest.addition { collectionName := some collection, item := some wire } fresh =
      .ok (collection, id,
        Item.decodeDates (Fields.insert (Item.ofWire wire) idKey (.string id))) := by
  have required : requireCollection (some collection) = .ok collection :=
    requireText_eq_ok_iff.mpr ⟨rfl, titled⟩
  rw [ItemRequest.addition, required]
  change ((Item.ofWire wire).withId fresh >>= _) = _
  rw [Item.withId_ofWire distinct chosen]
  rfl

/-- An item that is added under a free identifier is given out in its normal form, at once and after
all later operations that do not alter it. -/
theorem insert_then_get (reachable : store.Reachable) {collection : String}
    (titled : collection ≠ "") {wire : WireItem} (keyed : Json.Keyed (.object wire))
    {fresh id : String} (chosen : wire.chosenId? fresh = some id) (named : id ≠ "")
    (free : ∀ item ∈ store.items collection, item.get? idKey ≠ some (.string id)) :
    ∃ next,
      insert Store.handle fresh { collectionName := some collection, item := some wire } store =
        (.ok ⟨wire.normalForm id⟩, next) ∧
      ∀ later : List Operation, (∀ operation ∈ later, ¬ operation.Alters collection id) →
        (get Store.handle { collectionName := some collection, itemId := some id }
          (session Operation.perform later next).2).1 = .ok ⟨wire.normalForm id⟩ := by
  have sound := reachable.sound
  let item : Item := Fields.insert (Item.ofWire wire) idKey (.string id)
  have given : item.decodeDates.outbound = wire.normalForm id := Item.outbound_normalForm keyed id
  have known : item.get? idKey = some (.string id) := by
    rw [Fields.get?_insert, if_pos rfl]
  have settled : item.decodeDates.Settled :=
    ((Item.parsed_ofWire wire).insertId id).settle named known
  have own : item.decodeDates.idText = id := by
    apply Item.idText_eq
    rw [Item.get?_decodeDates_id, known]
  have absent := Store.notMem_shelf_of_free sound free
  have added : ItemRequest.addition { collectionName := some collection, item := some wire } fresh =
      .ok (collection, id, item.decodeDates) := addition_eq_ok titled keyed.1 chosen
  obtain ⟨next, inserted, view⟩ := Store.handle_insert_of_notMem sound settled titled (own ▸ absent)
  refine ⟨next, ?_, ?_⟩
  · rw [insert_eq, run_lift_bind_of_ok added, ← given]
    exact run_bind_of_ok inserted _
  · intro later unaltered
    -- Only the entry on the shelf has to outlive the later operations, so the induction over them
    -- is about the catalog and not about the store.
    have nextSound : next.catalog.Sound := by
      rw [view]
      exact sound.put titled ((sound.shelves collection).append settled (own ▸ absent))
    have stored : (next.catalog.shelf collection).get? id = some item.decodeDates := by
      rw [view, Catalog.shelf_put, if_pos rfl, Fields.get?_append,
        Fields.get?_eq_none_iff.mpr absent, own, Option.none_or, Fields.get?, if_pos rfl]
    have kept := Catalog.get?_shelf_session unaltered stored
    have laterSound := nextSound.session later
    rw [session_catalog later nextSound] at kept laterSound
    rw [get_run laterSound (address_eq_ok titled named), Catalog.lookup, kept, ← given]
    rfl

/-- A null identifier makes room for the fresh one, which stays a text. Only the date at the top
level is read as a date, and another item that is added and removed again changes nothing. -/
theorem insert_then_get_visit :
    ∃ next,
      insert Store.handle "2024-01-01T00:00:00.000"
          { collectionName := some "visits",
            item := some [("at", .object [("$date", .number (.ofInt32 0))]), ("_id", .null),
              ("seen", .array [.string "1970-01-01T00:00:00.000"])] } .empty =
        (.ok ⟨[("at", .object [("date", .string "1970-01-01T00:00:00.000")]),
          ("_id", .string "2024-01-01T00:00:00.000"),
          ("seen", .array [.string "1970-01-01T00:00:00.000"])]⟩, next) ∧
      (get Store.handle
          { collectionName := some "visits", itemId := some "2024-01-01T00:00:00.000" }
          (session Operation.perform
            [.insert "other" (by decide) { collectionName := some "visits", item := some [] },
              .remove { collectionName := some "visits", itemId := some "other" }] next).2).1 =
        .ok ⟨[("at", .object [("date", .string "1970-01-01T00:00:00.000")]),
          ("_id", .string "2024-01-01T00:00:00.000"),
          ("seen", .array [.string "1970-01-01T00:00:00.000"])]⟩ := by
  let wire : WireItem := [("at", .object [("$date", .number (.ofInt32 0))]), ("_id", .null),
    ("seen", .array [.string "1970-01-01T00:00:00.000"])]
  have keyed : Json.Keyed (.object wire) := by
    have keys : ["at", "_id", "seen"].Nodup := by decide
    have wrapperKeys : ["$date"].Nodup := List.nodup_singleton _
    exact ⟨keys, ⟨wrapperKeys, trivial, trivial⟩, trivial, ⟨trivial, trivial⟩, trivial⟩
  have chosen : wire.chosenId? "2024-01-01T00:00:00.000" = some "2024-01-01T00:00:00.000" := rfl
  have reachable : Store.Reachable .empty := ⟨[], rfl⟩
  obtain ⟨next, inserted, given⟩ := insert_then_get reachable (by decide : "visits" ≠ "") keyed
    chosen (by decide) (List.forall_mem_nil _)
  refine ⟨next, inserted, given _ ?_⟩
  intro operation member
  rcases List.mem_cons.mp member with rfl | last
  · exact id
  · rw [List.mem_singleton.mp last]
    intro altered
    have same : ("visits", "other") = ("visits", "2024-01-01T00:00:00.000") :=
      Except.ok.inj altered
    exact absurd same (by decide)

end Service

end DocumentStore

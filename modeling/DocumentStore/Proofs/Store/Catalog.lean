import DocumentStore.Proofs.Store.Scan
import DocumentStore.Proofs.Store.Sorting
import DocumentStore.Service.Call

/-!
This file defines the catalog, an abstract store with one shelf for every collection, and shows
what the store in memory does to the catalog that it stands for.
-/

namespace DocumentStore

open DocumentStore.Action

/-- A catalog also keeps the names of the collections that have been opened. -/
@[ext]
structure Catalog where
  opened : List String
  shelf : String → Shelf

namespace Catalog

/-- A new catalog has opened nothing, and all its shelves are empty. -/
def empty : Catalog :=
  ⟨[], fun _ => []⟩

/-- This changes the shelf of one collection and opens the collection. -/
def put (catalog : Catalog) (collection : String) (shelf : Shelf) : Catalog where
  opened :=
    if collection ∈ catalog.opened then catalog.opened else catalog.opened ++ [collection]
  shelf name := if collection = name then shelf else catalog.shelf name

/-- These are the items that a predicate accepts, in order of insertion. -/
def found (catalog : Catalog) (collection : String) (predicate : Predicate) : List Item :=
  (catalog.shelf collection).items.filter predicate.accepts

/-- Only the shelf that is put changes. -/
theorem shelf_put (catalog : Catalog) (collection : String) (shelf : Shelf) (name : String) :
    (catalog.put collection shelf).shelf name =
      if collection = name then shelf else catalog.shelf name := rfl

/-- Putting a shelf opens its collection. -/
theorem mem_opened_put (catalog : Catalog) (collection : String) (shelf : Shelf) (name : String) :
    name ∈ (catalog.put collection shelf).opened ↔ name ∈ catalog.opened ∨ name = collection := by
  unfold put
  split
  · next opened =>
      constructor
      · exact .inl
      · rintro (old | same)
        · exact old
        · exact same ▸ opened
  · simp

/-- A collection with items has been opened under a name that is not empty, and all shelves are
sound. -/
structure Sound (catalog : Catalog) : Prop where
  distinct : catalog.opened.Nodup
  titled : ∀ collection ∈ catalog.opened, collection ≠ ""
  opens : ∀ collection, catalog.shelf collection ≠ [] → collection ∈ catalog.opened
  shelves : ∀ collection, (catalog.shelf collection).Sound

/-- Nothing can be wrong with an empty catalog. -/
theorem sound_empty : Sound empty :=
  ⟨List.nodup_nil, List.forall_mem_nil _, fun _ items => absurd rfl items,
    fun _ => Shelf.sound_nil⟩

/-- An item stands only in a collection that has been opened. -/
theorem Sound.opened_of_mem {catalog : Catalog} (sound : catalog.Sound) {collection id : String}
    (member : id ∈ (catalog.shelf collection).keys) : collection ∈ catalog.opened := by
  obtain ⟨entry, entryMember, -⟩ := List.mem_map.mp member
  exact sound.opens collection (List.ne_nil_of_mem entryMember)

/-- A sound shelf may be put under any name but the empty one. -/
theorem Sound.put {catalog : Catalog} (sound : catalog.Sound) {collection : String}
    (titled : collection ≠ "") {shelf : Shelf} (shelfSound : shelf.Sound) :
    Sound (catalog.put collection shelf) where
  distinct := by
    unfold Catalog.put
    split
    · exact sound.distinct
    · next closed =>
        have disjoint : catalog.opened.Disjoint [collection] := by
          intro name member same
          rw [List.mem_singleton.mp same] at member
          exact closed member
        exact sound.distinct.append (List.nodup_singleton _) disjoint
  titled name member := by
    rcases (mem_opened_put catalog collection shelf name).mp member with old | new
    · exact sound.titled name old
    · exact new ▸ titled
  opens name := by
    intro items
    rw [mem_opened_put]
    rw [shelf_put] at items
    split at items
    · next same => exact .inr same.symm
    · exact .inl (sound.opens name items)
  shelves name := by
    rw [shelf_put]
    split
    · exact shelfSound
    · exact sound.shelves name

/-- Nothing is opened twice. -/
theorem opened_put {catalog : Catalog} {collection : String} (opened : collection ∈ catalog.opened)
    (shelf : Shelf) : (catalog.put collection shelf).opened = catalog.opened :=
  if_pos opened

/-- A shelf that is put back changes nothing. -/
theorem put_self {catalog : Catalog} {collection : String} (opened : collection ∈ catalog.opened) :
    catalog.put collection (catalog.shelf collection) = catalog := by
  apply Catalog.ext
  · exact opened_put opened _
  · funext name
    rw [shelf_put]
    split
    · next same => rw [same]
    · rfl

/-- The shelf that is put last replaces the one before. -/
theorem put_put (catalog : Catalog) (collection : String) (first second : Shelf) :
    (catalog.put collection first).put collection second = catalog.put collection second := by
  apply Catalog.ext
  · exact opened_put ((mem_opened_put catalog collection first collection).mpr (.inr rfl)) second
  · funext name
    rw [shelf_put, shelf_put, shelf_put]
    split <;> rfl

end Catalog

namespace Store

/-- This is the catalog that a store stands for. -/
def catalog (store : Store) : Catalog where
  opened := store.collections.keys
  shelf collection := shelve (store.items collection)

theorem shelf_catalog (store : Store) (collection : String) :
    store.catalog.shelf collection = shelve (store.items collection) := rfl

theorem sound_empty : empty.catalog.Sound :=
  Catalog.sound_empty

/-- Setting the items of one collection leaves the others alone. -/
theorem items_setItems (store : Store) (collection : String) (items : List Item) (name : String) :
    (store.setItems collection items).items name =
      if collection = name then items else store.items name := by
  unfold setItems Store.items
  rw [Fields.get?_insert]
  split <;> rfl

/-- Setting the items of a collection puts their shelf into the catalog. -/
theorem catalog_setItems (store : Store) (collection : String) (items : List Item) :
    (store.setItems collection items).catalog = store.catalog.put collection (shelve items) := by
  have opened : (store.setItems collection items).catalog.opened =
      (store.catalog.put collection (shelve items)).opened :=
    Fields.keys_insert store.collections collection items
  have shelf : (store.setItems collection items).catalog.shelf =
      (store.catalog.put collection (shelve items)).shelf := by
    funext name
    change shelve ((store.setItems collection items).items name) = _
    rw [items_setItems, Catalog.shelf_put]
    split <;> rfl
  exact Catalog.ext opened shelf

/-- A store is known by its catalog, because no collection is kept twice. -/
theorem eq_of_catalog_eq {store next : Store} (distinct : store.catalog.opened.Nodup)
    (same : next.catalog = store.catalog) : next = store := by
  have names : store.collections.keys = next.collections.keys :=
    (congrArg Catalog.opened same).symm
  have items : ∀ name, store.items name = next.items name := by
    intro name
    rw [← items_shelve (store.items name), ← items_shelve (next.items name), ← shelf_catalog,
      ← shelf_catalog, same]
  have known : ∀ name, store.collections.get? name = next.collections.get? name := by
    intro name
    by_cases opened : name ∈ store.collections.keys
    · obtain ⟨left, leftKnown⟩ := Fields.mem_keys_iff.mp opened
      obtain ⟨right, rightKnown⟩ := Fields.mem_keys_iff.mp (names ▸ opened)
      have sameItems := items name
      rw [Store.items, Store.items, leftKnown, rightKnown] at sameItems
      rw [leftKnown, rightKnown]
      exact congrArg some sameItems
    · have absent : name ∉ next.collections.keys := names ▸ opened
      rw [Fields.get?_eq_none_iff.mpr opened, Fields.get?_eq_none_iff.mpr absent]
  have collections : store.collections = next.collections :=
    Fields.Distinct.ext distinct names known
  cases store
  cases next
  exact congrArg Store.mk collections.symm

variable {store : Store}

/-- The items of a sound store are settled. -/
theorem settled_of_sound (sound : store.catalog.Sound) (collection : String) :
    ∀ item ∈ store.items collection, item.Settled := by
  intro item member
  have entry : (item.idText, item) ∈ store.catalog.shelf collection :=
    List.mem_map.mpr ⟨item, member, rfl⟩
  exact (sound.shelves collection).settled _ entry

/-- A stored item is found under its identifier. -/
theorem get?_shelf (sound : store.catalog.Sound) {collection : String}
    {item : Item} (member : item ∈ store.items collection) :
    (store.catalog.shelf collection).get? item.idText = some item :=
  (sound.shelves collection).distinct.get?_of_mem (List.mem_map.mpr ⟨item, member, rfl⟩)

/-- What is found on a shelf is stored. -/
theorem mem_items_of_get? {collection id : String} {item : Item}
    (stored : (store.catalog.shelf collection).get? id = some item) :
    item ∈ store.items collection := by
  rw [shelf_catalog] at stored
  obtain ⟨other, member, same⟩ := List.mem_map.mp (Fields.mem_of_get? stored)
  cases same
  exact member

/-- A predicate that answers for stored items finds what the catalog finds. -/
theorem find_sound (sound : store.catalog.Sound) {collection : String} {predicate : Predicate}
    (answers : ∀ item, item.Storable → predicate.Answers item) :
    store.find collection predicate = .ok (store.catalog.found collection predicate) := by
  have answering : ∀ item ∈ store.items collection, predicate.Answers item :=
    fun item member => answers item (settled_of_sound sound collection item member).storable
  rw [find_eq answering, Catalog.found, catalog, items_shelve]

/-- A page is cut from the sorted items that the catalog finds. -/
theorem select_sound (sound : store.catalog.Sound) {collection : String} {predicate : Predicate}
    (answers : ∀ item, item.Storable → predicate.Answers item) (order : Order) (skip limit : Nat) :
    store.select collection predicate order skip (some limit) =
      .ok (((order.sort (store.catalog.found collection predicate)).drop skip).take limit) := by
  have sorted : (if order.isEmpty then store.catalog.found collection predicate
      else order.sort (store.catalog.found collection predicate)) =
        order.sort (store.catalog.found collection predicate) := by
    split
    · next unordered => rw [order.sort_of_isEmpty unordered]
    · rfl
  unfold select
  rw [find_sound sound answers, ← sorted]
  rfl

/-- The count is the number of items that the catalog finds. -/
theorem count_sound (sound : store.catalog.Sound) {collection : String} {predicate : Predicate}
    (answers : ∀ item, item.Storable → predicate.Answers item) :
    store.count collection predicate = .ok (store.catalog.found collection predicate).length := by
  unfold count
  rw [find_sound sound answers]
  rfl

/-- An insertion is refused exactly when its identifier stands on the shelf. -/
theorem insert_eq (sound : store.catalog.Sound) {item : Item} (settled : item.Settled)
    (collection : String) :
    store.insert collection item =
      if item.idText ∈ (store.catalog.shelf collection).keys then
        .error (.store (.idTaken item.idText collection))
      else .ok (store.setItems collection (store.items collection ++ [item])) := by
  have taken := any_hasId_iff (settled_of_sound sound collection) item.idText
  unfold insert
  rw [settled.requireId_eq]
  by_cases member : item.idText ∈ (store.catalog.shelf collection).keys
  · rw [if_pos member]
    change (if (store.items collection).any (Item.hasId item.idText) = true then _ else _) = _
    rw [if_pos (taken.mpr member)]
    rfl
  · rw [if_neg member]
    change (if (store.items collection).any (Item.hasId item.idText) = true then _ else _) = _
    rw [if_neg (mt taken.mp member)]
    rfl

/-- An update replaces the item of its identifier, if there is one. -/
theorem update_eq (sound : store.catalog.Sound) {item : Item} (settled : item.Settled)
    (collection : String) :
    (store.update collection item).map (Option.map catalog) =
      .ok (if item.idText ∈ (store.catalog.shelf collection).keys then
        some (store.catalog.put collection
          ((store.catalog.shelf collection).replace item.idText item))
      else none) := by
  have replaced := shelve_replaceFirst (settled_of_sound sound collection)
    (sound.shelves collection).distinct item
  have view : catalog ∘ store.setItems collection = store.catalog.put collection ∘ shelve := by
    funext items
    exact catalog_setItems store collection items
  unfold update
  rw [settled.requireId_eq, shelf_catalog]
  change Except.ok (((replaceFirst item.idText item (store.items collection)).map
    (store.setItems collection)).map catalog) = _
  rw [Option.map_map, view, ← Option.map_map, replaced]
  split <;> rfl

/-- A deletion removes the item of its identifier, if there is one. -/
theorem delete_eq (sound : store.catalog.Sound) (collection id : String) :
    (store.delete collection id).map catalog =
      if id ∈ (store.catalog.shelf collection).keys then
        some (store.catalog.put collection ((store.catalog.shelf collection).remove id))
      else none := by
  have settled := settled_of_sound sound collection
  have removed := shelve_eraseP settled (sound.shelves collection).distinct id
  have known := any_hasId_iff settled id
  unfold delete
  by_cases member : id ∈ (store.catalog.shelf collection).keys
  · rw [if_pos member, if_pos (known.mpr member), Option.map_some, catalog_setItems, removed]
    rfl
  · rw [if_neg member, if_neg (mt known.mp member), Option.map_none]

theorem items_prepare (store : Store) (collection : String) :
    (store.prepare collection).items collection = store.items collection := by
  rw [prepare, items_setItems, if_pos rfl]

/-- Preparing a collection opens it without a change to its shelf. -/
theorem catalog_prepare (store : Store) (collection : String) :
    (store.prepare collection).catalog =
      store.catalog.put collection (store.catalog.shelf collection) :=
  catalog_setItems store collection (store.items collection)

/-- The collection stays opened when its insertion is refused. -/
theorem handle_insert_eq (store : Store) {item : Item} (settled : item.Settled)
    (collection : String) :
    handle (.insert collection item) store =
      match (store.prepare collection).insert collection item with
      | .ok next => (.ok item, next)
      | .error error => (.error error, store.prepare collection) := by
  simp only [handle]
  rw [settled.requireId_eq, run_bind_of_ok (run_lift (.ok item.idText) store),
    run_bind_of_ok (run_modify _ store), run_bind_of_ok (run_get _)]
  cases (store.prepare collection).insert collection item <;> rfl

/-- An insertion is refused when its collection has the identifier already, and then it is open. -/
theorem handle_insert_of_mem (sound : store.catalog.Sound) {item : Item} (settled : item.Settled)
    {collection : String} (member : item.idText ∈ (store.catalog.shelf collection).keys) :
    ∃ next, handle (.insert collection item) store =
      (.error (.store (.idTaken item.idText collection)), next) ∧ next.catalog = store.catalog := by
  have opened : collection ∈ store.catalog.opened := sound.opened_of_mem member
  have unchanged : (store.prepare collection).catalog = store.catalog := by
    rw [catalog_prepare, Catalog.put_self opened]
  refine ⟨store.prepare collection, ?_, unchanged⟩
  rw [handle_insert_eq store settled, insert_eq (unchanged ▸ sound) settled, unchanged,
    if_pos member]

/-- A fresh identifier puts the item at the end of the shelf. -/
theorem handle_insert_of_notMem (sound : store.catalog.Sound) {item : Item}
    (settled : item.Settled) {collection : String} (titled : collection ≠ "")
    (fresh : item.idText ∉ (store.catalog.shelf collection).keys) :
    ∃ next, handle (.insert collection item) store = (.ok item, next) ∧
      next.catalog = store.catalog.put collection
        (store.catalog.shelf collection ++ [(item.idText, item)]) := by
  have prepared := catalog_prepare store collection
  have preparedSound : (store.prepare collection).catalog.Sound := by
    rw [prepared]
    exact sound.put titled (sound.shelves collection)
  have stillFresh : item.idText ∉ ((store.prepare collection).catalog.shelf collection).keys := by
    rw [shelf_catalog, items_prepare]
    exact fresh
  refine ⟨(store.prepare collection).setItems collection (store.items collection ++ [item]),
    ?_, ?_⟩
  · rw [handle_insert_eq store settled, insert_eq preparedSound settled, if_neg stillFresh,
      items_prepare]
  · rw [catalog_setItems, prepared, Catalog.put_put, shelve_append]
    rfl

/-- An update puts the item in the place of the one that it replaces. -/
theorem handle_update_of_mem (sound : store.catalog.Sound) {item : Item} (settled : item.Settled)
    {collection : String} (member : item.idText ∈ (store.catalog.shelf collection).keys) :
    ∃ next, handle (.update collection item) store = (.ok (some item), next) ∧
      next.catalog = store.catalog.put collection
        ((store.catalog.shelf collection).replace item.idText item) := by
  have updated := update_eq sound settled collection
  rw [if_pos member] at updated
  cases result : store.update collection item with
  | error error =>
      rw [result] at updated
      cases updated
  | ok found => cases found with
    | none =>
        rw [result] at updated
        cases updated
    | some next =>
        rw [result] at updated
        refine ⟨next, ?_, Option.some.inj (Except.ok.inj updated)⟩
        simp only [handle]
        rw [run_bind_of_ok (run_get store), result]
        rfl

/-- An update of an unknown identifier changes nothing. -/
theorem handle_update_of_notMem (sound : store.catalog.Sound) {item : Item}
    (settled : item.Settled) {collection : String}
    (absent : item.idText ∉ (store.catalog.shelf collection).keys) :
    handle (.update collection item) store = (.ok none, store) := by
  have updated := update_eq sound settled collection
  rw [if_neg absent] at updated
  cases result : store.update collection item with
  | error error =>
      rw [result] at updated
      cases updated
  | ok found => cases found with
    | none =>
        simp only [handle]
        rw [run_bind_of_ok (run_get store), result]
        rfl
    | some next =>
        rw [result] at updated
        cases updated

/-- A deletion takes the item from the shelf and counts it. -/
theorem handle_delete_of_mem (sound : store.catalog.Sound) {collection id : String}
    (member : id ∈ (store.catalog.shelf collection).keys) :
    ∃ next, handle (.delete collection id) store = (.ok 1, next) ∧
      next.catalog = store.catalog.put collection
        ((store.catalog.shelf collection).remove id) := by
  have deleted := delete_eq sound collection id
  rw [if_pos member] at deleted
  cases result : store.delete collection id with
  | none =>
      rw [result] at deleted
      cases deleted
  | some next =>
      rw [result] at deleted
      refine ⟨next, ?_, Option.some.inj deleted⟩
      simp only [handle]
      rw [run_bind_of_ok (run_get store), result]
      rfl

end Store

end DocumentStore

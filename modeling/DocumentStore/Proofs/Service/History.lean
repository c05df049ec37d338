import DocumentStore.Proofs.Service.Refinement

/-!
This file shows what holds after every session, for all collections and for the history of the
session itself.
-/

namespace DocumentStore

open DocumentStore.Action

/-- An entry of a history adds an item to a collection. -/
def AddsTo (name : String) (entry : Operation × Outcome Response) : Prop :=
  ∃ fresh named request response,
    entry = (.insert fresh named request, .ok response) ∧ request.collectionName = some name

/-- An insertion adds to the collection that it names when it succeeds. -/
theorem addsTo_insert_iff {name fresh : String} {named : fresh ≠ ""} {request : ItemRequest}
    {outcome : Outcome Response} :
    AddsTo name (.insert fresh named request, outcome) ↔
      (∃ response, outcome = .ok response) ∧ request.collectionName = some name := by
  constructor
  · intro adds
    obtain ⟨otherFresh, otherNamed, otherRequest, response, same, known⟩ := adds
    cases same
    exact ⟨⟨response, rfl⟩, known⟩
  · intro adds
    obtain ⟨⟨response, done⟩, known⟩ := adds
    exact ⟨fresh, named, request, response, by rw [done], known⟩

namespace Catalog

variable {catalog : Catalog}

/-- Only an insertion can open a collection. -/
theorem opened_of_change (sound : catalog.Sound) {operation : Operation} {next : Catalog}
    (change : catalog.Change operation next)
    (other : ∀ fresh named request, operation ≠ .insert fresh named request) :
    next.opened = catalog.opened := by
  cases change with
  | keep => rfl
  | add named => exact absurd rfl (other _ named _)
  | replace replaced member => exact opened_put (sound.opened_of_mem member) _
  | remove addressed member => exact opened_put (sound.opened_of_mem member) _

/-- An operation opens nothing but the collection that it adds to. -/
theorem mem_opened_perform (sound : catalog.Sound) (operation : Operation) (name : String) :
    name ∈ (perform operation catalog).2.opened ↔
      name ∈ catalog.opened ∨ AddsTo name (operation, (perform operation catalog).1) := by
  -- Only an insertion opens a collection, so all other operations are one case.
  by_cases insertion : ∃ fresh named request, operation = .insert fresh named request
  · obtain ⟨fresh, named, request, rfl⟩ := insertion
    rw [addsTo_insert_iff]
    cases added : request.addition fresh with
    | error error =>
        rw [perform, run_lift_bind_of_error added]
        simp
    | ok addition =>
        obtain ⟨collection, id, item⟩ := addition
        rw [perform_insert catalog named added,
          (ItemRequest.collection_of_addition added).1]
        split
        · simp
        · rw [mem_opened_put]
          simp [eq_comm]
  · have other : ∀ fresh named request, operation ≠ .insert fresh named request := by
      intro fresh named request same
      exact insertion ⟨fresh, named, request, same⟩
    have adds : ¬ AddsTo name (operation, (perform operation catalog).1) := by
      intro adds
      obtain ⟨fresh, named, request, response, same, -⟩ := adds
      exact other fresh named request (congrArg Prod.fst same)
    rw [opened_of_change sound (change_perform catalog operation) other, or_iff_left adds]

/-- The opened collections are those that something was added to. -/
theorem mem_opened_session (sound : catalog.Sound) (operations : List Operation) (name : String) :
    name ∈ (session perform operations catalog).2.opened ↔
      name ∈ catalog.opened ∨
        ∃ entry ∈ operations.zip (session perform operations catalog).1, AddsTo name entry := by
  induction operations generalizing catalog with
  | nil => simp [session]
  | cons operation rest inductionHypothesis =>
      have later := inductionHypothesis (sound.perform operation)
      rw [mem_opened_perform sound] at later
      simp only [session, List.zip_cons_cons, List.exists_mem_cons_iff]
      rw [later, or_assoc]

end Catalog

/-- This tells which item an operation is about. An operation that only reads is about none. -/
def Operation.Names : Operation → String → String → Prop
  | .insert fresh _ request, collection, id =>
    ∃ item, request.addition fresh = .ok (collection, id, item)
  | .update request, collection, id => ∃ item, request.replacement = .ok (collection, id, item)
  | .remove request, collection, id => request.address = .ok (collection, id)
  | _, _, _ => False

namespace Store

variable {store : Store}

/-- The identifiers of a collection are texts that are not empty, and no two of them are equal. -/
def Identified (store : Store) : Prop :=
  ∀ collection,
    (∀ item ∈ store.items collection, ∃ id, id ≠ "" ∧ item.get? idKey = some (.string id)) ∧
      ((store.items collection).map Item.idText).Nodup

/-- Two stores differ at most in one item of one collection, and all others keep their order. -/
def DiffersAtMostAt (store : Store) (collection id : String) (next : Store) : Prop :=
  (∀ other, other ≠ collection → next.items other = store.items other) ∧
    (next.items collection).filter (fun item => item.idText ≠ id) =
      (store.items collection).filter fun item => item.idText ≠ id

/-- The items of a sound catalog have distinct identifiers. -/
theorem identified_of_sound (sound : store.catalog.Sound) : store.Identified := by
  intro collection
  constructor
  · intro item member
    exact (settled_of_sound sound collection item member).identified
  · have distinct := (sound.shelves collection).distinct
    rw [shelf_catalog, Fields.Distinct, Fields.keys, shelve, List.map_map] at distinct
    exact distinct

/-- The items of a collection are those on its shelf. -/
theorem items_eq (store : Store) (collection : String) :
    store.items collection = (store.catalog.shelf collection).items := by
  rw [shelf_catalog, items_shelve]

/-- A change of one shelf that keeps all other items of the shelf. -/
theorem differsAtMostAt_of_put (sound : store.catalog.Sound) {next : Store}
    (nextSound : next.catalog.Sound) {collection id : String} {shelf : Shelf}
    (view : next.catalog = store.catalog.put collection shelf)
    (others : shelf.remove id = (store.catalog.shelf collection).remove id) :
    store.DiffersAtMostAt collection id next := by
  constructor
  · intro other different
    rw [items_eq, items_eq, view, Catalog.shelf_put, if_neg (Ne.symm different)]
  · have changed : next.catalog.shelf collection = shelf := by
      rw [view, Catalog.shelf_put, if_pos rfl]
    rw [items_eq, items_eq, ← (nextSound.shelves collection).items_remove,
      ← (sound.shelves collection).items_remove, changed, others]

/-- Stores with one catalog do not differ. -/
theorem differsAtMostAt_self (collection id : String) (store : Store) {next : Store}
    (view : next.catalog = store.catalog) : store.DiffersAtMostAt collection id next := by
  have same : ∀ name, next.items name = store.items name := by
    intro name
    rw [items_eq, items_eq, view]
  exact ⟨fun other _ => same other, by rw [same]⟩

/-- An operation leaves everything alone but the item that it names. -/
theorem differsAtMostAt_perform (sound : store.catalog.Sound) {operation : Operation}
    {collection id : String} (names : operation.Names collection id) :
    store.DiffersAtMostAt collection id (operation.perform store).2 := by
  have performed := sound.perform operation
  have change := Catalog.change_perform store.catalog operation
  rw [perform_catalog sound operation] at performed change
  generalize (operation.perform store).2 = next at performed change
  generalize view : next.catalog = catalog at performed change
  rw [← view] at performed
  cases change with
  | keep => exact differsAtMostAt_self collection id store view
  | add named added absent =>
      obtain ⟨item, again⟩ := names
      cases added.symm.trans again
      exact differsAtMostAt_of_put sound performed view (Shelf.remove_append_own _ _ _)
  | replace replaced member =>
      obtain ⟨item, again⟩ := names
      cases replaced.symm.trans again
      exact differsAtMostAt_of_put sound performed view (Shelf.remove_replace _ _ _)
  | remove addressed member =>
      cases addressed.symm.trans names
      exact differsAtMostAt_of_put sound performed view (Shelf.remove_remove _ _)

/-- An operation that names no item leaves the catalog. -/
theorem catalog_perform_of_not_names (sound : store.catalog.Sound) {operation : Operation}
    (names : ∀ collection id, ¬ operation.Names collection id) :
    (operation.perform store).2.catalog = store.catalog := by
  have change := Catalog.change_perform store.catalog operation
  rw [perform_catalog sound operation] at change
  generalize view : (operation.perform store).2.catalog = catalog at change
  cases change with
  | keep => rfl
  | add named added absent => exact absurd ⟨_, added⟩ (names _ _)
  | replace replaced member => exact absurd ⟨_, replaced⟩ (names _ _)
  | remove addressed member => exact absurd addressed (names _ _)

/-- The names of the collections are sorted, and no name is listed twice. -/
theorem collectionNames_pairwise (store : Store) :
    store.collectionNames.Pairwise fun left right => left ≤ right := by
  have sorted : store.collectionNames.Pairwise fun left right => decide (left ≤ right) = true := by
    apply List.pairwise_mergeSort
    · intro first second third
      simp only [decide_eq_true_eq]
      exact le_trans
    · intro left right
      simp only [Bool.or_eq_true, decide_eq_true_eq]
      exact le_total left right
  simpa only [decide_eq_true_eq] using sorted

theorem collectionNames_perm (store : Store) :
    store.collectionNames.Perm store.catalog.opened :=
  List.mergeSort_perm _ _

/-- A removal answers what the same request would have been given to read. -/
theorem remove_eq_ok_iff (sound : store.catalog.Sound) (request : ItemIdRequest)
    (response : ItemResponse) :
    (Service.remove handle request store).1 = .ok response ↔
      (Service.get handle request store).1 = .ok response := by
  cases addressed : request.address with
  | error error =>
      rw [Service.remove_eq, Service.get_eq, run_lift_bind_of_error addressed,
        run_lift_bind_of_error addressed]
  | ok address =>
      obtain ⟨collection, id⟩ := address
      rw [Service.get_run sound addressed, Catalog.lookup]
      cases found : (store.catalog.shelf collection).get? id with
      | none =>
          rw [Service.remove_run_of_none sound addressed found]
          constructor
          · intro done
            cases done
          · intro done
            cases done
      | some item =>
          obtain ⟨next, removed, -⟩ := Service.remove_run_of_some sound addressed found
          rw [removed]
          rfl

end Store

/-- This is the store that a session leads to from the empty store. -/
def storeAfter (operations : List Operation) : Store :=
  (session Operation.perform operations .empty).2

/-- These are the operations of a session with their answers. -/
def history (operations : List Operation) : List (Operation × Outcome Response) :=
  operations.zip (session Operation.perform operations .empty).1

/-- A session keeps the store in step with the catalog. The answers agree, no identifier is used
twice in a collection, an operation changes nothing but the item that it names, what can be read can
be removed, and the listed collections are those that an item was added to. -/
structure RefinesCatalog (operations : List Operation) : Prop where
  answers : (session Operation.perform operations .empty).1 =
    (session Catalog.perform operations .empty).1
  view : (storeAfter operations).catalog = (session Catalog.perform operations .empty).2
  identified : (storeAfter operations).Identified
  changes : ∀ (operation : Operation) (collection id : String), operation.Names collection id →
    (storeAfter operations).DiffersAtMostAt collection id
      (operation.perform (storeAfter operations)).2
  reads : ∀ operation : Operation, (∀ collection id, ¬ operation.Names collection id) →
    (operation.perform (storeAfter operations)).2.catalog = (storeAfter operations).catalog
  removes : ∀ request response,
    (Service.remove Store.handle request (storeAfter operations)).1 = .ok response ↔
      (Service.get Store.handle request (storeAfter operations)).1 = .ok response
  lists : ∃ names, Service.listCollections Store.handle (storeAfter operations) =
      (.ok ⟨names⟩, storeAfter operations) ∧
    names.Pairwise (fun left right => left ≤ right) ∧ names.Nodup ∧
      ∀ name, name ∈ names ↔ ∃ entry ∈ history operations, AddsTo name entry

/-- The store follows its catalog through every list of operations. -/
theorem session_refinesCatalog (operations : List Operation) : RefinesCatalog operations := by
  have agree := session_catalog operations Store.sound_empty
  have sound : (storeAfter operations).catalog.Sound := Store.Reachable.sound ⟨operations, rfl⟩
  have opened := Catalog.mem_opened_session Store.sound_empty operations
  rw [agree] at opened
  have order := (storeAfter operations).collectionNames_perm
  exact {
    answers := (congrArg Prod.fst agree).symm
    view := (congrArg Prod.snd agree).symm
    identified := Store.identified_of_sound sound
    changes := fun operation collection id names => Store.differsAtMostAt_perform sound names
    reads := fun operation names => Store.catalog_perform_of_not_names sound names
    removes := Store.remove_eq_ok_iff sound
    lists := by
      refine ⟨(storeAfter operations).collectionNames, rfl,
        (storeAfter operations).collectionNames_pairwise, order.nodup_iff.mpr sound.distinct, ?_⟩
      intro name
      rw [order.mem_iff]
      apply (opened name).trans
      apply or_iff_right
      exact List.not_mem_nil }

end DocumentStore

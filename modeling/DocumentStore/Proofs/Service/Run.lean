import DocumentStore.Proofs.Service.Catalog

/-!
This file tells what every operation of a service does to a store that is sound.
-/

namespace DocumentStore

open DocumentStore.Action

/-- The required item was read from the wire. -/
theorem parsed_of_requireItem {wire : Option WireItem} {item : Item}
    (required : requireItem wire = .ok item) : item.Parsed := by
  unfold requireItem at required
  split at required
  · cases required
    exact Item.parsed_ofWire _
  · cases required

/-- A required text is present and not empty. -/
theorem requireText_eq_ok_iff {key value : String} {text : Option String} :
    requireText key text = .ok value ↔ text = some value ∧ value ≠ "" := by
  cases text with
  | none => exact ⟨nofun, nofun⟩
  | some text =>
      rw [Option.some.injEq]
      exact ite_isEmpty_eq_iff nofun (Except.ok.injEq text value).to_iff

/-- A request that names its collection and its item has an address. -/
theorem address_eq_ok {collection id : String} (titled : collection ≠ "") (named : id ≠ "") :
    ItemIdRequest.address { collectionName := some collection, itemId := some id } =
      .ok (collection, id) := by
  rw [ItemIdRequest.address, requireCollection, requireText_eq_ok_iff.mpr ⟨rfl, titled⟩,
    requireText_eq_ok_iff.mpr ⟨rfl, named⟩]
  rfl

namespace ItemRequest

/-- An item is added to the collection that the request names. -/
theorem collection_of_addition {request : ItemRequest} {fresh collection id : String} {item : Item}
    (added : request.addition fresh = .ok (collection, id, item)) :
    request.collectionName = some collection ∧ collection ≠ "" := by
  unfold addition at added
  obtain ⟨name, required, added⟩ := Outcome.bind_eq_ok.mp added
  obtain ⟨source, -, added⟩ := Outcome.bind_eq_ok.mp added
  obtain ⟨chosen, -, added⟩ := Outcome.bind_eq_ok.mp added
  cases added
  exact requireText_eq_ok_iff.mp required

/-- An added item is settled under the identifier that was chosen for it. -/
theorem addition_settled {request : ItemRequest} {fresh : String} (named : fresh ≠ "")
    {collection id : String} {item : Item}
    (added : request.addition fresh = .ok (collection, id, item)) :
    item.Settled ∧ item.idText = id := by
  unfold addition at added
  obtain ⟨name, -, added⟩ := Outcome.bind_eq_ok.mp added
  obtain ⟨source, required, added⟩ := Outcome.bind_eq_ok.mp added
  obtain ⟨⟨chosen, parsed⟩, withId, added⟩ := Outcome.bind_eq_ok.mp added
  cases added
  obtain ⟨itemParsed, known, idNamed⟩ :=
    Item.withId_eq_ok (parsed_of_requireItem required) named withId
  refine ⟨itemParsed.settle idNamed known, ?_⟩
  apply Item.idText_eq
  rw [Item.get?_decodeDates_id, known]

/-- An item that replaces another is settled under the identifier it names. -/
theorem replacement_settled {request : ItemRequest} {collection id : String} {item : Item}
    (replaced : request.replacement = .ok (collection, id, item)) :
    item.Settled ∧ item.idText = id := by
  unfold replacement at replaced
  obtain ⟨name, -, replaced⟩ := Outcome.bind_eq_ok.mp replaced
  obtain ⟨source, required, replaced⟩ := Outcome.bind_eq_ok.mp replaced
  obtain ⟨found, read, replaced⟩ := Outcome.bind_eq_ok.mp replaced
  cases found with
  | none => cases replaced
  | some text =>
      cases replaced
      obtain ⟨known, named⟩ := Item.id?_eq_some_iff.mp read
      refine ⟨(parsed_of_requireItem required).settle named known, ?_⟩
      apply Item.idText_eq
      rw [Item.get?_decodeDates_id, known]

end ItemRequest

namespace Service

variable {store : Store}

/-- The first item found for an identifier is the one on the shelf. -/
theorem head?_filter_hasId (sound : store.catalog.Sound) (collection id : String) :
    (store.catalog.found collection (.idEquals id)).head? =
      (store.catalog.shelf collection).get? id := by
  have settled := Store.settled_of_sound sound collection
  have same : (store.items collection).filter (Predicate.idEquals id).accepts =
      (store.items collection).filter (Item.hasId id) :=
    List.filter_congr fun item member => Predicate.accepts_idEquals (settled item member) id
  rw [Catalog.found, Store.catalog, items_shelve, same, List.head?_filter]
  exact find?_hasId settled id

/-- The search for an identifier gives the item that stands under it. -/
theorem selectById_run (sound : store.catalog.Sound) (collection id : String) :
    selectById Store.handle collection id store =
      (.ok ((store.catalog.shelf collection).get? id), store) := by
  have selected : Store.handle (.select collection (.idEquals id) .insertion 0 (some 1)) store =
      (.ok ((store.catalog.found collection (.idEquals id)).take 1), store) := by
    have answers : ∀ item, item.Storable → (Predicate.idEquals id).Answers item :=
      fun item _ => Predicate.answers_idEquals id item
    change (store.select collection (.idEquals id) .insertion 0 (some 1), store) = _
    rw [Store.select_sound sound answers, Order.sort_of_isEmpty _ rfl, List.drop_zero]
  unfold selectById
  rw [run_bind_of_ok selected, run_pure, List.head?_take, if_neg Nat.one_ne_zero,
    head?_filter_hasId sound]

variable {σ : Type} (handler : Handler σ)

theorem lift_address_bind {α : Type} (request : ItemIdRequest)
    (next : String × String → Action σ α) :
    ((liftM request.address : Action σ (String × String)) >>= next) = (do
      let collection ← requireCollection request.collectionName
      let id ← requireText "itemId" request.itemId
      (next (collection, id) : Action σ α)) := by
  simp only [ItemIdRequest.address, lift_bind, lift_pure, bind_assoc, pure_bind]

/-- These equations check a request first and then make all calls. -/
theorem get_eq (request : ItemIdRequest) :
    get handler request = (do
      let (collection, id) ← request.address
      match ← selectById handler collection id with
      | some item => return ⟨item.outbound⟩
      | none => throw (.notFound (.read id))) := by
  rw [lift_address_bind]
  rfl

/-- A removal looks for its item, deletes it and checks that it was there. -/
theorem remove_eq (request : ItemIdRequest) :
    remove handler request = do
      let (collection, id) ← request.address
      match ← selectById handler collection id with
      | none => throw (.notFound (.write id))
      | some item =>
        if (← handler (.delete collection id)) = 0 then throw (.notFound (.write id))
        return ⟨item.outbound⟩ := by
  rw [lift_address_bind]
  rfl

/-- An insertion gives out what was stored. -/
theorem insert_eq (fresh : String) (request : ItemRequest) :
    insert handler fresh request = do
      let (collection, _, item) ← request.addition fresh
      let inserted ← handler (.insert collection item)
      return ⟨inserted.outbound⟩ := by
  simp only [insert, ItemRequest.addition, lift_bind, lift_pure, bind_assoc, pure_bind]

/-- An update gives out what was stored, or reports that nothing is there. -/
theorem update_eq (request : ItemRequest) :
    update handler request = (do
      let (collection, id, item) ← request.replacement
      match ← handler (.update collection item) with
      | some updated => return ⟨updated.outbound⟩
      | none => throw (.notFound (.write id))) := by
  simp only [update, ItemRequest.replacement, lift_bind, bind_assoc]
  apply bind_congr
  intro collection
  apply bind_congr
  intro item
  apply bind_congr
  intro found
  cases found with
  | none => rfl
  | some id =>
      simp only [lift_pure, pure_bind]
      apply bind_congr
      intro updated
      cases updated <;> rfl

/-- A count only needs its scope. -/
theorem count_eq (request : CountRequest) :
    count handler request = do
      let (collection, predicate) ← request.scope
      return ⟨← handler (.count collection predicate)⟩ := by
  simp only [count, CountRequest.scope, lift_bind, lift_pure, bind_assoc, pure_bind]

variable {handler}

/-- The predicate of a plan answers for every item that can be stored. -/
theorem answers_of_plan {request : FindRequest} {plan : FindPlan}
    (planned : request.plan = .ok plan) {item : Item} (storable : item.Storable) :
    plan.predicate.Answers item := by
  unfold FindRequest.plan at planned
  obtain ⟨collection, -, planned⟩ := Outcome.bind_eq_ok.mp planned
  obtain ⟨skip, -, planned⟩ := Outcome.bind_eq_ok.mp planned
  obtain ⟨limit, -, planned⟩ := Outcome.bind_eq_ok.mp planned
  obtain ⟨predicate, compiled, planned⟩ := Outcome.bind_eq_ok.mp planned
  obtain ⟨entries, -, planned⟩ := Outcome.bind_eq_ok.mp planned
  cases planned
  exact Filter.answers_of_compileWire compiled storable

/-- The predicate of a scope answers for every item that can be stored. -/
theorem answers_of_scope {request : CountRequest} {collection : String} {predicate : Predicate}
    (checked : request.scope = .ok (collection, predicate)) {item : Item}
    (storable : item.Storable) : predicate.Answers item := by
  unfold CountRequest.scope at checked
  obtain ⟨name, -, checked⟩ := Outcome.bind_eq_ok.mp checked
  obtain ⟨compiled, done, checked⟩ := Outcome.bind_eq_ok.mp checked
  cases checked
  exact Filter.answers_of_compileWire done storable

/-- A page is taken from the sorted items, and the total counts all of them. -/
theorem find_run (sound : store.catalog.Sound) {request : FindRequest} {plan : FindPlan}
    (planned : request.plan = .ok plan) :
    find Store.handle request store = (.ok (store.catalog.page plan), store) := by
  have answers : ∀ item, item.Storable → plan.predicate.Answers item :=
    fun item storable => answers_of_plan planned storable
  have selected : Store.handle
      (.select plan.collection plan.predicate plan.order plan.skip (some plan.limit)) store =
        (.ok (((plan.order.sort (store.catalog.found plan.collection plan.predicate)).drop
          plan.skip).take plan.limit), store) := by
    change (store.select plan.collection plan.predicate plan.order plan.skip (some plan.limit),
      store) = _
    rw [Store.select_sound sound answers]
  have counted : Store.handle (.count plan.collection plan.predicate) store =
      (.ok (store.catalog.found plan.collection plan.predicate).length, store) := by
    change (store.count plan.collection plan.predicate, store) = _
    rw [Store.count_sound sound answers]
  unfold find
  rw [run_lift_bind_of_ok planned, run_bind_of_ok selected, run_bind_of_ok counted]
  rfl

/-- A count answers with the number of items that the catalog finds. -/
theorem count_run (sound : store.catalog.Sound) {request : CountRequest} {collection : String}
    {predicate : Predicate} (checked : request.scope = .ok (collection, predicate)) :
    count Store.handle request store =
      (.ok ⟨(store.catalog.found collection predicate).length⟩, store) := by
  have answers : ∀ item, item.Storable → predicate.Answers item :=
    fun item storable => answers_of_scope checked storable
  have counted : Store.handle (.count collection predicate) store =
      (.ok (store.catalog.found collection predicate).length, store) := by
    change (store.count collection predicate, store) = _
    rw [Store.count_sound sound answers]
  rw [count_eq, run_lift_bind_of_ok checked]
  exact run_bind_of_ok counted _

/-- A request for an item is answered from its shelf. -/
theorem get_run (sound : store.catalog.Sound) {request : ItemIdRequest} {collection id : String}
    (addressed : request.address = .ok (collection, id)) :
    get Store.handle request store =
      ((store.catalog.lookup .read collection id).map fun item => ⟨item.outbound⟩, store) := by
  rw [get_eq, run_lift_bind_of_ok addressed, Catalog.lookup]
  refine (run_bind_of_ok (selectById_run sound collection id) _).trans ?_
  cases (store.catalog.shelf collection).get? id <;> rfl

/-- Removing what is not there fails and changes nothing. -/
theorem remove_run_of_none (sound : store.catalog.Sound) {request : ItemIdRequest}
    {collection id : String} (addressed : request.address = .ok (collection, id))
    (absent : (store.catalog.shelf collection).get? id = none) :
    remove Store.handle request store = (.error (.notFound (.write id)), store) := by
  rw [remove_eq, run_lift_bind_of_ok addressed]
  refine (run_bind_of_ok (selectById_run sound collection id) _).trans ?_
  rw [absent]
  rfl

/-- An item that is found is still there when it is deleted. -/
theorem remove_run_of_some (sound : store.catalog.Sound) {request : ItemIdRequest}
    {collection id : String} (addressed : request.address = .ok (collection, id)) {item : Item}
    (found : (store.catalog.shelf collection).get? id = some item) :
    ∃ next, remove Store.handle request store = (.ok ⟨item.outbound⟩, next) ∧
      next.catalog = store.catalog.put collection
        ((store.catalog.shelf collection).remove id) := by
  have member : id ∈ (store.catalog.shelf collection).keys :=
    Fields.mem_keys_iff.mpr ⟨item, found⟩
  obtain ⟨next, deleted, view⟩ := Store.handle_delete_of_mem sound member
  refine ⟨next, ?_, view⟩
  rw [remove_eq, run_lift_bind_of_ok addressed]
  refine (run_bind_of_ok (selectById_run sound collection id) _).trans ?_
  rw [found]
  exact run_bind_of_ok deleted _

/-- An insertion under a taken identifier fails. -/
theorem insert_run_of_mem (sound : store.catalog.Sound) {fresh : String} (named : fresh ≠ "")
    {request : ItemRequest} {collection id : String} {item : Item}
    (added : request.addition fresh = .ok (collection, id, item))
    (member : id ∈ (store.catalog.shelf collection).keys) :
    ∃ next, insert Store.handle fresh request store =
      (.error (.store (.idTaken id collection)), next) ∧ next.catalog = store.catalog := by
  obtain ⟨settled, own⟩ := ItemRequest.addition_settled named added
  subst own
  obtain ⟨next, refused, view⟩ := Store.handle_insert_of_mem sound settled member
  refine ⟨next, ?_, view⟩
  rw [insert_eq, run_lift_bind_of_ok added]
  exact run_bind_of_error refused _

/-- An insertion under a free identifier puts the item on the shelf. -/
theorem insert_run_of_notMem (sound : store.catalog.Sound) {fresh : String} (named : fresh ≠ "")
    {request : ItemRequest} {collection id : String} {item : Item}
    (added : request.addition fresh = .ok (collection, id, item))
    (absent : id ∉ (store.catalog.shelf collection).keys) :
    ∃ next, insert Store.handle fresh request store = (.ok ⟨item.outbound⟩, next) ∧
      next.catalog = store.catalog.put collection
        (store.catalog.shelf collection ++ [(id, item)]) := by
  obtain ⟨settled, own⟩ := ItemRequest.addition_settled named added
  subst own
  obtain ⟨-, titled⟩ := ItemRequest.collection_of_addition added
  obtain ⟨next, inserted, view⟩ := Store.handle_insert_of_notMem sound settled titled absent
  refine ⟨next, ?_, view⟩
  rw [insert_eq, run_lift_bind_of_ok added]
  exact run_bind_of_ok inserted _

/-- An update of a stored item puts the new one in its place. -/
theorem update_run_of_mem (sound : store.catalog.Sound) {request : ItemRequest}
    {collection id : String} {item : Item}
    (replaced : request.replacement = .ok (collection, id, item))
    (member : id ∈ (store.catalog.shelf collection).keys) :
    ∃ next, update Store.handle request store = (.ok ⟨item.outbound⟩, next) ∧
      next.catalog = store.catalog.put collection
        ((store.catalog.shelf collection).replace id item) := by
  obtain ⟨settled, own⟩ := ItemRequest.replacement_settled replaced
  subst own
  obtain ⟨next, updated, view⟩ := Store.handle_update_of_mem sound settled member
  refine ⟨next, ?_, view⟩
  rw [update_eq, run_lift_bind_of_ok replaced]
  exact run_bind_of_ok updated _

/-- An update never adds an item. -/
theorem update_run_of_notMem (sound : store.catalog.Sound) {request : ItemRequest}
    {collection id : String} {item : Item}
    (replaced : request.replacement = .ok (collection, id, item))
    (absent : id ∉ (store.catalog.shelf collection).keys) :
    update Store.handle request store = (.error (.notFound (.write id)), store) := by
  obtain ⟨settled, own⟩ := ItemRequest.replacement_settled replaced
  subst own
  have missed := Store.handle_update_of_notMem sound settled absent
  rw [update_eq, run_lift_bind_of_ok replaced]
  exact run_bind_of_ok missed _

end Service

end DocumentStore

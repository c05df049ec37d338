import DocumentStore.Proofs.Check
import DocumentStore.Proofs.Service.History

/-!
This file tells how the operations of a service fail, and that an operation that fails changes
nothing.

A request is checked before the store is asked. After that, an operation only fails by an identifier
that its collection lacks or already has.
-/

namespace DocumentStore

open DocumentStore.Action DocumentStore.Outcome

/-- A missing or empty text is the fault of the request. -/
theorem isCheck_requireText (key : String) (text : Option String) :
    (requireText key text).IsCheck := by
  unfold requireText
  split
  · split
    · exact isCheck_error rfl
    · exact isCheck_ok _
  · exact isCheck_error rfl

/-- A missing item is the fault of the request. -/
theorem isCheck_requireItem (wire : Option WireItem) : (requireItem wire).IsCheck := by
  unfold requireItem
  split
  · exact isCheck_ok _
  · exact isCheck_error rfl

namespace Item

/-- An identifier that is no text is the fault of the request. -/
theorem isCheck_id? (item : Item) : item.id?.IsCheck := by
  unfold id?
  split
  · exact isCheck_ok _
  · exact isCheck_ok _
  · exact isCheck_ok _
  · exact isCheck_badRequest _

/-- A refused identifier is the fault of the request, and never that of the fresh one. -/
theorem isCheck_withId (item : Item) (fresh : String) : (item.withId fresh).IsCheck := by
  apply item.isCheck_id?.bind
  intro found
  cases found <;> exact isCheck_ok _

end Item

namespace FindRequest

variable (request : FindRequest)

/-- A negative number of skipped items is the fault of the request. -/
theorem isCheck_skipCount : request.skipCount.IsCheck := by
  unfold skipCount
  split
  · exact isCheck_error rfl
  · split
    · exact isCheck_badRequest _
    · exact isCheck_ok _

/-- A limit that is not positive is the fault of the request. -/
theorem isCheck_limitCount : request.limitCount.IsCheck := by
  unfold limitCount
  split
  · exact isCheck_error rfl
  · split
    · exact isCheck_badRequest _
    · exact isCheck_ok _

/-- Whatever a plan refuses is the fault of the request. -/
theorem isCheck_plan : request.plan.IsCheck := by
  apply (isCheck_requireText _ _).bind
  intro collection
  apply request.isCheck_skipCount.bind
  intro skip
  apply request.isCheck_limitCount.bind
  intro limit
  apply (Filter.isCheck_compileWire request.filter).bind
  intro predicate
  exact (SortList.isCheck_ofWire request.sort).bind fun entries => isCheck_ok _

end FindRequest

theorem ItemIdRequest.isCheck_address (request : ItemIdRequest) : request.address.IsCheck := by
  apply (isCheck_requireText _ _).bind
  intro collection
  exact (isCheck_requireText _ _).bind fun id => isCheck_ok _

namespace ItemRequest

variable (request : ItemRequest)

/-- An item that cannot be added is the fault of the request. -/
theorem isCheck_addition (fresh : String) : (request.addition fresh).IsCheck := by
  apply (isCheck_requireText _ _).bind
  intro collection
  apply (isCheck_requireItem request.item).bind
  intro item
  exact (item.isCheck_withId fresh).bind fun chosen => isCheck_ok _

/-- An item that cannot replace another is the fault of the request. -/
theorem isCheck_replacement : request.replacement.IsCheck := by
  apply (isCheck_requireText _ _).bind
  intro collection
  apply (isCheck_requireItem request.item).bind
  intro item
  apply item.isCheck_id?.bind
  intro found
  cases found with
  | none => exact isCheck_error rfl
  | some id => exact isCheck_ok _

end ItemRequest

theorem CountRequest.isCheck_scope (request : CountRequest) : request.scope.IsCheck := by
  apply (isCheck_requireText _ _).bind
  intro collection
  exact (Filter.isCheck_compileWire request.filter).bind fun predicate => isCheck_ok _

namespace Operation

/-- This is the check of a request, which is made before the store is asked. -/
def check : Operation → Outcome Unit
  | find request => request.plan.map fun _ => ()
  | get request => request.address.map fun _ => ()
  | insert fresh _ request => (request.addition fresh).map fun _ => ()
  | update request => request.replacement.map fun _ => ()
  | remove request => request.address.map fun _ => ()
  | count request => request.scope.map fun _ => ()
  | listCollections => .ok ()

/-- Every operation is checked before it is performed. -/
theorem isCheck_check (operation : Operation) : operation.check.IsCheck := by
  cases operation with
  | find request => exact request.isCheck_plan.map _
  | get request => exact request.isCheck_address.map _
  | insert fresh named request => exact (request.isCheck_addition fresh).map _
  | update request => exact request.isCheck_replacement.map _
  | remove request => exact request.isCheck_address.map _
  | count request => exact request.isCheck_scope.map _
  | listCollections => exact isCheck_ok _

end Operation

namespace Catalog

variable {catalog : Catalog} {operation : Operation} {error : Error}

/-- These are the ways in which an operation on a catalog can fail. -/
inductive Refusal (catalog : Catalog) : Operation → Error → Prop
  | request {operation : Operation} {error : Error} (faulty : operation.check = .error error) :
      Refusal catalog operation error
  | get {request : ItemIdRequest} {collection id : String}
      (addressed : request.address = .ok (collection, id))
      (absent : id ∉ (catalog.shelf collection).keys) :
      Refusal catalog (.get request) (.notFound (.read id))
  | insert {fresh : String} (named : fresh ≠ "") {request : ItemRequest} {collection id : String}
      {item : Item} (added : request.addition fresh = .ok (collection, id, item))
      (member : id ∈ (catalog.shelf collection).keys) :
      Refusal catalog (.insert fresh named request) (.store (.idTaken id collection))
  | update {request : ItemRequest} {collection id : String} {item : Item}
      (replaced : request.replacement = .ok (collection, id, item))
      (absent : id ∉ (catalog.shelf collection).keys) :
      Refusal catalog (.update request) (.notFound (.write id))
  | remove {request : ItemIdRequest} {collection id : String}
      (addressed : request.address = .ok (collection, id))
      (absent : id ∉ (catalog.shelf collection).keys) :
      Refusal catalog (.remove request) (.notFound (.write id))

/-- A faulty operation ends with its check. -/
theorem perform_of_faulty (faulty : operation.check = .error error) :
    perform operation catalog = (.error error, catalog) := by
  cases operation with
  | listCollections => cases faulty
  | _ => rw [perform, run_lift_bind_of_error (map_eq_error_iff.mp faulty)]

/-- An operation fails in no other way, and it changes no shelf before it fails. -/
theorem refusal_of_perform (failed : (perform operation catalog).1 = .error error) :
    catalog.Refusal operation error ∧ (perform operation catalog).2 = catalog := by
  -- Behind the check, only a missing item or a taken identifier is left to refuse.
  cases checked : operation.check with
  | error fault =>
      rw [perform_of_faulty checked] at failed ⊢
      cases failed
      exact ⟨.request checked, rfl⟩
  | ok passed =>
      cases operation with
      | find request =>
          obtain ⟨plan, planned⟩ := exists_ok_of_map checked
          rw [perform, run_lift_bind_of_ok planned] at failed
          cases failed
      | get request =>
          obtain ⟨⟨collection, id⟩, addressed⟩ := exists_ok_of_map checked
          rw [perform_get _ addressed, lookup] at failed ⊢
          cases found : (catalog.shelf collection).get? id with
          | none =>
              rw [found] at failed
              cases failed
              exact ⟨.get addressed (Fields.get?_eq_none_iff.mp found), rfl⟩
          | some item =>
              rw [found] at failed
              cases failed
      | insert fresh named request =>
          obtain ⟨⟨collection, id, item⟩, added⟩ := exists_ok_of_map checked
          rw [perform_insert _ named added] at failed ⊢
          split at failed
          · next member =>
              cases failed
              exact ⟨.insert named added member, by rw [if_pos member]⟩
          · cases failed
      | update request =>
          obtain ⟨⟨collection, id, item⟩, replaced⟩ := exists_ok_of_map checked
          rw [perform_update _ replaced] at failed ⊢
          split at failed
          · cases failed
          · next absent =>
              cases failed
              exact ⟨.update replaced absent, by rw [if_neg absent]⟩
      | remove request =>
          obtain ⟨⟨collection, id⟩, addressed⟩ := exists_ok_of_map checked
          rw [perform_remove _ addressed] at failed ⊢
          cases found : (catalog.shelf collection).get? id with
          | none =>
              rw [found] at failed
              cases failed
              exact ⟨.remove addressed (Fields.get?_eq_none_iff.mp found), rfl⟩
          | some item =>
              rw [found] at failed
              cases failed
      | count request =>
          obtain ⟨scope, known⟩ := exists_ok_of_map checked
          rw [perform, run_lift_bind_of_ok known] at failed
          cases failed
      | listCollections => cases failed

/-- A fault of the store is always an identifier that is taken. -/
theorem Refusal.eq_idTaken (refusal : catalog.Refusal operation error)
    (kind : error.kind = .store) :
    ∃ id collection, error = .store (.idTaken id collection) := by
  cases refusal with
  | request faulty =>
      rw [operation.isCheck_check error faulty] at kind
      cases kind
  | get addressed absent => cases kind
  | @insert fresh named request collection id item added member => exact ⟨id, collection, rfl⟩
  | update replaced absent => cases kind
  | remove addressed absent => cases kind

end Catalog

namespace Operation

/-- These are the errors that an operation may report. It may blame its request, and it may miss
the item that it reads, replaces or deletes. An insertion may meet an item with its identifier. -/
def Admits (operation : Operation) (store : Store) (error : Error) : Prop :=
  match operation with
  | find _ => error.kind = .badRequest
  | get _ => error.kind = .badRequest ∨ error.kind = .notFound
  | insert fresh _ request =>
    error.kind = .badRequest ∨
      ∃ collection id item, request.addition fresh = .ok (collection, id, item) ∧
        (∃ stored ∈ store.items collection, stored.hasId id = true) ∧
          error = .store (.idTaken id collection)
  | update _ => error.kind = .badRequest ∨ error.kind = .notFound
  | remove _ => error.kind = .badRequest ∨ error.kind = .notFound
  | count _ => error.kind = .badRequest
  | listCollections => False

/-- These operations only read. -/
def Reads : Operation → Prop
  | find _ => True
  | get _ => True
  | insert .. => False
  | update _ => False
  | remove _ => False
  | count _ => True
  | listCollections => True

/-- An operation that only reads is about no item that it could change. -/
theorem Reads.not_names {operation : Operation} (reads : operation.Reads) (collection id : String) :
    ¬ operation.Names collection id := by
  cases operation with
  | insert fresh named request | update request | remove request => cases reads
  | _ => exact not_false

/-- What the catalog refuses is among the errors of the operation. -/
theorem admits_of_refusal {operation : Operation} {store : Store} {error : Error}
    (sound : store.catalog.Sound) (refusal : store.catalog.Refusal operation error) :
    operation.Admits store error := by
  cases refusal with
  | request faulty =>
      have kind := operation.isCheck_check error faulty
      cases operation with
      | find request => exact kind
      | get request
      | insert fresh named request | update request | remove request => exact .inl kind
      | count request => exact kind
      | listCollections => cases faulty
  | get addressed absent => exact .inr rfl
  | @insert fresh named request collection id item added member =>
      have stored := (any_hasId_iff (Store.settled_of_sound sound collection) id).mpr member
      exact .inr ⟨collection, id, item, added, List.any_eq_true.mp stored, rfl⟩
  | update replaced absent => exact .inr rfl
  | remove addressed absent => exact .inr rfl

end Operation

namespace Store

variable {store : Store}

theorem refusal_of_perform (sound : store.catalog.Sound) {operation : Operation} {error : Error}
    (failed : (operation.perform store).1 = .error error) :
    store.catalog.Refusal operation error ∧ (operation.perform store).2 = store := by
  have agrees := perform_catalog sound operation
  obtain ⟨refusal, unchanged⟩ :=
    Catalog.refusal_of_perform ((congrArg Prod.fst agrees).trans failed)
  rw [agrees] at unchanged
  exact ⟨refusal, eq_of_catalog_eq sound.distinct unchanged⟩

/-- A reliable store only refuses what it may refuse. Its items decide neither whether a search or a
count fails nor how, because a compiled filter can be tested on all of them. No operation misses an
identifier in an item that it adds, or a form for a number. -/
structure Reliable (store : Store) : Prop where
  admits : ∀ (operation : Operation) error, (operation.perform store).1 = .error error →
    operation.Admits store error
  finds : ∀ request error, (Service.find handle request store).1 = .error error ↔
    request.plan = .error error
  counts : ∀ request error, (Service.count handle request store).1 = .error error ↔
    request.scope = .error error
  evaluates : ∀ wire predicate, Filter.compileWire wire = .ok predicate →
    ∀ collection, ∃ items, store.find collection predicate = .ok items
  identified : ∀ operation : Operation, (operation.perform store).1 ≠ .error (.store .idNotText)
  represented : ∀ (operation : Operation) fault,
    (operation.perform store).1 ≠ .error (.serialization fault)

/-- A search fails exactly when its plan is refused. -/
theorem find_eq_error_iff (sound : store.catalog.Sound) (request : FindRequest) (error : Error) :
    (Service.find handle request store).1 = .error error ↔ request.plan = .error error := by
  cases planned : request.plan with
  | error fault =>
      rw [Service.find, run_lift_bind_of_error planned, Except.error.injEq, Except.error.injEq]
  | ok plan =>
      rw [Service.find_run sound planned]
      constructor
      · intro failed
        cases failed
      · intro failed
        cases failed

/-- A count fails exactly when its filter is refused. -/
theorem count_eq_error_iff (sound : store.catalog.Sound) (request : CountRequest) (error : Error) :
    (Service.count handle request store).1 = .error error ↔ request.scope = .error error := by
  cases known : request.scope with
  | error fault =>
      rw [Service.count_eq, run_lift_bind_of_error known, Except.error.injEq, Except.error.injEq]
  | ok scope =>
      rw [Service.count_run sound known]
      constructor
      · intro failed
        cases failed
      · intro failed
        cases failed

/-- Every store that a session reaches is reliable, and no number is refused. -/
theorem reliable_of_reachable (reachable : store.Reachable) :
    store.Reliable ∧ ∀ number, Value.readNumber number = .ok (.ofNumber number) := by
  have sound := reachable.sound
  refine ⟨?_, Value.readNumber_eq⟩
  exact {
    admits := fun operation error failed =>
      Operation.admits_of_refusal sound (refusal_of_perform sound failed).1
    finds := find_eq_error_iff sound
    counts := count_eq_error_iff sound
    evaluates := fun wire predicate compiled collection =>
      ⟨_, find_sound sound fun item storable => Filter.answers_of_compileWire compiled storable⟩
    identified := by
      intro operation failed
      obtain ⟨refusal, -⟩ := refusal_of_perform sound failed
      obtain ⟨id, collection, same⟩ := refusal.eq_idTaken rfl
      cases same
    represented := by
      intro operation fault failed
      obtain ⟨refusal, -⟩ := refusal_of_perform sound failed
      obtain ⟨id, collection, same⟩ := refusal.eq_idTaken rfl
      cases same }

/-- This asks to add a note to its collection. -/
def note : ItemRequest where
  collectionName := some "notes"
  item := some [("_id", .string "a")]

/-- This operation may be performed once, because it names its identifier. -/
def addNote : Operation :=
  .insert "fresh" (by decide) note

/-- A note with the same identifier is refused, and so is a search without a number to skip. -/
theorem reliable_of_reachable_addNote :
    (∃ stored ∈ (storeAfter [addNote]).items "notes", stored.hasId "a" = true) ∧
      (Service.find handle { collectionName := some "notes" } (storeAfter [addNote])).1 =
        .error (.missing "skip") := by
  have reachable : Store.Reachable (storeAfter [addNote]) := ⟨[addNote], rfl⟩
  obtain ⟨reliable, -⟩ := reliable_of_reachable reachable
  have failed : (addNote.perform (storeAfter [addNote])).1 =
      .error (.store (.idTaken "a" "notes")) := rfl
  constructor
  · rcases reliable.admits _ _ failed with blamed | taken
    · cases blamed
    · obtain ⟨collection, id, item, -, stored, same⟩ := taken
      cases same
      exact stored
  · exact (reliable.finds _ _).mpr rfl

/-- An operation that fails leaves the whole store as it was, and so does one that only reads. -/
theorem perform_atomic (reachable : store.Reachable) :
    (∀ (operation : Operation) error, (operation.perform store).1 = .error error →
      (operation.perform store).2 = store) ∧
      ∀ operation : Operation, operation.Reads → (operation.perform store).2 = store := by
  have sound := reachable.sound
  constructor
  · intro operation error failed
    exact (refusal_of_perform sound failed).2
  · intro operation reads
    exact eq_of_catalog_eq sound.distinct (catalog_perform_of_not_names sound reads.not_names)

/-- The second note of the same identifier is refused, and listing changes nothing. -/
theorem perform_atomic_addNote :
    (addNote.perform (storeAfter [addNote])).2 = storeAfter [addNote] ∧
      (Operation.listCollections.perform (storeAfter [addNote])).2 = storeAfter [addNote] := by
  have reachable : Store.Reachable (storeAfter [addNote]) := ⟨[addNote], rfl⟩
  obtain ⟨failing, reading⟩ := perform_atomic reachable
  have failed : (addNote.perform (storeAfter [addNote])).1 =
      .error (.store (.idTaken "a" "notes")) := rfl
  exact ⟨failing _ _ failed, reading .listCollections trivial⟩

/-- The operations of a session that fail can be left out. -/
theorem session_successes (sound : store.catalog.Sound) (operations : List Operation) :
    (session Operation.perform
      (((operations.zip (session Operation.perform operations store).1).filter
        fun entry => entry.2.isOk).map Prod.fst) store).2 =
      (session Operation.perform operations store).2 := by
  induction operations generalizing store with
  | nil => rfl
  | cons operation rest inductionHypothesis =>
      simp only [session, List.zip_cons_cons]
      cases outcome : (operation.perform store).1 with
      | error error =>
          have unchanged := (refusal_of_perform sound outcome).2
          rw [unchanged, List.filter_cons_of_neg (by simp [Except.isOk, Except.toBool])]
          exact inductionHypothesis sound
      | ok response =>
          rw [List.filter_cons_of_pos (by simp [Except.isOk, Except.toBool]), List.map_cons]
          have performed := sound.perform operation
          rw [perform_catalog sound operation] at performed
          exact inductionHypothesis performed

/-- A session leads to the same store as its operations that succeed. -/
theorem storeAfter_successes (operations : List Operation) :
    storeAfter (((history operations).filter fun entry => entry.2.isOk).map Prod.fst) =
      storeAfter operations :=
  session_successes sound_empty operations

end Store

end DocumentStore

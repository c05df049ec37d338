import DocumentStore.Proofs.Service.Run

/-!
This file shows that a service on the store in memory behaves as the catalog does.
-/

namespace DocumentStore

open DocumentStore.Action

namespace Catalog

variable {catalog : Catalog}

/-- A catalog stays sound when an operation changes it. -/
theorem Sound.change (sound : catalog.Sound) {operation : Operation} {next : Catalog}
    (change : catalog.Change operation next) : next.Sound := by
  cases change with
  | keep => exact sound
  | @add fresh named request collection id item added absent =>
      obtain ⟨settled, own⟩ := ItemRequest.addition_settled named added
      subst own
      obtain ⟨-, titled⟩ := ItemRequest.collection_of_addition added
      exact sound.put titled ((sound.shelves collection).append settled absent)
  | @replace request collection id item replaced member =>
      obtain ⟨settled, own⟩ := ItemRequest.replacement_settled replaced
      subst own
      have titled := sound.titled collection (sound.opened_of_mem member)
      exact sound.put titled ((sound.shelves collection).replace settled)
  | @remove request collection id addressed member =>
      have titled := sound.titled collection (sound.opened_of_mem member)
      exact sound.put titled ((sound.shelves collection).remove id)

/-- A catalog stays sound when an operation is performed. -/
theorem Sound.perform (sound : catalog.Sound) (operation : Operation) :
    (Catalog.perform operation catalog).2.Sound :=
  sound.change (change_perform catalog operation)

end Catalog

/-- An operation agrees on a store when it does to the store what it does to the catalog that the
store stands for. -/
def Operation.Agrees (operation : Operation) (store : Store) : Prop :=
  Catalog.perform operation store.catalog =
    ((operation.perform store).1, (operation.perform store).2.catalog)

section

variable {store : Store} (sound : store.catalog.Sound)

include sound

/-- A search answers on the store as on the catalog. -/
theorem find_agrees (request : FindRequest) : (Operation.find request).Agrees store := by
  rw [Operation.Agrees, Operation.perform]
  cases planned : request.plan with
  | error error =>
      rw [Service.find, run_lift_bind_bind_of_error planned, Catalog.perform,
        run_lift_bind_of_error planned]
  | ok plan =>
      rw [run_bind_of_ok (Service.find_run sound planned), Catalog.perform,
        run_lift_bind_of_ok planned]
      rfl

/-- A request for an item answers on the store as on the catalog. -/
theorem get_agrees (request : ItemIdRequest) : (Operation.get request).Agrees store := by
  rw [Operation.Agrees, Operation.perform]
  cases addressed : request.address with
  | error error =>
      rw [Service.get_eq, run_lift_bind_bind_of_error addressed, Catalog.perform,
        run_lift_bind_of_error addressed]
  | ok address =>
      rw [Catalog.perform_get _ addressed, run_bind, Service.get_run sound addressed]
      cases store.catalog.lookup .read address.1 address.2 <;> rfl

/-- An insertion changes the store as it changes the catalog. -/
theorem insert_agrees {fresh : String} (named : fresh ≠ "") (request : ItemRequest) :
    (Operation.insert fresh named request).Agrees store := by
  rw [Operation.Agrees, Operation.perform]
  cases added : request.addition fresh with
  | error error =>
      rw [Service.insert_eq, run_lift_bind_bind_of_error added, Catalog.perform,
        run_lift_bind_of_error added]
  | ok addition =>
      obtain ⟨collection, id, item⟩ := addition
      rw [Catalog.perform_insert _ named added]
      split
      · next member =>
          obtain ⟨next, refused, view⟩ := Service.insert_run_of_mem sound named added member
          rw [run_bind_of_error refused, view]
      · next absent =>
          obtain ⟨next, inserted, view⟩ :=
            Service.insert_run_of_notMem sound named added absent
          rw [run_bind_of_ok inserted, ← view]
          rfl

/-- An update changes the store as it changes the catalog. -/
theorem update_agrees (request : ItemRequest) : (Operation.update request).Agrees store := by
  rw [Operation.Agrees, Operation.perform]
  cases replaced : request.replacement with
  | error error =>
      rw [Service.update_eq, run_lift_bind_bind_of_error replaced, Catalog.perform,
        run_lift_bind_of_error replaced]
  | ok replacement =>
      obtain ⟨collection, id, item⟩ := replacement
      rw [Catalog.perform_update _ replaced]
      split
      · next member =>
          obtain ⟨next, updated, view⟩ := Service.update_run_of_mem sound replaced member
          rw [run_bind_of_ok updated, ← view]
          rfl
      · next absent =>
          rw [run_bind_of_error (Service.update_run_of_notMem sound replaced absent)]

/-- A removal changes the store as it changes the catalog. -/
theorem remove_agrees (request : ItemIdRequest) : (Operation.remove request).Agrees store := by
  rw [Operation.Agrees, Operation.perform]
  cases addressed : request.address with
  | error error =>
      rw [Service.remove_eq, run_lift_bind_bind_of_error addressed, Catalog.perform,
        run_lift_bind_of_error addressed]
  | ok address =>
      obtain ⟨collection, id⟩ := address
      rw [Catalog.perform_remove _ addressed]
      split
      · next item found =>
          obtain ⟨next, removed, view⟩ := Service.remove_run_of_some sound addressed found
          rw [run_bind_of_ok removed, ← view]
          rfl
      · next absent =>
          rw [run_bind_of_error (Service.remove_run_of_none sound addressed absent)]

/-- A count answers on the store as on the catalog. -/
theorem count_agrees (request : CountRequest) : (Operation.count request).Agrees store := by
  rw [Operation.Agrees, Operation.perform]
  cases checked : request.scope with
  | error error =>
      rw [Service.count_eq, run_lift_bind_bind_of_error checked, Catalog.perform,
        run_lift_bind_of_error checked]
  | ok scope =>
      rw [run_bind_of_ok (Service.count_run sound checked), Catalog.perform,
        run_lift_bind_of_ok checked]
      rfl

end

/-- Every operation answers and changes the store as it does with the catalog. -/
theorem perform_catalog {store : Store} (sound : store.catalog.Sound) (operation : Operation) :
    Catalog.perform operation store.catalog =
      ((operation.perform store).1, (operation.perform store).2.catalog) := by
  cases operation with
  | find request => exact find_agrees sound request
  | get request => exact get_agrees sound request
  | insert fresh named request => exact insert_agrees sound named request
  | update request => exact update_agrees sound request
  | remove request => exact remove_agrees sound request
  | count request => exact count_agrees sound request
  | listCollections => rfl

/-- A session on the store gives the answers of the same session on the catalog. -/
theorem session_catalog (operations : List Operation) {store : Store}
    (sound : store.catalog.Sound) :
    session Catalog.perform operations store.catalog =
      ((session Operation.perform operations store).1,
        (session Operation.perform operations store).2.catalog) := by
  induction operations generalizing store with
  | nil => rfl
  | cons operation rest inductionHypothesis =>
      have step := perform_catalog sound operation
      have nextSound : (operation.perform store).2.catalog.Sound := by
        have performed := sound.perform operation
        rw [step] at performed
        exact performed
      have later := inductionHypothesis nextSound
      simp only [session, step, later]

/-- A catalog stays sound through every list of operations. -/
theorem Catalog.Sound.session {catalog : Catalog} (sound : catalog.Sound)
    (operations : List Operation) : (session Catalog.perform operations catalog).2.Sound := by
  induction operations generalizing catalog with
  | nil => exact sound
  | cons operation rest inductionHypothesis => exact inductionHypothesis (sound.perform operation)

/-- In every store that a session reaches, no two items of a collection share an identifier. -/
theorem Store.Reachable.sound {store : Store} (reachable : store.Reachable) :
    store.catalog.Sound := by
  obtain ⟨operations, rfl⟩ := reachable
  have sound := sound_empty.session operations
  rw [session_catalog operations sound_empty] at sound
  exact sound

end DocumentStore

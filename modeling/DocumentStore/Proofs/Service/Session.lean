import DocumentStore.Service.Basic

/-!
This file defines sessions, in which a service takes one operation after another on its store.
-/

namespace DocumentStore

/-- An insertion is given the identifier that a new item takes, and no such identifier is empty. -/
inductive Operation where
  | find (request : FindRequest)
  | get (request : ItemIdRequest)
  | insert (fresh : String) (named : fresh ≠ "") (request : ItemRequest)
  | update (request : ItemRequest)
  | remove (request : ItemIdRequest)
  | count (request : CountRequest)
  | listCollections

/-- The operations answer with pages, items, totals and names. -/
inductive Response where
  | page (response : FindResponse)
  | item (response : ItemResponse)
  | total (response : CountResponse)
  | collections (response : CollectionsResponse)

namespace Operation

/-- This is what the service does for an operation. -/
def perform : Operation → Action Store Response
  | find request => do return .page (← Service.find Store.handle request)
  | get request => do return .item (← Service.get Store.handle request)
  | insert fresh _ request => do return .item (← Service.insert Store.handle fresh request)
  | update request => do return .item (← Service.update Store.handle request)
  | remove request => do return .item (← Service.remove Store.handle request)
  | count request => do return .total (← Service.count Store.handle request)
  | listCollections => do return .collections (← Service.listCollections Store.handle)

end Operation

/-- A session runs all its operations, and an operation that fails does not end it. -/
def session {σ : Type} (perform : Operation → Action σ Response) :
    List Operation → σ → List (Outcome Response) × σ
  | [], state => ([], state)
  | operation :: rest, state =>
    let step := perform operation state
    let later := session perform rest step.2
    (step.1 :: later.1, later.2)

/-- A store is reachable when a session leads to it from the empty store. -/
def Store.Reachable (store : Store) : Prop :=
  ∃ operations, (session Operation.perform operations .empty).2 = store

end DocumentStore

import DocumentStore.Predicate.Basic
import DocumentStore.Store.Basic

/-!
This file defines the calls that a service makes to its store.

A handler answers every call from a state. The store itself is one, and others wrap it.
-/

namespace DocumentStore

inductive Call where
  | select (collection : String) (predicate : Predicate) (order : Order) (skip : Nat)
      (limit : Option Nat)
  | count (collection : String) (predicate : Predicate)
  | insert (collection : String) (item : Item)
  | update (collection : String) (item : Item)
  | delete (collection : String) (id : String)
  | collections
  | shutdown

/-- Every call has its own type of answer. -/
abbrev Call.Reply : Call → Type
  | select .. => List Item
  | count .. => Nat
  | insert .. => Item
  | update .. => Option Item
  | delete .. => Nat
  | collections => List String
  | shutdown => Unit

abbrev Handler (σ : Type) :=
  (call : Call) → Action σ call.Reply

def Call.keyword : Call → String
  | select .. => "select"
  | count .. => "count"
  | insert .. => "insert"
  | update .. => "update"
  | delete .. => "delete"
  | collections => "list"
  | shutdown => "shutdown"

namespace Store

/-- This answers calls from a store in memory. -/
def handle : Handler Store
  | .select collection predicate order skip limit => do
    (← get).select collection predicate order skip limit
  | .count collection predicate => do
    (← get).count collection predicate
  | .insert collection item => do
    let _ ← item.requireId
    modify fun store => store.prepare collection
    set (← (← get).insert collection item)
    return item
  | .update collection item => do
    match ← (← get).update collection item with
    | none => return none
    | some store => set store; return some item
  | .delete collection id => do
    match (← get).delete collection id with
    | none => return 0
    | some store => set store; return 1
  | .collections => return (← get).collectionNames
  | .shutdown => return ()

end Store

namespace Handler

variable {σ : Type}

/-- This keeps a log of all calls, the last call first. -/
def logged (handler : Handler σ) : Handler (σ × List Call) := fun call (state, calls) =>
  let (outcome, next) := handler call state
  (outcome, (next, call :: calls))

/-- Faults make calls fail with a text, and may let deletions miss. -/
structure Faults where
  text? : Call → Option String
  missesDeletion : Bool

/-- A call that fails does not reach the store, and neither does a deletion that misses. -/
def withFaults (handler : Handler σ) (faults : Faults) : Handler σ := fun call =>
  match faults.text? call with
  | some text => throw (.store (.other text))
  | none =>
    match call with
    | .delete collection id =>
      if faults.missesDeletion then return 0 else handler (.delete collection id)
    | other => handler other

end Handler

end DocumentStore

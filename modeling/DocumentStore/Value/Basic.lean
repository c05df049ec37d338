import DocumentStore.Decimal128
import DocumentStore.Fields
import DocumentStore.Instant.Basic
import DocumentStore.ObjectId

/-!
This file defines stored values, which are JSON values with more kinds of scalars.

The scope of a piece of code belongs to the code, like its text. It is no part of the document that
holds the code.
-/

namespace DocumentStore

inductive Value where
  | null
  | undefined
  | minKey
  | maxKey
  | bool (value : Bool)
  | int32 (value : Int32)
  | int64 (value : Int64)
  | double (value : Double)
  | date (instant : Instant)
  | string (text : String)
  | symbol (text : String)
  | code (text : String)
  | codeWithScope (text : String) (scope : List (String × Value))
  | array (values : List Value)
  | document (fields : List (String × Value))
  | objectId (id : ObjectId)
  | dbPointer (target : String) (id : ObjectId)
  | decimal128 (number : Decimal128)
  | timestamp (time increment : UInt32)
  | regex (pattern options : String)
  | binary (subtype : UInt8) (bytes : List UInt8)

/-- An item is one record of a collection. -/
abbrev Item :=
  Fields Value

/-- This key holds the identifier of an item. -/
def idKey : String :=
  "_id"

/-- A value without content is null or undefined. -/
def Value.isAbsent : Value → Bool
  | null => true
  | undefined => true
  | _ => false

end DocumentStore

import DocumentStore.Filter.Operator
import DocumentStore.Json.Decode
import DocumentStore.ObjectId

/-!
This file names the causes of all errors and gives their messages.
-/

namespace DocumentStore

/-- These faults of a request are found before the store is asked. -/
inductive RequestFault where
  | fieldName (name : String)
  | filterShape
  | filterOperator (given : Json)
  | filterField (operator : LeafOperator)
  | filterList (combinator : Combinator)
  | negationCount (count : Nat)
  | negationChildren
  | scalarValue (placement : Placement)
  | tokenList
  | pattern
  | sortShape
  | sortField
  | sortDirection (given : Json)
  | missing (key : String)
  | negativeSkip
  | limitNotPositive
  | itemId
  | body (cause : DecodeError)
  | other (text : String)

inductive AbsenceFault where
  | read (id : String)
  | write (id : String)
  | other (text : String)

inductive SerializationFault where
  | decode (cause : DecodeError)
  | objectId (cause : ObjectIdError)
  | other (text : String)

inductive SettingsFault where
  | unknownBackend (name : String)
  | backendNotBuilt
  | other (text : String)

inductive StoreFault where
  | idNotText
  | idTaken (id collection : String)
  | other (text : String)

inductive Error where
  | badRequest (fault : RequestFault)
  | unsupportedOperator (tag : String)
  | notFound (fault : AbsenceFault)
  | serialization (fault : SerializationFault)
  | initialization (text : String)
  | settings (fault : SettingsFault)
  | store (fault : StoreFault)

/-- This coarse class of an error tells who can mend it. -/
inductive ErrorKind where
  | badRequest
  | notFound
  | store
  deriving DecidableEq

abbrev Outcome (α : Type) :=
  Except Error α

/-- An action may change a state and may fail. -/
abbrev Action (σ α : Type) :=
  ExceptT Error (StateM σ) α

def RequestFault.message : RequestFault → String
  | fieldName name => "Invalid field name '" ++ name ++ "'"
  | filterShape => "Filter must be an object"
  | filterOperator given => "Invalid filter operator " ++ given.render
  | filterField operator => "Missing fieldName in " ++ operator.tag ++ " filter"
  | filterList combinator => "Filter " ++ combinator.tag ++ " expects a list of filters"
  | negationCount count => s!"Filter $not expects exactly one filter, got {count}"
  | negationChildren => "Filter $not expects exactly one filter"
  | scalarValue placement => "Filter " ++ placement.tag ++ " expects a scalar value"
  | tokenList => "Filter $urlized expects a list of strings"
  | pattern => "Invalid pattern:"
  | sortShape => "Sort must be a list"
  | sortField => "Missing fieldName in sort"
  | sortDirection given => "Invalid sort direction " ++ given.render
  | missing key => "Missing " ++ key ++ " in request body"
  | negativeSkip => "Invalid skip in request body: must not be negative"
  | limitNotPositive => "Invalid limit in request body: must be a positive integer"
  | itemId => "Invalid _id in item: expected a string"
  | body cause => "Malformed request body: " ++ cause.message
  | other text => text

def AbsenceFault.message : AbsenceFault → String
  | read id => "Item with id " ++ id ++ " not found."
  | write id => "Item with id " ++ id ++ " does not exist."
  | other text => text

def SerializationFault.message : SerializationFault → String
  | decode cause => cause.message
  | objectId cause =>
    "BSON error. Kind: An ObjectId-related error occurred: " ++ cause.message ++ "."
  | other text => text

def SettingsFault.message : SettingsFault → String
  | unknownBackend name => "Unknown backend " ++ quoted name
  | backendNotBuilt => "The mongodb backend requires the `mongodb` feature"
  | other text => text

def StoreFault.message : StoreFault → String
  | idNotText => "Item is missing a string _id"
  | idTaken id collection => "Item with id " ++ id ++ " already exists in collection " ++ collection
  | other text => text

namespace Error

/-- This is the error of a request without a field that it needs. -/
def missing (key : String) : Error :=
  badRequest (.missing key)

def kind : Error → ErrorKind
  | badRequest _ => .badRequest
  | unsupportedOperator _ => .badRequest
  | notFound _ => .notFound
  | serialization _ => .store
  | initialization _ => .store
  | settings _ => .store
  | store _ => .store

def message : Error → String
  | badRequest fault => "Bad request: " ++ fault.message
  | unsupportedOperator tag => "Filter of type " ++ tag ++ " is not supported."
  | notFound fault => "Not found: " ++ fault.message
  | serialization fault => "Serialization error: " ++ fault.message
  | initialization text => "Initialization error: " ++ text
  | settings fault => "Configuration error: " ++ fault.message
  | store fault => "Backend error: " ++ fault.message

end Error

end DocumentStore

import DocumentStore.Error
import DocumentStore.Store.Basic
import DocumentStore.Text.CharClass

/-!
This file reads the settings that choose a store and name its place.
-/

namespace DocumentStore

inductive Backend where
  | memory
  | mongodb
  deriving DecidableEq

structure Settings where
  backend : Backend := .memory
  mongodbUri : String := "mongodb://localhost:27017"
  database : String := "docadapter"

namespace Backend

def name : Backend → String
  | memory => "memory"
  | mongodb => "mongodb"

def ofName? (name : String) : Option Backend :=
  [memory, mongodb].find? fun backend => backend.name = name

/-- A name may stand between blanks and in any mix of cases. -/
def ofText (text : String) : Outcome Backend :=
  let name := String.ofList ((trimBlanks text.toList).map Char.toLower)
  match ofName? name with
  | some backend => .ok backend
  | none => .error (.settings (.unknownBackend name))

def decodeName (name : String) : Except DecodeError Backend :=
  match ofName? name with
  | some backend => .ok backend
  | none => .error (.unknownVariant name "`memory` or `mongodb`")

/-- A backend is given by its exact name, or by an object that maps the name to null. -/
def decode : Json → Except DecodeError Backend
  | .string name => decodeName name
  | .object [(name, content)] => do
    let backend ← decodeName name
    match content with
    | .null => return backend
    | other => throw (.wrongType other "unit")
  | .object fields => .error (.wrongValue (.object fields) "map with a single key")
  | other => .error (.wrongType other "string or map")

end Backend

namespace Settings

/-- A variable that holds only blanks counts as unset. -/
def setVariable? (lookup : String → Option String) (name : String) : Option String :=
  (lookup name).filter fun text => !(trimBlanks text.toList).isEmpty

/-- This reads the settings from variables, and an unset variable keeps its default. -/
def ofVariables (lookup : String → Option String) : Outcome Settings := do
  let defaults : Settings := {}
  let backend ← match setVariable? lookup "DOCADAPTER_BACKEND" with
    | some text => Backend.ofText text
    | none => .ok defaults.backend
  return {
    backend
    mongodbUri := (setVariable? lookup "MONGODB_URI").getD defaults.mongodbUri
    database := (setVariable? lookup "MONGODB_DATABASE").getD defaults.database
  }

def format : RecordFormat Settings where
  name := "AdapterConfig"
  keys := ["backend", "mongodb_uri", "database"]
  initial := {}
  store settings key value :=
    match key with
    | "backend" => do return { settings with backend := ← Backend.decode value }
    | "mongodb_uri" => do return { settings with mongodbUri := ← Json.decodeText value }
    | "database" => do return { settings with database := ← Json.decodeText value }
    | _ => .ok settings

def ofJson (json : Json) : Outcome Settings :=
  (format.decode 0 json).mapError fun cause => .serialization (.decode cause)

def toJson (settings : Settings) : Json :=
  .object [
    ("backend", .string settings.backend.name),
    ("mongodb_uri", .string settings.mongodbUri),
    ("database", .string settings.database)]

/-- This opens the chosen store, and only the store in memory is built in. -/
def connect (settings : Settings) : Outcome Store :=
  match settings.backend with
  | .memory => .ok .empty
  | .mongodb => .error (.settings .backendNotBuilt)

end Settings

end DocumentStore

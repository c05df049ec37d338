import DocumentStore.Value.Basic

/-!
This file writes document keys without the characters that MongoDB refuses in keys.

Every refused character has a marker. Keys that become equal collapse into one field.
-/

namespace DocumentStore

namespace KeyMarkers

/-- These characters are refused in keys. -/
def all : List (Char × List Char) :=
  [('.', "__dot__".toList), ('$', "__dollar__".toList), ('\x00', "__null__".toList)]

def mark (marker : Char × List Char) (text : List Char) : List Char :=
  text.flatMap fun char => if char = marker.1 then marker.2 else [char]

/-- This replaces the occurrences of a marker from the left and skips the rest of each. -/
def unmarkFrom (marker : Char × List Char) : Nat → List Char → List Char
  | _, [] => []
  | skip + 1, _ :: rest => unmarkFrom marker skip rest
  | 0, char :: rest =>
    if marker.2.isPrefixOf (char :: rest) then
      marker.1 :: unmarkFrom marker (marker.2.length - 1) rest
    else char :: unmarkFrom marker 0 rest

def unmark (marker : Char × List Char) (text : List Char) : List Char :=
  unmarkFrom marker 0 text

/-- The markers are written one after another. -/
def sanitize (key : String) : String :=
  String.ofList (all.foldl (fun text marker => mark marker text) key.toList)

/-- The markers are taken back in the opposite order. -/
def restore (key : String) : String :=
  String.ofList (all.reverse.foldl (fun text marker => unmark marker text) key.toList)

end KeyMarkers

namespace Value

mutual

/-- This renames the keys of all documents in a value. -/
def renameKeys (rename : String → String) : Value → Value
  | array values => array (renameKeysList rename values)
  | document fields => document (Fields.ofList (renameKeysFields rename fields))
  | other => other

def renameKeysList (rename : String → String) : List Value → List Value
  | [] => []
  | value :: rest => renameKeys rename value :: renameKeysList rename rest

def renameKeysFields (rename : String → String) :
    List (String × Value) → List (String × Value)
  | [] => []
  | (key, value) :: rest => (rename key, renameKeys rename value) :: renameKeysFields rename rest

end

end Value

namespace Item

def renameKeys (rename : String → String) (item : Item) : Item :=
  Fields.ofList (Value.renameKeysFields rename item)

def sanitizeKeys (item : Item) : Item :=
  item.renameKeys KeyMarkers.sanitize

def restoreKeys (item : Item) : Item :=
  item.renameKeys KeyMarkers.restore

end Item

end DocumentStore

import DocumentStore.Error
import DocumentStore.Value.Basic

/-!
This file defines field names, which stand in compiled text without quotes.

A field name has one or more ASCII letters, digits and underscores, so it cannot change the
structure of what it is written into.
-/

namespace DocumentStore

def isNameChar (char : Char) : Bool :=
  char.isAlphanum || char = '_'

/-- A text is a field name when it is not empty and all its characters are allowed. -/
def isFieldName (text : String) : Bool :=
  !text.toList.isEmpty && text.toList.all isNameChar

structure FieldName where
  text : String
  allowed : isFieldName text = true
  deriving DecidableEq

namespace FieldName

def ofText (text : String) : Outcome FieldName :=
  if allowed : isFieldName text = true then .ok { text, allowed }
  else .error (.badRequest (.fieldName text))

/-- This is the field that holds the identifier. -/
def id : FieldName :=
  ⟨idKey, by decide⟩

theorem ofText_text (field : FieldName) : ofText field.text = .ok field :=
  dif_pos field.allowed

theorem text_injective : Function.Injective FieldName.text := by
  intro left right sameText
  cases left
  cases right
  cases sameText
  rfl

theorem isNameChar_of_mem (field : FieldName) :
    ∀ char ∈ field.text.toList, isNameChar char = true := by
  have allowed := field.allowed
  rw [isFieldName, Bool.and_eq_true, List.all_eq_true] at allowed
  exact allowed.2

end FieldName

end DocumentStore

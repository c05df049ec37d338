import DocumentStore.Value.Text

/-!
This file writes values as literals in compiled text.

A text literal stands in single quotes, and a backslash escapes every character that could end the
literal early.
-/

namespace DocumentStore

namespace Literal

def escapeChar (char : Char) : List Char :=
  match char with
  | '\x00' => ['\x5c', '0']
  | '\x08' => ['\x5c', 'b']
  | '\t' => ['\x5c', 't']
  | '\n' => ['\x5c', 'n']
  | '\r' => ['\x5c', 'r']
  | '\x1a' => ['\x5c', 'Z']
  | '\x22' => ['\x5c', '\x22']
  | '\x27' => ['\x5c', '\x27']
  | '\x5c' => ['\x5c', '\x5c']
  | other => [other]

/-- This writes a text as a quoted literal. -/
def ofText (text : List Char) : List Char :=
  '\x27' :: text.flatMap escapeChar ++ ['\x27']

/-- A backslash also escapes the wildcards of a search text. -/
def escapeWildcards (text : List Char) : List Char :=
  text.flatMap fun char => if char ∈ ['\x5c', '%', '_'] then ['\x5c', char] else [char]

def nullText : List Char :=
  "NULL".toList

def ofDouble : Double → List Char
  | .finite number => number.text .plain
  | _ => nullText

def ofInstant (instant : Instant) : List Char :=
  match instant.literal? with
  | some text => ofText text
  | none => nullText

mutual

/-- A value without a literal form is written as the literal of its display text. -/
def ofValue : Value → List Char
  | .null => nullText
  | .undefined => nullText
  | .bool value => (toString value).toList
  | .int32 value => (toString value.toInt).toList
  | .int64 value => (toString value.toInt).toList
  | .double value => ofDouble value
  | .string text => ofText text.toList
  | .date instant => ofInstant instant
  | .array values => '(' :: ofList values ++ [')']
  | other => ofText other.display

def ofList : List Value → List Char
  | [] => []
  | [value] => ofValue value
  | value :: rest => ofValue value ++ ',' :: ' ' :: ofList rest

end

end Literal

end DocumentStore

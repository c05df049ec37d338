import DocumentStore.Double.Text
import DocumentStore.Json.Basic

/-!
This file writes JSON values as compact text.
-/

namespace DocumentStore

/-- JSON keeps the point of a whole number and writes far exponents with an `e`. -/
def NumberFormat.json : NumberFormat where
  exponential := fun exponent => exponent < -5 || 15 < exponent
  wholeEnd := ['.', '0']
  tie := .even

def JsonNumber.text : JsonNumber → String
  | integer value _ _ => toString value
  | double number => String.ofList (number.text .json)

namespace Json

/-- This is a digit of a lower-case hexadecimal number. -/
def hexDigit (value : Nat) : Char :=
  Nat.digitChar (value % 16)

/-- A control character without a short escape is written by its number. -/
def escapeChar (char : Char) : List Char :=
  match char with
  | '\x22' => ['\x5c', '\x22']
  | '\x5c' => ['\x5c', '\x5c']
  | '\x08' => ['\x5c', 'b']
  | '\t' => ['\x5c', 't']
  | '\n' => ['\x5c', 'n']
  | '\x0c' => ['\x5c', 'f']
  | '\r' => ['\x5c', 'r']
  | other =>
    if other.toNat < 32 then
      ['\x5c', 'u', '0', '0', hexDigit (other.toNat / 16), hexDigit other.toNat]
    else [other]

def quote (text : String) : String :=
  "\"" ++ String.ofList (text.toList.flatMap escapeChar) ++ "\""

mutual

/-- This is the text of a value without blanks. -/
def render : Json → String
  | null => "null"
  | bool true => "true"
  | bool false => "false"
  | number value => value.text
  | string value => quote value
  | array values => "[" ++ renderList values ++ "]"
  | object fields => "\x7b" ++ renderFields fields ++ "\x7d"

def renderList : List Json → String
  | [] => ""
  | [value] => render value
  | value :: rest => render value ++ "," ++ renderList rest

def renderFields : List (String × Json) → String
  | [] => ""
  | [(key, value)] => quote key ++ ":" ++ render value
  | (key, value) :: rest => quote key ++ ":" ++ render value ++ "," ++ renderFields rest

end

end Json

end DocumentStore

import DocumentStore.Json.Numeral

/-!
This file reads JSON values from text.

A key that an object repeats keeps its first place and takes its last value.
-/

namespace DocumentStore.Json

def isGap (char : Char) : Bool :=
  char = ' ' || char = '\t' || char = '\n' || char = '\r'

def skipGaps (text : List Char) : List Char :=
  text.dropWhile isGap

def hexValue? (char : Char) : Option Nat :=
  if char.isDigit then some (char.toNat - '0'.toNat)
  else if 'a' ≤ char ∧ char ≤ 'f' then some (char.toNat - 'a'.toNat + 10)
  else if 'A' ≤ char ∧ char ≤ 'F' then some (char.toNat - 'A'.toNat + 10)
  else none

def hexQuad? (first second third fourth : Char) : Option Nat := do
  return 4096 * (← hexValue? first) + 256 * (← hexValue? second) + 16 * (← hexValue? third) +
    (← hexValue? fourth)

def shortEscape? : Char → Option Char
  | '\x22' => some '\x22'
  | '\x5c' => some '\x5c'
  | '/' => some '/'
  | 'b' => some '\x08'
  | 'f' => some '\x0c'
  | 'n' => some '\n'
  | 'r' => some '\r'
  | 't' => some '\t'
  | _ => none

def pushChar (char : Char) (rest : Option (List Char × List Char)) :
    Option (List Char × List Char) :=
  rest.map fun (chars, text) => (char :: chars, text)

/-- This reads the rest of a string after its first quote. A pair of surrogates is one character. -/
def readString : List Char → Option (List Char × List Char)
  | '\x22' :: text => some ([], text)
  | '\x5c' :: 'u' :: a :: b :: c :: d :: '\x5c' :: 'u' :: e :: f :: g :: h :: text => do
    let high ← hexQuad? a b c d
    if 0xD800 ≤ high ∧ high < 0xDC00 then
      let low ← hexQuad? e f g h
      if 0xDC00 ≤ low ∧ low < 0xE000 then
        pushChar (Char.ofNat (0x10000 + 1024 * (high - 0xD800) + (low - 0xDC00))) (readString text)
      else none
    else if 0xDC00 ≤ high ∧ high < 0xE000 then none
    else pushChar (Char.ofNat high) (readString ('\x5c' :: 'u' :: e :: f :: g :: h :: text))
  | '\x5c' :: 'u' :: a :: b :: c :: d :: text => do
    let code ← hexQuad? a b c d
    if 0xD800 ≤ code ∧ code < 0xE000 then none
    else pushChar (Char.ofNat code) (readString text)
  | '\x5c' :: escape :: text => do
    pushChar (← shortEscape? escape) (readString text)
  | char :: text => if char.toNat < 32 then none else pushChar char (readString text)
  | [] => none

def readNumber (text : List Char) : Option (Json × List Char) :=
  let (negative, unsigned) := match text with
    | '-' :: rest => (true, rest)
    | rest => (false, rest)
  let (numeral, rest) := Numeral.take unsigned
  if numeral.wellFormed then (numeral.toJson? negative).map fun value => (number value, rest)
  else none

mutual

def readValue : Nat → List Char → Option (Json × List Char)
  | 0, _ => none
  | fuel + 1, text =>
    match skipGaps text with
    | 'n' :: 'u' :: 'l' :: 'l' :: rest => some (null, rest)
    | 't' :: 'r' :: 'u' :: 'e' :: rest => some (bool true, rest)
    | 'f' :: 'a' :: 'l' :: 's' :: 'e' :: rest => some (bool false, rest)
    | '\x22' :: rest =>
      (readString rest).map fun (chars, rest) => (string (String.ofList chars), rest)
    | '[' :: rest =>
      match skipGaps rest with
      | ']' :: rest => some (array [], rest)
      | rest => (readItems fuel rest).map fun (values, rest) => (array values, rest)
    | '\x7b' :: rest =>
      match skipGaps rest with
      | '\x7d' :: rest => some (object [], rest)
      | rest =>
        (readMembers fuel rest).map fun (pairs, rest) => (object (Fields.ofList pairs), rest)
    | rest => readNumber rest

def readItems : Nat → List Char → Option (List Json × List Char)
  | 0, _ => none
  | fuel + 1, text => do
    let (value, rest) ← readValue fuel text
    match skipGaps rest with
    | ',' :: rest => (readItems fuel rest).map fun (values, rest) => (value :: values, rest)
    | ']' :: rest => some ([value], rest)
    | _ => none

def readMembers : Nat → List Char → Option (List (String × Json) × List Char)
  | 0, _ => none
  | fuel + 1, text => do
    let '\x22' :: rest := skipGaps text | none
    let (key, rest) ← readString rest
    let ':' :: rest := skipGaps rest | none
    let (value, rest) ← readValue fuel rest
    match skipGaps rest with
    | ',' :: rest =>
      (readMembers fuel rest).map fun (pairs, rest) => ((String.ofList key, value) :: pairs, rest)
    | '\x7d' :: rest => some ([(String.ofList key, value)], rest)
    | _ => none

end

/-- This reads one value from a whole text.

Every step takes a character, so the length of the text bounds them. -/
def read? (text : String) : Option Json :=
  match readValue (text.length + 1) text.toList with
  | some (value, rest) => if (skipGaps rest).isEmpty then some value else none
  | none => none

end DocumentStore.Json

import DocumentStore.Double.Text
import DocumentStore.Instant.Text
import DocumentStore.Value.Basic

/-!
This file writes stored values as display text.

Display text is meant for readers, so texts and keys stand in plain quotes without escapes. Bytes
are written in base64.
-/

namespace DocumentStore

namespace Base64

/-- These are the digits of base64 by value. -/
def digits : List Char :=
  "ABCDEFGHIJKLMNOPQRSTUVWXYZabcdefghijklmnopqrstuvwxyz0123456789+/".toList

def digit (value : Nat) : Char :=
  digits.getD (value % 64) '='

/-- Three bytes make four digits, and a shorter group at the end is filled up. -/
def encode : List UInt8 → List Char
  | [] => []
  | [first] =>
    let group := first.toNat * 16
    [digit (group / 64), digit group, '=', '=']
  | [first, second] =>
    let group := (first.toNat * 256 + second.toNat) * 4
    [digit (group / 4096), digit (group / 64), digit group, '=']
  | first :: second :: third :: rest =>
    let group := (first.toNat * 256 + second.toNat) * 256 + third.toNat
    digit (group / 262144) :: digit (group / 4096) :: digit (group / 64) :: digit group ::
      encode rest

end Base64

namespace Value

/-- The quotes are plain, also around a text that holds quotes. -/
def inQuotes (text : List Char) : List Char :=
  '"' :: text ++ ['"']

/-- This wraps an argument in the name of its kind. -/
def labeled (label : String) (argument : List Char) : List Char :=
  label.toList ++ '(' :: argument ++ [')']

mutual

/-- The scope of a piece of code is not shown. -/
def display : Value → List Char
  | null => "null".toList
  | undefined => "undefined".toList
  | minKey => "MinKey".toList
  | maxKey => "MaxKey".toList
  | bool value => (toString value).toList
  | int32 value => (toString value.toInt).toList
  | int64 value => (toString value.toInt).toList
  | double value => value.text.toList
  | date instant => labeled "DateTime" (inQuotes instant.display)
  | string text => inQuotes text.toList
  | symbol text => labeled "Symbol" (inQuotes text.toList)
  | code text => text.toList
  | codeWithScope text _ => text.toList
  | array values => '[' :: displayList values ++ [']']
  | document [] => ['\x7b', '\x7d']
  | document fields => '\x7b' :: ' ' :: displayFields fields ++ [' ', '\x7d']
  | objectId id => labeled "ObjectId" (inQuotes id.text.toList)
  | dbPointer target id => labeled "DbPointer" (target.toList ++ ',' :: ' ' :: id.text.toList)
  | decimal128 number => number.text
  | timestamp time increment =>
    labeled "Timestamp"
      (Nat.toDigits 10 time.toNat ++ ',' :: ' ' :: Nat.toDigits 10 increment.toNat)
  | regex pattern options => '/' :: pattern.toList ++ '/' :: options.toList
  | binary subtype bytes =>
    labeled "Binary"
      ('0' :: 'x' :: Nat.toDigits 16 subtype.toNat ++ ',' :: ' ' :: Base64.encode bytes)

def displayList : List Value → List Char
  | [] => []
  | [value] => display value
  | value :: rest => display value ++ ',' :: ' ' :: displayList rest

def displayFields : List (String × Value) → List Char
  | [] => []
  | [(key, value)] => inQuotes key.toList ++ ':' :: ' ' :: display value
  | (key, value) :: rest =>
    inQuotes key.toList ++ ':' :: ' ' :: display value ++ ',' :: ' ' :: displayFields rest

end

end Value

end DocumentStore

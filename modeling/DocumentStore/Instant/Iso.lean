import DocumentStore.Double.Reader
import DocumentStore.Instant.Basic
import DocumentStore.Text.CharClass

/-!
This file recognises and reads ISO date-times.

Recognition looks at the shape of a text and takes the digits of any script. Reading takes ASCII
digits, a real date and a time of day, and an offset of less than a day. It makes three attempts,
which take different offsets.
-/

namespace DocumentStore.IsoText

def dropDigits : Nat → List Char → Option (List Char)
  | 0, text => some text
  | count + 1, char :: text => if isDecimalDigit char then dropDigits count text else none
  | _ + 1, [] => none

def dropChar (expected : Char) : List Char → Option (List Char)
  | char :: text => if char = expected then some text else none
  | [] => none

/-- An offset is absent, or `Z`, or a sign with digits, bars and colons. -/
def offsetShape : List Char → Bool
  | [] => true
  | ['Z'] => true
  | sign :: rest =>
    (sign = '+' || sign = '-') &&
      rest.all fun char => isDecimalDigit char || char = '|' || char = ':'

def fractionShape (text : List Char) : Option (List Char) := do
  return (← dropChar '.' text).dropWhile isDecimalDigit

def shape? (text : List Char) : Option (List Char) := do
  let text ← dropChar '-' (← dropDigits 4 text)
  let text ← dropChar '-' (← dropDigits 2 text)
  let text ← dropChar 'T' (← dropDigits 2 text)
  let text ← dropChar ':' (← dropDigits 2 text)
  let text ← dropChar ':' (← dropDigits 2 text)
  fractionShape (← dropDigits 2 text)

/-- This recognises the shape of an ISO date-time with a fraction of a second. -/
def hasShape (text : List Char) : Bool :=
  (shape? text).any offsetShape

/-- This reads a fixed number of ASCII digits. -/
def takeNumber (count : Nat) (text : List Char) : Option (Nat × List Char) :=
  let digits := text.take count
  if digits.length = count ∧ digits.all Char.isDigit then
    some (digitsValue digits, text.drop count)
  else none

/-- A time of day has a second of up to sixty, and an instant follows the last one. -/
structure DateTime where
  date : CalendarDate
  hour : Nat
  minute : Nat
  second : Nat
  millisecond : Nat

def DateTime.Valid (dateTime : DateTime) : Prop :=
  dateTime.date.Valid ∧ dateTime.hour ≤ 23 ∧ dateTime.minute ≤ 59 ∧ dateTime.second ≤ 60

instance (dateTime : DateTime) : Decidable dateTime.Valid :=
  inferInstanceAs (Decidable (_ ∧ _))

/-- This counts the milliseconds since the start of 1970, without an offset. -/
def DateTime.milliseconds (dateTime : DateTime) : Int :=
  dateTime.date.dayNumber * 86400000 +
    (dateTime.hour * 3600000 + dateTime.minute * 60000 + dateTime.second * 1000 +
      dateTime.millisecond : Nat)

def takeDate (text : List Char) : Option (CalendarDate × List Char) := do
  let (year, text) ← takeNumber 4 text
  let (month, text) ← takeNumber 2 (← dropChar '-' text)
  let (day, text) ← takeNumber 2 (← dropChar '-' text)
  return ({ year, month, day }, text)

/-- A fraction has at least one digit, and its first three digits are the milliseconds. -/
def takeFraction (text : List Char) : Option (Nat × List Char) := do
  let text ← dropChar '.' text
  let digits := text.takeWhile Char.isDigit
  if digits.isEmpty then none
  else some (digitsValue ((digits ++ ['0', '0']).take 3), text.dropWhile Char.isDigit)

def takeDateTime (text : List Char) : Option (DateTime × List Char) := do
  let (date, text) ← takeDate text
  let (hour, text) ← takeNumber 2 (← dropChar 'T' text)
  let (minute, text) ← takeNumber 2 (← dropChar ':' text)
  let (second, text) ← takeNumber 2 (← dropChar ':' text)
  let (millisecond, text) ← takeFraction text
  return ({ date, hour, minute, second, millisecond }, text)

/-- An offset has two digits for the hours, a separator and two digits for the minutes. -/
def offsetMinutes? (separator? : List Char → Option (List Char)) (text : List Char) :
    Option Nat := do
  let (hours, text) ← takeNumber 2 text
  let (minutes, text) ← takeNumber 2 (← separator? text)
  if text.isEmpty && hours < 24 && minutes < 60 then some (60 * hours + minutes) else none

/-- This is a signed offset from universal time in minutes. -/
def signedOffset? (separator? : List Char → Option (List Char)) : List Char → Option Int
  | '+' :: rest => (offsetMinutes? separator? rest).map fun (minutes : Nat) => (minutes : Int)
  | '-' :: rest => (offsetMinutes? separator? rest).map fun (minutes : Nat) => -(minutes : Int)
  | _ => none

/-- The first attempt takes `Z`, or an offset with one colon. -/
def strictOffset? : List Char → Option Int
  | ['Z'] => some 0
  | text => signedOffset? (dropChar ':') text

def isSeparator (char : Char) : Bool :=
  char = ':' || isBlank char

/-- The second attempt takes an offset with any number of colons and blanks. -/
def looseOffset? (text : List Char) : Option Int :=
  signedOffset? (fun text => some (text.dropWhile isSeparator)) text

/-- The last attempt takes no offset, and the text is in universal time. -/
def noOffset? (text : List Char) : Option Int :=
  if text.isEmpty then some 0 else none

/-- The attempts to read a text only differ in the offsets that they take. -/
def attempts : List (List Char → Option Int) :=
  [strictOffset?, looseOffset?, noOffset?]

/-- This reads a whole text as a date-time in milliseconds of universal time. -/
def milliseconds? (offset? : List Char → Option Int) (text : List Char) : Option Int := do
  let (dateTime, rest) ← takeDateTime text
  let offset ← offset? rest
  if dateTime.Valid then some (dateTime.milliseconds - offset * 60000) else none

/-- The first attempt that succeeds decides. -/
def firstReading? (text : List Char) : Option Int :=
  attempts.findSome? fun offset? => milliseconds? offset? text

end DocumentStore.IsoText

namespace DocumentStore.Instant

/-- Only a text with the shape of an ISO date-time is read. -/
def ofIso? (text : String) : Option Instant :=
  if IsoText.hasShape text.toList then (IsoText.firstReading? text.toList).map ofInt else none

end DocumentStore.Instant

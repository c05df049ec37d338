import DocumentStore.Text.Case.Fold

/-!
This file defines the patterns that compiled filters match against texts.

A pattern is a row of letters and classes. It is found anywhere in a text, without regard to case.
-/

namespace DocumentStore

inductive PatternElement where
  | letter (char : Char)
  | oneOf (members : List Char)
  deriving DecidableEq

abbrev Pattern :=
  List PatternElement

namespace PatternElement

def accepts : PatternElement → Char → Bool
  | letter expected, char => sameLetter expected char
  | oneOf members, char => members.any fun expected => sameLetter expected char

end PatternElement

namespace Pattern

/-- A backslash takes the meaning from these characters. -/
def isMeta (char : Char) : Bool :=
  char ∈ ['\x5c', '.', '+', '*', '?', '(', ')', '|', '[', ']', '\x7b', '\x7d', '^', '$', '#', '&',
    '-', '~']

/-- These characters do not stand for themselves outside a class. -/
def isOperator (char : Char) : Bool :=
  char ∈ ['\x5c', '.', '+', '*', '?', '(', ')', '|', '[', '\x7b', '^', '$']

/-- This writes a text as a pattern that matches the text itself. -/
def escape (text : List Char) : List Char :=
  text.flatMap fun char => if isMeta char then ['\x5c', char] else [char]

/-- This lists the characters from the first to the last, and surrogates are none. -/
def charRange (first last : Char) : List Char :=
  (List.range' first.toNat (last.toNat + 1 - first.toNat)).filterMap fun code =>
    if valid : code.isValidChar then some (Char.ofNatAux code valid) else none

/-- The reader is inside a class when it holds members, and the first member may be a bracket. -/
def readFrom : Option (List Char) → List Char → Option Pattern
  | none, [] => some []
  | none, '\x5c' :: char :: rest =>
    if isMeta char then (readFrom none rest).map (.letter char :: ·) else none
  | none, '[' :: rest => readFrom (some []) rest
  | none, char :: rest =>
    if isOperator char then none else (readFrom none rest).map (.letter char :: ·)
  | some [], ']' :: rest => readFrom (some [']']) rest
  | some [], '^' :: _ => none
  | some members, ']' :: rest => (readFrom none rest).map (.oneOf members :: ·)
  | some members, '\x5c' :: char :: rest =>
    if isMeta char then readFrom (some (members ++ [char])) rest else none
  | some _, '[' :: _ => none
  | some members, first :: '-' :: last :: rest =>
    if last = ']' then readFrom (some (members ++ [first])) ('-' :: last :: rest)
    else if last < first then none
    else readFrom (some (members ++ charRange first last)) rest
  | some members, char :: rest => readFrom (some (members ++ [char])) rest
  | some _, [] => none

/-- This reads a pattern, and a class that stays open is refused. -/
def ofText? (text : List Char) : Option Pattern :=
  readFrom none text

/-- This asks whether a text begins with a match. -/
def startsText : Pattern → List Char → Bool
  | [], _ => true
  | _ :: _, [] => false
  | element :: rest, char :: text => element.accepts char && startsText rest text

def occursIn (pattern : Pattern) : List Char → Bool
  | [] => pattern.startsText []
  | char :: text => pattern.startsText (char :: text) || occursIn pattern text

end Pattern

end DocumentStore

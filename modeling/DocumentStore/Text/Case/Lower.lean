import DocumentStore.Text.Case.Run
import DocumentStore.Text.Case.Cased

/-!
This file maps texts to lower case.

Two letters need more than a single letter: a capital sigma at the end of a word becomes a final
sigma, and a capital I with a dot becomes an i with a combining dot.
-/

namespace DocumentStore

def isCased (char : Char) : Bool :=
  CharClass.cased.contains char

def isCaseIgnorable (char : Char) : Bool :=
  CharClass.caseIgnorable.contains char

/-- This asks whether a cased letter follows after characters that words ignore. -/
def continuesWord (text : List Char) : Bool :=
  match text.dropWhile isCaseIgnorable with
  | [] => false
  | char :: _ => isCased char

/-- The lower case of a letter depends on whether it stands inside a word. -/
def lowerForm (inWord : Bool) (char : Char) (rest : List Char) : List Char :=
  if char = 'Σ' then
    if inWord && !continuesWord rest then ['ς'] else ['σ']
  else if char = 'İ' then ['i', '\u0307']
  else [lowerLetter char]

def lowerFrom (inWord : Bool) : List Char → List Char
  | [] => []
  | char :: rest =>
    lowerForm inWord char rest ++
      lowerFrom (if isCaseIgnorable char then inWord else isCased char) rest

/-- This is the lower case of a text. -/
def lowerCase (text : List Char) : List Char :=
  lowerFrom false text

end DocumentStore

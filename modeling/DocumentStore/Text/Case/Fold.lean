import DocumentStore.Text.Case.Run
import DocumentStore.Text.CharClass

/-!
This file compares letters without regard to case.

Two letters are the same under simple case folding when they share a folded form. A letter folds to
its lower case, save for the variants of lower-case letters, which fold to the plain letter.
Folding knows the letters of Unicode 16, and the lower case also knows those of Unicode 17.
-/

namespace DocumentStore

/-- These lower-case letters are variants of others. -/
def letterVariants : List (Nat × Nat) :=
  [
    (0xB5, 0x3BC), (0x17F, 0x73), (0x345, 0x3B9), (0x3C2, 0x3C3), (0x3D0, 0x3B2),
    (0x3D1, 0x3B8), (0x3D5, 0x3C6), (0x3D6, 0x3C0), (0x3F0, 0x3BA), (0x3F1, 0x3C1),
    (0x3F5, 0x3B5), (0x1C80, 0x432), (0x1C81, 0x434), (0x1C82, 0x43E), (0x1C83, 0x441),
    (0x1C84, 0x442), (0x1C85, 0x442), (0x1C86, 0x44A), (0x1C87, 0x463), (0x1C88, 0xA64B),
    (0x1E9B, 0x1E61), (0x1FBE, 0x3B9), (0x1FD3, 0x390), (0x1FE3, 0x3B0), (0xFB05, 0xFB06)
  ]

/-- These capitals are new in Unicode 17, and they fold to themselves. -/
def CharClass.newCapitals : CharClass :=
  [(0xA7CE, 0xA7CE), (0xA7D2, 0xA7D2), (0xA7D4, 0xA7D4), (0x16EA0, 0x16EB8)]

def foldLetter (char : Char) : Char :=
  match letterVariants.lookup char.toNat with
  | some code => Char.ofNat code
  | none => if CharClass.newCapitals.contains char then char else lowerLetter char

def sameLetter (left right : Char) : Bool :=
  foldLetter left = foldLetter right

end DocumentStore

/-!
This file reads and writes object identifiers, which are twelve bytes in hexadecimal digits.
-/

namespace DocumentStore

structure ObjectId where
  bytes : List UInt8
  size : bytes.length = 12
  deriving DecidableEq

/-- A text is no identifier because of its length or because of one of its bytes. -/
inductive ObjectIdError where
  | oddLength (digits : Nat)
  | wrongSize (bytes : Nat)
  | character (byte : UInt8) (index : Nat)
  deriving DecidableEq

namespace ObjectId

def digitOf (value : UInt8) : List Char :=
  [Nat.digitChar (value.toNat / 16), Nat.digitChar (value.toNat % 16)]

/-- This is the identifier in lower-case digits. -/
def text (id : ObjectId) : String :=
  String.ofList (id.bytes.flatMap digitOf)

def hexValue (byte : UInt8) (index : Nat) : Except ObjectIdError Nat :=
  let code := byte.toNat
  if 48 ≤ code ∧ code ≤ 57 then .ok (code - 48)
  else if 65 ≤ code ∧ code ≤ 70 then .ok (code - 55)
  else if 97 ≤ code ∧ code ≤ 102 then .ok (code - 87)
  else .error (.character byte index)

/-- Two digits make a byte, and the first bad digit is reported. -/
def readBytes (index : Nat) : List UInt8 → Except ObjectIdError (List UInt8)
  | high :: low :: rest => do
    let first ← hexValue high index
    let second ← hexValue low (index + 1)
    let bytes ← readBytes (index + 2) rest
    return UInt8.ofNat (16 * first + second) :: bytes
  | _ => .ok []

/-- An odd length is reported before a bad digit, and a wrong number of bytes after it. -/
def ofText (text : String) : Except ObjectIdError ObjectId := do
  let source := text.toUTF8.toList
  if source.length % 2 = 1 then throw (.oddLength source.length)
  let bytes ← readBytes 0 source
  if size : bytes.length = 12 then return { bytes, size } else throw (.wrongSize bytes.length)

end ObjectId

def ObjectIdError.message : ObjectIdError → String
  | .oddLength digits => s!"invalid hex string length {digits}"
  | .wrongSize bytes => s!"invalid hex string length {bytes}"
  | .character byte index =>
    "invalid character '" ++ String.singleton (Char.ofNat byte.toNat) ++
      s!"' encountered at index {index}"

end DocumentStore

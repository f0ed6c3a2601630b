/-!
Reading bytes as UTF-8 when some of them may be malformed.

A character is a leading byte and the bytes owed to it, whose ranges exclude overlong forms,
surrogates and code points above U+10FFFF. The longest beginning of a character that cannot be
completed is read as one replacement character, and so is a byte that begins no character.
-/

namespace DesktopAgent.Text.Utf8

def replacement : Char := '\uFFFD'

/-- A character of which some bytes have been read: how many are owed, the range of the next one,
and the bits read so far. -/
structure Pending where
  owed : Nat
  low : Nat
  high : Nat
  bits : Nat
deriving DecidableEq, Repr

def lead (byte : Nat) : List Char × Option Pending :=
  if byte < 0x80 then ([Char.ofNat byte], none)
  else if byte < 0xC2 then ([replacement], none)
  else if byte < 0xE0 then ([], some ⟨1, 0x80, 0xBF, byte - 0xC0⟩)
  else if byte = 0xE0 then ([], some ⟨2, 0xA0, 0xBF, 0⟩)
  else if byte = 0xED then ([], some ⟨2, 0x80, 0x9F, 0xD⟩)
  else if byte < 0xF0 then ([], some ⟨2, 0x80, 0xBF, byte - 0xE0⟩)
  else if byte = 0xF0 then ([], some ⟨3, 0x90, 0xBF, 0⟩)
  else if byte < 0xF4 then ([], some ⟨3, 0x80, 0xBF, byte - 0xF0⟩)
  else if byte = 0xF4 then ([], some ⟨3, 0x80, 0x8F, 4⟩)
  else ([replacement], none)

/-- What the next byte gives after a character begun. A byte out of range ends the character as
malformed and is read anew. -/
def next (pending : Pending) (byte : Nat) : List Char × Option Pending :=
  if pending.low ≤ byte ∧ byte ≤ pending.high then
    let bits := pending.bits * 64 + (byte - 0x80)
    if pending.owed = 1 then ([Char.ofNat bits], none)
    else ([], some ⟨pending.owed - 1, 0x80, 0xBF, bits⟩)
  else
    let (chars, begun) := lead byte
    (replacement :: chars, begun)

/-- Reads bytes after what was begun before them. -/
def decodeFrom : Option Pending → List UInt8 → List Char
  | none, [] => []
  | some _, [] => [replacement]
  | none, byte :: rest =>
      let (chars, begun) := lead byte.toNat
      chars ++ decodeFrom begun rest
  | some pending, byte :: rest =>
      let (chars, begun) := next pending byte.toNat
      chars ++ decodeFrom begun rest

/-- Reads bytes as UTF-8, each malformed stretch as one replacement character. -/
def decode (bytes : List UInt8) : String :=
  String.ofList (decodeFrom none bytes)

def encode (text : String) : List UInt8 :=
  text.toUTF8.toList

end DesktopAgent.Text.Utf8

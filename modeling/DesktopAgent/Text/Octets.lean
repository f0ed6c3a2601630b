import DesktopAgent.Text.Utf8

/-!
Texts as rows of bytes.

What programs pass on are bytes, which need not be well-formed. A text of bytes is a string each of
whose characters is a byte: the one of its number.
-/

namespace DesktopAgent.Text.Octets

def ofBytes (bytes : List UInt8) : String :=
  String.ofList (bytes.map fun byte => Char.ofNat byte.toNat)

def bytes (text : String) : List UInt8 :=
  text.toList.map fun c => UInt8.ofNat c.toNat

/-- The text of the bytes that stand for characters. -/
def encode (text : String) : String := ofBytes (Utf8.encode text)

/-- The characters that a text of bytes stands for, where malformed bytes are replaced. -/
def decode (text : String) : String := Utf8.decode (bytes text)

/-- Every byte has a character of its number. -/
theorem char_of_byte (byte : UInt8) : UInt8.ofNat (Char.ofNat byte.toNat).toNat = byte := by
  have isByte : byte.toNat < 256 := byte.toNat_lt
  have isCharacter : byte.toNat.isValidChar := Or.inl (by omega)
  have sameNumber : (Char.ofNat byte.toNat).toNat = byte.toNat := by
    rw [Char.ofNat, dif_pos isCharacter]
    rfl
  rw [sameNumber, UInt8.ofNat_toNat]

@[simp]
theorem bytes_ofBytes (row : List UInt8) : bytes (ofBytes row) = row := by
  simp [bytes, ofBytes, Function.comp_def, char_of_byte]

end DesktopAgent.Text.Octets

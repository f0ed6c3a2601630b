import DesktopAgent.Text.Base64

/-!
Bytes are read back from their text over 64 characters, so that different bytes have different
texts.
-/

namespace DesktopAgent.Text.Base64

/-- The six bits that a character stands for. -/
def bits (c : Char) : Nat :=
  ((List.range 64).find? fun bits => symbol bits = c).getD 0

/-- The bytes of a text, four characters at a time; the padding says how many are left at the
end. -/
def bytes : List Char → List UInt8
  | a :: b :: c :: d :: rest =>
      let first := UInt8.ofNat (bits a * 4 + bits b / 16)
      let second := UInt8.ofNat (bits b % 16 * 16 + bits c / 4)
      let third := UInt8.ofNat (bits c % 4 * 64 + bits d)
      if c = '=' then [first]
      else if d = '=' then [first, second]
      else first :: second :: third :: bytes rest
  | _ => []

theorem bits_symbol : ∀ n < 64, bits (symbol n) = n := by
  decide +kernel

theorem symbol_ne_padding : ∀ n < 64, symbol n ≠ '=' := by
  decide

theorem ofNat_eq_of_toNat (byte : UInt8) {n : Nat} (value : n = byte.toNat) :
    UInt8.ofNat n = byte := by
  rw [value, UInt8.ofNat_toNat]

theorem bytes_symbols : ∀ list : List UInt8, bytes (symbols list) = list
  | [] => rfl
  | [a] => by
      have isByte := a.toNat_lt
      simp only [symbols, bytes, if_true]
      rw [bits_symbol _ (by omega), bits_symbol _ (by omega)]
      rw [ofNat_eq_of_toNat a (by omega)]
  | [a, b] => by
      have isByte := a.toNat_lt
      have isSecond := b.toNat_lt
      simp only [symbols, bytes, if_true]
      rw [if_neg (symbol_ne_padding _ (by omega)), bits_symbol _ (by omega),
        bits_symbol _ (by omega), bits_symbol _ (by omega)]
      rw [ofNat_eq_of_toNat a (by omega), ofNat_eq_of_toNat b (by omega)]
  | a :: b :: c :: rest => by
      have isByte := a.toNat_lt
      have isSecond := b.toNat_lt
      have isThird := c.toNat_lt
      simp only [symbols, bytes, bytes_symbols rest]
      rw [if_neg (symbol_ne_padding _ (by omega)), if_neg (symbol_ne_padding _ (by omega)),
        bits_symbol _ (by omega), bits_symbol _ (by omega), bits_symbol _ (by omega),
        bits_symbol _ (by omega)]
      rw [ofNat_eq_of_toNat a (by omega), ofNat_eq_of_toNat b (by omega),
        ofNat_eq_of_toNat c (by omega)]

theorem encode_injective {first second : List UInt8} (same : encode first = encode second) :
    first = second := by
  have texts : symbols first = symbols second := String.ofList_injective same
  rw [← bytes_symbols first, texts, bytes_symbols]

end DesktopAgent.Text.Base64

import DesktopAgent.Text.Utf8

/-!
Reading what was written as UTF-8.

The bytes of a character lead the reader through the characters begun, each with the bits read so
far, and the last byte gives the character.
-/

namespace DesktopAgent.Text.Utf8

theorem toList_loop (bytes : ByteArray) (index : Nat) (read : List UInt8) :
    ByteArray.toList.loop bytes index read = read.reverse ++ bytes.data.toList.drop index := by
  induction remaining : bytes.size - index generalizing index read with
  | zero =>
      have atEnd : bytes.size ≤ index := Nat.le_of_sub_eq_zero remaining
      rw [ByteArray.toList.loop, if_neg (Nat.not_lt_of_le atEnd), List.drop_eq_nil_of_le atEnd,
        List.append_nil]
  | succ remaining inductionHypothesis =>
      have within : index < bytes.size := Nat.lt_of_sub_pos (remaining ▸ Nat.succ_pos _)
      have listed : index < bytes.data.toList.length := within
      have next : bytes.get! index = bytes.data.toList[index] :=
        getElem!_pos bytes.data index within
      rw [ByteArray.toList.loop, if_pos within, inductionHypothesis _ _ (by omega),
        List.drop_eq_getElem_cons listed, next, List.reverse_cons, List.append_assoc]
      rfl

theorem encode_eq (text : String) : encode text = text.toList.flatMap String.utf8EncodeChar := by
  unfold encode String.toUTF8 ByteArray.toList
  rw [toList_loop, ← String.utf8Encode_toList, List.utf8Encode, List.toList_data_toByteArray]
  rfl

theorem lead_of_two :
    ∀ bits < 32, 2 ≤ bits → lead (bits + 192) = ([], some ⟨1, 0x80, 0xBF, bits⟩) := by
  decide

/-- The range after the first byte of three leaves out overlong forms and surrogates. -/
theorem lead_of_three :
    ∀ bits < 16, lead (bits + 224) =
      ([], some ⟨2, if bits = 0 then 0xA0 else 0x80, if bits = 13 then 0x9F else 0xBF,
        bits⟩) := by
  decide

/-- The range after the first byte of four leaves out overlong forms and what is no code point. -/
theorem lead_of_four :
    ∀ bits < 5, lead (bits + 240) =
      ([], some ⟨3, if bits = 0 then 0x90 else 0x80, if bits = 4 then 0x8F else 0xBF,
        bits⟩) := by
  decide

theorem decodeFrom_lead
    {byte : Nat} {pending : Pending} (isByte : byte < 256)
    (begins : lead byte = ([], some pending)) (rest : List UInt8) :
    decodeFrom none (UInt8.ofNat byte :: rest) = decodeFrom (some pending) rest := by
  have same : (UInt8.ofNat byte).toNat = byte := UInt8.toNat_ofNat_of_lt' isByte
  rw [decodeFrom, same, begins]
  rfl

section

variable {low high bits tail : Nat} (above : low ≤ tail + 128) (below : tail + 128 ≤ high)
variable (isTail : tail < 64) (rest : List UInt8)

include above below isTail

theorem decodeFrom_last :
    decodeFrom (some ⟨1, low, high, bits⟩) (UInt8.ofNat (tail + 128) :: rest) =
      Char.ofNat (bits * 64 + tail) :: decodeFrom none rest := by
  have same : (UInt8.ofNat (tail + 128)).toNat = tail + 128 :=
    UInt8.toNat_ofNat_of_lt' (Nat.lt_trans (Nat.add_lt_add_right isTail 128) (by decide))
  rw [decodeFrom, same, next, if_pos ⟨above, below⟩, if_pos rfl, Nat.add_sub_cancel]
  rfl

theorem decodeFrom_next (owed : Nat) :
    decodeFrom (some ⟨owed + 2, low, high, bits⟩) (UInt8.ofNat (tail + 128) :: rest) =
      decodeFrom (some ⟨owed + 1, 0x80, 0xBF, bits * 64 + tail⟩) rest := by
  have same : (UInt8.ofNat (tail + 128)).toNat = tail + 128 :=
    UInt8.toNat_ofNat_of_lt' (Nat.lt_trans (Nat.add_lt_add_right isTail 128) (by decide))
  rw [decodeFrom, same, next, if_pos ⟨above, below⟩, if_neg (by simp), Nat.add_sub_cancel]
  rfl

end

theorem decodeFrom_encodeChar (c : Char) (rest : List UInt8) :
    decodeFrom none (String.utf8EncodeChar c ++ rest) = c :: decodeFrom none rest := by
  have valid : c.toNat < 0xD800 ∨ 0xDFFF < c.toNat ∧ c.toNat < 0x110000 := c.valid
  have isChar : Char.ofNat c.toNat = c := Char.ofNat_toNat c
  have isValue : c.val.toNat = c.toNat := rfl
  unfold String.utf8EncodeChar
  rw [isValue]
  generalize c.toNat = point at valid isChar
  have tail (n : Nat) : n % 64 < 64 := Nat.mod_lt n (by decide)
  dsimp only
  by_cases one : point ≤ 127
  · have same : (UInt8.ofNat point).toNat = point :=
      UInt8.toNat_ofNat_of_lt' (Nat.lt_of_le_of_lt one (by decide))
    rw [if_pos one, List.cons_append, List.nil_append, decodeFrom, same, lead, if_pos (by omega),
      isChar]
    rfl
  · by_cases two : point ≤ 2047
    · have joined : point / 64 % 32 * 64 + point % 64 = point := by omega
      rw [if_neg one, if_pos two, List.cons_append, List.cons_append, List.nil_append,
        decodeFrom_lead (by omega) (lead_of_two _ (by omega) (by omega)),
        decodeFrom_last (by omega) (by omega) (tail _), joined, isChar]
    · by_cases three : point ≤ 65535
      · have joined : (point / 4096 % 16 * 64 + point / 64 % 64) * 64 + point % 64 = point := by
          omega
        rw [if_neg one, if_neg two, if_pos three, List.cons_append, List.cons_append,
          List.cons_append, List.nil_append,
          decodeFrom_lead (by omega) (lead_of_three _ (by omega)),
          decodeFrom_next (by split <;> omega) (by split <;> omega) (tail _),
          decodeFrom_last (by omega) (by omega) (tail _), joined, isChar]
      · have joined : ((point / 262144 % 8 * 64 + point / 4096 % 64) * 64 + point / 64 % 64) * 64 +
            point % 64 = point := by
          omega
        rw [if_neg one, if_neg two, if_neg three, List.cons_append, List.cons_append,
          List.cons_append, List.cons_append, List.nil_append,
          decodeFrom_lead (by omega) (lead_of_four _ (by omega)),
          decodeFrom_next (by split <;> omega) (by split <;> omega) (tail _),
          decodeFrom_next (by omega) (by omega) (tail _),
          decodeFrom_last (by omega) (by omega) (tail _), joined, isChar]

/-- Every text is read as it was written. -/
theorem decode_encode (text : String) : decode (encode text) = text := by
  have reads (characters : List Char) :
      decodeFrom none (characters.flatMap String.utf8EncodeChar) = characters := by
    induction characters with
    | nil => rfl
    | cons c rest inductionHypothesis =>
        rw [List.flatMap_cons, decodeFrom_encodeChar, inductionHypothesis]
  rw [decode, encode_eq, reads, String.ofList_toList]

end DesktopAgent.Text.Utf8

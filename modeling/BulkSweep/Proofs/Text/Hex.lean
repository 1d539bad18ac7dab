import BulkSweep.Text.Hex

/-!
# Hexadecimal text that is read back

Bytes are read as what was written, and the text that is written for them has one byte for each digit.
-/

set_option autoImplicit false

namespace BulkSweep.Text

/-! ## Digits -/

theorem hexValue_hexDigit : ∀ n < 16, hexValue (hexDigit n) = some n := by
  decide

/-- The digits fit in one byte each. -/
theorem hexDigit_toNat_lt : ∀ n < 16, (hexDigit n).toNat < 128 := by
  decide

/-! ## Bytes -/

/-- The two digits of a byte. -/
def byteDigits (b : UInt8) : List Char :=
  [hexDigit (b.toNat / 16), hexDigit (b.toNat % 16)]

theorem toList_hexText (bytes : List UInt8) : (hexText bytes).toList = bytes.flatMap byteDigits :=
  String.toList_ofList

theorem length_hexText (bytes : List UInt8) : (hexText bytes).toList.length = 2 * bytes.length := by
  rw [toList_hexText]
  induction bytes with
  | nil => rfl
  | cons b bytes ih =>
      rw [List.flatMap_cons, List.length_append, ih, List.length_cons]
      simp only [byteDigits, List.length_cons, List.length_nil]
      omega

/-- Every character of a text for bytes is a digit. -/
theorem exists_hexDigit_of_mem {bytes : List UInt8} {c : Char} (h : c ∈ (hexText bytes).toList) :
    ∃ n < 16, c = hexDigit n := by
  rw [toList_hexText] at h
  obtain ⟨b, -, hc⟩ := List.mem_flatMap.mp h
  have hb := b.toNat_lt
  rcases List.mem_cons.mp hc with hhigh | hlow
  · exact ⟨b.toNat / 16, by omega, hhigh⟩
  · exact ⟨b.toNat % 16, by omega, List.mem_singleton.mp hlow⟩

/-- Bytes are read as what was written. -/
theorem readHex_hexText (bytes : List UInt8) : readHex (hexText bytes).toList = some bytes := by
  rw [toList_hexText]
  induction bytes with
  | nil => rfl
  | cons b bytes ih =>
      have hb := b.toNat_lt
      have hhigh := hexValue_hexDigit (b.toNat / 16) (by omega)
      have hlow := hexValue_hexDigit (b.toNat % 16) (by omega)
      have hsame : 16 * (b.toNat / 16) + b.toNat % 16 = b.toNat := by omega
      simp only [List.flatMap_cons, byteDigits, List.cons_append, List.nil_append, readHex, hhigh,
        hlow, Option.bind_eq_bind, Option.bind_some, hsame, UInt8.ofNat_toNat]
      change (readHex (bytes.flatMap byteDigits)).bind _ = _
      rw [ih]
      rfl

/-! ## Texts of one byte for each character -/

/-- The bytes of an array, in order. -/
theorem toList_byteArray (bytes : ByteArray) : bytes.toList = bytes.data.toList := by
  have hloop : ∀ (n i : Nat) (r : List UInt8), bytes.size - i = n →
      ByteArray.toList.loop bytes i r = r.reverse ++ bytes.data.toList.drop i := by
    intro n
    induction n with
    | zero =>
        intro i r h
        have hend : ¬i < bytes.size := by omega
        rw [ByteArray.toList.loop, if_neg hend, List.drop_eq_nil_of_le, List.append_nil]
        exact Nat.le_of_not_lt hend
    | succ n ih =>
        intro i r h
        have hin : i < bytes.size := by omega
        have hin' : i < bytes.data.toList.length := hin
        rw [ByteArray.toList.loop, if_pos hin, ih (i + 1) _ (by omega),
          List.drop_eq_getElem_cons hin', List.reverse_cons, List.append_assoc, List.singleton_append]
        congr 2
        exact getElem!_pos bytes.data i hin
  have hall := hloop bytes.size 0 [] (by omega)
  rwa [List.reverse_nil, List.nil_append, List.drop_zero] at hall

/-- Characters below 128 are one byte each. -/
theorem bytes_of_narrow {text : String} (h : ∀ c ∈ text.toList, c.toNat < 128) :
    text.toUTF8.toList = text.toList.map fun c => c.toUInt8 := by
  have hencode : ∀ c ∈ text.toList, String.utf8EncodeChar c = [c.toUInt8] := by
    intro c hc
    refine String.utf8EncodeChar_eq_singleton (Char.utf8Size_eq_one_iff.mpr ?_)
    rw [UInt32.le_iff_toNat_le]
    exact Nat.le_of_lt_succ (h c hc)
  have hall : text.toList.flatMap String.utf8EncodeChar = text.toList.map fun c => c.toUInt8 := by
    rw [List.map_eq_flatMap, List.flatMap_def, List.map_congr_left hencode, ← List.flatMap_def]
  rw [toList_byteArray, String.toUTF8_eq_toByteArray, ← String.utf8Encode_toList, List.utf8Encode,
    List.data_toByteArray, hall]

end BulkSweep.Text

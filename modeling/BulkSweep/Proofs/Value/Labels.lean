import BulkSweep.Proofs.Extended.Stored
import BulkSweep.Proofs.Numeric.Numerals
import BulkSweep.Proofs.Text.Base64
import BulkSweep.Value.Label

/-!
# Labels that tell values apart

Integers of both widths have the same labels, and texts within lists and documents, regular expressions
and program text stand in labels without anything around them.  The other kinds of values are told by
their labels: a reader finds the value from the label alone (`readLabel_label`), so two of them with one
label are the same value, up to the width of an integer (`widened_eq_of_label`).

Doubles, decimals and dates are left out.  A long double and a long integer, or a decimal and a double,
may have one label without being the same number; to tell dates by their labels would take the calendar.
-/

set_option autoImplicit false

namespace BulkSweep

open BulkSweep.Numeric BulkSweep.Text

namespace Value

/-! ## Kinds with labels of their own -/

/-- Whether a value is of a kind that is told by its label. -/
def hasOwnLabel : Value → Bool
  | int32 _ | int64 _ | string _ | boolean _ | null | objectId _ | timestamp _ _ | binary _ _
  | symbol _ | dbPointer _ _ | undefined | minKey | maxKey => true
  | _ => false

/-- An integer in the wider type; any other value as it is. -/
def widened : Value → Value
  | int32 n => int64 n.toInt64
  | v => v

/-! ## Reading labels -/

/-- The number of some hexadecimal digits. -/
def hexDigitsValue (digits : List Char) : Nat :=
  digits.foldl (fun n c => 16 * n + (hexValue c).getD 0) 0

/-- Reads what stands between the brackets of the label of a timestamp. -/
def readTimestampLabel (s : List Char) : Option Value := do
  let (seconds, rest) := splitAtFirst (· == ',') s
  let increment := (← rest).drop 1
  return timestamp (UInt32.ofNat (← readNatural seconds)) (UInt32.ofNat (← readNatural increment))

/-- Reads what stands between the brackets of the label of some bytes. -/
def readBinaryLabel (s : List Char) : Option Value := do
  let (subtype, rest) := splitAtFirst (· == ',') s
  let bytes := (← rest).drop 1
  return binary (UInt8.ofNat (hexDigitsValue subtype)) (← readBase64 bytes)

/-- Reads what stands between the brackets of the label of a pointer.  The name of a collection may hold
anything, and so the twenty-four digits at the end are taken first. -/
def readPointerLabel (s : List Char) : Option Value := do
  let digits := s.drop (s.length - 24)
  let name := s.take (s.length - 26)
  return dbPointer (String.ofList name) (.ofBytes (← readHex digits))

/-- Reads a label that does not belong to an integer. -/
def readWordLabel : List Char → Option Value
  | '"' :: rest => some (string (String.ofList rest.dropLast))
  | 't' :: _ => some (boolean true)
  | 'f' :: _ => some (boolean false)
  | 'n' :: _ => some null
  | 'u' :: _ => some undefined
  | 'M' :: 'i' :: _ => some minKey
  | 'M' :: 'a' :: _ => some maxKey
  | 'O' :: rest => (readHex ((rest.drop 9).take 24)).map fun bytes => objectId (.ofBytes bytes)
  | 'T' :: rest => readTimestampLabel (rest.drop 9).dropLast
  | 'B' :: rest => readBinaryLabel (rest.drop 8).dropLast
  | 'S' :: rest => some (symbol (String.ofList (rest.drop 7).dropLast.dropLast))
  | 'D' :: rest => readPointerLabel (rest.drop 9).dropLast
  | _ => none

/-- Reads a label; integers are taken to be of the wider type. -/
def readLabel (s : List Char) : Option Value :=
  match readInteger s with
  | some n => some (int64 (Int64.ofInt n))
  | none => readWordLabel s

/-! ## Parts of labels -/

theorem hexDigitsValue_toDigits : ∀ n < 256, hexDigitsValue (Nat.toDigits 16 n) = n := by
  decide +kernel

theorem comma_notMem_toDigits : ∀ n < 256, ',' ∉ Nat.toDigits 16 n := by
  decide +kernel

/-- A text is split where its first comma is. -/
theorem splitAtFirst_comma {front : List Char} (h : ',' ∉ front) (rest : List Char) :
    splitAtFirst (· == ',') (front ++ ',' :: rest) = (front, some rest) := by
  refine splitAtFirst_append (p := (· == ',')) (fun c hc => ?_) (beq_self_eq_true ',') rest
  rw [beq_eq_false_iff_ne]
  exact fun hcomma => h (hcomma ▸ hc)

theorem readTimestampLabel_eq (seconds increment : UInt32) :
    readTimestampLabel ((toString seconds.toNat).toList
        ++ ',' :: ' ' :: (toString increment.toNat).toList)
      = some (timestamp seconds increment) := by
  have hcomma : ',' ∉ (toString seconds.toNat).toList := by
    intro hmem
    rw [Nat.toString_eq_repr, Nat.toList_repr] at hmem
    cases isDigit_of_mem_toDigits hmem
  have hread : ∀ n : UInt32, readNatural (toString n.toNat).toList = some n.toNat := by
    intro n
    rw [Nat.toString_eq_repr, Nat.toList_repr]
    exact readNatural_toDigits n.toNat
  simp only [readTimestampLabel, splitAtFirst_comma hcomma, Option.bind_eq_bind, Option.bind_some,
    List.drop_succ_cons, List.drop_zero, hread, UInt32.ofNat_toNat, Option.pure_def]

theorem readBinaryLabel_eq (subtype : UInt8) (bytes : List UInt8) :
    readBinaryLabel ((hexNumber subtype.toNat).toList ++ ',' :: ' ' :: (base64Text bytes).toList)
      = some (binary subtype bytes) := by
  have hsmall : subtype.toNat < 256 := subtype.toNat_lt
  have hcomma : ',' ∉ (hexNumber subtype.toNat).toList := by
    rw [hexNumber, String.toList_ofList]
    exact comma_notMem_toDigits _ hsmall
  have hsubtype : hexDigitsValue (hexNumber subtype.toNat).toList = subtype.toNat := by
    rw [hexNumber, String.toList_ofList]
    exact hexDigitsValue_toDigits _ hsmall
  have hbytes : readBase64 (base64Text bytes).toList = some bytes := by
    rw [base64Text, String.toList_ofList]
    exact readBase64_base64Chars bytes
  simp only [readBinaryLabel, splitAtFirst_comma hcomma, Option.bind_eq_bind, Option.bind_some,
    List.drop_succ_cons, List.drop_zero, hsubtype, hbytes, UInt8.ofNat_toNat, Option.pure_def]

theorem readPointerLabel_eq (name : String) (id : ObjectId) :
    readPointerLabel (name.toList ++ ',' :: ' ' :: id.hex.toList) = some (dbPointer name id) := by
  have hlength : (name.toList ++ ',' :: ' ' :: id.hex.toList).length = name.toList.length + 26 := by
    simp [ObjectId.length_hex]
  have hdigits : (name.toList ++ ',' :: ' ' :: id.hex.toList).drop (name.toList.length + 2)
      = id.hex.toList := by
    simp
  have hname : (name.toList ++ ',' :: ' ' :: id.hex.toList).take name.toList.length = name.toList := by
    simp
  simp only [readPointerLabel, hlength, Nat.add_sub_cancel, Nat.reduceSubDiff, hdigits, hname,
    id.readHex_hex, Option.bind_eq_bind, Option.bind_some, String.ofList_toList,
    ObjectId.ofBytes_toBytes, Option.pure_def]

/-! ## Values from labels -/

/-- An integer is read from its label. -/
theorem readLabel_integer (n : Int64) : readLabel (toString n.toInt).toList = some (int64 n) := by
  rw [readLabel, readInteger_toString]
  exact congrArg (fun m => some (int64 m)) (Int64.ofInt_toInt n)

theorem readLabel_word {s : List Char} (h : readInteger s = none) : readLabel s = readWordLabel s := by
  rw [readLabel, h]

/-- A value that is told by its label is read from it. -/
theorem readLabel_label {v : Value} (h : v.hasOwnLabel = true) :
    readLabel v.label.toList = some v.widened := by
  cases v with
  | int32 n =>
      have hwide := readLabel_integer n.toInt64
      rwa [Int32.toInt_toInt64] at hwide
  | int64 n => exact readLabel_integer n
  | string s =>
      have hlabel : (string s).label.toList = '"' :: (s.toList ++ ['"']) := by
        simp [label]
      rw [hlabel, readLabel_word rfl, readWordLabel, List.dropLast_concat, String.ofList_toList]
      rfl
  | boolean b => cases b <;> rfl
  | null | undefined | minKey | maxKey => rfl
  | objectId id =>
      have hlabel : (objectId id).label.toList
          = 'O' :: ("bjectId(\"".toList ++ (id.hex.toList ++ ['"', ')'])) := by
        simp [label]
      have htake : (id.hex.toList ++ ['"', ')']).take 24 = id.hex.toList :=
        List.take_left' id.length_hex
      rw [hlabel, readLabel_word rfl, readWordLabel, List.drop_left' (by rfl), htake, id.readHex_hex,
        Option.map_some, ObjectId.ofBytes_toBytes]
      rfl
  | timestamp seconds increment =>
      have hlabel : (timestamp seconds increment).label.toList
          = 'T' :: ("imestamp(".toList ++ (((toString seconds.toNat).toList
            ++ ',' :: ' ' :: (toString increment.toNat).toList) ++ [')'])) := by
        simp [label]
      rw [hlabel, readLabel_word rfl, readWordLabel, List.drop_left' (by rfl), List.dropLast_concat]
      exact readTimestampLabel_eq seconds increment
  | binary subtype bytes =>
      have hlabel : (binary subtype bytes).label.toList
          = 'B' :: ("inary(0x".toList ++ (((hexNumber subtype.toNat).toList
            ++ ',' :: ' ' :: (base64Text bytes).toList) ++ [')'])) := by
        simp [label]
      rw [hlabel, readLabel_word rfl, readWordLabel, List.drop_left' (by rfl), List.dropLast_concat]
      exact readBinaryLabel_eq subtype bytes
  | symbol s =>
      have hlabel : (symbol s).label.toList
          = 'S' :: ("ymbol(\"".toList ++ ((s.toList ++ ['"']) ++ [')'])) := by
        simp [label]
      rw [hlabel, readLabel_word rfl, readWordLabel, List.drop_left' (by rfl), List.dropLast_concat,
        List.dropLast_concat, String.ofList_toList]
      rfl
  | dbPointer name id =>
      have hlabel : (dbPointer name id).label.toList
          = 'D' :: ("bPointer(".toList ++ ((name.toList ++ ',' :: ' ' :: id.hex.toList) ++ [')'])) := by
        simp [label]
      rw [hlabel, readLabel_word rfl, readWordLabel, List.drop_left' (by rfl), List.dropLast_concat]
      exact readPointerLabel_eq name id
  | _ => cases h

/-- Values that are told by their labels and have one label are the same, up to the width of an
integer. -/
theorem widened_eq_of_label {v w : Value} (hv : v.hasOwnLabel = true) (hw : w.hasOwnLabel = true)
    (h : v.label = w.label) : v.widened = w.widened := by
  have hread := readLabel_label hv
  rw [h, readLabel_label hw] at hread
  exact (Option.some.inj hread).symm

end Value

end BulkSweep

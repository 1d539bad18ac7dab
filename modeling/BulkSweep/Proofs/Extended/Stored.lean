import BulkSweep.Extended.Decode
import BulkSweep.Extended.Encode
import BulkSweep.Json.Reader
import BulkSweep.Proofs.Json.Printing

/-!
# Stored values that are read back

Numbers of either width, texts, truth values, null, object ids and timestamps are storable, and so are
lists and documents of storable values, if no name begins with a dollar sign: such an object could be
taken for a tag.  What a storable value is stored as denotes this value (`decode_stored`), and is plain
(`stored_plain`), so that its text can be read.
-/

set_option autoImplicit false

namespace BulkSweep

open BulkSweep.Numeric BulkSweep.Text

/-! ## Object ids -/

namespace ObjectId

/-- Bytes with the highest one first are the digits of a number to the base of 256. -/
theorem foldl_bytes (k n a : Nat) :
    ((List.range k).map fun i => UInt8.ofNat (n / 256 ^ (k - 1 - i))).foldl
      (fun n b => 256 * n + b.toNat) a = 256 ^ k * a + n % 256 ^ k := by
  induction k generalizing a with
  | zero => simp [Nat.mod_one]
  | succ k ih =>
      have hrest : ((List.range k).map Nat.succ).map
            (fun i => UInt8.ofNat (n / 256 ^ (k + 1 - 1 - i)))
          = (List.range k).map fun i => UInt8.ofNat (n / 256 ^ (k - 1 - i)) := by
        rw [List.map_map]
        refine List.map_congr_left fun i _ => ?_
        simp only [Function.comp_apply]
        congr 3
        omega
      have hfirst : (UInt8.ofNat (n / 256 ^ k)).toNat = n / 256 ^ k % 256 := UInt8.toNat_ofNat'
      rw [List.range_succ_eq_map, List.map_cons, List.foldl_cons, hrest, ih, Nat.add_sub_cancel,
        Nat.sub_zero, hfirst, Nat.pow_succ, Nat.mod_mul, Nat.mul_add, Nat.mul_assoc, Nat.add_assoc,
        Nat.add_comm (n % 256 ^ k)]

/-- An object id is the id of its bytes. -/
theorem ofBytes_toBytes (id : ObjectId) : ofBytes id.toBytes = id := by
  have hvalue := foldl_bytes 12 id.bits.toNat 0
  have hsmall : id.bits.toNat % 256 ^ 12 = id.bits.toNat := Nat.mod_eq_of_lt id.bits.isLt
  rw [Nat.mul_zero, Nat.zero_add, hsmall] at hvalue
  change ObjectId.mk (BitVec.ofNat 96 (List.foldl _ 0 id.toBytes)) = id
  have hsame : List.foldl (fun n b => 256 * n + b.toNat) 0 id.toBytes = id.bits.toNat := hvalue
  rw [hsame, BitVec.ofNat_toNat, BitVec.setWidth_eq]

theorem length_toBytes (id : ObjectId) : id.toBytes.length = 12 := by
  simp [toBytes]

theorem length_hex (id : ObjectId) : id.hex.toList.length = 24 := by
  rw [hex, length_hexText, length_toBytes]

theorem readHex_hex (id : ObjectId) : readHex id.hex.toList = some id.toBytes :=
  readHex_hexText id.toBytes

end ObjectId

namespace Extended

theorem badHexByte_eq_none {bytes : List UInt8} (index : Nat)
    (h : ∀ b ∈ bytes, (hexValue (Char.ofNat b.toNat)).isSome = true) :
    badHexByte index bytes = none := by
  induction bytes generalizing index with
  | nil => rfl
  | cons b bytes ih =>
      obtain ⟨hb, hrest⟩ := List.forall_mem_cons.mp h
      rw [badHexByte, if_pos hb]
      exact ih (index + 1) hrest

/-- An object id is read as what was written. -/
theorem readObjectId_hex (id : ObjectId) : readObjectId id.hex = .ok id := by
  have hnarrow : ∀ c ∈ id.hex.toList, c.toNat < 128 := by
    intro c hc
    obtain ⟨n, hn, rfl⟩ := exists_hexDigit_of_mem hc
    exact hexDigit_toNat_lt n hn
  have hdigits : ∀ b ∈ id.hex.toList.map (fun c => c.toUInt8),
      (hexValue (Char.ofNat b.toNat)).isSome = true := by
    intro b hb
    obtain ⟨c, hc, rfl⟩ := List.mem_map.mp hb
    obtain ⟨n, hn, rfl⟩ := exists_hexDigit_of_mem hc
    have hall : ∀ n < 16, (hexValue (Char.ofNat (hexDigit n).toUInt8.toNat)).isSome = true := by decide
    exact hall n hn
  rw [readObjectId, bytes_of_narrow hnarrow, List.length_map, id.length_hex,
    badHexByte_eq_none 0 hdigits, id.readHex_hex]
  exact congrArg Except.ok id.ofBytes_toBytes

end Extended

/-! ## Storable values -/

mutual

/-- Whether a value is stored without a loss. -/
def Value.storable : Value → Bool
  | .null | .boolean _ | .string _ | .int32 _ | .int64 _ | .objectId _ | .timestamp _ _ => true
  | .array items => Value.itemsStorable items
  | .document fields => decide (Document.keys fields).Nodup && Document.fieldsStorable fields
  | _ => false

/-- Whether all items of a list are storable. -/
def Value.itemsStorable : List Value → Bool
  | [] => true
  | item :: rest => item.storable && Value.itemsStorable rest

/-- Whether all fields have storable values and names without a dollar sign in front. -/
def Document.fieldsStorable : List (String × Value) → Bool
  | [] => true
  | (name, value) :: rest =>
    name.toList.head? != some '$' && value.storable && Document.fieldsStorable rest

end

namespace Extended

/-! ## Tags -/

theorem head_tag (tag : Tag) : tag.name.toList.head? = some '$' := by
  cases tag <;> rfl

/-- An object without a name that begins with a dollar sign has no tag. -/
theorem tag_eq_none {members : List (String × Json)}
    (h : ∀ member ∈ members, member.1.toList.head? ≠ some '$') : Tag.of? members = none := by
  refine List.find?_eq_none.mpr fun tag _ hany => ?_
  obtain ⟨member, hmember, hname⟩ := List.any_eq_true.mp hany
  exact h member hmember (eq_of_beq hname ▸ head_tag tag)

theorem keys_storedFields (fields : List (String × Value)) :
    (storedFields fields).map Prod.fst = Document.keys fields := by
  induction fields with
  | nil => rfl
  | cons field rest ih => exact congrArg (field.1 :: ·) ih

theorem heads_of_storable {fields : List (String × Value)}
    (h : Document.fieldsStorable fields = true) :
    ∀ name ∈ Document.keys fields, name.toList.head? ≠ some '$' := by
  induction fields with
  | nil => exact nofun
  | cons field rest ih =>
      simp only [Document.fieldsStorable, Bool.and_eq_true, bne_iff_ne] at h
      exact List.forall_mem_cons.mpr ⟨h.1.1, ih h.2⟩

theorem tag_storedFields {fields : List (String × Value)}
    (h : Document.fieldsStorable fields = true) : Tag.of? (storedFields fields) = none := by
  refine tag_eq_none fun member hmember => heads_of_storable h _ ?_
  rw [← keys_storedFields]
  exact List.mem_map_of_mem hmember

/-! ## Shapes -/

theorem oneMember_single {α : Type} (name : String) {member : Member α} {value : Json} {a : α}
    (h : member value = .ok a) : oneMember name member [(name, value)] = .ok a := by
  simp only [oneMember, takeOne, if_true, h]
  rfl

theorem innerTwo_pair {α β : Type} (shape : String) {first second : String} {one : Member α}
    {two : Member β} {v w : Json} {a : α} {b : β} (hne : second ≠ first) (hone : one v = .ok a)
    (htwo : two w = .ok b) :
    innerTwo shape first one second two (.object [(first, v), (second, w)]) = .ok (a, b) := by
  simp only [innerTwo, takeTwo, if_true, if_neg hne, hone, htwo]
  rfl

/-! ## Values -/

theorem decode_int32 (n : Int32) : decode (stored (.int32 n)) = .ok (.int32 n) := by
  have hrange : -(2 ^ 31) ≤ n.toInt ∧ n.toInt < 2 ^ 31 := ⟨n.le_toInt, n.toInt_lt⟩
  have hnumber : ofNumber (.integer n.toInt) = .int32 n := by
    rw [ofNumber, if_pos hrange, Int32.ofInt_toInt]
  exact congrArg Except.ok hnumber

theorem readInt64_toString (n : Int64) : readInt64 (toString n.toInt) = .ok n := by
  rw [readInt64, readText, readSized_toString n.le_toInt n.toInt_lt]
  exact congrArg Except.ok n.ofInt_toInt

theorem decode_int64 (n : Int64) : decode (stored (.int64 n)) = .ok (.int64 n) := by
  change (do return Value.int64 (← readInt64 (toString n.toInt))) = _
  rw [readInt64_toString]
  rfl

theorem decode_objectId (id : ObjectId) : decode (stored (.objectId id)) = .ok (.objectId id) := by
  change (do return Value.objectId (← readObjectId id.hex)) = _
  rw [readObjectId_hex]
  rfl

theorem decode_timestamp (seconds increment : UInt32) :
    decode (stored (.timestamp seconds increment)) = .ok (.timestamp seconds increment) := by
  have hword (n : UInt32) :
      boundedMember (2 ^ 32) "u32" (.number (.integer n.toNat)) = .ok n.toNat := by
    have hrange : (0 : Int) ≤ n.toNat ∧ (n.toNat : Int) < (2 ^ 32 : Nat) :=
      ⟨Int.natCast_nonneg _, Int.ofNat_lt.mpr n.toNat_lt⟩
    rw [boundedMember, if_pos hrange]
    rfl
  have hinner := oneMember_single "$timestamp" (innerTwo_pair "TimestampBody"
    (show "i" ≠ "t" by decide) (hword seconds) (hword increment))
  change (oneMember "$timestamp"
    (innerTwo "TimestampBody" "t" (boundedMember (2 ^ 32) "u32") "i" (boundedMember (2 ^ 32) "u32"))
    [("$timestamp", .object
      [("t", .number (.integer seconds.toNat)), ("i", .number (.integer increment.toNat))])]
    >>= fun parts => return Value.timestamp (.ofNat parts.1) (.ofNat parts.2)) = _
  rw [hinner]
  change Except.ok (Value.timestamp (.ofNat seconds.toNat) (.ofNat increment.toNat)) = _
  rw [UInt32.ofNat_toNat, UInt32.ofNat_toNat]

mutual

/-- What a storable value is stored as denotes the value, with its type. -/
theorem decode_stored : ∀ (v : Value) (_ : v.storable = true), decode (stored v) = .ok v
  | .null, _ | .boolean _, _ | .string _, _ => rfl
  | .int32 n, _ => decode_int32 n
  | .int64 n, _ => decode_int64 n
  | .objectId id, _ => decode_objectId id
  | .timestamp seconds increment, _ => decode_timestamp seconds increment
  | .array items, h => by
      rw [stored, decode, decodeItems_stored items h]
      rfl
  | .document fields, h => by
      have hfields : Document.fieldsStorable fields = true := (Bool.and_eq_true_iff.mp h).2
      rw [stored, decode, tag_storedFields hfields, decodeMembers_stored fields hfields]
      rfl

theorem decodeItems_stored : ∀ (items : List Value) (_ : Value.itemsStorable items = true),
    decodeItems (storedItems items) = .ok items
  | [], _ => rfl
  | item :: rest, h => by
      obtain ⟨hitem, hrest⟩ := Bool.and_eq_true_iff.mp h
      rw [storedItems, decodeItems, decode_stored item hitem, decodeItems_stored rest hrest]
      rfl

theorem decodeMembers_stored : ∀ (fields : List (String × Value))
    (_ : Document.fieldsStorable fields = true), decodeMembers (storedFields fields) = .ok fields
  | [], _ => rfl
  | (name, value) :: rest, h => by
      obtain ⟨hfield, hrest⟩ := Bool.and_eq_true_iff.mp h
      have hvalue : value.storable = true := (Bool.and_eq_true_iff.mp hfield).2
      rw [storedFields, decodeMembers, decode_stored value hvalue, decodeMembers_stored rest hrest]
      rfl

end

/-! ## Plain forms -/

mutual

/-- What a storable value is stored as is plain. -/
theorem stored_plain : ∀ (v : Value) (_ : v.storable = true), (stored v).Plain
  | .null, _ | .boolean _, _ | .string _, _ => trivial
  | .int32 n, _ => by
      have hlow := n.le_toInt
      have hhigh := n.toInt_lt
      change -(2 ^ 63) ≤ n.toInt ∧ n.toInt < 2 ^ 64
      omega
  | .int64 n, _ => ⟨List.nodup_singleton _, trivial, trivial⟩
  | .objectId id, _ => ⟨List.nodup_singleton _, trivial, trivial⟩
  | .timestamp seconds increment, _ => by
      have hword (n : UInt32) : Json.Plain (.number (.integer n.toNat)) := by
        have hhigh := n.toNat_lt
        change -(2 ^ 63) ≤ (n.toNat : Int) ∧ (n.toNat : Int) < 2 ^ 64
        omega
      have hnames : ["t", "i"].Nodup := by decide
      exact ⟨List.nodup_singleton _, ⟨hnames, hword seconds, hword increment, trivial⟩, trivial⟩
  | .array items, h => storedItems_plain items h
  | .document fields, h => by
      obtain ⟨hkeys, hfields⟩ := Bool.and_eq_true_iff.mp h
      have hnames : ((storedFields fields).map Prod.fst).Nodup :=
        keys_storedFields fields ▸ of_decide_eq_true hkeys
      exact ⟨hnames, storedFields_plain fields hfields⟩

theorem storedItems_plain : ∀ (items : List Value) (_ : Value.itemsStorable items = true),
    Json.PlainItems (storedItems items)
  | [], _ => trivial
  | item :: rest, h => by
      obtain ⟨hitem, hrest⟩ := Bool.and_eq_true_iff.mp h
      exact ⟨stored_plain item hitem, storedItems_plain rest hrest⟩

theorem storedFields_plain : ∀ (fields : List (String × Value))
    (_ : Document.fieldsStorable fields = true), Json.PlainMembers (storedFields fields)
  | [], _ => trivial
  | (name, value) :: rest, h => by
      obtain ⟨hfield, hrest⟩ := Bool.and_eq_true_iff.mp h
      exact ⟨stored_plain value (Bool.and_eq_true_iff.mp hfield).2, storedFields_plain rest hrest⟩

end

end Extended

end BulkSweep

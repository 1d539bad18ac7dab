import BulkSweep.Proofs.Extended.Decoded
import BulkSweep.Proofs.Json.Rereading
import BulkSweep.Proofs.Text.Base64
import BulkSweep.Proofs.Value.Dates

/-!
# Decoded values that are written

What a decoded value is written as, in the stored form or in the relaxed one of scopes, can be written as JSON
text (`written_writable`), and denotes a value again (`exists_decode_written`): not always the same one, and
whatever its fractions are read as.
-/

set_option autoImplicit false

namespace BulkSweep.Extended

open BulkSweep.Numeric BulkSweep.Text

/-! ## Tagged values -/

theorem of?_single (tag : Tag) (body : Json) : Tag.of? [(tag.name, body)] = some tag := by
  cases tag <;> rfl

/-- An object with a tag alone is read as the tag says. -/
theorem decode_tagged (tag : Tag) (h : tag ≠ .code) (body : Json) :
    decode (tagged tag.name body) = readTagged tag [(tag.name, body)] := by
  rw [tagged, decode, of?_single]
  cases tag with
  | code => exact absurd rfl h
  | _ => rfl

theorem bind_of_ok {ε α β : Type} {answer : Except ε α} {next : α → Except ε β} {a : α}
    (h : answer = .ok a) : answer >>= next = next a := by
  rw [h]
  rfl

theorem readText_of_some {α : Type} {read : String → Option α} (wanted : String) {text : String} {x : α}
    (h : read text = some x) : readText read wanted text = .ok x := by
  rw [readText, h]

/-- A tag with a text is read as the text is. -/
theorem oneMember_text (name s : String) : oneMember name textMember [(name, .string s)] = .ok s :=
  oneMember_single name rfl

/-- The names of the values that are no finite numbers are read as such values. -/
theorem exists_decode_nonfinite {x : Binary64} (h : x.isFinite = false) :
    ∃ v, decode (tagged "$numberDouble" (.string (documentLayout.write x))) = .ok v := by
  obtain ⟨y, hy⟩ : ∃ y, readBinary64 (documentLayout.write x).toList = some y := by
    unfold Layout.write
    by_cases hnan : x.isNaN = true
    · rw [if_pos hnan]
      cases x.negative with
      | true => exact ⟨_, rfl⟩
      | false => exact ⟨_, rfl⟩
    · have hinfinite : x.isInfinite = true := by
        have hlarge := of_decide_eq_false h
        have hsmall : ¬Binary64.infiniteMagnitude < x.magnitude := fun hlt => hnan (decide_eq_true hlt)
        exact beq_iff_eq.mpr (by omega)
      rw [if_neg hnan, if_pos hinfinite]
      cases x.negative with
      | true => exact ⟨_, rfl⟩
      | false => exact ⟨_, rfl⟩
  refine ⟨.double y, (decode_tagged .numberDouble nofun _).trans ?_⟩
  exact (bind_of_ok (oneMember_text _ _)).trans (bind_of_ok (readText_of_some _ hy))

theorem exists_decode_decimal {d : Decimal128} (h : d.Fits) :
    ∃ v, decode (relaxed (.decimal d)) = .ok v := by
  obtain ⟨found, hfound⟩ := Decimal128.exists_read_text h
  refine ⟨.decimal found, (decode_tagged .numberDecimal nofun _).trans ?_⟩
  exact (bind_of_ok (oneMember_text _ _)).trans (bind_of_ok (readText_of_some _ hfound))

theorem exists_decode_date (millis : Int64) : ∃ v, decode (relaxed (.date millis)) = .ok v := by
  change ∃ v, decode (encodeDate millis.toInt) = .ok v
  unfold encodeDate
  by_cases hlow : 0 ≤ millis.toInt
  · obtain ⟨found, hfound⟩ := Calendar.exists_readInternet hlow
    rw [if_pos hlow]
    refine ⟨.date (.ofInt found), (decode_tagged .date nofun _).trans ?_⟩
    have hmember : dateMember (.string (Calendar.internetText millis.toInt))
        = .ok (.internet (Calendar.internetText millis.toInt)) := rfl
    have hread : WrittenDate.read (.internet (Calendar.internetText millis.toInt)) = .ok (.ofInt found) :=
      congrArg (Except.map Int64.ofInt) (readText_of_some _ hfound)
    exact (bind_of_ok (oneMember_single _ hmember)).trans (bind_of_ok hread)
  · rw [if_neg hlow]
    refine ⟨.date millis, (decode_tagged .date nofun _).trans ?_⟩
    have hmember : dateMember (tagged "$numberLong" (.string (toString millis.toInt)))
        = .ok (.millisText (toString millis.toInt)) := rfl
    exact (bind_of_ok (oneMember_single _ hmember)).trans (bind_of_ok (readInt64_toString millis))

theorem exists_decode_binary (subtype : UInt8) (bytes : List UInt8) :
    ∃ v, decode (relaxed (.binary subtype bytes)) = .ok v := by
  refine ⟨.binary subtype bytes, (decode_tagged .binary nofun _).trans ?_⟩
  have hbytes : readBase64 (base64Text bytes).toList = some bytes := by
    rw [base64Text, String.toList_ofList, readBase64_base64Chars]
  have hdigits : readText (fun s => readHex s.toList) "hexadecimal number as a string" (byteText subtype)
      = .ok [subtype] :=
    readText_of_some _ (readHex_hexText [subtype])
  have hkind : readSubtype (byteText subtype) = .ok subtype := bind_of_ok hdigits
  have hinner := innerTwo_pair "BinaryBody" (show "subType" ≠ "base64" by decide)
    (show textMember (.string (base64Text bytes)) = .ok (base64Text bytes) from rfl)
    (show textMember (.string (byteText subtype)) = .ok (byteText subtype) from rfl)
  exact (bind_of_ok (oneMember_single _ hinner)).trans
    ((bind_of_ok (readText_of_some _ hbytes)).trans (bind_of_ok hkind))

theorem zeroFree_of_notMem {s : String} (h : '\x00' ∉ s.toList) : zeroFree s = .ok s := by
  rw [zeroFree, if_neg]
  exact fun hmem => h (List.contains_iff_mem.mp hmem)

theorem exists_decode_regex {pattern options : String} (hpattern : '\x00' ∉ pattern.toList)
    (hoptions : '\x00' ∉ options.toList) : ∃ v, decode (relaxed (.regex pattern options)) = .ok v := by
  refine ⟨.regex pattern (sortedText options), (decode_tagged .regularExpression nofun _).trans ?_⟩
  have hsorted : '\x00' ∉ (sortedText options).toList := by
    rw [sortedText, String.toList_ofList, List.mem_mergeSort]
    exact hoptions
  have hinner := innerTwo_pair "RegexBody" (show "options" ≠ "pattern" by decide)
    (show textMember (.string pattern) = .ok pattern from rfl)
    (show textMember (.string options) = .ok options from rfl)
  exact (bind_of_ok (oneMember_single _ hinner)).trans
    ((bind_of_ok (zeroFree_of_notMem hpattern)).trans (bind_of_ok (zeroFree_of_notMem hsorted)))

theorem exists_decode_dbPointer (collection : String) (id : ObjectId) :
    ∃ v, decode (relaxed (.dbPointer collection id)) = .ok v := by
  refine ⟨.dbPointer collection id, (decode_tagged .dbPointer nofun _).trans ?_⟩
  have hid : innerOne "ObjectId" "$oid" textMember (encodeId id) = .ok id.hex := oneMember_text _ _
  have hinner := innerTwo_pair "DbPointerBody" (show "$id" ≠ "$ref" by decide)
    (show textMember (.string collection) = .ok collection from rfl) hid
  exact (bind_of_ok (oneMember_single _ hinner)).trans (bind_of_ok (readObjectId_hex id))

/-- Program text with a scope is read with the scope, in which no tag is looked for. -/
theorem decode_scope (text : String) {members : List (String × Json)} {scope : List (String × Value)}
    (h : decodeMembers members = .ok scope) :
    decode (.object [("$code", .string text), ("$scope", .object members)])
      = .ok (.codeWithScope text scope) := by
  have htag : Tag.of? [("$code", Json.string text), ("$scope", .object members)] = some .code := rfl
  have hcode : readCode [("$code", .string text), ("$scope", .object members)] = .ok text := rfl
  have hscope : decodeScope [("$code", .string text), ("$scope", .object members)] = .ok (some scope) := by
    simp only [decodeScope]
    rw [if_neg (by decide), if_pos trivial, h]
    rfl
  rw [decode, htag]
  simp only [hcode, hscope]
  rfl

/-! ## Both forms -/

theorem relaxedItems_eq (items : List Value) : relaxedItems items = items.map relaxed := by
  induction items with
  | nil => rfl
  | cons item rest ih => exact congrArg (relaxed item :: ·) ih

theorem relaxedFields_eq (fields : List (String × Value)) :
    relaxedFields fields = fields.map fun field => (field.1, relaxed field.2) := by
  induction fields with
  | nil => rfl
  | cons field rest ih => exact congrArg ((field.1, relaxed field.2) :: ·) ih

theorem storedItems_eq (items : List Value) : storedItems items = items.map stored := by
  induction items with
  | nil => rfl
  | cons item rest ih => exact congrArg (stored item :: ·) ih

theorem storedFields_eq (fields : List (String × Value)) :
    storedFields fields = fields.map fun field => (field.1, stored field.2) := by
  induction fields with
  | nil => rfl
  | cons field rest ih => exact congrArg ((field.1, stored field.2) :: ·) ih

/-- The form in which a value is written to a file: the relaxed one within a scope. -/
def written (inScope : Bool) (v : Value) : Json :=
  if inScope then relaxed v else stored v

/-- Fields with the forms of their values. -/
def writtenFields (inScope : Bool) (fields : List (String × Value)) : List (String × Json) :=
  fields.map fun field => (field.1, written inScope field.2)

theorem written_array (inScope : Bool) (items : List Value) :
    written inScope (.array items) = .array (items.map (written inScope)) := by
  cases inScope with
  | true => exact congrArg Json.array (relaxedItems_eq items)
  | false => exact congrArg Json.array (storedItems_eq items)

theorem written_document (inScope : Bool) (fields : List (String × Value)) :
    written inScope (.document fields) = .object (writtenFields inScope fields) := by
  cases inScope with
  | true => exact congrArg Json.object (relaxedFields_eq fields)
  | false => exact congrArg Json.object (storedFields_eq fields)

/-- A scope is in relaxed form, whatever form the text has that it belongs to. -/
theorem written_codeWithScope (inScope : Bool) (text : String) (scope : List (String × Value)) :
    written inScope (.codeWithScope text scope)
      = .object [("$code", .string text), ("$scope", .object (writtenFields true scope))] := by
  have hrelaxed : relaxed (.codeWithScope text scope)
      = .object [("$code", .string text), ("$scope", .object (writtenFields true scope))] := by
    rw [relaxed, relaxedFields_eq]
    rfl
  cases inScope with
  | true => exact hrelaxed
  | false => exact hrelaxed

/-- Most values have one form. -/
theorem written_eq_relaxed (inScope : Bool) {v : Value} (h : stored v = relaxed v) :
    written inScope v = relaxed v := by
  cases inScope with
  | true => rfl
  | false => exact h

theorem keys_writtenFields (inScope : Bool) (fields : List (String × Value)) :
    (writtenFields inScope fields).map Prod.fst = Document.keys fields := by
  rw [writtenFields, List.map_map]
  rfl

/-! ## Values -/

section Decode

variable (f : Binary64 → Binary64)

theorem tag_writtenFields (inScope : Bool) {fields : List (String × Value)}
    (h : Tagless (Document.keys fields)) :
    Tag.of? (Json.mapMembers f (writtenFields inScope fields)) = none := by
  rw [tag_eq_none_iff, Json.keys_mapMembers, keys_writtenFields]
  exact h

theorem exists_decode_double (x : Binary64) :
    ∃ v', decode ((relaxed (.double x)).mapFractions f) = .ok v' := by
  change ∃ v', decode ((encodeDouble x).mapFractions f) = .ok v'
  unfold encodeDouble
  cases hfinite : x.isFinite with
  | true => exact ⟨_, rfl⟩
  | false => exact exists_decode_nonfinite hfinite

/-- A value of one form is read from it if it is read from the relaxed one. -/
theorem exists_decode_of_relaxed (inScope : Bool) {v : Value} (hsame : stored v = relaxed v)
    (h : ∃ v', decode ((relaxed v).mapFractions f) = .ok v') :
    ∃ v', decode ((written inScope v).mapFractions f) = .ok v' := by
  rw [written_eq_relaxed inScope hsame]
  exact h

mutual

/-- Either form of a decoded value denotes a value, whatever its fractions are read as. -/
theorem exists_decode_written (inScope : Bool) : ∀ {v : Value} (_ : Decoded v),
    ∃ v', decode ((written inScope v).mapFractions f) = .ok v'
  | .array items, h => by
      have hitems : DecodedItems items := h
      obtain ⟨values, hvalues⟩ := exists_decodeItems_written inScope hitems
      refine ⟨.array values, ?_⟩
      rw [written_array, Json.mapFractions, decode, hvalues]
      rfl
  | .document fields, h => by
      obtain ⟨-, htagless, hfields⟩ := h
      obtain ⟨read, hread⟩ := exists_decodeMembers_written inScope hfields
      refine ⟨.document read, ?_⟩
      rw [written_document, Json.mapFractions, decode, tag_writtenFields f inScope htagless, hread]
      rfl
  | .codeWithScope text scope, h => by
      obtain ⟨read, hread⟩ := exists_decodeMembers_written true h.2
      refine ⟨.codeWithScope text read, ?_⟩
      rw [written_codeWithScope]
      exact decode_scope text hread
  | .int64 n, _ => by
      cases inScope with
      | true => exact ⟨ofNumber (.integer n.toInt), rfl⟩
      | false => exact ⟨.int64 n, decode_int64 n⟩
  | .double x, _ => exists_decode_of_relaxed f inScope rfl (exists_decode_double f x)
  | .int32 _, _ | .string _, _ | .boolean _, _ | .null, _ | .code _, _ | .symbol _, _ | .undefined, _
  | .minKey, _ | .maxKey, _ => exists_decode_of_relaxed f inScope rfl ⟨_, rfl⟩
  | .decimal _, h => exists_decode_of_relaxed f inScope rfl (exists_decode_decimal h)
  | .objectId id, _ => exists_decode_of_relaxed f inScope rfl ⟨.objectId id, decode_objectId id⟩
  | .date millis, _ => by
      have hsame : (encodeDate millis.toInt).mapFractions f = encodeDate millis.toInt := by
        unfold encodeDate
        split <;> rfl
      refine exists_decode_of_relaxed f inScope rfl ?_
      change ∃ v', decode ((encodeDate millis.toInt).mapFractions f) = .ok v'
      rw [hsame]
      exact exists_decode_date millis
  | .timestamp seconds increment, _ =>
      exists_decode_of_relaxed f inScope rfl ⟨_, decode_timestamp seconds increment⟩
  | .binary subtype bytes, _ => exists_decode_of_relaxed f inScope rfl (exists_decode_binary subtype bytes)
  | .regex _ _, h => exists_decode_of_relaxed f inScope rfl (exists_decode_regex h.1 h.2)
  | .dbPointer collection id, _ =>
      exists_decode_of_relaxed f inScope rfl (exists_decode_dbPointer collection id)

theorem exists_decodeItems_written (inScope : Bool) : ∀ {items : List Value} (_ : DecodedItems items),
    ∃ values, decodeItems (Json.mapItems f (items.map (written inScope))) = .ok values
  | [], _ => ⟨[], rfl⟩
  | item :: rest, h => by
      obtain ⟨value, hvalue⟩ := exists_decode_written inScope h.1
      obtain ⟨values, hvalues⟩ := exists_decodeItems_written inScope h.2
      refine ⟨value :: values, ?_⟩
      rw [List.map_cons, Json.mapItems, decodeItems, hvalue, hvalues]
      rfl

theorem exists_decodeMembers_written (inScope : Bool) :
    ∀ {fields : List (String × Value)} (_ : DecodedFields fields),
      ∃ read, decodeMembers (Json.mapMembers f (writtenFields inScope fields)) = .ok read
  | [], _ => ⟨[], rfl⟩
  | (key, value) :: rest, h => by
      obtain ⟨value', hvalue⟩ := exists_decode_written inScope h.1
      obtain ⟨read, hread⟩ := exists_decodeMembers_written inScope h.2
      refine ⟨(key, value') :: read, ?_⟩
      change decodeMembers (Json.mapMembers f
        ((key, written inScope value) :: writtenFields inScope rest)) = _
      rw [Json.mapMembers, decodeMembers, hvalue, hread]
      rfl

end

end Decode

/-! ## Written forms -/

theorem writable_tagged {name : String} {j : Json} (h : j.Writable) : (tagged name j).Writable :=
  ⟨List.nodup_singleton _, h, trivial⟩

theorem writable_integer {n : Int} (hlow : -(2 ^ 63) ≤ n) (hhigh : n < 2 ^ 63) :
    (Json.number (.integer n)).Writable := by
  change -(2 ^ 63) ≤ n ∧ n < 2 ^ 64
  omega

theorem writable_pair {first second : String} {v w : Json} (hne : first ≠ second) (hv : v.Writable)
    (hw : w.Writable) : (Json.object [(first, v), (second, w)]).Writable := by
  refine ⟨?_, hv, hw, trivial⟩
  exact List.nodup_cons.mpr ⟨fun hmem => hne (List.mem_singleton.mp hmem), List.nodup_singleton _⟩

theorem writable_texts {first second : String} (hne : first ≠ second) (s t : String) :
    (Json.object [(first, .string s), (second, .string t)]).Writable :=
  writable_pair (v := .string s) (w := .string t) hne trivial trivial

theorem encodeDouble_writable (x : Binary64) : (encodeDouble x).Writable := by
  unfold encodeDouble
  cases hfinite : x.isFinite with
  | true => exact hfinite
  | false => exact writable_tagged (j := .string _) trivial

theorem encodeDate_writable (millis : Int) : (encodeDate millis).Writable := by
  unfold encodeDate
  split
  · exact writable_tagged (j := .string _) trivial
  · exact writable_tagged (writable_tagged (j := .string _) trivial)

/-- A value of one form can be written in it if it can be in the relaxed one. -/
theorem writable_of_relaxed (inScope : Bool) {v : Value} (hsame : stored v = relaxed v)
    (h : (relaxed v).Writable) : (written inScope v).Writable := by
  rw [written_eq_relaxed inScope hsame]
  exact h

mutual

/-- Either form of a decoded value can be written. -/
theorem written_writable (inScope : Bool) : ∀ {v : Value} (_ : Decoded v), (written inScope v).Writable
  | .array items, h => by
      have hitems : DecodedItems items := h
      rw [written_array]
      exact writtenItems_writable inScope hitems
  | .document fields, h => by
      rw [written_document]
      refine ⟨?_, writtenFields_writable inScope h.2.2⟩
      rw [keys_writtenFields]
      exact h.1
  | .codeWithScope _ scope, h => by
      rw [written_codeWithScope]
      refine writable_pair (v := .string _) (by decide) trivial ⟨?_, writtenFields_writable true h.2⟩
      rw [keys_writtenFields]
      exact h.1
  | .int64 n, _ => by
      cases inScope with
      | true => exact writable_integer n.le_toInt n.toInt_lt
      | false => exact writable_tagged (j := .string _) trivial
  | .double x, _ => writable_of_relaxed inScope rfl (encodeDouble_writable x)
  | .int32 n, _ => by
      have hlow := n.le_toInt
      have hhigh := n.toInt_lt
      exact writable_of_relaxed inScope rfl (writable_integer (by omega) (by omega))
  | .string _, _ | .boolean _, _ | .null, _ => writable_of_relaxed inScope rfl trivial
  | .date millis, _ => writable_of_relaxed inScope rfl (encodeDate_writable millis.toInt)
  | .timestamp seconds increment, _ => by
      have hword (n : UInt32) : (Json.number (.integer n.toNat)).Writable := by
        have hhigh := n.toNat_lt
        exact writable_integer (by omega) (by omega)
      exact writable_of_relaxed inScope rfl
        (writable_tagged (writable_pair (by decide) (hword seconds) (hword increment)))
  | .binary _ _, _ | .regex _ _, _ =>
      writable_of_relaxed inScope rfl (writable_tagged (writable_texts (by decide) _ _))
  | .dbPointer _ _, _ =>
      writable_of_relaxed inScope rfl (writable_tagged (writable_pair (v := .string _) (by decide) trivial
        (writable_tagged (j := .string _) trivial)))
  | .decimal _, _ | .objectId _, _ | .code _, _ | .symbol _, _ =>
      writable_of_relaxed inScope rfl (writable_tagged (j := .string _) trivial)
  | .undefined, _ => writable_of_relaxed inScope rfl (writable_tagged (j := .bool true) trivial)
  | .minKey, _ | .maxKey, _ =>
      writable_of_relaxed inScope rfl (writable_tagged (writable_integer (by decide) (by decide)))

theorem writtenItems_writable (inScope : Bool) : ∀ {items : List Value} (_ : DecodedItems items),
    Json.WritableItems (items.map (written inScope))
  | [], _ => trivial
  | _ :: _, h => ⟨written_writable inScope h.1, writtenItems_writable inScope h.2⟩

theorem writtenFields_writable (inScope : Bool) :
    ∀ {fields : List (String × Value)} (_ : DecodedFields fields),
      Json.WritableMembers (writtenFields inScope fields)
  | [], _ => trivial
  | (_, _) :: _, h => ⟨written_writable inScope h.1, writtenFields_writable inScope h.2⟩

end

end BulkSweep.Extended

import BulkSweep.Expression
import BulkSweep.Proofs.Extended.Stored
import BulkSweep.Proofs.Json.Names
import BulkSweep.Proofs.Numeric.Decimals

/-!
# Values that are decoded

Not every value can come from Extended JSON.  A decoded value has decimals of at most thirty-four digits,
regular expressions without zero characters, and documents in which no name occurs twice and no name is a
tag; only the outermost document and the scope of program text may have tags among their names, since there
no tag is looked for.  Whatever JSON denotes is such a value (`decoded_of_decode`).
-/

set_option autoImplicit false

namespace BulkSweep.Extended

open BulkSweep.Numeric
open BulkSweep.Json (bind_eq_ok)

/-! ## Tags -/

/-- No name is that of a tag. -/
def Tagless (names : List String) : Prop :=
  ∀ name ∈ names, ∀ tag : Tag, name ≠ tag.name

theorem mem_all (tag : Tag) : tag ∈ Tag.all := by
  cases tag <;> decide

/-- An object has no tag if none of its names is one. -/
theorem tag_eq_none_iff {members : List (String × Json)} :
    Tag.of? members = none ↔ Tagless (members.map Prod.fst) := by
  constructor
  · intro h name hname tag heq
    obtain ⟨member, hmember, rfl⟩ := List.mem_map.mp hname
    refine List.find?_eq_none.mp h tag (mem_all tag) ?_
    exact List.any_eq_true.mpr ⟨member, hmember, beq_iff_eq.mpr heq⟩
  · intro h
    refine List.find?_eq_none.mpr fun tag _ hany => ?_
    obtain ⟨member, hmember, hname⟩ := List.any_eq_true.mp hany
    exact h _ (List.mem_map_of_mem hmember) tag (beq_iff_eq.mp hname)

mutual

/-- A value that JSON can denote. -/
def Decoded : Value → Prop
  | .decimal d => d.Fits
  | .regex pattern options => '\x00' ∉ pattern.toList ∧ '\x00' ∉ options.toList
  | .array items => DecodedItems items
  | .document fields =>
    (Document.keys fields).Nodup ∧ Tagless (Document.keys fields) ∧ DecodedFields fields
  | .codeWithScope _ scope => (Document.keys scope).Nodup ∧ DecodedFields scope
  | _ => True

/-- All items of a list are such values. -/
def DecodedItems : List Value → Prop
  | [] => True
  | item :: rest => Decoded item ∧ DecodedItems rest

/-- The values of all fields are such values. -/
def DecodedFields : List (String × Value) → Prop
  | [] => True
  | (_, value) :: rest => Decoded value ∧ DecodedFields rest

end

/-! ## Tagged values -/

theorem read_of_readText {α : Type} {read : String → Option α} {wanted text : String} {x : α}
    (h : readText read wanted text = .ok x) : read text = some x := by
  unfold readText at h
  split at h
  · rename_i hread
    rw [hread]
    exact congrArg some (Except.ok.inj h)
  · cases h

theorem zeroFree_eq_ok {s t : String} (h : zeroFree s = .ok t) : '\x00' ∉ t.toList := by
  unfold zeroFree at h
  split at h
  · cases h
  · rename_i hnone
    cases h
    exact fun hmem => hnone (List.contains_iff_mem.mpr hmem)

/-- What a tagged object denotes is a decoded value. -/
theorem decoded_of_readTagged {tag : Tag} {members : List (String × Json)} {v : Value}
    (h : readTagged tag members = .ok v) : Decoded v := by
  cases tag with
  | regularExpression =>
      obtain ⟨⟨pattern, options⟩, -, h⟩ := bind_eq_ok h
      obtain ⟨pattern', hpattern, h⟩ := bind_eq_ok h
      obtain ⟨options', hoptions, h⟩ := bind_eq_ok h
      cases h
      exact ⟨zeroFree_eq_ok hpattern, zeroFree_eq_ok hoptions⟩
  | numberDecimal =>
      obtain ⟨text, -, h⟩ := bind_eq_ok h
      obtain ⟨d, hread, h⟩ := bind_eq_ok h
      cases h
      exact Decimal128.fits_of_read (read_of_readText hread)
  | oid | numberInt | numberLong | numberDouble | uuid | date =>
      obtain ⟨text, -, h⟩ := bind_eq_ok h
      obtain ⟨read, -, h⟩ := bind_eq_ok h
      cases h
      trivial
  | symbol | code =>
      obtain ⟨text, -, h⟩ := bind_eq_ok h
      cases h
      trivial
  | binary =>
      obtain ⟨⟨base64, subtype⟩, -, h⟩ := bind_eq_ok h
      obtain ⟨bytes, -, h⟩ := bind_eq_ok h
      obtain ⟨kind, -, h⟩ := bind_eq_ok h
      cases h
      trivial
  | timestamp =>
      obtain ⟨⟨seconds, increment⟩, -, h⟩ := bind_eq_ok h
      cases h
      trivial
  | minKey | maxKey =>
      obtain ⟨-, -, h⟩ := bind_eq_ok h
      cases h
      trivial
  | dbPointer =>
      obtain ⟨⟨collection, id⟩, -, h⟩ := bind_eq_ok h
      obtain ⟨id', -, h⟩ := bind_eq_ok h
      cases h
      trivial
  | undefined =>
      obtain ⟨b, -, h⟩ := bind_eq_ok h
      cases b with
      | true =>
          cases h
          trivial
      | false => cases h

/-! ## Decoding -/

theorem decoded_ofNumber (n : Json.Number) : Decoded (ofNumber n) := by
  cases n with
  | integer n =>
      rw [ofNumber]
      split
      · trivial
      · split <;> trivial
  | fraction x => trivial

theorem keys_of_decodeMembers {members : List (String × Json)} {fields : List (String × Value)}
    (h : decodeMembers members = .ok fields) : Document.keys fields = members.map Prod.fst := by
  induction members generalizing fields with
  | nil =>
      cases h
      rfl
  | cons member rest ih =>
      obtain ⟨key, json⟩ := member
      rw [decodeMembers] at h
      obtain ⟨value, -, h⟩ := bind_eq_ok h
      obtain ⟨others, hothers, h⟩ := bind_eq_ok h
      cases h
      exact congrArg (key :: ·) (ih hothers)

mutual

/-- Whatever JSON denotes is a decoded value, if it has no name twice. -/
theorem decoded_of_decode : ∀ {j : Json} {v : Value} (_ : j.Distinct) (_ : decode j = .ok v), Decoded v
  | .null, _, _, h | .bool _, _, _, h | .string _, _, _, h => by
      cases h
      trivial
  | .number n, _, _, h => by
      cases h
      exact decoded_ofNumber n
  | .array items, _, hdistinct, h => by
      rw [decode] at h
      obtain ⟨values, hvalues, h⟩ := bind_eq_ok h
      cases h
      have hitems : Json.DistinctItems items := hdistinct
      exact decodedItems_of_decode hitems hvalues
  | .object members, v, hdistinct, h => by
      rw [decode] at h
      split at h
      · rename_i htag
        obtain ⟨fields, hfields, h⟩ := bind_eq_ok h
        cases h
        have hkeys := keys_of_decodeMembers hfields
        refine ⟨hkeys ▸ hdistinct.1, hkeys ▸ tag_eq_none_iff.mp htag, ?_⟩
        exact decodedFields_of_decode hdistinct.2 hfields
      · obtain ⟨text, -, h⟩ := bind_eq_ok h
        obtain ⟨scope, hscope, h⟩ := bind_eq_ok h
        cases scope with
        | none =>
            cases h
            trivial
        | some scope =>
            cases h
            exact decodedScope_of_decode hdistinct.2 hscope
      · exact decoded_of_readTagged h

theorem decodedItems_of_decode : ∀ {items : List Json} {values : List Value}
    (_ : Json.DistinctItems items) (_ : decodeItems items = .ok values), DecodedItems values
  | [], _, _, h => by
      cases h
      trivial
  | item :: rest, _, hdistinct, h => by
      rw [decodeItems] at h
      obtain ⟨value, hvalue, h⟩ := bind_eq_ok h
      obtain ⟨values, hvalues, h⟩ := bind_eq_ok h
      cases h
      exact ⟨decoded_of_decode hdistinct.1 hvalue, decodedItems_of_decode hdistinct.2 hvalues⟩

theorem decodedFields_of_decode : ∀ {members : List (String × Json)} {fields : List (String × Value)}
    (_ : Json.DistinctMembers members) (_ : decodeMembers members = .ok fields), DecodedFields fields
  | [], _, _, h => by
      cases h
      trivial
  | (key, json) :: rest, _, hdistinct, h => by
      rw [decodeMembers] at h
      obtain ⟨value, hvalue, h⟩ := bind_eq_ok h
      obtain ⟨fields, hfields, h⟩ := bind_eq_ok h
      cases h
      exact ⟨decoded_of_decode hdistinct.1 hvalue, decodedFields_of_decode hdistinct.2 hfields⟩

theorem decodedScope_of_decode : ∀ {members : List (String × Json)} {scope : List (String × Value)}
    (_ : Json.DistinctMembers members) (_ : decodeScope members = .ok (some scope)),
    (Document.keys scope).Nodup ∧ DecodedFields scope
  | [], _, _, h => by cases h
  | (key, .object members) :: rest, _, hdistinct, h => by
      rw [decodeScope] at h
      split at h
      · obtain ⟨fields, hfields, h⟩ := bind_eq_ok h
        cases h
        have hkeys := keys_of_decodeMembers hfields
        obtain ⟨hnames, hmembers⟩ := hdistinct.1
        exact ⟨hkeys ▸ hnames, decodedFields_of_decode hmembers hfields⟩
      · exact decodedScope_of_decode hdistinct.2 h
  | (key, .null) :: rest, _, hdistinct, h | (key, .bool _) :: rest, _, hdistinct, h
  | (key, .number _) :: rest, _, hdistinct, h | (key, .string _) :: rest, _, hdistinct, h
  | (key, .array _) :: rest, _, hdistinct, h => by
      rw [decodeScope] at h
      · split at h
        · cases h
        · exact decodedScope_of_decode hdistinct.2 h
      · exact nofun

end

/-! ## Read documents -/

theorem mapError_eq_ok {α ε ε' : Type} {f : ε → ε'} {answer : Except ε α} {a : α}
    (h : answer.mapError f = .ok a) : answer = .ok a := by
  cases answer with
  | error e => cases h
  | ok b => exact congrArg Except.ok (Except.ok.inj h)

/-- A document that is read has decoded values and no name twice. -/
theorem decoded_of_parseDocument {text : String} {d : Document} (h : parseDocument text = .ok d) :
    (Document.keys d).Nodup ∧ DecodedFields d := by
  unfold parseDocument at h
  simp only at h
  split at h
  · cases h
    exact ⟨List.nodup_nil, trivial⟩
  · have hstrict := mapError_eq_ok h
    unfold readStrict at hstrict
    split at hstrict
    · cases hstrict
    · rename_i members hread
      have hdistinct := Json.distinct_of_read hread
      have hfields := mapError_eq_ok hstrict
      exact ⟨keys_of_decodeMembers hfields ▸ hdistinct.1, decodedFields_of_decode hdistinct.2 hfields⟩
    · cases hstrict

end BulkSweep.Extended

import BulkSweep.Proofs.Extended.Reread
import BulkSweep.Proofs.Shell.Strict

/-!
# The width of stored integers

A place in a value is a list of steps into documents, lists and scopes of program text.  What stands at a
place of a decoded document stands, in stored form, at the same place of the stored document, except that
within a scope it has the relaxed form (`at?_written`).  So a 64-bit integer outside scopes has its tag and
comes back with its width, and one in a scope comes back as the narrowest integer that holds it
(`at?_of_decode`).
-/

set_option autoImplicit false

namespace BulkSweep

open BulkSweep.Numeric
open BulkSweep.Json (bind_eq_ok)

/-! ## Places -/

/-- A step from a value into one that it holds. -/
inductive Step where
  /-- to a field of a document -/
  | field (name : String)
  /-- to an item of a list -/
  | item (index : Nat)
  /-- to a variable in the scope of program text -/
  | binding (name : String)
  deriving DecidableEq, Repr

/-- Whether a step leads into a scope. -/
def Step.entersScope : Step → Bool
  | binding _ => true
  | _ => false

/-- The value at a place, if there is one. -/
def Value.at? : Value → List Step → Option Value
  | v, [] => some v
  | .document fields, .field name :: rest => (fields.lookup name).bind (at? · rest)
  | .array items, .item index :: rest => items[index]?.bind (at? · rest)
  | .codeWithScope _ scope, .binding name :: rest => (scope.lookup name).bind (at? · rest)
  | _, _ => none

/-- The JSON value at the place where the form of a value has the form of the value at that place. -/
def Json.at? : Json → List Step → Option Json
  | j, [] => some j
  | .object members, .field name :: rest => (members.lookup name).bind (at? · rest)
  | .array items, .item index :: rest => items[index]?.bind (at? · rest)
  | .object members, .binding name :: rest =>
    match members.lookup "$scope" with
    | some (.object scope) => (scope.lookup name).bind (at? · rest)
    | _ => none
  | _, _ => none

namespace Extended

/-! ## Lists of fields -/

theorem lookup_map {α β : Type} (g : α → β) (fields : List (String × α)) (name : String) :
    (fields.map fun field => (field.1, g field.2)).lookup name = (fields.lookup name).map g := by
  induction fields with
  | nil => rfl
  | cons field rest ih =>
      rw [List.map_cons, List.lookup_cons, List.lookup_cons]
      split
      · rfl
      · exact ih

/-! ## Written forms at a place -/

theorem lookup_writtenFields (inScope : Bool) {fields : List (String × Value)} {name : String} {v : Value}
    (h : fields.lookup name = some v) :
    (writtenFields inScope fields).lookup name = some (written inScope v) := by
  rw [writtenFields, lookup_map, h]
  rfl

/-- What stands at a place of a value stands at that place of its form. -/
theorem at?_written {path : List Step} {v w : Value} (inScope : Bool) (h : v.at? path = some w) :
    (written inScope v).at? path = some (written (inScope || path.any Step.entersScope) w) := by
  induction path generalizing v inScope with
  | nil =>
      cases h
      rw [List.any_nil, Bool.or_false, Json.at?]
  | cons step rest ih =>
      rw [List.any_cons]
      cases step with
      | field name =>
          cases v with
          | document fields =>
              obtain ⟨next, hnext, hrest⟩ := Option.bind_eq_some_iff.mp h
              rw [written_document, Json.at?, lookup_writtenFields inScope hnext]
              exact ih inScope hrest
          | _ => cases h
      | item index =>
          cases v with
          | array items =>
              obtain ⟨next, hnext, hrest⟩ := Option.bind_eq_some_iff.mp h
              rw [written_array, Json.at?, List.getElem?_map, hnext, Option.map_some, Option.bind_some]
              exact ih inScope hrest
          | _ => cases h
      | binding name =>
          cases v with
          | codeWithScope text scope =>
              obtain ⟨next, hnext, hrest⟩ := Option.bind_eq_some_iff.mp h
              have hscope := ih true hrest
              rw [written_codeWithScope]
              change ((writtenFields true scope).lookup name).bind (Json.at? · rest) = _
              rw [lookup_writtenFields true hnext, Step.entersScope, Bool.true_or, Bool.or_true]
              exact hscope
          | _ => cases h

/-! ## Read forms at a place -/

theorem mapItems_eq (f : Binary64 → Binary64) (items : List Json) :
    Json.mapItems f items = items.map (Json.mapFractions f) := by
  induction items with
  | nil => rfl
  | cons item rest ih => exact congrArg (item.mapFractions f :: ·) ih

theorem mapMembers_eq (f : Binary64 → Binary64) (members : List (String × Json)) :
    Json.mapMembers f members = members.map fun member => (member.1, member.2.mapFractions f) := by
  induction members with
  | nil => rfl
  | cons member rest ih => exact congrArg ((member.1, member.2.mapFractions f) :: ·) ih

/-- An item of a list denotes the item of the value. -/
theorem decodeItems_getElem? {items : List Json} {values : List Value} (h : decodeItems items = .ok values)
    {index : Nat} {item : Json} (hitem : items[index]? = some item) :
    ∃ value, values[index]? = some value ∧ decode item = .ok value := by
  induction items generalizing values index with
  | nil => cases hitem
  | cons first rest ih =>
      rw [decodeItems] at h
      obtain ⟨value, hvalue, h⟩ := bind_eq_ok h
      obtain ⟨others, hothers, h⟩ := bind_eq_ok h
      cases h
      cases index with
      | zero =>
          cases hitem
          exact ⟨value, rfl, hvalue⟩
      | succ index => exact ih hothers hitem

/-- A member denotes the field of its name. -/
theorem decodeMembers_lookup {members : List (String × Json)} {fields : List (String × Value)}
    (h : decodeMembers members = .ok fields) {name : String} {json : Json}
    (hjson : members.lookup name = some json) :
    ∃ value, fields.lookup name = some value ∧ decode json = .ok value := by
  induction members generalizing fields with
  | nil => cases hjson
  | cons member rest ih =>
      obtain ⟨key, first⟩ := member
      rw [decodeMembers] at h
      obtain ⟨value, hvalue, h⟩ := bind_eq_ok h
      obtain ⟨others, hothers, h⟩ := bind_eq_ok h
      cases h
      rw [List.lookup_cons] at hjson
      change ∃ found, List.lookup name ((key, value) :: others) = some found ∧ _
      rw [List.lookup_cons]
      cases hkey : name == key with
      | true =>
          rw [hkey] at hjson
          cases hjson
          exact ⟨value, rfl, hvalue⟩
      | false =>
          rw [hkey] at hjson
          exact ih hothers hjson

theorem decoded_of_getElem? {items : List Value} (h : DecodedItems items) {index : Nat} {item : Value}
    (hitem : items[index]? = some item) : Decoded item := by
  induction items generalizing index with
  | nil => cases hitem
  | cons first rest ih =>
      cases index with
      | zero =>
          cases hitem
          exact h.1
      | succ index => exact ih h.2 hitem

theorem decoded_of_lookup {fields : List (String × Value)} (h : DecodedFields fields) {name : String}
    {value : Value} (hvalue : fields.lookup name = some value) : Decoded value := by
  induction fields with
  | nil => cases hvalue
  | cons field rest ih =>
      obtain ⟨key, first⟩ := field
      rw [List.lookup_cons] at hvalue
      split at hvalue
      · cases hvalue
        exact h.1
      · exact ih h.2 hvalue

/-- The value of a field is read from the form in which it was written. -/
theorem exists_field {f : Binary64 → Binary64} (inScope : Bool) {fields read : List (String × Value)}
    (hfields : DecodedFields fields)
    (hread : decodeMembers (Json.mapMembers f (writtenFields inScope fields)) = .ok read)
    {name : String} {next : Value} (hnext : fields.lookup name = some next) :
    Decoded next ∧ ∃ value, read.lookup name = some value ∧
      decode ((written inScope next).mapFractions f) = .ok value := by
  refine ⟨decoded_of_lookup hfields hnext, decodeMembers_lookup hread ?_⟩
  rw [mapMembers_eq, lookup_map, lookup_writtenFields inScope hnext]
  rfl

/-- What stands at a place of a decoded value is read, at that place, from the form in which it was written:
this is what its own form denotes. -/
theorem at?_of_decode {f : Binary64 → Binary64} {path : List Step} {v v' w : Value} (inScope : Bool)
    (hv : Decoded v) (hread : decode ((written inScope v).mapFractions f) = .ok v')
    (h : v.at? path = some w) : ∃ w', v'.at? path = some w' ∧
      decode ((written (inScope || path.any Step.entersScope) w).mapFractions f) = .ok w' := by
  induction path generalizing v v' inScope with
  | nil =>
      cases h
      rw [List.any_nil, Bool.or_false]
      exact ⟨v', by rw [Value.at?], hread⟩
  | cons step rest ih =>
      rw [List.any_cons]
      cases step with
      | field name =>
          cases v with
          | document fields =>
              obtain ⟨next, hnext, hrest⟩ := Option.bind_eq_some_iff.mp h
              obtain ⟨-, htagless, hfields⟩ := hv
              rw [written_document, Json.mapFractions, decode, tag_writtenFields f inScope htagless] at hread
              obtain ⟨read, hmembers, hread⟩ := bind_eq_ok hread
              cases hread
              obtain ⟨hdecoded, value, hvalue, hdecode⟩ := exists_field inScope hfields hmembers hnext
              obtain ⟨w', hw', hdenotes⟩ := ih inScope hdecoded hdecode hrest
              refine ⟨w', ?_, hdenotes⟩
              rw [Value.at?, hvalue]
              exact hw'
          | _ => cases h
      | item index =>
          cases v with
          | array items =>
              obtain ⟨next, hnext, hrest⟩ := Option.bind_eq_some_iff.mp h
              have hitems : DecodedItems items := hv
              rw [written_array, Json.mapFractions, mapItems_eq, decode] at hread
              obtain ⟨read, hlist, hread⟩ := bind_eq_ok hread
              cases hread
              have hjson : ((items.map (written inScope)).map (Json.mapFractions f))[index]?
                  = some ((written inScope next).mapFractions f) := by
                rw [List.getElem?_map, List.getElem?_map, hnext]
                rfl
              obtain ⟨value, hvalue, hdecode⟩ := decodeItems_getElem? hlist hjson
              obtain ⟨w', hw', hdenotes⟩ := ih inScope (decoded_of_getElem? hitems hnext) hdecode hrest
              refine ⟨w', ?_, hdenotes⟩
              rw [Value.at?, hvalue]
              exact hw'
          | _ => cases h
      | binding name =>
          cases v with
          | codeWithScope text scope =>
              obtain ⟨next, hnext, hrest⟩ := Option.bind_eq_some_iff.mp h
              obtain ⟨read, hmembers⟩ := exists_decodeMembers_written f true hv.2
              rw [written_codeWithScope] at hread
              change decode (.object
                [("$code", .string text), ("$scope", .object (Json.mapMembers f (writtenFields true scope)))])
                  = .ok v' at hread
              rw [decode_scope text hmembers] at hread
              cases hread
              -- whatever form the text itself has, its scope is in relaxed form
              obtain ⟨hdecoded, value, hvalue, hdecode⟩ := exists_field true hv.2 hmembers hnext
              obtain ⟨w', hw', hdenotes⟩ := ih true hdecoded hdecode hrest
              rw [Step.entersScope, Bool.true_or, Bool.or_true]
              rw [Bool.true_or] at hdenotes
              refine ⟨w', ?_, hdenotes⟩
              rw [Value.at?, hvalue]
              exact hw'
          | _ => cases h

/-! ## Stored documents -/

/-- The text of an object is read as what its members denote, with its fractions as they are read, unless it
is nested too deeply. -/
theorem parseDocument_writable {members : List (String × Json)} (h : (Json.object members).Writable) :
    (parseDocument (Json.object members).text).toOption
      = if (Json.object members).depth < Json.maxDepth then
          (decodeMembers (Json.mapMembers Json.reread members)).toOption
        else none := by
  obtain ⟨form, htext, hvalue⟩ := Json.exists_form_of_writable _ h
  have hread := Shell.parseDocument_text .none .none (Shell.Tree.ofForm form)
  simp only [Json.Form.Space.none, List.nil_append, List.append_nil, Shell.Tree.text_ofForm,
    Shell.Tree.form_ofForm, htext, String.ofList_toList] at hread
  rw [hread, Shell.document?, hvalue Json.maxDepth (by decide)]
  by_cases hdepth : (Json.object members).depth < Json.maxDepth
  · rw [if_pos hdepth, if_pos hdepth]
    rfl
  · rw [if_neg hdepth, if_neg hdepth]
    rfl

/-- The narrowest integer that holds a 64-bit one. -/
def narrowest (n : Int64) : Value :=
  if -(2 ^ 31) ≤ n.toInt ∧ n.toInt < 2 ^ 31 then .int32 (.ofInt n.toInt) else .int64 n

theorem ofNumber_toInt (n : Int64) : ofNumber (.integer n.toInt) = narrowest n := by
  rw [ofNumber, narrowest, if_pos (show -(2 ^ 63) ≤ n.toInt ∧ n.toInt < 2 ^ 63 from ⟨n.le_toInt, n.toInt_lt⟩),
    n.ofInt_toInt]

/-- Every 64-bit integer of a document that was read, however deep it stands, is stored with its tag, unless
it stands in a scope: there it is stored as a bare number.  The line that stores the document is read again
if it is not nested too deeply, and then an integer with a tag has its width at the same place, while a bare
one has become the narrowest integer that holds it.  A line that is nested too deeply is not read at all. -/
theorem parseDocument_storedIntegers {text : String} {d : Document} (h : parseDocument text = .ok d) :
    (∀ path n, (Value.document d).at? path = some (.int64 n) →
      (stored (.document d)).at? path = some (if path.any Step.entersScope then .number (.integer n.toInt)
        else tagged "$numberLong" (.string (toString n.toInt)))) ∧
    ((stored (.document d)).depth < Json.maxDepth →
      ∃ loaded, parseDocument (storedLine d) = .ok loaded ∧
        ∀ path n, (Value.document d).at? path = some (.int64 n) →
          (Value.document loaded).at? path
            = some (if path.any Step.entersScope then narrowest n else .int64 n)) ∧
    (Json.maxDepth ≤ (stored (.document d)).depth →
      ∃ fault, parseDocument (storedLine d) = .error fault) := by
  obtain ⟨hkeys, hfields⟩ := decoded_of_parseDocument h
  have hwritable : (stored (.document d)).Writable := by
    refine ⟨?_, ?_⟩
    · rw [keys_storedFields]
      exact hkeys
    · rw [storedFields_eq]
      exact writtenFields_writable false hfields
  have hread := parseDocument_writable hwritable
  change (parseDocument (storedLine d)).toOption
    = if (stored (.document d)).depth < Json.maxDepth then _ else _ at hread
  refine ⟨fun path n hpath => ?_, fun hdepth => ?_, fun hdepth => ?_⟩
  · have hform := at?_written false hpath
    rw [Bool.false_or] at hform
    rw [show stored (.document d) = written false (.document d) from rfl, hform]
    cases path.any Step.entersScope with
    | true => rfl
    | false => rfl
  · obtain ⟨loaded, hloaded⟩ := exists_decodeMembers_written Json.reread false hfields
    have hform : storedFields d = writtenFields false d := storedFields_eq d
    rw [if_pos hdepth, hform, hloaded] at hread
    refine ⟨loaded, Shell.toOption_eq_some.mp hread, fun path n hpath => ?_⟩
    cases path with
    | nil => cases hpath
    | cons step rest =>
        cases step with
        | field name =>
            obtain ⟨next, hnext, hrest⟩ := Option.bind_eq_some_iff.mp hpath
            obtain ⟨hdecoded, value, hvalue, hdecode⟩ := exists_field false hfields hloaded hnext
            obtain ⟨w, hw, hdenotes⟩ := at?_of_decode false hdecoded hdecode hrest
            have houtside : (Step.field name).entersScope = false := rfl
            rw [Value.at?, hvalue, List.any_cons, houtside, Bool.false_or]
            rw [Bool.false_or] at hdenotes
            refine hw.trans (congrArg some ?_)
            cases hscope : rest.any Step.entersScope with
            | true =>
                rw [hscope] at hdenotes
                have hbare : ofNumber (.integer n.toInt) = w := Except.ok.inj hdenotes
                exact hbare.symm.trans (ofNumber_toInt n)
            | false =>
                rw [hscope] at hdenotes
                exact Except.ok.inj (hdenotes.symm.trans (decode_int64 n))
        | item index => cases hpath
        | binding name => cases hpath
  · rw [if_neg (by omega)] at hread
    cases hanswer : parseDocument (storedLine d) with
    | error fault => exact ⟨fault, rfl⟩
    | ok loaded =>
        rw [hanswer] at hread
        cases hread

/-- An integer in a list keeps its width, and one in a scope, though tagged in the text, does not. -/
theorem parseDocument_storedIntegers_of_scope :
    let text := "\x7b\"a\":[\x7b\"n\":\x7b\"$numberLong\":\"5\"\x7d\x7d],"
      ++ "\"f\":\x7b\"$code\":\"x\",\"$scope\":\x7b\"n\":\x7b\"$numberLong\":\"5\"\x7d\x7d\x7d\x7d"
    let d : Document :=
      [("a", .array [.document [("n", .int64 5)]]), ("f", .codeWithScope "x" [("n", .int64 5)])]
    parseDocument text = .ok d ∧
      (stored (.document d)).at? [.field "a", .item 0, .field "n"]
        = some (tagged "$numberLong" (.string "5")) ∧
      (stored (.document d)).at? [.field "f", .binding "n"] = some (.number (.integer 5)) ∧
      ∃ loaded, parseDocument (storedLine d) = .ok loaded ∧
        (Value.document loaded).at? [.field "a", .item 0, .field "n"] = some (.int64 5) ∧
        (Value.document loaded).at? [.field "f", .binding "n"] = some (.int32 5) := by
  intro text d
  have htagged : (tagged "$numberLong" (.string "5")).Writable := writable_tagged (j := .string _) trivial
  have hinner : (Json.object [("n", tagged "$numberLong" (.string "5"))]).Writable :=
    ⟨List.nodup_singleton _, htagged, trivial⟩
  have hmembers : (Json.object [("a", .array [.object [("n", tagged "$numberLong" (.string "5"))]]),
      ("f", .object [("$code", .string "x"),
        ("$scope", .object [("n", tagged "$numberLong" (.string "5"))])])]).Writable :=
    writable_pair (v := .array _) (by decide) ⟨hinner, trivial⟩
      (writable_pair (v := .string _) (by decide) trivial hinner)
  have hparsed : parseDocument text = .ok d := by
    refine Shell.toOption_eq_some.mp ((parseDocument_writable hmembers).trans ?_)
    rw [if_pos (by decide)]
    rfl
  obtain ⟨hstored, hloaded, -⟩ := parseDocument_storedIntegers hparsed
  obtain ⟨loaded, hread, hplaces⟩ := hloaded (by decide)
  refine ⟨hparsed, hstored [.field "a", .item 0, .field "n"] 5 rfl, hstored [.field "f", .binding "n"] 5 rfl,
    loaded, hread, hplaces [.field "a", .item 0, .field "n"] 5 rfl, ?_⟩
  exact hplaces [.field "f", .binding "n"] 5 rfl

/-- A tagged 64-bit integer in a scope is stored without its tag and comes back as a 32-bit integer. -/
theorem integer_of_scope_narrowed :
    ∃ d loaded : Document,
      parseDocument "\x7b\"f\":\x7b\"$code\":\"x\",\"$scope\":\x7b\"n\":\x7b\"$numberLong\":\"5\"\x7d\x7d\x7d\x7d"
        = .ok d ∧
      (Value.document d).at? [.field "f", .binding "n"] = some (.int64 5) ∧
      (stored (.document d)).at? [.field "f", .binding "n"] = some (.number (.integer 5)) ∧
      parseDocument (storedLine d) = .ok loaded ∧
      (Value.document loaded).at? [.field "f", .binding "n"] = some (.int32 5) := by
  refine ⟨[("f", .codeWithScope "x" [("n", .int64 5)])], [("f", .codeWithScope "x" [("n", .int32 5)])],
    ?_, rfl, rfl, ?_, rfl⟩
  · have hmembers : (Json.object [("f", .object [("$code", .string "x"),
        ("$scope", .object [("n", tagged "$numberLong" (.string "5"))])])]).Writable :=
      writable_tagged (writable_pair (v := .string _) (by decide) trivial
        (writable_tagged (writable_tagged (j := .string _) trivial)))
    refine Shell.toOption_eq_some.mp ((parseDocument_writable hmembers).trans ?_)
    rw [if_pos (by decide)]
    rfl
  · have hmembers : (Json.object [("f", .object [("$code", .string "x"),
        ("$scope", .object [("n", .number (.integer 5))])])]).Writable :=
      writable_tagged (writable_pair (v := .string _) (by decide) trivial
        (writable_tagged (writable_integer (by decide) (by decide))))
    refine Shell.toOption_eq_some.mp ((parseDocument_writable hmembers).trans ?_)
    rw [if_pos (by decide)]
    rfl

end Extended

end BulkSweep

import Mathlib.Data.List.Nodup
import BulkSweep.Json.Basic
import BulkSweep.Proofs.Json.Reading
import BulkSweep.Proofs.Numeric.Numerals
import BulkSweep.Proofs.Text.Hex

/-!
# The compact text of JSON

What is written for a string denotes this string (`exists_literal`), and what is written for a whole number
of 64 bits denotes this number (`exists_figures`).  A plain value has such numbers alone and no name twice.
No control character stands in its text (`text_printed`): line ends, too, are escaped.
-/

set_option autoImplicit false

namespace BulkSweep.Json

open BulkSweep.Numeric BulkSweep.Text

/-! ## Plain values -/

mutual

/-- Numbers are whole and have at most 64 bits, and no object has two members of one name. -/
def Plain : Json → Prop
  | .number (.integer n) => -(2 ^ 63) ≤ n ∧ n < 2 ^ 64
  | .number (.fraction _) => False
  | .array items => PlainItems items
  | .object members => (members.map Prod.fst).Nodup ∧ PlainMembers members
  | _ => True

/-- All items of a list are plain. -/
def PlainItems : List Json → Prop
  | [] => True
  | item :: rest => item.Plain ∧ PlainItems rest

/-- The values of all members are plain. -/
def PlainMembers : List (String × Json) → Prop
  | [] => True
  | (_, value) :: rest => value.Plain ∧ PlainMembers rest

end

mutual

/-- How many lists and objects stand around each other, those that are tags included. -/
def depth : Json → Nat
  | .array items => depthItems items + 1
  | .object members => depthMembers members + 1
  | _ => 0

/-- The depth of the deepest item. -/
def depthItems : List Json → Nat
  | [] => 0
  | item :: rest => max item.depth (depthItems rest)

/-- The depth of the deepest value of a member. -/
def depthMembers : List (String × Json) → Nat
  | [] => 0
  | (_, value) :: rest => max value.depth (depthMembers rest)

end

/-! ## Strings -/

/-- A digit of an escape that is written for a control character. -/
def Form.HexDigit.ofNat (n : Nat) (h : n < 16) : Form.HexDigit :=
  ⟨hexDigit n, by rw [hexValue_hexDigit n h]; rfl⟩

@[simp] theorem Form.HexDigit.value_ofNat (n : Nat) (h : n < 16) :
    (Form.HexDigit.ofNat n h).value = n := by
  simp only [Form.HexDigit.value, Form.HexDigit.ofNat, hexValue_hexDigit n h, Option.get_some]

/-- A control character that has no letter is written as its number. -/
theorem value?_control (c : Char) (h : c.toNat < 0x20) (rest : Form.Literal) :
    Form.Literal.value? (.unicode (.ofNat 0 (by decide)) (.ofNat 0 (by decide))
      (.ofNat (c.toNat / 16) (by omega)) (.ofNat (c.toNat % 16) (by omega)) :: rest)
      = rest.value?.map (c :: ·) := by
  have hquad : Form.quad (.ofNat 0 (by decide)) (.ofNat 0 (by decide))
      (.ofNat (c.toNat / 16) (by omega)) (.ofNat (c.toNat % 16) (by omega)) = c.toNat := by
    simp only [Form.quad, Form.HexDigit.value_ofNat]
    omega
  have hlow : isLowSurrogate c.toNat = false := by
    simp [isLowSurrogate]
    omega
  have hhigh : isHighSurrogate c.toNat = false := by
    simp [isHighSurrogate]
    omega
  rw [Form.Literal.value?.eq_def]
  simp only [hquad, hlow, hhigh, Bool.false_eq_true, if_false, Char.ofNat_toNat]

/-- What is written for a character denotes it. -/
theorem exists_piece (c : Char) : ∃ piece : Form.Piece, piece.text = (escapeChar c).toList ∧
    ∀ rest : Form.Literal, Form.Literal.value? (piece :: rest) = rest.value?.map (c :: ·) := by
  unfold escapeChar
  by_cases hquote : c = '"'
  · subst hquote
    exact ⟨.escape .quote, rfl, fun _ => rfl⟩
  by_cases hbackslash : c = '\\'
  · subst hbackslash
    exact ⟨.escape .backslash, rfl, fun _ => rfl⟩
  by_cases hline : c = '\n'
  · subst hline
    exact ⟨.escape .lineFeed, rfl, fun _ => rfl⟩
  by_cases hreturn : c = '\r'
  · subst hreturn
    exact ⟨.escape .carriageReturn, rfl, fun _ => rfl⟩
  by_cases htab : c = '\t'
  · subst htab
    exact ⟨.escape .tab, rfl, fun _ => rfl⟩
  rw [if_neg hquote, if_neg hbackslash, if_neg hline, if_neg hreturn, if_neg htab]
  by_cases hback : c.toNat = 8
  · have hchar : c = '\x08' := Char.toNat_inj.mp hback
    subst hchar
    exact ⟨.escape .backspace, rfl, fun _ => rfl⟩
  by_cases hfeed : c.toNat = 12
  · have hchar : c = '\x0C' := Char.toNat_inj.mp hfeed
    subst hchar
    exact ⟨.escape .formFeed, rfl, fun _ => rfl⟩
  rw [if_neg hback, if_neg hfeed]
  by_cases hcontrol : c.toNat < 0x20
  · rw [if_pos hcontrol]
    refine ⟨_, ?_, value?_control c hcontrol⟩
    simp [Form.Piece.text, Form.HexDigit.ofNat, hexDigit]
  · rw [if_neg hcontrol]
    exact ⟨.plain c ⟨hquote, hbackslash, by omega⟩, by simp [Form.Piece.text], fun _ => rfl⟩

/-- What is written for a text denotes it. -/
theorem exists_literal (s : String) : ∃ literal : Form.Literal,
    literal.text = (stringText s).toList ∧ literal.value? = some s.toList := by
  have hpieces : ∀ cs : List Char, ∃ literal : Form.Literal,
      literal.body = (String.join (cs.map escapeChar)).toList ∧ literal.value? = some cs := by
    intro cs
    induction cs with
    | nil => exact ⟨[], rfl, rfl⟩
    | cons c cs ih =>
        obtain ⟨piece, hpiece, hvalue⟩ := exists_piece c
        obtain ⟨literal, hbody, hrest⟩ := ih
        refine ⟨piece :: literal, ?_, ?_⟩
        · change piece.text ++ literal.body = _
          rw [hpiece, hbody, List.map_cons, String.join_cons, String.toList_append]
        · rw [hvalue, hrest]
          rfl
  obtain ⟨literal, hbody, hvalue⟩ := hpieces s.toList
  refine ⟨literal, ?_, hvalue⟩
  simp [Form.Literal.text, stringText, hbody]

/-! ## Numbers -/

/-- Digits are taken in as long as the number stays below the bound. -/
theorem takeDigits_of_lt {digits : List Char} {n : Nat}
    (h : Nat.ofDigitChars 10 digits n < 2 ^ 64) :
    takeDigits n digits = (Nat.ofDigitChars 10 digits n, []) := by
  induction digits generalizing n with
  | nil => rfl
  | cons d ds ih =>
      rw [Nat.ofDigitChars_cons] at h ⊢
      have hnext : 10 * n + digitValue d < 2 ^ 64 := by
        rw [Nat.ofDigitChars_eq_ofDigitChars_zero] at h
        have hpow : 0 < 10 ^ ds.length := Nat.pow_pos (by decide)
        have hle := Nat.le_mul_of_pos_left (10 * n + digitValue d) hpow
        unfold digitValue at hle ⊢
        omega
      rw [takeDigits, if_pos hnext]
      exact ih h

/-- The digits of a natural number, as they stand before a point. -/
theorem exists_whole (n : Nat) : ∃ whole : Form.Whole, whole.text = Nat.toDigits 10 n := by
  by_cases hzero : n = 0
  · subst hzero
    exact ⟨.zero, rfl⟩
  · cases hdigits : Nat.toDigits 10 n with
    | nil => exact absurd hdigits Nat.toDigits_ne_nil
    | cons c cs =>
        have hall : ∀ d ∈ c :: cs, d.isDigit = true := by
          rw [← hdigits]
          exact fun d hd => isDigit_of_mem_toDigits hd
        have hlead : c ≠ '0' := head_toDigits_ne_zero (by omega) hdigits
        exact ⟨.digits ⟨c, cs, hall c List.mem_cons_self,
          fun d hd => hall d (List.mem_cons_of_mem c hd)⟩ hlead, rfl⟩

/-- What is written for a whole number of 64 bits denotes it. -/
theorem exists_figures {n : Int} (hlow : -(2 ^ 63) ≤ n) (hhigh : n < 2 ^ 64) :
    ∃ figures : Form.Figures, figures.text = (toString n).toList ∧
      figures.value? = some (.integer n) := by
  obtain ⟨whole, hwhole⟩ := exists_whole n.natAbs
  refine ⟨⟨decide (n < 0), whole, none, none⟩, ?_, ?_⟩
  · rw [toList_toString_int]
    simp [Form.Figures.text, Form.placesText, Form.powerText, hwhole]
  · have htake : takeDigits 0 (Nat.toDigits 10 n.natAbs) = (n.natAbs, []) := by
      have hvalue := Nat.ofDigitChars_ten_toDigits (n := n.natAbs)
      rw [takeDigits_of_lt (by omega), hvalue]
    simp only [Form.Figures.value?, Form.Figures.numeral, Option.map_none, Numeral.value, hwhole,
      htake, List.isEmpty_nil, if_true]
    by_cases hneg : n < 0
    · have hfits : ¬(n.natAbs = 0 ∨ 2 ^ 63 < n.natAbs) := by omega
      have hsame : -(n.natAbs : Int) = n := by omega
      simp only [hneg, decide_true, Bool.not_true, Bool.false_eq_true, if_false, if_neg hfits, hsame]
      rfl
    · have hsame : (n.natAbs : Int) = n := by omega
      simp only [hneg, decide_false, Bool.not_false, if_true, hsame]
      rfl

/-! ## Members -/

theorem setMember_of_notMem {members : List (String × Json)} {name : String} (value : Json)
    (h : name ∉ members.map Prod.fst) :
    setMember members name value = members ++ [(name, value)] := by
  induction members with
  | nil => rfl
  | cons member rest ih =>
      obtain ⟨key, old⟩ := member
      obtain ⟨hkey, hrest⟩ := not_or.mp (mt List.mem_cons.mpr h)
      rw [setMember, if_neg (Ne.symm hkey), ih hrest]
      rfl

/-- Members without a name twice stay as they stand. -/
theorem foldl_setMember {members : List (String × Json)} (h : (members.map Prod.fst).Nodup) :
    members.foldl (fun all (name, value) => setMember all name value) [] = members := by
  have hfold : ∀ rest before : List (String × Json), ((before ++ rest).map Prod.fst).Nodup →
      rest.foldl (fun all (name, value) => setMember all name value) before = before ++ rest := by
    intro rest
    induction rest with
    | nil => exact fun before _ => (List.append_nil before).symm
    | cons member rest ih =>
        intro before hnodup
        obtain ⟨name, value⟩ := member
        have hfresh : name ∉ before.map Prod.fst := by
          rw [List.map_append, List.map_cons] at hnodup
          exact fun hmem => (List.disjoint_of_nodup_append hnodup) hmem List.mem_cons_self
        rw [List.foldl_cons]
        simp only
        rw [setMember_of_notMem value hfresh, ih _ (by simpa using hnodup)]
        simp
  exact hfold members [] h

/-! ## Printed characters -/

/-- No character of a text is a control character. -/
def Printed (s : List Char) : Prop :=
  ∀ c ∈ s, 0x20 ≤ c.toNat

instance (s : List Char) : Decidable (Printed s) :=
  decidableEvery _ s

theorem Printed.append {s t : List Char} (hs : Printed s) (ht : Printed t) : Printed (s ++ t) :=
  List.forall_mem_append.mpr ⟨hs, ht⟩

theorem printed_intercalate {texts : List String} (h : ∀ t ∈ texts, Printed t.toList) :
    Printed (",".intercalate texts).toList := by
  induction texts with
  | nil => exact nofun
  | cons t rest ih =>
      obtain ⟨ht, hrest⟩ := List.forall_mem_cons.mp h
      cases rest with
      | nil => simpa using ht
      | cons u more =>
          rw [String.intercalate_cons_cons, String.toList_append, String.toList_append]
          exact (ht.append (by decide)).append (ih hrest)

theorem Form.HexDigit.printed (d : Form.HexDigit) : 0x20 ≤ d.char.toNat := by
  have hhex := d.isHex
  unfold hexValue at hhex
  have hrange (low high : Char) (h : low ≤ d.char ∧ d.char ≤ high) (hlow : 0x20 ≤ low.toNat) :
      0x20 ≤ d.char.toNat := Nat.le_trans hlow (Char.le_def.mp h.1)
  split at hhex
  · exact hrange '0' '9' ‹_› (by decide)
  split at hhex
  · exact hrange 'a' 'f' ‹_› (by decide)
  split at hhex
  · exact hrange 'A' 'F' ‹_› (by decide)
  · cases hhex

/-- No piece of a string has a control character: those are escaped. -/
theorem Form.Piece.printed (piece : Form.Piece) : Printed piece.text := by
  cases piece with
  | plain c h => exact fun d hd => List.mem_singleton.mp hd ▸ h.2.2
  | escape e => cases e <;> decide
  | unicode a b c d =>
      simp only [Printed, Form.Piece.text, List.forall_mem_cons]
      exact ⟨by decide, by decide, a.printed, b.printed, c.printed, d.printed, List.forall_mem_nil _⟩

theorem printed_stringText (s : String) : Printed (stringText s).toList := by
  obtain ⟨literal, htext, -⟩ := exists_literal s
  have hbody : Printed literal.body := fun c hc => by
    obtain ⟨piece, -, hmem⟩ := List.mem_flatMap.mp hc
    exact piece.printed c hmem
  rw [← htext]
  exact (Printed.append (s := ['"']) (by decide) hbody).append
    (by decide)

theorem printed_integer (n : Int) : Printed (toString n).toList := by
  rw [toList_toString_int]
  refine Printed.append ?_ fun c hc => ?_
  · split <;> decide
  · have hdigit := isDigit_of_mem_toDigits hc
    simp only [Char.isDigit, Bool.and_eq_true, decide_eq_true_eq] at hdigit
    exact Nat.le_trans (by decide) hdigit.1

mutual

/-- The text of a plain value has no control characters. -/
theorem text_printed : ∀ (j : Json) (_ : j.Plain), Printed j.text.toList
  | .null, _ => by decide
  | .bool true, _ | .bool false, _ => by decide
  | .number (.integer n), _ => printed_integer n
  | .number (.fraction _), h => h.elim
  | .string s, _ => printed_stringText s
  | .array items, h => by
      rw [Json.text, String.toList_append, String.toList_append]
      exact (Printed.append (by decide)
        (printed_intercalate (itemTexts_printed items h))).append (by decide)
  | .object members, h => by
      rw [Json.text, String.toList_append, String.toList_append]
      exact (Printed.append (by decide)
        (printed_intercalate (memberTexts_printed members h.2))).append (by decide)

theorem itemTexts_printed : ∀ (items : List Json) (_ : PlainItems items),
    ∀ t ∈ itemTexts items, Printed t.toList
  | [], _ => nofun
  | item :: rest, h =>
      List.forall_mem_cons.mpr ⟨text_printed item h.1, itemTexts_printed rest h.2⟩

theorem memberTexts_printed : ∀ (members : List (String × Json)) (_ : PlainMembers members),
    ∀ t ∈ memberTexts members, Printed t.toList
  | [], _ => nofun
  | (name, value) :: rest, h => by
      refine List.forall_mem_cons.mpr ⟨?_, memberTexts_printed rest h.2⟩
      rw [String.toList_append, String.toList_append]
      exact ((printed_stringText name).append (by decide)).append
        (text_printed value h.1)

end

end BulkSweep.Json

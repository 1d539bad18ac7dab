import BulkSweep.Proofs.Shell.Spelling

/-!
# Calls of trees

A call of a tree is read just as it is written, whatever follows it (`read_written`), and stands for its
form.  A bare key is not taken for a call, not even if it begins with the name of one (`no_call_of_key`).
-/

set_option autoImplicit false

namespace BulkSweep.Shell

open BulkSweep.Text
open BulkSweep.Json (Form NoDigit)

/-! ## White space -/

theorem isBlank_of_isSpace {c : Char} (h : Json.Cursor.isSpace c = true) : isBlank c = true := by
  simp only [Json.Cursor.isSpace, Bool.or_eq_true, beq_iff_eq] at h
  rcases h with ((rfl | rfl) | rfl) | rfl <;> decide

theorem blanks_space (space : Form.Space) : Blanks space.chars :=
  fun c hc => isBlank_of_isSpace (space.isSpace c hc)

theorem dropBlank_space (space : Form.Space) (rest : List Char) :
    dropBlank (space.chars ++ rest) = dropBlank rest :=
  dropBlank_append (blanks_space space) rest

/-! ## Calls of trees -/

/-- The digits of a number that has nothing else, as digits. -/
def wholeDigits : Form.Whole → Form.Digits
  | .zero => ⟨'0', [], by decide, nofun⟩
  | .digits d _ => d

theorem text_wholeDigits (w : Form.Whole) : (wholeDigits w).text = w.text := by
  cases w <;> rfl

/-- The call that is written, as it is read. -/
def Invocation.call : Invocation → Call
  | text callee _ argument =>
    match callee with
    | .isoDate | .newDate _ _ => .date argument.chars
    | .objectId => .objectId argument.chars
    | .decimal => .decimal argument.chars
  | integer callee _ argument =>
    match callee with
    | .long => .long argument.text
    | .int => .int argument.text
  | timestamp seconds _ _ increment => .timestamp seconds.text increment.text

theorem named_name (i : Invocation) : Named i.call.callee i.name := by
  have hword : ∀ entry ∈ calleeNames, Named entry.2 entry.1 := fun _ hentry => .word hentry
  cases i with
  | text callee kind argument =>
      cases callee with
      | isoDate => exact hword ("ISODate".toList, .date) (by decide)
      | newDate gap ne_nil => exact .newDate (blanks_space gap) ne_nil
      | objectId => exact hword ("ObjectId".toList, .objectId) (by decide)
      | decimal => exact hword ("NumberDecimal".toList, .decimal) (by decide)
  | integer callee kind argument =>
      cases callee with
      | long => exact hword ("NumberLong".toList, .long) (by decide)
      | int => exact hword ("NumberInt".toList, .int) (by decide)
  | timestamp => exact hword ("Timestamp".toList, .timestamp) (by decide)

theorem textArgument_text (kind : Quote) (argument : PlainText) :
    TextArgument .unified argument.chars (argument.text .unified kind) := by
  refine ⟨argument.ne_nil, fun c hc => ?_, kind, ?_⟩
  · obtain ⟨-, hquote, hslash, -⟩ := argument.isPlain c hc
    exact isPlain_iff.mpr ⟨hquote, hslash⟩
  · cases kind <;> rfl

theorem arguments_written (i : Invocation) : i.call.Arguments .unified (i.arguments .unified) := by
  cases i with
  | text callee kind argument => cases callee <;> exact textArgument_text kind argument
  | integer callee kind argument =>
      have hwritten : IntegerArgument .unified argument.text
          ((Invocation.integer callee kind argument).arguments .unified) := by
        refine ⟨⟨argument, rfl⟩, ?_⟩
        cases kind with
        | none => exact .inl rfl
        | some kind => exact .inr ⟨kind, by cases kind <;> rfl⟩
      cases callee <;> exact hwritten
  | timestamp seconds before after increment =>
      refine ⟨wholeDigits seconds, wholeDigits increment, before.chars, after.chars,
        (text_wholeDigits seconds).symm, (text_wholeDigits increment).symm, blanks_space before,
        blanks_space after, ?_⟩
      rw [text_wholeDigits, text_wholeDigits]
      rfl

/-- A call is read as it is written, whatever follows it. -/
theorem read_written (c : CallText) (rest : List Char) :
    Call.read (c.written .unified ++ rest) = some (c.invocation.call, rest) :=
  Spelled.read (.intro (named_name c.invocation) (blanks_space c.gap) (blanks_space c.lead)
    (arguments_written c.invocation) (blanks_space c.trail)) rest

/-! ## What calls stand for -/

theorem body_plainLiteral (s : List Char) (h : ∀ c ∈ s, Form.IsPlain c) :
    (plainLiteral s h).body = s := by
  induction s with
  | nil => rfl
  | cons c cs ih => exact congrArg (c :: ·) (ih _)

theorem text_plainLiteral (s : List Char) (h : ∀ c ∈ s, Form.IsPlain c) :
    (plainLiteral s h).text = '"' :: s ++ ['"'] := by
  rw [Form.Literal.text, body_plainLiteral]

theorem text_tagged (tag : List Char) (h : ∀ c ∈ tag, Form.IsPlain c) (value : Form) :
    (tagged (plainLiteral tag h) value).text
      = '{' :: '"' :: (tag ++ '"' :: ':' :: (value.text ++ ['}'])) := by
  simp [tagged, bareLabel, Form.text, Form.Members.text, Form.Label.text, Form.Space.none,
    text_plainLiteral]

theorem text_tagged_literal (tag : String) (h : ∀ c ∈ '$' :: tag.toList, Form.IsPlain c)
    (s : List Char) (hs : ∀ c ∈ s, Form.IsPlain c) :
    (tagged (plainLiteral ('$' :: tag.toList) h) (.string (plainLiteral s hs))).text
      = taggedText tag s := by
  rw [text_tagged, Form.text, text_plainLiteral]
  simp [taggedText]

theorem text_pair (t i : Char) (ht : ∀ c ∈ [t], Form.IsPlain c) (hi : ∀ c ∈ [i], Form.IsPlain c)
    (value value' : Form) :
    (Form.object (.more (bareLabel (plainLiteral [t] ht)) .none value .none
      (.last (bareLabel (plainLiteral [i] hi)) .none value' .none))).text
      = '{' :: '"' :: t :: '"' :: ':' ::
        (value.text ++ ',' :: '"' :: i :: '"' :: ':' :: (value'.text ++ ['}'])) := by
  simp [bareLabel, Form.text, Form.Members.text, Form.Label.text, Form.Space.none, text_plainLiteral]

theorem text_wholeNumber (w : Form.Whole) : (wholeNumber w).text = w.text := by
  simp [wholeNumber, Form.text, Form.Figures.text, Form.placesText, Form.powerText]

theorem extended_timestamp (seconds increment : List Char) :
    (Call.timestamp seconds increment).extended
      = "\x7b\"$timestamp\":\x7b\"t\":".toList ++ seconds ++ ",\"i\":".toList ++ increment
        ++ "\x7d\x7d".toList :=
  rfl

/-- A call stands for its form. -/
theorem extended_call (i : Invocation) : i.call.extended = i.form.text := by
  cases i with
  | text callee kind argument =>
      cases callee with
      | isoDate => exact (text_tagged_literal "date" (by decide) _ _).symm
      | newDate => exact (text_tagged_literal "date" (by decide) _ _).symm
      | objectId => exact (text_tagged_literal "oid" (by decide) _ _).symm
      | decimal => exact (text_tagged_literal "numberDecimal" (by decide) _ _).symm
  | integer callee kind argument =>
      cases callee with
      | long => exact (text_tagged_literal "numberLong" (by decide) _ _).symm
      | int => exact (text_tagged_literal "numberInt" (by decide) _ _).symm
  | timestamp seconds before after increment =>
      have hform : (Invocation.timestamp seconds before after increment).form.text = _ :=
        text_tagged "$timestamp".toList (by decide) _
      have hcall : (Invocation.timestamp seconds before after increment).call
          = .timestamp seconds.text increment.text := rfl
      rw [hform, hcall, extended_timestamp, text_pair, text_wholeNumber, text_wholeNumber]
      simp

/-! ## What is no call -/

/-- Calls begin with few letters. -/
theorem no_call_of_head {c : Char} (h : c ∉ ['n', 'I', 'O', 'N', 'T']) (cs : List Char) :
    Call.read (c :: cs) = none := by
  cases hread : Call.read (c :: cs) with
  | none => rfl
  | some found =>
      obtain ⟨text, hspelled, heq⟩ := read_iff.mp hread
      obtain ⟨d, ds, rfl, hd⟩ := hspelled.head
      exact absurd (List.head_eq_of_cons_eq heq ▸ hd) h

/-- A bare key is not taken for a call, nor is the rest of one: a colon comes before any parenthesis. -/
theorem no_call_of_key {key : List Char} (h : ∀ c ∈ key, isKeyChar c = true) (gap : Form.Space)
    (rest : List Char) : Call.read (key ++ (gap.chars ++ ':' :: rest)) = none := by
  cases hread : Call.read (key ++ (gap.chars ++ ':' :: rest)) with
  | none => rfl
  | some found =>
      exfalso
      obtain ⟨text, hspelled, heq⟩ := read_iff.mp hread
      obtain ⟨front, behind, rfl, hfront⟩ := hspelled.parenthesis
      have hcut : key ++ gap.chars ++ ':' :: rest = front ++ '(' :: (behind ++ found.2) := by
        simpa using heq
      rcases cut_append hcut with ⟨later, hin⟩ | ⟨middle, rfl, hcolon⟩
      · rcases List.mem_append.mp (mem_of_cut hin) with hmem | hmem
        · exact absurd (h _ hmem) (by decide)
        · exact absurd (gap.isSpace _ hmem) (by decide)
      · cases middle with
        | nil => cases List.head_eq_of_cons_eq hcolon
        | cons d ds =>
            cases List.head_eq_of_cons_eq hcolon
            exact (hfront ':' (by simp)).2 rfl

end BulkSweep.Shell

import BulkSweep.Proofs.Shell.Seams
import BulkSweep.Proofs.Shell.Strict
import Mathlib.Data.List.Induction

/-!
# Literals and calls in any text

Making a text strict does the same around a literal whatever stands in it (`normalize_around_literals`),
and to a text with a call the same as to the text with the form of the call in its place
(`normalize_call`).  The texts around need not be well formed.
-/

set_option autoImplicit false

namespace BulkSweep.Shell

open BulkSweep.Text
open BulkSweep.Json (Form)

/-! ## Texts around another one -/

theorem dropBlank_append_firm (s : List Char) {t : List Char} (h : FirmStart t) :
    dropBlank (s ++ t) = dropBlank s ++ t := by
  induction s with
  | nil =>
      have hdrop := h.dropBlank []
      rwa [List.append_nil] at hdrop
  | cons c cs ih =>
      rw [List.cons_append, dropBlank, dropBlank]
      split
      · exact ih
      · rfl

/-- The text without its trailing blanks. -/
def dropTrailing (s : List Char) : List Char :=
  (dropBlank s.reverse).reverse

/-- A text with firm ends keeps inner blanks from being dropped. -/
theorem trimBlank_around (front behind : List Char) {s : List Char} (hstart : FirmStart s)
    (hend : FirmEnd s) :
    trimBlank (front ++ s ++ behind) = dropBlank front ++ (s ++ dropTrailing behind) := by
  have hback : FirmStart ((dropBlank front ++ s).reverse) := (hend.append _).reverse
  rw [trimBlank, List.append_assoc, dropBlank_append_firm front (hstart.append behind),
    ← List.append_assoc, List.reverse_append, dropBlank_append_firm _ hback, List.reverse_append,
    List.reverse_reverse, List.append_assoc, dropTrailing]

theorem normalizeChars_eq (s : List Char) :
    normalizeChars s = tidyText (substituteCalls (unifyQuotes (trimBlank s))) :=
  normalizeTrimmed_steps (trimBlank s)

theorem after_dropBlank (s : List Char) :
    Place.outside.after (dropBlank s) = Place.outside.after s := by
  induction s with
  | nil => rfl
  | cons c cs ih =>
      rw [dropBlank]
      split
      · rename_i hblank
        have hplace : Place.outside.next c = .outside := by
          have hdouble : c ≠ '"' := by
            rintro rfl
            exact absurd hblank (by decide)
          have hsingle : c ≠ '\'' := by
            rintro rfl
            exact absurd hblank (by decide)
          simp [Place.next, hdouble, hsingle]
        rw [ih, Place.after, Place.after, List.foldl_cons, hplace]
      · rfl

theorem lastSolid_dropBlank (s : List Char) : lastSolid (dropBlank s) = lastSolid s := by
  obtain ⟨blanks, hblanks, heq⟩ := exists_blanks s
  have happend := lastSolid_append blanks (dropBlank s)
  rw [← heq, lastSolid_blanks hblanks, Option.or_none] at happend
  exact happend.symm

theorem getLast?_dropBlank {s : List Char} {c : Char} (h : c ∈ (dropBlank s).getLast?) :
    c ∈ s.getLast? := by
  obtain ⟨blanks, -, heq⟩ := exists_blanks s
  rw [heq, List.getLast?_append, Option.mem_def.mp h]
  rfl

/-! ## The end of a text with one kind of quote -/

/-- If a scan stands between literals behind a text, the last character is kept or closes a literal. -/
theorem unifyQuotes_last {s : List Char} {c : Char} (h : Place.outside.after (s ++ [c]) = .outside) :
    (Place.outside.after s = .outside ∧ unifyQuotes (s ++ [c]) = unifyQuotes s ++ [c]) ∨
      ∃ out, unifyQuotes (s ++ [c]) = out ++ ['"'] := by
  rw [Place.after, List.foldl_append, ← Place.after] at h
  have hlast : (Place.outside.after s).next c = .outside := h
  obtain ⟨out, hout⟩ := exists_unifies .outside s
  have htext : unifyQuotes (s ++ [c]) = out ++ (Place.outside.after s).written c := by
    rw [unifyQuotes, hout [c], unifyFrom, hlast, unifyFrom_outside_nil, List.append_nil]
  cases hplace : Place.outside.after s with
  | outside =>
      refine .inl ⟨rfl, ?_⟩
      rw [hplace] at hlast
      have hkept : unifyFrom .outside [c] = [c] := by
        by_cases hsingle : c = '\''
        · simp [hsingle, Place.next] at hlast
        · simp [unifyFrom, Place.written, hsingle, hlast, Place.ending]
      rw [unifyQuotes, unifies_of_after hplace [c], hkept]
      rfl
  | inDouble escaped =>
      refine .inr ⟨out, ?_⟩
      rw [hplace] at hlast htext
      cases escaped with
      | true => simp [Place.next] at hlast
      | false =>
          by_cases hslash : c = '\\'
          · simp [Place.next, hslash] at hlast
          · by_cases hdouble : c = '"'
            · simpa [hdouble, Place.written] using htext
            · simp [Place.next, hslash, hdouble] at hlast
  | inSingle escaped =>
      refine .inr ⟨out, ?_⟩
      rw [hplace] at hlast htext
      cases escaped with
      | true => simp [Place.next] at hlast
      | false =>
          by_cases hslash : c = '\\'
          · simp [Place.next, hslash] at hlast
          · by_cases hsingle : c = '\''
            · simpa [hsingle, Place.written] using htext
            · simp [Place.next, hslash, hsingle] at hlast

theorem lastSolid_unifyQuotes {s : List Char} (h : Place.outside.after s = .outside) :
    lastSolid (unifyQuotes s) = lastSolid s ∨ lastSolid (unifyQuotes s) = some '"' := by
  induction s using List.reverseRecOn with
  | nil => exact .inl rfl
  | append_singleton s c ih =>
      rcases unifyQuotes_last h with ⟨hplace, heq⟩ | ⟨out, heq⟩
      · rw [heq, lastSolid_append, lastSolid_append]
        rcases ih hplace with hsame | hquote
        · exact .inl (by rw [hsame])
        · cases hc : lastSolid [c] with
          | none => exact .inr hquote
          | some d => exact .inl rfl
      · rw [heq, lastSolid_append]
        exact .inr rfl

theorem getLast?_unifyQuotes {s : List Char} (h : Place.outside.after s = .outside) {c : Char}
    (hc : c ∈ (unifyQuotes s).getLast?) : c ∈ s.getLast? ∨ c = '"' := by
  rcases List.eq_nil_or_concat s with rfl | ⟨front, last, rfl⟩
  · cases hc
  · rw [List.concat_eq_append] at h hc ⊢
    rcases unifyQuotes_last h with ⟨-, heq⟩ | ⟨out, heq⟩
    · rw [heq, List.getLast?_append] at hc
      cases hc
      exact .inl (by simp)
    · rw [heq, List.getLast?_append] at hc
      cases hc
      exact .inr rfl

/-! ## Literals -/

theorem IsLiteral.firm {s : List Char} (h : IsLiteral s) : FirmStart s ∧ FirmEnd s := by
  obtain ⟨inside, -, rfl⟩ := h
  exact firm_between (by decide) (by decide) inside

/-- A text that is given one kind of quote by itself is, in a text around it, made strict from there on. -/
theorem normalizeChars_around {p s t : List Char} (q : List Char)
    (hplace : Place.outside.after p = .outside) (hstart : FirmStart s) (hend : FirmEnd s)
    (h : Unifies .outside s t .outside) :
    normalizeChars (p ++ s ++ q)
      = tidyText (substituteCalls (unifyQuotes (dropBlank p) ++ (t ++ unifyQuotes (dropTrailing q)))) := by
  have hplace' : Place.outside.after (dropBlank p) = .outside := by rw [after_dropBlank, hplace]
  rw [normalizeChars_eq, trimBlank_around p q hstart hend, unifyQuotes, unifies_of_after hplace', h]
  rfl

/-- The text in front of a literal does not depend on it, nor does the text behind it. -/
theorem substituteCalls_around {front : List Char} (hfront : Closed front)
    (hopen : lastSolid front ≠ some '(') {literal : List Char} (h : IsLiteral literal)
    (behind : List Char) :
    substituteCalls (front ++ (literal ++ behind))
      = substituteCalls front ++ (literal ++ substituteAfter (some '"') behind) := by
  have hseam : Seam front (literal ++ behind) := by
    obtain ⟨inside, -, rfl⟩ := h
    rintro c ⟨⟩ hjoins
    rcases hjoins with hblank | hdigit | hsign | ⟨-, hlast⟩ | ⟨hword, -⟩
    · exact absurd hblank (by decide)
    · exact absurd hdigit (by decide)
    · exact absurd hsign (by decide)
    · exact hopen hlast
    · exact absurd hword (by decide)
  rw [substituteCalls, substituteAfter_append hfront hseam, h.substituteAfter]
  rfl

/-- What stands in a literal neither changes nor changes anything.  Whatever the text in front of it and
the text behind it, as long as a scan stands between literals where it begins and no parenthesis has just
been opened there, there are two texts that become of them around every literal. -/
theorem normalize_around_literals (p q : String) (hplace : Place.outside.after p.toList = .outside)
    (hopen : lastSolid p.toList ≠ some '(') :
    ∃ before after : String, ∀ literal : String, IsLiteral literal.toList →
      normalize (p ++ literal ++ q) = before ++ literal ++ after := by
  let front := unifyQuotes (dropBlank p.toList)
  let behind := substituteAfter (some '"') (unifyQuotes (dropTrailing q.toList))
  have hplace' : Place.outside.after (dropBlank p.toList) = .outside := by rw [after_dropBlank, hplace]
  have hclosed : Closed front := closed_unifyQuotes hplace'
  have hcalls : Closed (substituteCalls front) := closed_substituteAfter hclosed none
  have hsolid : lastSolid front ≠ some '(' := by
    intro hparenthesis
    rcases lastSolid_unifyQuotes hplace' with hsame | hquote
    · rw [lastSolid_dropBlank] at hsame
      exact hopen (hsame.symm.trans hparenthesis)
    · rw [hquote] at hparenthesis
      cases hparenthesis
  refine ⟨String.ofList (tidyText (substituteCalls front)), String.ofList (tidyText behind),
    fun literal hliteral => ?_⟩
  obtain ⟨hstart, hend⟩ := hliteral.firm
  have hedge : Edge (literal.toList ++ behind) := by
    obtain ⟨cs, hcs, -⟩ := hliteral.split
    rw [hcs]
    rintro c ⟨⟩
    rfl
  have hchars : normalizeChars (p.toList ++ literal.toList ++ q.toList)
      = tidyText (substituteCalls front) ++ literal.toList ++ tidyText behind := by
    rw [normalizeChars_around _ hplace hstart hend hliteral.unifies,
      substituteCalls_around hclosed hsolid hliteral, tidyText_append hcalls hedge, hliteral.tidyText,
      List.append_assoc]
  rw [normalize, String.toList_append, String.toList_append, hchars, String.ofList_append,
    String.ofList_append, String.ofList_toList]

/-- Of two literals one holds a call and the other one an escaped quote and a trailing comma; the text in
front of them ends in the middle of a call. -/
theorem normalize_around_literals_of_lookalikes :
    ∃ before after : String,
      normalize ("\x7bk: new " ++ "\"ISODate('x')\"" ++ ",\x7d")
          = before ++ "\"ISODate('x')\"" ++ after ∧
        normalize ("\x7bk: new " ++ "\"\\\",\x7d\"" ++ ",\x7d")
          = before ++ "\"\\\",\x7d\"" ++ after := by
  obtain ⟨before, after, h⟩ :=
    normalize_around_literals "\x7bk: new " ",\x7d" (by decide) (by decide)
  refine ⟨before, after, h _ ⟨"ISODate('x')".toList, inside_of_plain (by decide), by decide⟩,
    h _ ⟨"\\\",\x7d".toList, ?_, by decide⟩⟩
  exact .escape '"' (inside_of_plain (by decide))

/-! ## Calls -/

theorem Spelled.firm {stage : Stage} {call : Call} {s : List Char} (h : Spelled stage call s) :
    FirmStart s ∧ FirmEnd s := by
  have hletters : ∀ c ∈ ['n', 'I', 'O', 'N', 'T'], isBlank c = false := by decide
  constructor
  · obtain ⟨c, cs, rfl, hc⟩ := h.head
    exact ⟨c, cs, rfl, hletters c hc⟩
  · obtain ⟨front, hfront⟩ := List.getLast?_eq_some_iff.mp h.getLast?
    exact ⟨front, ')', hfront, by decide⟩

theorem unifies_enclose (kind : Quote) {text : List Char} (h : ∀ c ∈ text, isPlain c = true) :
    Unifies .outside (kind.enclose .typed text) (kind.enclose .unified text) .outside := by
  cases kind with
  | double => exact IsLiteral.unifies ⟨text, inside_of_plain h, rfl⟩
  | single =>
      have hbody : Unifies (.inSingle false)
          (text.flatMap fun c => if c = '\'' then ['\\', c] else [c]) text (.inSingle false) := by
        induction text with
        | nil => exact unifies_nil _
        | cons c cs ih =>
            have hmore := ih fun d hd => h d (List.mem_cons_of_mem c hd)
            obtain ⟨hdouble, hslash⟩ := isPlain_iff.mp (h c List.mem_cons_self)
            rw [List.flatMap_cons]
            by_cases hsingle : c = '\''
            · rw [if_pos hsingle, hsingle]
              exact ((unifies_char (.inSingle false) '\\').append
                (unifies_char (.inSingle true) '\'')).append hmore
            · rw [if_neg hsingle]
              have hchar := unifies_char (.inSingle false) c
              simp only [Place.written, Place.next, hdouble, hslash, hsingle, if_false] at hchar
              exact hchar.append hmore
      exact ((unifies_char .outside '\'').append hbody).append (unifies_char (.inSingle false) '\'')

theorem Call.Arguments.unifies {call : Call} {s : List Char} (h : call.Arguments .typed s) :
    ∃ t, call.Arguments .unified t ∧ Unifies .outside s t .outside := by
  cases call with
  | date | objectId | decimal =>
      obtain ⟨ne_nil, hplain, kind, rfl⟩ := h
      exact ⟨_, ⟨ne_nil, hplain, kind, rfl⟩, unifies_enclose kind hplain⟩
  | long | int =>
      obtain ⟨⟨n, rfl⟩, rfl | ⟨kind, rfl⟩⟩ := h
      · exact ⟨n.text, ⟨⟨n, rfl⟩, .inl rfl⟩, unifies_inert (inert_integer n)⟩
      · have hplain : ∀ c ∈ n.text, isPlain c = true := fun c hc =>
          isPlain_iff.mpr ⟨(n.isPlain c hc).1, (n.isPlain c hc).2.1⟩
        exact ⟨_, ⟨⟨n, rfl⟩, .inr ⟨kind, rfl⟩⟩, unifies_enclose kind hplain⟩
  | timestamp =>
      obtain ⟨a, b, before, after, ha, hb, hbefore, hafter, rfl⟩ := h
      refine ⟨_, ⟨a, b, before, after, ha, hb, hbefore, hafter, rfl⟩, ?_⟩
      exact (((unifies_inert (inert_digits a)).append (unifies_outside hbefore.unquoted)).append
        ((unifies_char .outside ',').append (unifies_outside hafter.unquoted))).append
          (unifies_inert (inert_digits b))

/-- A call that is typed is given one kind of quote, whatever follows it. -/
theorem Spelled.unifies {call : Call} {s : List Char} (h : Spelled .typed call s) :
    ∃ t, Spelled .unified call t ∧ Unifies .outside s t .outside := by
  obtain ⟨hname, hgap, hlead, harguments, htrail⟩ := h
  obtain ⟨arguments, hwritten, hunifies⟩ := harguments.unifies
  refine ⟨_, .intro hname hgap hlead hwritten htrail, ?_⟩
  exact (((((unifies_outside hname.unquoted).append (unifies_outside hgap.unquoted)).append
    ((unifies_char .outside '(').append (unifies_outside hlead.unquoted))).append hunifies).append
      (unifies_outside htrail.unquoted)).append (unifies_char .outside ')')

/-- No call that has begun in front of another one goes on with it. -/
theorem Spelled.seam {stage : Stage} {call : Call} {s front : List Char} (h : Spelled stage call s)
    (hword : ∀ c ∈ front.getLast?, isWordChar c = false) (behind : List Char) :
    Seam front (s ++ behind) := by
  have hletters : ∀ c ∈ ['n', 'I', 'O', 'N', 'T'], isBlank c = false ∧ c.isDigit = false ∧
      c ∉ ['(', ')', ',', '-', 'D'] ∧ c ≠ '"' := by decide
  obtain ⟨c, cs, rfl, hc⟩ := h.head
  obtain ⟨hblank, hdigit, hsign, hquote⟩ := hletters c hc
  rintro d ⟨⟩ (hjoins | hjoins | hjoins | ⟨hjoins, -⟩ | ⟨-, e, he, hjoins⟩)
  · exact absurd hjoins (Bool.eq_false_iff.mp hblank)
  · exact absurd hjoins (Bool.eq_false_iff.mp hdigit)
  · exact hsign hjoins
  · exact hquote hjoins
  · exact absurd hjoins (Bool.eq_false_iff.mp (hword e he))

/-- No call goes on with a brace. -/
theorem seam_brace (front behind : List Char) : Seam front ('{' :: behind) := by
  rintro c ⟨⟩ (hjoins | hjoins | hjoins | ⟨hjoins, -⟩ | ⟨hjoins, -⟩) <;>
    exact absurd hjoins (by decide)

/-- A call is replaced by its form, and so is the form. -/
theorem substituteCalls_call {call : Call} {s front : List Char} (h : Spelled .unified call s)
    (hfront : Closed front) (hword : ∀ c ∈ front.getLast?, isWordChar c = false) (behind : List Char) :
    substituteCalls (front ++ (s ++ behind)) = substituteCalls (front ++ (call.extended ++ behind)) := by
  have hfresh : (front.getLast?.or none).any isWordChar = false := by
    rw [Option.or_none]
    cases hlast : front.getLast? with
    | none => rfl
    | some c => exact hword c hlast
  obtain ⟨rest, hbrace⟩ : ∃ rest, call.extended = '{' :: rest := by cases call <;> exact ⟨_, rfl⟩
  rw [substituteCalls, substituteCalls, substituteAfter_append hfront (h.seam hword behind),
    substituteAfter_append hfront (hbrace ▸ seam_brace front (rest ++ behind)),
    substituteAfter_call hfresh (h.read behind), h.settled.substituteAfter, extended_getLast?]
  rfl

/-- A call and its form can stand for each other in any text, as long as a scan stands between literals where
they begin and no word goes on there. -/
theorem normalize_call (p q text : String) (call : Call)
    (hplace : Place.outside.after p.toList = .outside)
    (hword : ∀ c ∈ p.toList.getLast?, isWordChar c = false) (h : Spelled .typed call text.toList) :
    normalize (p ++ text ++ q) = normalize (p ++ String.ofList call.extended ++ q) := by
  obtain ⟨t, hspelled, hunifies⟩ := h.unifies
  obtain ⟨hstart, hend⟩ := h.firm
  obtain ⟨hstart', hend'⟩ := extended_firm call
  have hplace' : Place.outside.after (dropBlank p.toList) = .outside := by rw [after_dropBlank, hplace]
  have hlast : ∀ c ∈ (unifyQuotes (dropBlank p.toList)).getLast?, isWordChar c = false := by
    intro c hc
    rcases getLast?_unifyQuotes hplace' hc with hkept | rfl
    · exact hword c (getLast?_dropBlank hkept)
    · rfl
  have hchars : normalizeChars (p.toList ++ text.toList ++ q.toList)
      = normalizeChars (p.toList ++ call.extended ++ q.toList) := by
    rw [normalizeChars_around _ hplace hstart hend hunifies,
      normalizeChars_around _ hplace hstart' hend' h.settled.unifies,
      substituteCalls_call hspelled (closed_unifyQuotes hplace') hlast]
  simp only [normalize, String.toList_append, String.toList_ofList, hchars]

/-- A date in single quotes with an apostrophe in it, behind a call that is not finished and before one
parenthesis too many. -/
theorem normalize_call_of_unfinished :
    normalize ("NumberLong (new " ++ "ISODate( 'it\\'s'\t)" ++ "), \x7d")
      = normalize ("NumberLong (new " ++ "\x7b\"$date\":\"it's\"\x7d" ++ "), \x7d") := by
  let call := Call.date "it's".toList
  have hname : Named call.callee "ISODate".toList := .word (by decide)
  have hgap : Blanks [] := by decide
  have hlead : Blanks [' '] := by decide
  have harguments : call.Arguments .typed "'it\\'s'".toList :=
    ⟨by decide, by decide, .single, by decide⟩
  have htrail : Blanks ['\t'] := by decide
  have hspelled : Spelled .typed call "ISODate( 'it\\'s'\t)".toList :=
    .intro hname hgap hlead harguments htrail
  have hword : ∀ c ∈ "NumberLong (new ".toList.getLast?, isWordChar c = false := by
    rw [show "NumberLong (new ".toList.getLast? = some ' ' by decide]
    rintro c ⟨⟩
    rfl
  exact normalize_call "NumberLong (new " "), \x7d" _ call (by decide) hword hspelled

end BulkSweep.Shell

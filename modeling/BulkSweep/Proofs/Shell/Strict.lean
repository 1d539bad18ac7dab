import BulkSweep.Proofs.Shell.Unifying
import BulkSweep.Proofs.Shell.Expanding
import BulkSweep.Proofs.Shell.Cleaning
import BulkSweep.Proofs.Shell.Trimming
import BulkSweep.Expression

/-!
# What shell text means

The three steps of making a text strict take a tree from one stage to the next, so that its strict text
is the text of its form (`normalize_text`).  Two things follow.  A document means what its strict form
means, in any layout (`parseDocument_iff_strict`); and JSON, which is shell text that stands for itself,
only loses its outer blanks (`normalize_valid`).
-/

set_option autoImplicit false

namespace BulkSweep.Shell

open BulkSweep.Text
open BulkSweep.Json (Form Valid)

/-! ## Ends of values -/

theorem firmStart_figures (n : Form.Figures) : FirmStart n.text := by
  obtain ⟨c, cs, htext, hc⟩ := n.text_head
  refine ⟨c, cs, htext, ?_⟩
  rcases hc with rfl | hc
  · decide
  · exact isBlank_of_isDigit hc

theorem firmEnd_digits (d : Form.Digits) : FirmEnd d.text := by
  have hne : d.text ≠ [] := List.cons_ne_nil _ _
  refine ⟨d.text.dropLast, d.text.getLast hne, (List.dropLast_concat_getLast hne).symm, ?_⟩
  exact isBlank_of_isDigit (d.isDigit _ (List.getLast_mem hne))

theorem firmEnd_whole (w : Form.Whole) : FirmEnd w.text := by
  cases w with
  | zero => exact firmEnd_singleton (by decide)
  | digits d _ => exact firmEnd_digits d

theorem FirmEnd.append_opt {s t : List Char} (h : FirmEnd s) (ht : t = [] ∨ FirmEnd t) :
    FirmEnd (s ++ t) := by
  rcases ht with rfl | ht
  · rwa [List.append_nil]
  · exact ht.append s

theorem firmEnd_figures (n : Form.Figures) : FirmEnd n.text := by
  have hplaces : Form.placesText n.places = [] ∨ FirmEnd (Form.placesText n.places) := by
    cases n.places with
    | none => exact .inl rfl
    | some d => exact .inr ((firmEnd_digits d).append ['.'])
  have hpower : Form.powerText n.power = [] ∨ FirmEnd (Form.powerText n.power) := by
    cases n.power with
    | none => exact .inl rfl
    | some p => exact .inr ((firmEnd_digits p.digits).append (p.letter :: p.sign.text))
  exact (((firmEnd_whole n.whole).append _).append_opt hplaces).append_opt hpower

theorem firmStart_name (i : Invocation) : FirmStart i.name := by
  have hword (word : List Char) {c : Char} {cs : List Char} (h : word = c :: cs)
      (hc : isBlank c = false) : FirmStart word := ⟨c, cs, h, hc⟩
  cases i with
  | text callee =>
      cases callee with
      | newDate gap _ =>
          exact ((hword "new".toList rfl (by decide)).append _).append _
      | isoDate => exact hword "ISODate".toList rfl (by decide)
      | objectId => exact hword "ObjectId".toList rfl (by decide)
      | decimal => exact hword "NumberDecimal".toList rfl (by decide)
  | integer callee =>
      cases callee with
      | long => exact hword "NumberLong".toList rfl (by decide)
      | int => exact hword "NumberInt".toList rfl (by decide)
  | timestamp => exact hword "Timestamp".toList rfl (by decide)

/-- Text between two signs has no blank at either end. -/
theorem firm_between {c d : Char} (hc : isBlank c = false) (hd : isBlank d = false)
    (inside : List Char) : FirmStart (c :: inside ++ [d]) ∧ FirmEnd (c :: inside ++ [d]) :=
  ⟨⟨c, inside ++ [d], rfl, hc⟩, ⟨c :: inside, d, rfl, hd⟩⟩

theorem firm_quoted (s : Quoted) : FirmStart (s.text .typed) ∧ FirmEnd (s.text .typed) := by
  cases s with
  | double s => exact firm_between (by decide) (by decide) s.body
  | single s => exact firm_between (by decide) (by decide) (s.flatMap Piece.text)

/-- A value has no blank at either end. -/
theorem text_firm (t : Tree) : FirmStart (t.text .typed) ∧ FirmEnd (t.text .typed) := by
  cases t with
  | null => exact ⟨⟨'n', "ull".toList, rfl, by decide⟩, ⟨"nul".toList, 'l', rfl, by decide⟩⟩
  | bool b =>
      cases b with
      | true => exact ⟨⟨'t', "rue".toList, rfl, by decide⟩, ⟨"tru".toList, 'e', rfl, by decide⟩⟩
      | false => exact ⟨⟨'f', "alse".toList, rfl, by decide⟩, ⟨"fals".toList, 'e', rfl, by decide⟩⟩
  | number n => exact ⟨firmStart_figures n, firmEnd_figures n⟩
  | string s => exact firm_quoted s
  | call c =>
      refine ⟨?_, ⟨_, ')', rfl, by decide⟩⟩
      exact (((((firmStart_name c.invocation).append _).append _).append _).append _).append _
  | emptyList inside => exact firm_between (by decide) (by decide) inside.chars
  | list items => exact firm_between (by decide) (by decide) (items.text .typed)
  | emptyObject inside => exact firm_between (by decide) (by decide) inside.chars
  | object members => exact firm_between (by decide) (by decide) (members.text .typed)

/-! ## Strict texts -/

theorem trimBlank_text (lead trail : Form.Space) (t : Tree) :
    trimBlank (lead.chars ++ t.text .typed ++ trail.chars) = t.text .typed := by
  obtain ⟨hstart, hend⟩ := text_firm t
  exact trimBlank_append (fun c hc => isBlank_of_isSpace (lead.isSpace c hc))
    (fun c hc => isBlank_of_isSpace (trail.isSpace c hc)) hstart hend

theorem steps_text (t : Tree) :
    tidyText (substituteCalls (unifyQuotes (t.text .typed))) = t.form.text := by
  rw [unifyQuotes_text, substituteCalls_text, tidyText_text, Tree.text_tidied]

/-- Empty braces take a short cut, which leads where the long way does. -/
theorem normalizeTrimmed_steps (s : List Char) :
    normalizeTrimmed s = tidyText (substituteCalls (unifyQuotes s)) := by
  by_cases hbare : s = [] ∨ s = ['{', '}']
  · rw [normalizeTrimmed, if_pos hbare]
    rcases hbare with rfl | rfl
    · rw [unifyQuotes, unifyFrom, substituteCalls, Place.ending, substituteAfter_nil, tidyText_nil]
      intro heq
      cases heq
    · exact (steps_text (.emptyObject .none)).symm
  · exact normalizeTrimmed_eq hbare

/-- The strict form of a value is the text of the form that it stands for. -/
theorem normalizeTrimmed_text (t : Tree) : normalizeTrimmed (t.text .typed) = t.form.text := by
  rw [normalizeTrimmed_steps, steps_text]

/-- The strict form of a text: its calls as tagged objects, its keys and strings in double quotes, no
trailing commas, and no outer blanks. -/
theorem normalize_text (lead trail : Form.Space) (t : Tree) :
    normalize (String.ofList (lead.chars ++ t.text .typed ++ trail.chars))
      = String.ofList t.form.text := by
  rw [normalize, String.toList_ofList, normalizeChars, trimBlank_text, normalizeTrimmed_text]

/-- JSON only loses its outer blanks when it is made strict. -/
theorem normalize_valid {text : String} (h : Valid text.toList) : normalize text = trim text := by
  obtain ⟨lead, form, trail, htext⟩ := h
  have hstrict := normalize_text lead trail (Tree.ofForm form)
  have htrim := trimBlank_text lead trail (Tree.ofForm form)
  rw [Tree.text_ofForm] at hstrict htrim
  rw [Tree.form_ofForm, ← htext, String.ofList_toList] at hstrict
  rw [hstrict, trim, htext, htrim]

/-- Every JSON text is its own strict form, outer blanks apart.  Making a text strict a second time
changes nothing if the first time gave JSON. -/
theorem strict_fixed :
    (∀ text : String, Valid text.toList → normalize text = trim text) ∧
      ∀ text : String, Valid (normalize text).toList → normalize (normalize text) = normalize text := by
  refine ⟨fun text h => normalize_valid h, fun text h => ?_⟩
  rw [normalize_valid h, trim, normalize, String.toList_ofList, trimBlank_normalizeChars]

/-- Both hold of a string that looks like shell syntax, with white space around the text. -/
theorem strict_fixed_of_lookalike :
    normalize " \"\x7bk: ',\x7d\"\n" = "\"\x7bk: ',\x7d\"" ∧
      normalize (normalize " \"\x7bk: ',\x7d\"\n") = normalize " \"\x7bk: ',\x7d\"\n" := by
  have hfirst := strict_fixed.1 " \"\x7bk: ',\x7d\"\n"
    ⟨⟨[' '], by decide⟩, .string (plainLiteral "\x7bk: ',\x7d".toList (by decide)),
      ⟨['\n'], by decide⟩, by decide⟩
  have hsecond := strict_fixed.2 " \"\x7bk: ',\x7d\"\n"
    ⟨.none, .string (plainLiteral "\x7bk: ',\x7d".toList (by decide)), .none,
      by rw [hfirst]; decide⟩
  exact ⟨by rw [hfirst]; decide, hsecond⟩

/-! ## Documents -/

/-- The document that a form denotes; none unless it denotes an object whose tags make sense. -/
def document? (form : Form) : Option Document :=
  (form.value? Json.maxDepth).bind fun value =>
    match value with
    | .object members => (Extended.decodeDocument members).toOption
    | _ => none

theorem toOption_mapError {α ε ε' : Type} (f : ε → ε') (answer : Except ε α) :
    (answer.mapError f).toOption = answer.toOption := by
  cases answer <;> rfl

theorem readStrict_form (form : Form) :
    (readStrict (String.ofList form.text)).toOption = document? form := by
  have hread := Json.read_form form
  rw [readStrict, document?, ← hread]
  cases Json.read (String.ofList form.text) with
  | error failure => rfl
  | ok value =>
      cases value with
      | object members => exact toOption_mapError _ _
      | _ => rfl

/-- Empty braces are the empty document. -/
theorem document?_braces {form : Form} (h : form.text = ['{', '}']) : document? form = some [] := by
  have hread := readStrict_form form
  have hempty := readStrict_form (.emptyObject .none)
  rw [h] at hread
  rw [← hread]
  exact hempty

/-- An expression is read as the document that its form denotes. -/
theorem parseDocument_text (lead trail : Form.Space) (t : Tree) :
    (parseDocument (String.ofList (lead.chars ++ t.text .typed ++ trail.chars))).toOption
      = document? t.form := by
  have htrim : trim (String.ofList (lead.chars ++ t.text .typed ++ trail.chars))
      = String.ofList (t.text .typed) := by
    rw [trim, String.toList_ofList, trimBlank_text]
  have hstrict := normalize_text .none .none t
  simp only [Form.Space.none, List.nil_append, List.append_nil] at hstrict
  rw [parseDocument, htrim]
  simp only
  split
  · rename_i hbare
    have hbraces : t.text .typed = ['{', '}'] := by
      rcases Bool.or_eq_true_iff.mp hbare with hempty | hbraces
      · obtain ⟨⟨c, cs, htext, -⟩, -⟩ := text_firm t
        rw [htext] at hempty
        simp at hempty
      · exact String.ofList_injective (beq_iff_eq.mp hbraces)
    have hform := normalizeTrimmed_text t
    rw [hbraces, normalizeTrimmed, if_pos (.inr rfl)] at hform
    exact (document?_braces hform.symm).symm
  · rw [hstrict, toOption_mapError]
    exact readStrict_form t.form

theorem toOption_eq_some {α ε : Type} {answer : Except ε α} {a : α} :
    answer.toOption = some a ↔ answer = .ok a := by
  cases answer with
  | error e => exact ⟨nofun, nofun⟩
  | ok b => exact ⟨fun h => congrArg _ (Option.some.inj h), fun h => congrArg _ (Except.ok.inj h)⟩

/-- A document means what its strict form means, whatever white space stands between the tokens of
either and however the strings of the strict form are escaped. -/
theorem parseDocument_iff_strict (t : Tree) (strict : Form) (h : t.form.Alike strict)
    (lead trail lead' trail' : Form.Space) (d : Document) :
    parseDocument (String.ofList (lead.chars ++ t.text .typed ++ trail.chars)) = .ok d ↔
      parseDocument (String.ofList (lead'.chars ++ strict.text ++ trail'.chars)) = .ok d := by
  have htree := parseDocument_text lead trail t
  have hform := parseDocument_text lead' trail' (Tree.ofForm strict)
  rw [Tree.text_ofForm, Tree.form_ofForm, document?, ← h.value?] at hform
  rw [← toOption_eq_some, ← toOption_eq_some, htree, hform, document?]

/-- A bare key, single quotes around a double one, and a trailing comma. -/
theorem parseDocument_iff_strict_of_comma :
    parseDocument "\x7ba:'\"',\x7d" = .ok [("a", .string "\"")] ↔
      parseDocument " \x7b\"a\": \"\\u0022\"\x7d" = .ok [("a", .string "\"")] :=
  parseDocument_iff_strict
    (.object (.last (.bare .none ⟨false, 'a', [], by decide, by decide⟩ .none) .none
      (.string (.single [.plain '"' (by decide)])) .none (some .none)))
    (.object (.last ⟨.none, plainLiteral ['a'] (by decide), .none⟩ ⟨[' '], by decide⟩
      (.string [.unicode ⟨'0', by decide⟩ ⟨'0', by decide⟩ ⟨'2', by decide⟩ ⟨'2', by decide⟩]) .none))
    (.object (.last _ _ _ _ (by decide) (.string (by decide)))) .none .none ⟨[' '], by decide⟩ .none _

end BulkSweep.Shell

import BulkSweep.Proofs.Json.Braces
import BulkSweep.Proofs.Shell.Strict

/-!
# Empty braces

Only a text without any member is read as the empty document: nothing but blanks, or braces with
nothing between them.  One slip is forgiven there, a single comma before the closing brace
(`parseDocument_eq_empty`, `parseDocument_comma`).  The proof goes backwards.  Strict text is the empty
document if it is two braces with white space between them.  Such a text has no quotes, so that the text
before had neither quotes nor calls (`unifyQuotes_of_noQuote`, `substituteAfter_of_noQuote`), and of what
is left nothing but commas goes (`tidyText_eq_cons`).
-/

set_option autoImplicit false

namespace BulkSweep.Shell

open BulkSweep.Json (Form)
open BulkSweep.Text

/-! ## No quotes, no calls -/

/-- A text without quotes is what it was before its quotes were unified. -/
theorem unifyQuotes_of_noQuote {s : List Char} (h : '"' ∉ unifyQuotes s) : unifyQuotes s = s := by
  induction s with
  | nil => rfl
  | cons c cs ih =>
      rw [unifyQuotes, unifyFrom, Place.written] at h
      by_cases hquote : c = '\'' ∨ c = '"'
      · exact absurd (by rcases hquote with rfl | rfl <;> exact List.mem_cons_self) h
      · obtain ⟨hsingle, hdouble⟩ := not_or.mp hquote
        have hnext : Place.outside.next c = .outside := by
          rw [Place.next, if_neg hdouble, if_neg hsingle]
        rw [if_neg hsingle, hnext] at h
        rw [unifyQuotes, unifyFrom, Place.written, if_neg hsingle, hnext]
        exact congrArg (c :: ·) (ih fun hmem => h (List.mem_cons_of_mem c hmem))

theorem quote_mem_taggedText (tag : String) (body : List Char) : '"' ∈ taggedText tag body := by
  have hclose : "\"\x7d".toList = ['"', '}'] := rfl
  rw [taggedText, hclose]
  exact List.mem_append_right _ List.mem_cons_self

/-- A call always leaves quotes behind. -/
theorem quote_mem_extended (call : Call) : '"' ∈ call.extended := by
  cases call with
  | timestamp seconds increment =>
      have hmiddle : '"' ∈ ",\"i\":".toList := List.mem_cons_of_mem ',' List.mem_cons_self
      exact List.mem_append_left _ (List.mem_append_left _ (List.mem_append_right _ hmiddle))
  | _ => exact quote_mem_taggedText _ _

/-- A text without quotes is what it was before its calls were replaced. -/
theorem substituteAfter_of_noQuote {previous : Option Char} {s : List Char}
    (h : '"' ∉ substituteAfter previous s) : substituteAfter previous s = s := by
  fun_induction substituteAfter previous s with
  | case1 => rfl
  | case2 previous cs parts ih =>
      have hhead : '"' ∈ '"' :: (parts.1 ++ substituteAfter (some '"') parts.2) := List.mem_cons_self
      exact absurd hhead h
  | case3 previous c cs hquote hword ih =>
      exact congrArg (c :: ·) (ih fun hmem => h (List.mem_cons_of_mem c hmem))
  | case4 previous c cs hquote hword call rest hread ih =>
      exact absurd (List.mem_append_left _ (quote_mem_extended call)) h
  | case5 previous c cs hquote hword hread ih =>
      exact congrArg (c :: ·) (ih fun hmem => h (List.mem_cons_of_mem c hmem))

/-! ## Commas -/

theorem exists_bracket {s : List Char} (h : closesNext s = true) :
    ∃ blanks c cs, (∀ b ∈ blanks, isBlank b = true) ∧ (c = ']' ∨ c = '}') ∧
      s = blanks ++ c :: cs ∧ dropBlank s = c :: cs := by
  obtain ⟨blanks, hblanks, heq⟩ := exists_blanks s
  rw [closesNext] at h
  cases hdrop : dropBlank s with
  | nil =>
      rw [hdrop] at h
      cases h
  | cons c cs =>
      rw [hdrop] at h heq
      exact ⟨blanks, c, cs, hblanks, by simpa [or_comm] using h, heq, rfl⟩

/-- Only the text without characters is tidied to nothing. -/
theorem tidyText_eq_nil {s : List Char} (h : tidyText s = []) : s = [] := by
  cases s with
  | nil => rfl
  | cons c cs =>
      by_cases hcomma : c = ',' ∧ closesNext cs = true
      · obtain ⟨rfl, hcloses⟩ := hcomma
        obtain ⟨-, d, ds, -, hbracket, -, hdrop⟩ := exists_bracket hcloses
        rw [tidyText_comma hcloses, hdrop, tidyText_bracket hbracket] at h
        cases h
      · rw [tidyText, if_neg hcomma] at h
        split at h
        · cases h
        · split at h
          · split at h <;> cases h
          · cases h

/-- A tidied text without quotes begins as the text did, less a comma before a closing bracket. -/
theorem tidyText_eq_cons {s rest : List Char} {d : Char} (h : tidyText s = d :: rest)
    (hquote : '"' ∉ d :: rest) :
    (∃ cs, s = d :: cs ∧ tidyText cs = rest) ∨
      ∃ blanks cs, (∀ b ∈ blanks, isBlank b = true) ∧ (d = ']' ∨ d = '}') ∧
        s = ',' :: (blanks ++ d :: cs) ∧ tidyText cs = rest := by
  cases s with
  | nil =>
      rw [tidyText] at h
      cases h
  | cons c cs =>
      by_cases hcomma : c = ',' ∧ closesNext cs = true
      · obtain ⟨rfl, hcloses⟩ := hcomma
        obtain ⟨blanks, e, es, hblanks, hbracket, rfl, hdrop⟩ := exists_bracket hcloses
        rw [tidyText_comma hcloses, hdrop, tidyText_bracket hbracket] at h
        obtain ⟨rfl, hrest⟩ := List.cons.inj h
        exact .inr ⟨blanks, es, hblanks, hbracket, rfl, hrest⟩
      · rw [tidyText, if_neg hcomma] at h
        split at h
        · obtain ⟨rfl, -⟩ := List.cons.inj h
          exact absurd List.mem_cons_self hquote
        · split at h
          · split at h
            · obtain ⟨-, rfl⟩ := List.cons.inj h
              exact absurd (List.mem_cons_of_mem _ List.mem_cons_self) hquote
            · obtain ⟨rfl, hrest⟩ := List.cons.inj h
              exact .inl ⟨cs, rfl, hrest⟩
          · obtain ⟨rfl, hrest⟩ := List.cons.inj h
            exact .inl ⟨cs, rfl, hrest⟩

theorem quote_mem_tidyText {s : List Char} (h : '"' ∈ s) : '"' ∈ tidyText s := by
  fun_induction tidyText s with
  | case1 => exact h
  | case2 cs parts ih => exact List.mem_cons_self
  | case3 c cs hquote hdrop ih =>
      obtain ⟨blanks, hblanks, heq⟩ := exists_blanks cs
      refine ih ?_
      rcases List.mem_cons.mp h with hc | hmem
      · exact absurd hc.symm hquote
      · rw [heq] at hmem
        rcases List.mem_append.mp hmem with hblank | hrest
        · exact absurd (hblanks _ hblank) (by decide)
        · exact hrest
  | case4 c cs hquote hdrop hc key rest hkey ih => exact List.mem_cons_of_mem c List.mem_cons_self
  | case5 c cs hquote hdrop hc hkey ih | case6 c cs hquote hdrop hc ih =>
      rcases List.mem_cons.mp h with heq | hmem
      · exact absurd heq.symm hquote
      · exact List.mem_cons_of_mem c (ih hmem)

/-! ## Braces -/

/-- Braces with white space between them, and perhaps a comma, behind which any blanks may stand. -/
inductive EmptyBraces : List Char → Prop where
  /-- without a comma -/
  | plain (inside : Form.Space) : EmptyBraces ('{' :: (inside.chars ++ ['}']))
  /-- with a comma -/
  | comma (inside : Form.Space) {blanks : List Char} (hblanks : ∀ c ∈ blanks, isBlank c = true) :
      EmptyBraces ('{' :: (inside.chars ++ ',' :: (blanks ++ ['}'])))

theorem noQuote_closing {inside : List Char} (h : ∀ c ∈ inside, Json.Cursor.isSpace c = true) :
    '"' ∉ inside ++ ['}'] := by
  intro hmem
  rcases List.mem_append.mp hmem with hspace | hbrace
  · exact absurd (h _ hspace) (by decide)
  · exact absurd hbrace (by decide)

/-- Of the text behind an opening brace only a comma before the closing one can have gone. -/
theorem tidyText_eq_closing {s : List Char} {inside : List Char}
    (hinside : ∀ c ∈ inside, Json.Cursor.isSpace c = true) (h : tidyText s = inside ++ ['}']) :
    s = inside ++ ['}'] ∨
      ∃ blanks, (∀ c ∈ blanks, isBlank c = true) ∧ s = inside ++ ',' :: (blanks ++ ['}']) := by
  induction inside generalizing s with
  | nil =>
      rcases tidyText_eq_cons h (by decide) with ⟨cs, rfl, hrest⟩ | ⟨blanks, cs, hblanks, -, rfl, hrest⟩
      · exact .inl (by rw [tidyText_eq_nil hrest]; rfl)
      · exact .inr ⟨blanks, hblanks, by rw [tidyText_eq_nil hrest]; rfl⟩
  | cons d ds ih =>
      obtain ⟨hd, hds⟩ := List.forall_mem_cons.mp hinside
      rcases tidyText_eq_cons h (noQuote_closing hinside) with ⟨cs, rfl, hrest⟩ | ⟨blanks, cs, -, hbracket, -, -⟩
      · rcases ih hds hrest with rfl | ⟨blanks, hblanks, rfl⟩
        · exact .inl rfl
        · exact .inr ⟨blanks, hblanks, rfl⟩
      · exact absurd hd (by rcases hbracket with rfl | rfl <;> decide)

/-- Braces are left of braces alone, and of a comma between them. -/
theorem emptyBraces_of_tidied {s : List Char} {inside : Form.Space}
    (h : tidyText (substituteCalls (unifyQuotes s)) = '{' :: (inside.chars ++ ['}'])) :
    EmptyBraces s := by
  have hquote : '"' ∉ '{' :: (inside.chars ++ ['}']) := by
    intro hmem
    rcases List.mem_cons.mp hmem with hbrace | hrest
    · exact absurd hbrace (by decide)
    · exact noQuote_closing inside.isSpace hrest
  have hcalls : '"' ∉ substituteCalls (unifyQuotes s) := fun hmem =>
    hquote (h ▸ quote_mem_tidyText hmem)
  have hsubstituted : substituteCalls (unifyQuotes s) = unifyQuotes s := substituteAfter_of_noQuote hcalls
  rw [hsubstituted] at hcalls h
  rw [unifyQuotes_of_noQuote hcalls] at h
  rcases tidyText_eq_cons h hquote with ⟨cs, rfl, hrest⟩ | ⟨-, -, -, hbracket, -, -⟩
  · rcases tidyText_eq_closing inside.isSpace hrest with rfl | ⟨blanks, hblanks, rfl⟩
    · exact .plain inside
    · exact .comma inside hblanks
  · exact absurd hbracket (by decide)

/-- Behind its opening brace such a text goes on with a character that begins no key. -/
theorem EmptyBraces.tidied {s : List Char} (h : EmptyBraces s) :
    ∃ inside : Form.Space, tidyText s = '{' :: (inside.chars ++ ['}']) := by
  cases h with
  | plain inside =>
      have h := tidies_emptyObject inside []
      rw [List.append_nil, tidyText_nil, List.append_nil] at h
      exact ⟨inside, h⟩
  | @comma inside blanks hblanks =>
      have hbrace : dropBlank (blanks ++ ['}']) = ['}'] := by
        rw [dropBlank_append hblanks]
        rfl
      have hcloses : closesNext (blanks ++ ['}']) = true := by
        rw [closesNext_of_head hbrace]
        rfl
      have hcomma : dropBlank (inside.chars ++ ',' :: (blanks ++ ['}'])) = ',' :: (blanks ++ ['}']) := by
        rw [dropBlank_space]
        exact dropBlank_cons (by decide) _
      refine ⟨inside, ?_⟩
      rw [tidyText_noKey (.inl rfl) nofun (readBareKey_of_head hcomma (by decide) (by decide)),
        tidies_space, tidyText_comma hcloses, hbrace, tidyText_bracket (.inr rfl), tidyText_nil]

theorem inert_of_isBlank {c : Char} (h : isBlank c = true) : Inert c := by
  intro hmem
  have hall : ∀ d ∈ ['"', '\'', ',', '{', 'n', 'I', 'O', 'N', 'T'], isBlank d = false := by decide
  rw [hall c hmem] at h
  cases h

/-- A text of signs, and of characters that mean nothing between them, has neither quotes nor calls. -/
theorem untouched_of_signs {s : List Char}
    (h : ∀ c ∈ s, Inert c ∨ c ∈ [',', ':', '[', ']', '{', '}']) :
    substituteCalls (unifyQuotes s) = s := by
  have hquotes : ∀ c ∈ s, c ≠ '\'' ∧ c ≠ '"' := by
    intro c hc
    constructor <;> rintro rfl <;> exact absurd (h _ hc) (by decide)
  have hexpands : Expands Anything s s Anything := by
    clear hquotes
    induction s with
    | nil => exact expands_nil _
    | cons c cs ih =>
        obtain ⟨hc, hcs⟩ := List.forall_mem_cons.mp h
        have hfirst : Expands Anything [c] [c] Anything := by
          rcases hc with hinert | hsign
          · exact expands_inert (List.forall_mem_singleton.mpr hinert)
          · exact (expands_sign _ hsign).anything
        exact hfirst.append (ih hcs)
  have hunified : unifyFrom .outside (s ++ []) = s ++ [] := unifies_outside hquotes []
  obtain ⟨last, -, hsubstituted⟩ := hexpands none trivial []
  rw [substituteAfter_nil] at hsubstituted
  rw [List.append_nil] at hunified hsubstituted
  rw [unifyQuotes, hunified]
  exact hsubstituted

theorem EmptyBraces.untouched {s : List Char} (h : EmptyBraces s) :
    substituteCalls (unifyQuotes s) = s := by
  refine untouched_of_signs fun c hc => ?_
  cases h with
  | plain inside =>
      rw [List.mem_cons, List.mem_append, List.mem_singleton] at hc
      rcases hc with rfl | hspace | rfl
      · exact .inr (by decide)
      · exact .inl (inert_space inside c hspace)
      · exact .inr (by decide)
  | comma inside hblanks =>
      rw [List.mem_cons, List.mem_append, List.mem_cons, List.mem_append, List.mem_singleton] at hc
      rcases hc with rfl | hspace | rfl | hblank | rfl
      · exact .inr (by decide)
      · exact .inl (inert_space inside c hspace)
      · exact .inr (by decide)
      · exact .inl (inert_of_isBlank (hblanks c hblank))
      · exact .inr (by decide)

/-! ## Documents -/

theorem decodeMembers_eq_nil {members : List (String × Json)}
    (h : Extended.decodeMembers members = .ok []) : members = [] := by
  cases members with
  | nil => rfl
  | cons first rest =>
      rw [Extended.decodeMembers] at h
      obtain ⟨value, -, h⟩ := Json.bind_eq_ok h
      obtain ⟨fields, -, h⟩ := Json.bind_eq_ok h
      cases h

theorem readStrict_eq_empty {text : String} :
    readStrict text = .ok [] ↔ Json.read text = .ok (.object []) := by
  constructor
  · intro h
    rw [readStrict] at h
    split at h
    · cases h
    · rename_i members hread
      rw [hread]
      rw [← toOption_eq_some, toOption_mapError, toOption_eq_some] at h
      rw [decodeMembers_eq_nil h]
    · cases h
  · intro h
    rw [readStrict, h]
    rfl

theorem readStrict_braces (inside : Form.Space) :
    readStrict (String.ofList ('{' :: (inside.chars ++ ['}']))) = .ok [] :=
  toOption_eq_some.mp (readStrict_form (.emptyObject inside))

/-- A text without outer blanks is the empty document if it is empty braces, and only then. -/
theorem readStrict_normalizeTrimmed {s : List Char} (hstart : FirmStart s) (hend : FirmEnd s) :
    readStrict (String.ofList (normalizeTrimmed s)) = .ok [] ↔ EmptyBraces s := by
  rw [normalizeTrimmed_steps]
  constructor
  · intro h
    obtain ⟨lead, inside, trail, htext⟩ := Json.read_empty (readStrict_eq_empty.mp h)
    rw [String.toList_ofList] at htext
    have htidied : tidyText (substituteCalls (unifyQuotes s)) = '{' :: (inside.chars ++ ['}']) := by
      calc tidyText (substituteCalls (unifyQuotes s))
          = trimBlank (tidyText (substituteCalls (unifyQuotes s))) :=
            (trimBlank_steps hstart hend).symm
        _ = trimBlank (lead.chars ++ (Tree.emptyObject inside).text .typed ++ trail.chars) := by
          rw [htext]
          simp [Tree.text]
        _ = '{' :: (inside.chars ++ ['}']) := trimBlank_text lead trail (.emptyObject inside)
    exact emptyBraces_of_tidied htidied
  · intro h
    obtain ⟨inside, htidied⟩ := h.tidied
    rw [h.untouched, htidied]
    exact readStrict_braces inside

theorem parseDocument_of_firm {text : String} (hstart : FirmStart (trimBlank text.toList))
    (hend : FirmEnd (trimBlank text.toList)) :
    parseDocument text = .ok [] ↔ EmptyBraces (trimBlank text.toList) := by
  rw [parseDocument, trim]
  simp only
  split
  · rename_i hbare
    refine iff_of_true rfl ?_
    rcases Bool.or_eq_true_iff.mp hbare with hempty | hbraces
    · obtain ⟨c, cs, hcons, -⟩ := hstart
      rw [hcons] at hempty
      simp at hempty
    · rw [String.ofList_injective (beq_iff_eq.mp hbraces)]
      exact .plain .none
  · rw [← toOption_eq_some, toOption_mapError, toOption_eq_some, normalize, String.toList_ofList,
      normalizeChars, trimBlank_of_firm hstart hend, readStrict_normalizeTrimmed hstart hend]

/-- Nothing but blanks is the empty document, and so are empty braces with blanks around them, even with
a comma in them; no other text is. -/
theorem parseDocument_eq_empty (text : String) :
    parseDocument text = .ok [] ↔
      trimBlank text.toList = [] ∨ EmptyBraces (trimBlank text.toList) := by
  rcases trimBlank_firm text.toList with hnil | ⟨hstart, hend⟩
  · refine iff_of_true ?_ (.inl hnil)
    rw [parseDocument, trim, hnil]
    rfl
  · obtain ⟨c, cs, hcons, -⟩ := id hstart
    rw [parseDocument_of_firm hstart hend]
    exact (or_iff_right (hcons ▸ List.cons_ne_nil c cs)).symm

/-- A comma alone between braces is forgiven, though it is no white space. -/
theorem parseDocument_comma :
    parseDocument "\x7b,\x7d" = .ok [] ∧ trimBlank "\x7b,\x7d".toList ≠ [] ∧
      ¬∃ inside, (∀ c ∈ inside, isBlank c = true) ∧
        trimBlank "\x7b,\x7d".toList = '{' :: (inside ++ ['}']) := by
  have htrim : trimBlank "\x7b,\x7d".toList = ['{', ',', '}'] := by decide
  rw [parseDocument_of_firm ⟨'{', _, htrim, by decide⟩ ⟨['{', ','], '}', htrim, by decide⟩, htrim]
  refine ⟨.comma .none (List.forall_mem_nil _), List.cons_ne_nil _ _, ?_⟩
  rintro ⟨inside, hinside, heq⟩
  have hmem : ',' ∈ inside ++ ['}'] := (List.cons.inj heq).2 ▸ List.mem_cons_self
  rcases List.mem_append.mp hmem with hblank | hbrace
  · exact absurd (hinside _ hblank) (by decide)
  · exact absurd hbrace (by decide)

end BulkSweep.Shell

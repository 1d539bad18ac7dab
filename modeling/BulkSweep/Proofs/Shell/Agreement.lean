import BulkSweep.Proofs.Shell.Cuts
import BulkSweep.Proofs.Shell.Seams
import Mathlib.Data.List.TakeWhile

/-!
# Scans that find the same literals

Three scans look for the literals of a text: one cuts it into spans, one measures a literal where it
begins, and one writes all literals in double quotes.  They find the same literals, and so does the scan
for calls as far as it replaces none (`scans_agree`).  To say which literals it skips, its steps are
written down (`steps`, `flatMap_written_steps`).
-/

set_option autoImplicit false

namespace BulkSweep.Shell

/-! ## One kind of quote -/

/-- What stands between single quotes is written so that it stands between double quotes. -/
theorem Within.unifies_single {inside : List Char} (h : Within '\'' inside) :
    ∃ out, Within '"' out ∧ Unifies (.inSingle false) inside out (.inSingle false) := by
  induction h with
  | nil => exact ⟨[], .nil, unifies_nil _⟩
  | @plain c s hquote hslash _ ih =>
      obtain ⟨out, hout, hunifies⟩ := ih
      have hchar := unifies_char (.inSingle false) c
      simp only [Place.written, Place.next, hquote, hslash, if_false] at hchar
      by_cases hdouble : c = '"'
      · rw [if_pos hdouble] at hchar
        exact ⟨_, .escape '"' hout, hchar.append hunifies⟩
      · rw [if_neg hdouble] at hchar
        exact ⟨_, .plain hdouble hslash hout, hchar.append hunifies⟩
  | escape c _ ih =>
      obtain ⟨out, hout, hunifies⟩ := ih
      have hpair := (unifies_char (.inSingle false) '\\').append (unifies_char (.inSingle true) c)
      simp only [Place.written, Place.next] at hpair
      by_cases hsingle : c = '\''
      · subst hsingle
        exact ⟨_, .plain (by decide) (by decide) hout, hpair.append hunifies⟩
      · rw [if_neg hsingle] at hpair
        exact ⟨_, .escape c hout, hpair.append hunifies⟩

theorem Unifies.unifyQuotes {s t : List Char} (h : Unifies .outside s t .outside) :
    Shell.unifyQuotes s = t := by
  have hself := h []
  rwa [List.append_nil, unifyFrom_outside_nil, List.append_nil] at hself

section

variable {quote : Char} {inside : List Char}

/-- Behind a quote of either kind, text is written so that it can stand behind a double quote.  What can
end a literal there, its quote or the end of the text, ends it in the same way. -/
theorem Within.unifies (hquote : quote ∈ ['"', '\'']) (h : Within quote inside) :
    ∃ out place, Within '"' out ∧ (quote = '"' → out = inside) ∧
      Unifies .outside (quote :: inside) ('"' :: out) place ∧ Unifies place [quote] ['"'] .outside ∧
      ∀ hanging, Hangs hanging → unifyFrom place hanging = hanging := by
  simp only [List.mem_cons, List.not_mem_nil, or_false] at hquote
  rcases hquote with rfl | rfl
  · refine ⟨inside, .inDouble false, h, fun _ => rfl,
      (unifies_char .outside '"').append (unifies_inside h.inside),
      unifies_char (.inDouble false) '"', ?_⟩
    rintro hanging (rfl | rfl) <;> rfl
  · obtain ⟨out, hout, hunifies⟩ := h.unifies_single
    refine ⟨out, .inSingle false, hout, fun hsame => absurd hsame (by decide),
      (unifies_char .outside '\'').append hunifies, unifies_char (.inSingle false) '\'', ?_⟩
    rintro hanging (rfl | rfl) <;> rfl

/-- A literal is written as a literal in double quotes. -/
theorem Within.unifies_literal (hquote : quote ∈ ['"', '\'']) (h : Within quote inside) :
    ∃ out, Within '"' out ∧ (quote = '"' → out = inside) ∧
      Unifies .outside (quote :: inside ++ [quote]) ('"' :: out ++ ['"']) .outside := by
  obtain ⟨out, place, hout, hsame, hopen, hclose, -⟩ := h.unifies hquote
  exact ⟨out, hout, hsame, hopen.append hclose⟩

/-- So is a literal that is never closed. -/
theorem Within.unifyQuotes_unclosed (hquote : quote ∈ ['"', '\'']) (h : Within quote inside)
    {hanging : List Char} (hh : Hangs hanging) :
    ∃ out, Within '"' out ∧ (quote = '"' → out = inside) ∧
      unifyQuotes (quote :: inside ++ hanging) = '"' :: out ++ hanging := by
  obtain ⟨out, place, hout, hsame, hopen, -, hrest⟩ := h.unifies hquote
  refine ⟨out, hout, hsame, ?_⟩
  rw [unifyQuotes, hopen, hrest hanging hh]

end

/-- A run with its literal in double quotes, if it is one. -/
def Span.unified (run : Span) : Span :=
  ⟨unifyQuotes run.text, run.isString⟩

section

variable {runs : List Span}

/-- Runs between literals hold no quotes of either kind. -/
theorem unquoted_of_quiet {text : List Char} (h : ∀ c ∈ text, c ∉ ['"', '\'']) :
    ∀ c ∈ text, c ≠ '\'' ∧ c ≠ '"' := by
  intro c hc
  simpa [and_comm] using h c hc

/-- The cut at quotes of both kinds becomes the cut at double quotes, run by run. -/
theorem Cut.unified (h : Cut ['"', '\''] runs) :
    Cut ['"'] (runs.map Span.unified) ∧
      Span.join (runs.map Span.unified) = unifyQuotes (Span.join runs) := by
  induction h with
  | nil => exact ⟨.nil, rfl⟩
  | @between text runs ne_nil hquiet hnext _ ih =>
      have hunifies := unifies_outside (unquoted_of_quiet hquiet)
      have hdouble : ∀ c ∈ text, c ∉ ['"'] := by
        intro c hc
        simpa using (unquoted_of_quiet hquiet c hc).2
      have hnext' : ∀ run ∈ (runs.map Span.unified).head?, run.isString = true := by
        simpa [Span.unified] using hnext
      rw [List.map_cons, Span.unified, hunifies.unifyQuotes, Span.join_cons, ih.2, Span.join_cons]
      exact ⟨.between ne_nil hdouble hnext' ih.1, (hunifies _).symm⟩
  | @literal quote inside runs hquote hinside _ ih =>
      obtain ⟨out, hout, -, hunifies⟩ := hinside.unifies_literal hquote
      rw [List.map_cons, Span.unified, hunifies.unifyQuotes, Span.join_cons, ih.2, Span.join_cons]
      exact ⟨.literal List.mem_cons_self hout ih.1, (hunifies _).symm⟩
  | @unclosed quote inside hanging hquote hinside hh =>
      obtain ⟨out, hout, -, htext⟩ := hinside.unifyQuotes_unclosed hquote hh
      simp only [List.map_cons, List.map_nil, Span.unified, Span.join_cons, Span.join_nil,
        List.append_nil, htext]
      exact ⟨.unclosed List.mem_cons_self hout hh, trivial⟩

/-- Runs between literals and literals in double quotes stay as they are. -/
theorem Cut.kept (h : Cut ['"', '\''] runs) :
    ∀ run ∈ runs, run.text.head? ≠ some '\'' → unifyQuotes run.text = run.text := by
  have hdouble {quote : Char} (hquote : quote ∈ ['"', '\'']) (hne : some quote ≠ some '\'') :
      quote = '"' := by
    simp only [List.mem_cons, List.not_mem_nil, or_false] at hquote
    exact hquote.resolve_right fun hsingle => hne (congrArg some hsingle)
  induction h with
  | nil => exact List.forall_mem_nil _
  | between _ hquiet _ _ ih =>
      exact List.forall_mem_cons.mpr
        ⟨fun _ => (unifies_outside (unquoted_of_quiet hquiet)).unifyQuotes, ih⟩
  | literal hquote hinside _ ih =>
      refine List.forall_mem_cons.mpr ⟨fun hne => ?_, ih⟩
      obtain ⟨out, -, hsame, hunifies⟩ := hinside.unifies_literal hquote
      obtain rfl := hdouble hquote hne
      rw [hunifies.unifyQuotes, hsame rfl]
  | unclosed hquote hinside hh =>
      refine List.forall_mem_singleton.mpr fun hne => ?_
      obtain ⟨out, -, hsame, htext⟩ := hinside.unifyQuotes_unclosed hquote hh
      obtain rfl := hdouble hquote hne
      rw [htext, hsame rfl]

/-- A cut at double quotes without other quotes between its literals is a cut at quotes of both kinds, and
no run of it begins with another quote. -/
theorem Cut.widen (h : Cut ['"'] runs)
    (hquiet : ∀ run ∈ runs, run.isString = false → '\'' ∉ run.text) :
    Cut ['"', '\''] runs ∧ ∀ run ∈ runs, run.text.head? ≠ some '\'' := by
  have hboth {quote : Char} (hquote : quote ∈ ['"']) :
      quote ∈ ['"', '\''] ∧ some quote ≠ some '\'' := by
    obtain rfl := List.mem_singleton.mp hquote
    decide
  induction h with
  | nil => exact ⟨.nil, List.forall_mem_nil _⟩
  | @between text runs ne_nil hdouble hnext _ ih =>
      obtain ⟨hsingle, hmore⟩ := List.forall_mem_cons.mp hquiet
      obtain ⟨hcut, hheads⟩ := ih hmore
      have hnone : ∀ c ∈ text, c ∉ ['"', '\''] := by
        intro c hc hmem
        simp only [List.mem_cons, List.not_mem_nil, or_false] at hmem
        rcases hmem with rfl | rfl
        · exact hdouble _ hc List.mem_cons_self
        · exact hsingle rfl hc
      exact ⟨.between ne_nil hnone hnext hcut, List.forall_mem_cons.mpr
        ⟨fun hhead => hsingle rfl (List.mem_of_mem_head? hhead), hheads⟩⟩
  | literal hquote hinside _ ih =>
      obtain ⟨hcut, hheads⟩ := ih (List.forall_mem_cons.mp hquiet).2
      exact ⟨.literal (hboth hquote).1 hinside hcut,
        List.forall_mem_cons.mpr ⟨(hboth hquote).2, hheads⟩⟩
  | unclosed hquote hinside hh =>
      exact ⟨.unclosed (hboth hquote).1 hinside hh, List.forall_mem_singleton.mpr (hboth hquote).2⟩

/-- No quotes are left between literals. -/
theorem Cut.single_quiet (h : Cut ['"', '\''] runs) :
    ∀ run ∈ runs.map Span.unified, run.isString = false → '\'' ∉ run.text := by
  intro run hrun hbetween hmem
  obtain ⟨typed, htyped, rfl⟩ := List.mem_map.mp hrun
  have hquiet : '\'' ∉ typed.text := fun hquote => h.quiet typed htyped hbetween _ hquote (by decide)
  have hkept := h.kept typed htyped fun hhead => hquiet (List.mem_of_mem_head? hhead)
  exact hquiet (hkept ▸ hmem)

/-- A text whose literals have one kind of quote stays as it is. -/
theorem unifyQuotes_again (s : List Char) : unifyQuotes (unifyQuotes s) = unifyQuotes s := by
  obtain ⟨runs, hruns, rfl⟩ := exists_cut ['"', '\''] s
  obtain ⟨hcut, hjoin⟩ := hruns.unified
  obtain ⟨hwide, hheads⟩ := hcut.widen hruns.single_quiet
  have hfixed : (runs.map Span.unified).map Span.unified = runs.map Span.unified := by
    refine (List.map_congr_left fun run hrun => ?_).trans (List.map_id _)
    rw [Span.unified, hwide.kept run hrun (hheads run hrun), id]
  calc unifyQuotes (unifyQuotes (Span.join runs))
      = unifyQuotes (Span.join (runs.map Span.unified)) := by rw [hjoin]
    _ = Span.join ((runs.map Span.unified).map Span.unified) := hwide.unified.2.symm
    _ = unifyQuotes (Span.join runs) := by rw [hfixed, hjoin]

end

/-! ## Steps of the scan for calls -/

/-- What the scan for calls does with the front of the text that is left. -/
inductive Step where
  /-- copies a character -/
  | copy (c : Char)
  /-- skips a literal and leaves it as it is -/
  | skip (literal : List Char)
  /-- replaces the text of a call -/
  | replace (text : List Char) (call : Call)
  deriving DecidableEq, Repr

/-- The run that a step reads. -/
def Step.run : Step → Span
  | copy c => ⟨[c], false⟩
  | skip literal => ⟨literal, true⟩
  | replace text _ => ⟨text, false⟩

/-- The text that a step writes. -/
def Step.written : Step → List Char
  | copy c => [c]
  | skip literal => literal
  | replace _ call => call.extended

/-- Whether a step leaves the text as it is. -/
def Step.keeps : Step → Bool
  | replace _ _ => false
  | _ => true

/-- The steps of the scan for calls, given the character before the text. -/
def steps (previous : Option Char) : List Char → List Step
  | [] => []
  | c :: cs =>
    if c = '"' then
      let parts := splitLiteral false cs
      .skip ('"' :: parts.1) :: steps (some '"') parts.2
    else if previous.any isWordChar then .copy c :: steps (some c) cs
    else
      match _ : Call.read (c :: cs) with
      | some (call, rest) =>
        .replace ((c :: cs).take ((c :: cs).length - rest.length)) call :: steps (some '}') rest
      | none => .copy c :: steps (some c) cs
termination_by s => s.length
decreasing_by
  · exact Nat.lt_succ_of_le (splitLiteral_length_le false cs)
  · exact Nat.lt_succ_self _
  · exact Call.read_length ‹_›
  · exact Nat.lt_succ_self _

/-- The steps read the whole text. -/
theorem join_steps (previous : Option Char) (s : List Char) :
    Span.join ((steps previous s).map Step.run) = s := by
  fun_induction steps previous s with
  | case1 => rfl
  | case2 previous cs parts ih =>
      rw [List.map_cons, Span.join_cons, ih, Step.run, List.cons_append, splitLiteral_append]
  | case3 previous c cs hquote hword ih => rw [List.map_cons, Span.join_cons, ih, Step.run]; rfl
  | case4 previous c cs hquote hword call rest hread ih =>
      obtain ⟨text, -, heq⟩ := read_iff.mp hread
      rw [List.map_cons, Span.join_cons, ih, Step.run, heq]
      simp
  | case5 previous c cs hquote hword hread ih => rw [List.map_cons, Span.join_cons, ih, Step.run]; rfl

/-- The steps write the text with its calls replaced. -/
theorem flatMap_written_steps (previous : Option Char) (s : List Char) :
    (steps previous s).flatMap Step.written = substituteAfter previous s := by
  fun_induction steps previous s with
  | case1 => rw [substituteAfter_nil]; rfl
  | case2 previous cs parts ih =>
      rw [List.flatMap_cons, ih, substituteAfter_quote]
      rfl
  | case3 previous c cs hquote hword ih =>
      rw [List.flatMap_cons, ih, substituteAfter_word hword hquote]
      rfl
  | case4 previous c cs hquote hword call rest hread ih =>
      rw [List.flatMap_cons, ih, substituteAfter_call (Bool.eq_false_iff.mpr hword) hread]
      rfl
  | case5 previous c cs hquote hword hread ih =>
      rw [List.flatMap_cons, ih, substituteAfter_copy previous hquote hread]
      rfl

theorem literals_literal (front text : List Char) (more : List Span) :
    Span.literals front (⟨text, true⟩ :: more)
      = ⟨front, text⟩ :: Span.literals (front ++ text) more :=
  rfl

theorem spansOutside_quote (collected cs : List Char) :
    spansOutside collected ('"' :: cs) = Span.close collected false ++ spans ('"' :: cs) :=
  rfl

theorem spansOutside_char {c : Char} (h : c ≠ '"') (collected cs : List Char) :
    spansOutside collected (c :: cs) = spansOutside (c :: collected) cs := by
  rw [spansOutside, if_neg h]

/-- The spans before the first quote hold no literal. -/
theorem literals_close (front collected : List Char) (spans : List Span) :
    Span.literals front (Span.close collected false ++ spans)
      = Span.literals (front ++ collected.reverse) spans := by
  cases collected with
  | nil => simp [Span.close]
  | cons c cs => simp [Span.close, Span.literals]

/-- Up to the first call that is replaced, the scan for calls skips the literals that the text is cut into;
without such a call it skips all of them. -/
theorem literals_steps (previous : Option Char) (s front collected : List Char) :
    ∃ more, Span.literals front (spansOutside collected s)
        = Span.literals (front ++ collected.reverse)
            (((steps previous s).takeWhile Step.keeps).map Step.run) ++ more ∧
      ((∀ step ∈ steps previous s, step.keeps = true) → more = []) := by
  fun_induction steps previous s generalizing front collected with
  | case1 =>
      have hnone := literals_close front collected []
      rw [List.append_nil] at hnone
      exact ⟨[], hnone, fun _ => rfl⟩
  | case2 previous cs parts ih =>
      obtain ⟨more, heq, hall⟩ := ih (front ++ collected.reverse ++ '"' :: parts.1) []
      refine ⟨more, ?_, fun hkeeps => hall (List.forall_mem_cons.mp hkeeps).2⟩
      rw [List.reverse_nil, List.append_nil] at heq
      rw [spansOutside_quote, literals_close, spans_quote, literals_literal,
        List.takeWhile_cons_of_pos rfl, List.map_cons, Step.run, literals_literal, List.cons_append, ← heq]
      rfl
  | case3 previous c cs hquote hword ih | case5 previous c cs hquote hword hread ih =>
      obtain ⟨more, heq, hall⟩ := ih front (c :: collected)
      refine ⟨more, ?_, fun hkeeps => hall (List.forall_mem_cons.mp hkeeps).2⟩
      rw [spansOutside_char hquote, heq, List.reverse_cons, ← List.append_assoc,
        List.takeWhile_cons_of_pos rfl]
      rfl
  | case4 previous c cs hquote hword call rest hread ih =>
      refine ⟨_, rfl, fun hkeeps => ?_⟩
      cases (List.forall_mem_cons.mp hkeeps).1

/-! ## Agreement -/

/-- How the scans of a text fit together. -/
structure Agreement (s : List Char) : Prop where
  /-- the spans make up the text -/
  join_spans : Span.join (spans s) = s
  /-- no span is empty -/
  ne_nil : ∀ span ∈ spans s, span.text ≠ []
  /-- no double quotes stand between literals -/
  quiet : ∀ span ∈ spans s, span.isString = false → '"' ∉ span.text
  /-- two spans between literals are no neighbours -/
  apart : (spans s).IsChain fun span next => span.isString = true ∨ next.isString = true
  /-- a literal among the spans is what is read where it begins -/
  reads : ∀ found ∈ Span.literals [] (spans s), ∃ behind,
    s = found.front ++ '"' :: behind ∧ found.literal = '"' :: (splitLiteral false behind).1
  /-- the scan for calls goes through the whole text -/
  join_steps : Span.join ((steps none s).map Step.run) = s
  /-- the scan for calls writes the text with its calls replaced -/
  written_steps : (steps none s).flatMap Step.written = substituteCalls s
  /-- up to the first call that is replaced, it skips the first literals among the spans -/
  skips : Span.literals [] (((steps none s).takeWhile Step.keeps).map Step.run)
    <+: Span.literals [] (spans s)
  /-- if no call is replaced, it skips all of them -/
  skips_all : (∀ step ∈ steps none s, step.keeps = true) →
    Span.literals [] ((steps none s).map Step.run) = Span.literals [] (spans s)
  /-- a text whose literals have one kind of quote stays as it is -/
  unified_again : unifyQuotes (unifyQuotes s) = unifyQuotes s
  /-- no single quotes are left between literals -/
  single_quiet : ∀ span ∈ spans (unifyQuotes s), span.isString = false → '\'' ∉ span.text
  /-- the literals of both kinds become the literals among the spans, one by one, and what stands between
  them stays as it is -/
  unified : ∃ runs, (Cut ['"', '\''] runs ∧ Span.join runs = s) ∧
    (∀ others, Cut ['"', '\''] others → Span.join others = s → others = runs) ∧
    spans (unifyQuotes s) = runs.map Span.unified ∧
    ∀ run ∈ runs, run.text.head? ≠ some '\'' → unifyQuotes run.text = run.text

/-- All scans find the same literals in every text, literals that are never closed and backslashes at its
end included. -/
theorem scans_agree (s : List Char) : Agreement s := by
  obtain ⟨hcut, hjoin⟩ := cut_spans s
  obtain ⟨runs, hruns, rfl⟩ := exists_cut ['"', '\''] s
  obtain ⟨hunified, hjoined⟩ := hruns.unified
  have hspans : spans (unifyQuotes (Span.join runs)) = runs.map Span.unified := by
    rw [← hjoined, spans_of_cut hunified]
  obtain ⟨more, hskips, hall⟩ := literals_steps none (Span.join runs) [] []
  exact {
    join_spans := hjoin
    ne_nil := hcut.ne_nil
    quiet := fun span hspan hbetween hmem => hcut.quiet span hspan hbetween _ hmem List.mem_cons_self
    apart := hcut.apart
    reads := by simpa [hjoin] using hcut.reads []
    join_steps := join_steps none _
    written_steps := flatMap_written_steps none _
    skips := ⟨more, hskips.symm⟩
    skips_all := fun hkeeps => by
      rw [hall hkeeps, List.takeWhile_eq_self_iff.mpr hkeeps, List.append_nil] at hskips
      exact hskips.symm
    unified_again := unifyQuotes_again _
    single_quiet := hspans ▸ hruns.single_quiet
    unified := ⟨runs, ⟨hruns, rfl⟩, fun others hothers hsame => hothers.unique (by decide) hruns hsame,
      hspans, hruns.kept⟩ }

/-- An escaped quote, quotes of the other kind, and a literal that ends with the text in a backslash. -/
example : spans (unifyQuotes "\"a\\\"\":'b\"\\'','c\\".toList) =
    [⟨"\"a\\\"\"".toList, true⟩, ⟨[':'], false⟩, ⟨"\"b\\\"'\"".toList, true⟩, ⟨[','], false⟩,
      ⟨"\"c\\".toList, true⟩] := by
  decide

end BulkSweep.Shell

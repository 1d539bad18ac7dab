import BulkSweep.Proofs.Shell.Unifying
import Mathlib.Data.List.Chain

/-!
# Cuts of a text

Quotes of given kinds cut every text into literals and the runs between them, in one way
(`exists_cut`, `Cut.unique`).  `spans` finds the cut at double quotes (`spans_of_cut`), and each literal of
it is what `splitLiteral` reads where the literal begins (`Cut.reads`).  When all literals get one kind of
quote, the cut at quotes of both kinds becomes the cut at double quotes, run by run (`Cut.unified`).
-/

set_option autoImplicit false

namespace BulkSweep.Shell

/-! ## Insides -/

/-- What can stand between two quotes of a kind.  A backslash takes the next character along, whatever it
is. -/
inductive Within (quote : Char) : List Char → Prop
  | nil : Within quote []
  | plain {c : Char} {s : List Char} (hquote : c ≠ quote) (hslash : c ≠ '\\') (h : Within quote s) :
      Within quote (c :: s)
  | escape (c : Char) {s : List Char} (h : Within quote s) : Within quote ('\\' :: c :: s)

/-- What hangs at the end of a literal that is never closed: a backslash without its character, or
nothing. -/
def Hangs (s : List Char) : Prop :=
  s = [] ∨ s = ['\\']

theorem Within.inside {s : List Char} (h : Within '"' s) : Inside s := by
  induction h with
  | nil => exact .nil
  | plain hquote hslash _ ih => exact .plain (isPlain_iff.mpr ⟨hquote, hslash⟩) ih
  | escape c _ ih => exact .escape c ih

/-- Behind a quote a literal is closed by the next one of its kind, or goes on to the end of the text. -/
theorem exists_within (quote : Char) (s : List Char) :
    (∃ inside rest, Within quote inside ∧ s = inside ++ quote :: rest) ∨
      ∃ inside hanging, Within quote inside ∧ Hangs hanging ∧ s = inside ++ hanging := by
  match s with
  | [] => exact .inr ⟨[], [], .nil, .inl rfl, rfl⟩
  | c :: cs =>
      by_cases hquote : c = quote
      · exact .inl ⟨[], cs, .nil, congrArg (· :: cs) hquote⟩
      by_cases hslash : c = '\\'
      · subst hslash
        match cs with
        | [] => exact .inr ⟨[], ['\\'], .nil, .inr rfl, rfl⟩
        | d :: ds =>
            rcases exists_within quote ds with ⟨_, rest, h, rfl⟩ | ⟨_, hanging, h, hh, rfl⟩
            · exact .inl ⟨_, rest, .escape d h, rfl⟩
            · exact .inr ⟨_, hanging, .escape d h, hh, rfl⟩
      · rcases exists_within quote cs with ⟨_, rest, h, rfl⟩ | ⟨_, hanging, h, hh, rfl⟩
        · exact .inl ⟨_, rest, .plain hquote hslash h, rfl⟩
        · exact .inr ⟨_, hanging, .plain hquote hslash h, hh, rfl⟩

/-! ## Cuts -/

/-- The runs of a text that is cut at quotes of the given kinds: literals with their quotes, and non-empty
runs without quotes between them.  Only the last literal can lack its closing quote. -/
inductive Cut (quotes : List Char) : List Span → Prop
  | nil : Cut quotes []
  | between {text : List Char} {runs : List Span} (ne_nil : text ≠ [])
      (hquiet : ∀ c ∈ text, c ∉ quotes)
      (hnext : ∀ run ∈ runs.head?, run.isString = true) (h : Cut quotes runs) :
      Cut quotes (⟨text, false⟩ :: runs)
  | literal {quote : Char} {inside : List Char} {runs : List Span} (hquote : quote ∈ quotes)
      (hinside : Within quote inside) (h : Cut quotes runs) :
      Cut quotes (⟨quote :: inside ++ [quote], true⟩ :: runs)
  | unclosed {quote : Char} {inside hanging : List Char} (hquote : quote ∈ quotes)
      (hinside : Within quote inside) (hhanging : Hangs hanging) :
      Cut quotes [⟨quote :: inside ++ hanging, true⟩]

/-- The text that runs make up. -/
def Span.join (runs : List Span) : List Char :=
  runs.flatMap Span.text

@[simp] theorem Span.join_nil : Span.join [] = [] :=
  rfl

@[simp] theorem Span.join_cons (run : Span) (runs : List Span) :
    Span.join (run :: runs) = run.text ++ Span.join runs :=
  List.flatMap_cons

/-- Every text can be cut. -/
theorem exists_cut (quotes s : List Char) : ∃ runs, Cut quotes runs ∧ Span.join runs = s := by
  match s with
  | [] => exact ⟨[], .nil, rfl⟩
  | c :: cs =>
      by_cases hquote : c ∈ quotes
      · rcases exists_within c cs with ⟨_, rest, hinside, heq⟩ | ⟨_, _, hinside, hh, rfl⟩
        · obtain ⟨runs, hruns, rfl⟩ := exists_cut quotes rest
          exact ⟨_, .literal hquote hinside hruns, by simp [heq]⟩
        · exact ⟨_, .unclosed hquote hinside hh, by simp⟩
      · obtain ⟨runs, hruns, rfl⟩ := exists_cut quotes cs
        have hsingle : ∀ d ∈ [c], d ∉ quotes := fun d hd => List.mem_singleton.mp hd ▸ hquote
        have hcut := hruns
        -- The character goes to the run behind it, if there is one between literals.
        cases hruns with
        | @between text more ne_nil hquiet hnext hmore =>
            have hquiet' : ∀ d ∈ c :: text, d ∉ quotes :=
              List.forall_mem_cons.mpr ⟨hquote, hquiet⟩
            exact ⟨_, .between (List.cons_ne_nil c text) hquiet' hnext hmore, rfl⟩
        | _ => exact ⟨_, .between (List.cons_ne_nil c []) hsingle (by simp) hcut, rfl⟩
termination_by s.length
decreasing_by
  · simp [heq]
    omega
  · exact Nat.lt_succ_self _

/-! ## What a cut is like -/

section

variable {quotes : List Char} {runs : List Span}

theorem Cut.ne_nil (h : Cut quotes runs) : ∀ run ∈ runs, run.text ≠ [] := by
  induction h with
  | nil => exact List.forall_mem_nil _
  | between ne_nil _ _ _ ih => exact List.forall_mem_cons.mpr ⟨ne_nil, ih⟩
  | literal _ _ _ ih => exact List.forall_mem_cons.mpr ⟨List.cons_ne_nil _ _, ih⟩
  | unclosed => exact List.forall_mem_singleton.mpr (List.cons_ne_nil _ _)

/-- No quotes stand between literals. -/
theorem Cut.quiet (h : Cut quotes runs) :
    ∀ run ∈ runs, run.isString = false → ∀ c ∈ run.text, c ∉ quotes := by
  induction h with
  | nil => exact List.forall_mem_nil _
  | between _ hquiet _ _ ih => exact List.forall_mem_cons.mpr ⟨fun _ => hquiet, ih⟩
  | literal _ _ _ ih => exact List.forall_mem_cons.mpr ⟨nofun, ih⟩
  | unclosed => exact List.forall_mem_singleton.mpr nofun

/-- Of two neighbours one is a literal. -/
theorem Cut.apart (h : Cut quotes runs) :
    runs.IsChain fun run next => run.isString = true ∨ next.isString = true := by
  induction h with
  | nil => exact .nil
  | between _ _ hnext _ ih => exact ih.cons fun next hmem => .inr (hnext next hmem)
  | literal _ _ _ ih => exact ih.cons fun _ _ => .inl rfl
  | unclosed => exact .singleton _

/-- A text that is cut into a literal first begins with a quote. -/
theorem Cut.head_join (h : Cut quotes runs) (hnext : ∀ run ∈ runs.head?, run.isString = true) :
    ∀ c ∈ (Span.join runs).head?, c ∈ quotes := by
  cases h with
  | nil => exact nofun
  | between => cases hnext _ rfl
  | literal hquote =>
      rintro c ⟨⟩
      exact hquote
  | unclosed hquote =>
      rintro c ⟨⟩
      exact hquote

end

/-! ## Cuts at double quotes -/

theorem splitLiteral_hanging {inside hanging : List Char} (h : Inside inside) (hh : Hangs hanging) :
    splitLiteral false (inside ++ hanging) = (inside ++ hanging, []) := by
  induction h with
  | nil => rcases hh with rfl | rfl <;> rfl
  | plain hc _ ih => rw [List.cons_append, splitLiteral_plain hc, ih]
  | escape c _ ih => rw [List.cons_append, List.cons_append, splitLiteral_escape, ih]

/-- A literal goes as far as it is read where it begins, and behind it the text is cut anew. -/
theorem spansInside_eq {collected : List Char} (hne : collected ≠ []) (escaped : Bool)
    (s : List Char) : spansInside collected escaped s
      = ⟨collected.reverse ++ (splitLiteral escaped s).1, true⟩ :: spans (splitLiteral escaped s).2 := by
  induction s generalizing collected escaped with
  | nil => simp [spansInside, Span.close, splitLiteral, spans, spansOutside, hne]
  | cons c cs ih =>
      have hmore (escaped : Bool) := ih (List.cons_ne_nil c collected) escaped
      cases escaped with
      | true => simp [spansInside, splitLiteral, hmore]
      | false =>
          by_cases hquote : c = '"'
          · simp [spansInside, splitLiteral, hquote, Span.close, spans]
          · by_cases hslash : c = '\\'
            · subst hslash
              simp [spansInside, splitLiteral, hmore]
            · simp [spansInside, splitLiteral, hquote, hslash, hmore]

theorem spans_quote (s : List Char) :
    spans ('"' :: s) = ⟨'"' :: (splitLiteral false s).1, true⟩ :: spans (splitLiteral false s).2 := by
  have hinside : spans ('"' :: s) = spansInside ['"'] false s := rfl
  rw [hinside, spansInside_eq (List.cons_ne_nil _ _)]
  rfl

theorem spansOutside_append {text tail : List Char} (hquiet : '"' ∉ text) (hedge : Edge tail)
    (collected : List Char) :
    spansOutside collected (text ++ tail)
      = Span.close (text.reverse ++ collected) false ++ spans tail := by
  induction text generalizing collected with
  | nil =>
      cases tail with
      | nil => simp [spansOutside, spans, Span.close]
      | cons c cs => rw [hedge c rfl]; simp [spansOutside, spans, Span.close]
  | cons c cs ih =>
      obtain ⟨hc, hcs⟩ := List.ne_and_not_mem_of_not_mem_cons hquiet
      simp [spansOutside, Ne.symm hc, ih hcs]

/-- The spans of a text are its cut at double quotes. -/
theorem spans_of_cut {runs : List Span} (h : Cut ['"'] runs) : spans (Span.join runs) = runs := by
  induction h with
  | nil => rfl
  | @between text runs ne_nil hquiet hnext h ih =>
      have hquote : '"' ∉ text := fun hmem => hquiet _ hmem List.mem_cons_self
      have hedge : Edge (Span.join runs) := fun c hc => List.mem_singleton.mp (h.head_join hnext c hc)
      rw [Span.join_cons, spans, spansOutside_append hquote hedge, ih]
      simp [Span.close, ne_nil]
  | @literal quote inside runs hquote hinside h ih =>
      obtain rfl := List.mem_singleton.mp hquote
      rw [Span.join_cons, List.cons_append, List.cons_append, List.append_assoc, spans_quote,
        List.singleton_append, splitLiteral_inside hinside.inside, ih]
  | @unclosed quote inside hanging hquote hinside hhanging =>
      obtain rfl := List.mem_singleton.mp hquote
      rw [Span.join_cons, Span.join_nil, List.append_nil, List.cons_append, spans_quote,
        splitLiteral_hanging hinside.inside hhanging]
      rfl

/-- The spans are a cut, and make up the text. -/
theorem cut_spans (s : List Char) : Cut ['"'] (spans s) ∧ Span.join (spans s) = s := by
  obtain ⟨runs, hruns, rfl⟩ := exists_cut ['"'] s
  rw [spans_of_cut hruns]
  exact ⟨hruns, rfl⟩

/-! ## Where literals begin -/

/-- A literal of a text, and where it stands. -/
structure Placed where
  /-- the text in front of the literal -/
  front : List Char
  /-- the literal with its quotes -/
  literal : List Char
  deriving DecidableEq, Repr

/-- The literals among runs, given the text in front of the first run. -/
def Span.literals (front : List Char) : List Span → List Placed
  | [] => []
  | run :: more =>
    (if run.isString then [⟨front, run.text⟩] else []) ++ Span.literals (front ++ run.text) more

/-- A literal is what is read where it begins. -/
theorem Cut.reads {runs : List Span} (h : Cut ['"'] runs) (start : List Char) :
    ∀ found ∈ Span.literals start runs, ∃ behind,
      start ++ Span.join runs = found.front ++ '"' :: behind ∧
        found.literal = '"' :: (splitLiteral false behind).1 := by
  induction h generalizing start with
  | nil => exact List.forall_mem_nil _
  | @between text runs _ _ _ _ ih =>
      have hmore := ih (start ++ text)
      rw [List.append_assoc] at hmore
      simpa [Span.literals] using hmore
  | @literal quote inside runs hquote hinside _ ih =>
      obtain rfl := List.mem_singleton.mp hquote
      have hread := splitLiteral_inside hinside.inside (Span.join runs)
      have hmore := ih (start ++ '"' :: inside ++ ['"'])
      refine List.forall_mem_cons.mpr ⟨⟨inside ++ '"' :: Span.join runs, ?_, ?_⟩, ?_⟩
      · simp
      · rw [hread, List.cons_append]
      · simpa using hmore
  | @unclosed quote inside hanging hquote hinside hhanging =>
      obtain rfl := List.mem_singleton.mp hquote
      refine List.forall_mem_singleton.mpr ⟨inside ++ hanging, ?_, ?_⟩
      · simp
      · rw [splitLiteral_hanging hinside.inside hhanging, List.cons_append]

/-! ## Only one cut -/

/-- A literal ends at the first quote that closes it, as a quote of its kind stands inside behind a backslash
alone. -/
theorem Within.eq_of_append {quote : Char} (hslash : quote ≠ '\\') {s t s' t' : List Char}
    (hs : Within quote s) (ht : Within quote t) (heq : s ++ quote :: s' = t ++ quote :: t') :
    s = t ∧ s' = t' := by
  induction hs generalizing t with
  | nil => cases ht <;> grind
  | plain hquote hslash _ ih => cases ht <;> grind
  | escape c _ ih => cases ht <;> grind

/-- A literal that is closed does not go on to the end of the text. -/
theorem Within.not_hanging {quote : Char} (hslash : quote ≠ '\\') {s t hanging rest : List Char}
    (hs : Within quote s) (ht : Within quote t) (hh : Hangs hanging) :
    s ++ quote :: rest ≠ t ++ hanging := by
  induction hs generalizing t with
  | nil => cases ht <;> rcases hh with rfl | rfl <;> grind
  | plain hquote hslash _ ih => cases ht <;> rcases hh with rfl | rfl <;> grind
  | escape c _ ih => cases ht <;> rcases hh with rfl | rfl <;> grind

section

variable {quotes s t s' t' : List Char}

/-- A run between literals ends at the first quote. -/
theorem eq_of_append_quiet (hs : ∀ c ∈ s, c ∉ quotes) (ht : ∀ c ∈ t, c ∉ quotes)
    (hs' : ∀ c ∈ s'.head?, c ∈ quotes) (ht' : ∀ c ∈ t'.head?, c ∈ quotes)
    (heq : s ++ s' = t ++ t') : s = t ∧ s' = t' := by
  induction s generalizing t with
  | nil =>
      cases t with
      | nil => exact ⟨rfl, heq⟩
      | cons d ds => exact absurd (hs' d (congrArg List.head? heq)) (ht d List.mem_cons_self)
  | cons c cs ih =>
      cases t with
      | nil => exact absurd (ht' c (congrArg List.head? heq.symm)) (hs c List.mem_cons_self)
      | cons d ds =>
          obtain ⟨rfl, hrest⟩ := List.cons.inj heq
          obtain ⟨rfl, rfl⟩ := ih (List.forall_mem_cons.mp hs).2 (List.forall_mem_cons.mp ht).2 hrest
          exact ⟨rfl, rfl⟩

/-- No literal begins where a run between literals does. -/
theorem append_quiet_ne (ne_nil : s ≠ []) (hs : ∀ c ∈ s, c ∉ quotes) {quote : Char}
    (hquote : quote ∈ quotes) : s ++ s' ≠ quote :: t := by
  cases s with
  | nil => exact absurd rfl ne_nil
  | cons c cs =>
      rintro ⟨⟩
      exact hs quote List.mem_cons_self hquote

end

/-- A text can be cut in one way only. -/
theorem Cut.unique {quotes : List Char} (hslash : '\\' ∉ quotes) {runs others : List Span}
    (h : Cut quotes runs) (h' : Cut quotes others) (heq : Span.join runs = Span.join others) :
    runs = others := by
  have hne {quote : Char} (hquote : quote ∈ quotes) : quote ≠ '\\' :=
    fun hsame => hslash (hsame ▸ hquote)
  induction h generalizing others with
  | nil =>
      cases h' with
      | nil => rfl
      | between ne_nil => simp [ne_nil] at heq
      | _ => simp at heq
  | between ne_nil hquiet hnext h ih =>
      cases h' with
      | nil => simp [ne_nil] at heq
      | between ne_nil' hquiet' hnext' h' =>
          obtain ⟨rfl, hrest⟩ := eq_of_append_quiet hquiet hquiet' (h.head_join hnext)
            (h'.head_join hnext') heq
          rw [ih h' hrest]
      | literal hquote | unclosed hquote =>
          exact absurd heq (append_quiet_ne ne_nil hquiet hquote)
  | literal hquote hinside h ih =>
      cases h' with
      | nil => simp at heq
      | between ne_nil hquiet => exact absurd heq.symm (append_quiet_ne ne_nil hquiet hquote)
      | literal hquote' hinside' h' =>
          simp only [Span.join_cons, List.append_assoc, List.cons_append, List.nil_append,
            List.cons.injEq] at heq
          obtain ⟨rfl, heq⟩ := heq
          obtain ⟨rfl, hrest⟩ := hinside.eq_of_append (hne hquote) hinside' heq
          rw [ih h' hrest]
      | unclosed hquote' hinside' hh =>
          simp only [Span.join_cons, Span.join_nil, List.append_assoc, List.cons_append,
            List.nil_append, List.append_nil, List.cons.injEq] at heq
          obtain ⟨rfl, heq⟩ := heq
          exact absurd heq (hinside.not_hanging (hne hquote) hinside' hh)
  | unclosed hquote hinside hh =>
      cases h' with
      | nil => simp at heq
      | between ne_nil hquiet => exact absurd heq.symm (append_quiet_ne ne_nil hquiet hquote)
      | literal hquote' hinside' h' =>
          simp only [Span.join_cons, Span.join_nil, List.append_assoc, List.cons_append,
            List.nil_append, List.append_nil, List.cons.injEq] at heq
          obtain ⟨rfl, heq⟩ := heq
          exact absurd heq.symm (hinside'.not_hanging (hne hquote) hinside hh)
      | unclosed =>
          rw [Span.join_cons, Span.join_cons, Span.join_nil, List.append_nil, List.append_nil] at heq
          exact congrArg (fun text => [Span.mk text true]) heq

end BulkSweep.Shell

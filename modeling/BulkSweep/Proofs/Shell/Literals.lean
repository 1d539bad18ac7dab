import BulkSweep.Proofs.Shell.Tidying
import BulkSweep.Proofs.Shell.Tree

/-!
# Whole literals

A literal goes from its quote to the next one that has no backslash in front, whatever stands between
them.  A text is closed if all of its literals end in it.  Behind a closed text a scan stands between
literals again, so that what comes behind does not change how the literals before it are cut
(`splitLiteral_inside`, `tidyText_append`).
-/

set_option autoImplicit false

namespace BulkSweep.Shell

open BulkSweep.Text
open BulkSweep.Json (Form)

/-! ## Insides -/

/-- What can stand between the quotes of a literal.  A backslash takes the next character along, whatever
it is, and a quote stands behind one alone. -/
inductive Inside : List Char → Prop
  | nil : Inside []
  | plain {c : Char} {s : List Char} (hc : isPlain c = true) (h : Inside s) : Inside (c :: s)
  | escape (c : Char) {s : List Char} (h : Inside s) : Inside ('\\' :: c :: s)

/-- A whole literal in double quotes. -/
def IsLiteral (s : List Char) : Prop :=
  ∃ inside, Inside inside ∧ s = '"' :: inside ++ ['"']

theorem isPlain_iff {c : Char} : isPlain c = true ↔ c ≠ '"' ∧ c ≠ '\\' := by
  simp [isPlain]

theorem inside_of_plain {s : List Char} (h : ∀ c ∈ s, isPlain c = true) : Inside s := by
  induction s with
  | nil => exact .nil
  | cons c cs ih =>
      exact .plain (h c List.mem_cons_self) (ih fun d hd => h d (List.mem_cons_of_mem c hd))

theorem Inside.append {s t : List Char} (hs : Inside s) (ht : Inside t) : Inside (s ++ t) := by
  induction hs with
  | nil => exact ht
  | plain hc _ ih => exact .plain hc ih
  | escape c _ ih => exact .escape c ih

theorem splitLiteral_plain {c : Char} (h : isPlain c = true) (cs : List Char) :
    splitLiteral false (c :: cs)
      = (c :: (splitLiteral false cs).1, (splitLiteral false cs).2) := by
  obtain ⟨hquote, hslash⟩ := isPlain_iff.mp h
  rw [splitLiteral, if_neg hquote, decide_eq_false hslash]
  rfl

theorem splitLiteral_escape (c : Char) (cs : List Char) :
    splitLiteral false ('\\' :: c :: cs)
      = ('\\' :: c :: (splitLiteral false cs).1, (splitLiteral false cs).2) :=
  rfl

/-- The end of a literal is found, whatever stands in it and behind it. -/
theorem splitLiteral_inside {inside : List Char} (h : Inside inside) (rest : List Char) :
    splitLiteral false (inside ++ '"' :: rest) = (inside ++ ['"'], rest) := by
  induction h with
  | nil => rfl
  | plain hc _ ih => rw [List.cons_append, splitLiteral_plain hc, ih, List.cons_append]
  | escape c _ ih =>
      rw [List.cons_append, List.cons_append, splitLiteral_escape, ih, List.cons_append, List.cons_append]

theorem IsLiteral.split {s : List Char} (h : IsLiteral s) :
    ∃ cs, s = '"' :: cs ∧ ∀ rest, splitLiteral false (cs ++ rest) = (cs, rest) := by
  obtain ⟨inside, hinside, rfl⟩ := h
  refine ⟨inside ++ ['"'], rfl, fun rest => ?_⟩
  rw [List.append_assoc]
  exact splitLiteral_inside hinside rest

/-! ## Closed texts -/

/-- A text whose literals all end in it. -/
inductive Closed : List Char → Prop
  | nil : Closed []
  | plain {c : Char} {s : List Char} (hc : c ≠ '"') (h : Closed s) : Closed (c :: s)
  | literal {inside s : List Char} (hinside : Inside inside) (h : Closed s) :
      Closed ('"' :: (inside ++ '"' :: s))

theorem closed_of_noQuote {s : List Char} (h : '"' ∉ s) : Closed s := by
  induction s with
  | nil => exact .nil
  | cons c cs ih =>
      obtain ⟨hc, hcs⟩ := List.ne_and_not_mem_of_not_mem_cons h
      exact .plain (Ne.symm hc) (ih hcs)

theorem IsLiteral.closed {s : List Char} (h : IsLiteral s) : Closed s := by
  obtain ⟨inside, hinside, rfl⟩ := h
  exact .literal hinside .nil

theorem Closed.append {s t : List Char} (hs : Closed s) (ht : Closed t) : Closed (s ++ t) := by
  induction hs with
  | nil => exact ht
  | plain hc _ ih => exact .plain hc ih
  | literal hinside _ ih =>
      rw [List.cons_append, List.append_assoc, List.cons_append]
      exact .literal hinside ih

theorem Closed.of_cons {c : Char} {s : List Char} (h : Closed (c :: s)) (hc : c ≠ '"') : Closed s := by
  cases h with
  | plain _ hs => exact hs
  | literal => exact absurd rfl hc

/-- A text that begins with a quote begins with a literal. -/
theorem Closed.of_quote {s : List Char} (h : Closed ('"' :: s)) :
    ∃ inside rest, Inside inside ∧ Closed rest ∧ s = inside ++ '"' :: rest := by
  cases h with
  | plain hc => exact absurd rfl hc
  | literal hinside hrest => exact ⟨_, _, hinside, hrest, rfl⟩

/-- What stands behind a closed text in another one is closed too. -/
theorem Closed.of_append {s t : List Char} (hs : Closed s) (h : Closed (s ++ t)) : Closed t := by
  induction hs with
  | nil => exact h
  | plain hc _ ih => exact ih (h.of_cons hc)
  | @literal inside s hinside _ ih =>
      rw [List.cons_append, List.append_assoc, List.cons_append] at h
      obtain ⟨inside', rest, hinside', hrest, heq⟩ := h.of_quote
      have hsplit := splitLiteral_inside hinside (s ++ t)
      rw [heq, splitLiteral_inside hinside'] at hsplit
      have htail : rest = s ++ t := congrArg Prod.snd hsplit
      exact ih (htail ▸ hrest)

/-! ## Strings -/

theorem inside_piece (piece : Form.Piece) : Inside piece.text := by
  cases piece with
  | plain c h => exact .plain (isPlain_iff.mpr ⟨h.1, h.2.1⟩) .nil
  | escape e => exact .escape e.letter .nil
  | unicode a b c d =>
      refine .escape 'u' (inside_of_plain fun e he => isPlain_iff.mpr ?_)
      exact (hexDigits_ne a b c d e he).2

/-- The strings of JSON are literals. -/
theorem isLiteral_text (s : Form.Literal) : IsLiteral s.text := by
  refine ⟨s.body, ?_, rfl⟩
  induction s with
  | nil => exact .nil
  | cons piece more ih => exact (inside_piece piece).append ih

/-! ## Tidying -/

theorem IsLiteral.tidyText {s : List Char} (h : IsLiteral s) (rest : List Char) :
    Shell.tidyText (s ++ rest) = s ++ Shell.tidyText rest := by
  obtain ⟨cs, rfl, hsplit⟩ := h.split
  rw [List.cons_append, tidyText_quote, hsplit, List.cons_append]

/-- The parts of a text before and behind a quote are tidied each by itself. -/
theorem tidyText_append {s tail : List Char} (hs : Closed s) (h : Edge tail) :
    tidyText (s ++ tail) = tidyText s ++ tidyText tail := by
  -- The induction moves characters to a run in front, which ends where a literal begins.
  suffices hrun : ∀ run, '"' ∉ run → tidyText (run ++ s ++ tail) = tidyText (run ++ s) ++ tidyText tail by
    exact hrun [] List.not_mem_nil
  have hnone : Edge [] := nofun
  induction hs with
  | nil =>
      intro run hrun
      have hself := tidyText_append_edge hnone hrun
      rw [List.append_nil] at hself ⊢
      rw [tidyText_append_edge h hrun, hself, tidyText, List.append_nil]
  | @plain c s hc _ ih =>
      intro run hrun
      have hmore : '"' ∉ run ++ [c] := by simp [hrun, Ne.symm hc]
      simpa using ih (run ++ [c]) hmore
  | @literal inside s hinside _ ih =>
      intro run hrun
      have hliteral : IsLiteral ('"' :: inside ++ ['"']) := ⟨inside, hinside, rfl⟩
      have hedge (rest : List Char) : Edge ('"' :: inside ++ ['"'] ++ rest) := by
        rintro d ⟨⟩
        rfl
      have htail := ih [] List.not_mem_nil
      rw [List.nil_append] at htail
      have htext : '"' :: (inside ++ '"' :: s) = '"' :: inside ++ ['"'] ++ s := by simp
      rw [htext, List.append_assoc run, List.append_assoc _ s tail,
        tidyText_append_edge (hedge _) hrun, tidyText_append_edge (hedge _) hrun, hliteral.tidyText,
        hliteral.tidyText, htail]
      simp only [List.append_assoc]

end BulkSweep.Shell

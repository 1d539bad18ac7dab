import BulkSweep.Proofs.Shell.Spelling
import BulkSweep.Proofs.Shell.Unifying

/-!
# Outer blanks

A text is trimmed before it is made strict, and making it strict adds no blank at either end
(`trimBlank_normalizeChars`): every step keeps the first and the last character of its text or puts
another one in its place that is no blank either.
-/

set_option autoImplicit false

namespace BulkSweep.Shell

open BulkSweep.Text

/-! ## Firm ends -/

/-- A text that ends with something other than a blank. -/
def FirmEnd (s : List Char) : Prop :=
  ∃ cs c, s = cs ++ [c] ∧ isBlank c = false

theorem FirmEnd.reverse {s : List Char} (h : FirmEnd s) : FirmStart s.reverse := by
  obtain ⟨cs, c, rfl, hc⟩ := h
  exact ⟨c, cs.reverse, by simp, hc⟩

theorem FirmStart.reverse {s : List Char} (h : FirmStart s) : FirmEnd s.reverse := by
  obtain ⟨c, cs, rfl, hc⟩ := h
  exact ⟨cs.reverse, c, by simp, hc⟩

theorem FirmEnd.append {s : List Char} (h : FirmEnd s) (front : List Char) : FirmEnd (front ++ s) := by
  obtain ⟨cs, c, rfl, hc⟩ := h
  exact ⟨front ++ cs, c, (List.append_assoc front cs [c]).symm, hc⟩

theorem FirmEnd.suffix {s t : List Char} (h : FirmEnd s) (ht : t <:+ s) : t = [] ∨ FirmEnd t := by
  obtain ⟨cs, c, rfl, hc⟩ := h
  rcases List.suffix_concat_iff.mp ht with rfl | ⟨ds, rfl, -⟩
  · exact .inl rfl
  · exact .inr ⟨ds, c, rfl, hc⟩

/-- Blanks around a text go, and only they do. -/
theorem trimBlank_append {lead trail s : List Char} (hlead : Blanks lead) (htrail : Blanks trail)
    (hstart : FirmStart s) (hend : FirmEnd s) :
    trimBlank (lead ++ s ++ trail) = s := by
  have hback : Blanks trail.reverse := fun c hc => htrail c (List.mem_reverse.mp hc)
  have hfirm := hend.reverse.dropBlank []
  rw [List.append_nil] at hfirm
  rw [trimBlank, List.append_assoc, dropBlank_append hlead, hstart.dropBlank, List.reverse_append,
    dropBlank_append hback, hfirm, List.reverse_reverse]

theorem trimBlank_of_firm {s : List Char} (hstart : FirmStart s) (hend : FirmEnd s) :
    trimBlank s = s := by
  have hnone : Blanks [] := List.forall_mem_nil _
  have h := trimBlank_append hnone hnone hstart hend
  rwa [List.nil_append, List.append_nil] at h

theorem dropBlank_firm (s : List Char) : dropBlank s = [] ∨ FirmStart (dropBlank s) := by
  cases h : dropBlank s with
  | nil => exact .inl rfl
  | cons c cs => exact .inr ⟨c, cs, rfl, dropBlank_head h⟩

theorem FirmStart.prefix {s t : List Char} (h : FirmStart s) (ht : t <+: s) : t = [] ∨ FirmStart t := by
  obtain ⟨c, cs, rfl, hc⟩ := h
  cases t with
  | nil => exact .inl rfl
  | cons d ds => exact .inr ⟨d, ds, rfl, (List.cons_prefix_cons.mp ht).1 ▸ hc⟩

theorem trimBlank_firm (s : List Char) :
    trimBlank s = [] ∨ FirmStart (trimBlank s) ∧ FirmEnd (trimBlank s) := by
  rcases dropBlank_firm (dropBlank s).reverse with hback | hback
  · exact .inl (by rw [trimBlank, hback, List.reverse_nil])
  · have hpre : trimBlank s <+: dropBlank s := by
      have hsuffix := dropBlank_suffix (dropBlank s).reverse
      rw [← List.reverse_prefix, List.reverse_reverse] at hsuffix
      exact hsuffix
    have hend : FirmEnd (trimBlank s) := hback.reverse
    rcases dropBlank_firm s with hfront | hfront
    · rw [hfront] at hpre
      exact .inl (List.prefix_nil.mp hpre)
    · rcases hfront.prefix hpre with hnil | hstart
      · exact .inl hnil
      · exact .inr ⟨hstart, hend⟩

/-! ## One kind of quote -/

theorem firmStart_unifyQuotes {s : List Char} (h : FirmStart s) : FirmStart (unifyQuotes s) := by
  obtain ⟨c, cs, rfl, hc⟩ := h
  by_cases hquote : c = '\''
  · exact ⟨'"', unifyFrom (.inSingle false) cs, by rw [hquote]; rfl, by decide⟩
  · refine ⟨c, unifyFrom (Place.outside.next c) cs, ?_, hc⟩
    rw [unifyQuotes, unifyFrom, Place.written, if_neg hquote]
    rfl

theorem firmEnd_singleton {c : Char} (h : isBlank c = false) : FirmEnd [c] :=
  ⟨[], c, rfl, h⟩

/-- What one more character adds at the end of a text. -/
theorem firmEnd_written (p : Place) {c : Char} (h : isBlank c = false) :
    FirmEnd (p.written c ++ (p.next c).ending) := by
  cases p with
  | outside =>
      by_cases hdouble : c = '"'
      · subst hdouble
        exact firmEnd_singleton h
      · by_cases hsingle : c = '\''
        · subst hsingle
          exact firmEnd_singleton (c := '"') (by decide)
        · simp only [Place.written, Place.next, hdouble, hsingle, if_false]
          exact firmEnd_singleton h
  | inDouble escaped =>
      have hending : ((Place.inDouble escaped).next c).ending = [] := by
        cases escaped with
        | true => rfl
        | false =>
            simp only [Place.next]
            split
            · rfl
            · split <;> rfl
      rw [hending]
      exact firmEnd_singleton h
  | inSingle escaped =>
      cases escaped with
      | true =>
          simp only [Place.written, Place.next, Place.ending, List.append_nil]
          split
          · exact firmEnd_singleton h
          · exact (firmEnd_singleton h).append ['\\']
      | false =>
          by_cases hslash : c = '\\'
          · subst hslash
            exact firmEnd_singleton h
          · by_cases hsingle : c = '\''
            · subst hsingle
              exact firmEnd_singleton (c := '"') (by decide)
            · simp only [Place.written, Place.next, hslash, hsingle, if_false, Place.ending,
                List.append_nil]
              split
              · exact (firmEnd_singleton (c := '"') (by decide)).append ['\\']
              · exact firmEnd_singleton h

/-- The last character stays, or a quote or a backslash stands in its place. -/
theorem firmEnd_unifyQuotes {s : List Char} (h : FirmEnd s) : FirmEnd (unifyQuotes s) := by
  obtain ⟨cs, c, rfl, hc⟩ := h
  obtain ⟨out, hout⟩ := exists_unifies .outside cs
  rw [unifyQuotes, hout [c]]
  exact (firmEnd_written (Place.outside.after cs) hc).append out

/-! ## Calls -/

/-- What follows a call is the end of the text. -/
theorem read_suffix {s r : List Char} {call : Call} (h : Call.read s = some (call, r)) : r <:+ s := by
  obtain ⟨text, -, rfl⟩ := read_iff.mp h
  exact List.suffix_append text r

theorem taggedText_firm (tag : String) (body : List Char) :
    FirmStart (taggedText tag body) ∧ FirmEnd (taggedText tag body) := by
  have hopen : FirmStart "\x7b\"$".toList := ⟨'{', ['"', '$'], rfl, by decide⟩
  have hclose : FirmEnd "\"\x7d".toList := ⟨['"'], '}', rfl, by decide⟩
  exact ⟨(((hopen.append _).append _).append _).append _, hclose.append _⟩

theorem extended_firm (call : Call) : FirmStart call.extended ∧ FirmEnd call.extended := by
  cases call with
  | timestamp seconds increment =>
      have hopen : FirmStart "\x7b\"$timestamp\":\x7b\"t\":".toList := ⟨'{', _, rfl, by decide⟩
      have hclose : FirmEnd "\x7d\x7d".toList := ⟨['}'], '}', rfl, by decide⟩
      exact ⟨(((hopen.append _).append _).append _).append _, hclose.append _⟩
  | _ => exact taggedText_firm _ _

/-- The rest of a text after its front has gone on with a pass, which keeps firm ends. -/
theorem FirmEnd.pass {f : List Char → List Char} {s rest : List Char} (h : FirmEnd s)
    (front : List Char) (hsuffix : rest <:+ s) (hnil : f [] = []) (hfront : rest = [] → FirmEnd front)
    (hrest : FirmEnd rest → FirmEnd (f rest)) : FirmEnd (front ++ f rest) := by
  rcases h.suffix hsuffix with rfl | hend
  · rw [hnil, List.append_nil]
    exact hfront rfl
  · exact (hrest hend).append front

/-- A literal ends with its quote, or with the text. -/
theorem firmEnd_literal {cs : List Char} (h : FirmEnd ('"' :: cs))
    (hrest : (splitLiteral false cs).2 = []) : FirmEnd ('"' :: (splitLiteral false cs).1) := by
  have hsplit := splitLiteral_append false cs
  rw [hrest, List.append_nil] at hsplit
  rw [hsplit]
  exact h

theorem splitLiteral_suffix (cs : List Char) : (splitLiteral false cs).2 <:+ '"' :: cs :=
  List.IsSuffix.trans ⟨_, splitLiteral_append false cs⟩ (List.suffix_cons _ _)

theorem firmStart_substituteAfter (previous : Option Char) {s : List Char} (h : FirmStart s) :
    FirmStart (substituteAfter previous s) := by
  obtain ⟨c, cs, rfl, hc⟩ := h
  rw [substituteAfter]
  split
  · exact ⟨'"', _, rfl, by decide⟩
  · split
    · exact ⟨c, _, rfl, hc⟩
    · split
      · exact (extended_firm _).1.append _
      · exact ⟨c, _, rfl, hc⟩

theorem substituteAfter_nil (previous : Option Char) : substituteAfter previous [] = [] := by
  rw [substituteAfter]

theorem firmEnd_cons {c : Char} {cs : List Char} (h : FirmEnd (c :: cs)) (hcs : cs = []) :
    FirmEnd [c] := by
  subst hcs
  exact h

theorem firmEnd_substituteAfter {previous : Option Char} {s : List Char} (h : FirmEnd s) :
    FirmEnd (substituteAfter previous s) := by
  fun_induction substituteAfter previous s with
  | case1 => exact h
  | case2 previous cs parts ih =>
      exact h.pass ('"' :: parts.1) (splitLiteral_suffix cs) (substituteAfter_nil _)
        (firmEnd_literal h) ih
  | case3 previous c cs hquote hword ih =>
      exact h.pass [c] (List.suffix_cons c cs) (substituteAfter_nil _) (firmEnd_cons h) ih
  | case4 previous c cs hquote hword call rest hread ih =>
      exact h.pass call.extended (read_suffix hread) (substituteAfter_nil _)
        (fun _ => (extended_firm call).2) ih
  | case5 previous c cs hquote hword hread ih =>
      exact h.pass [c] (List.suffix_cons c cs) (substituteAfter_nil _) (firmEnd_cons h) ih

/-! ## Keys and commas -/

theorem tidyText_nil : tidyText [] = [] := by
  rw [tidyText]

/-- A comma in front is dropped only if a bracket follows. -/
theorem firmStart_tidyText {s : List Char} (h : FirmStart s) : FirmStart (tidyText s) := by
  obtain ⟨c, cs, rfl, hc⟩ := h
  by_cases hdrop : c = ',' ∧ closesNext cs = true
  · obtain ⟨rfl, hclose⟩ := hdrop
    rw [tidyText_comma hclose]
    cases hcs : dropBlank cs with
    | nil =>
        rw [closesNext, hcs] at hclose
        cases hclose
    | cons d ds =>
        rw [closesNext, hcs] at hclose
        simp only [Bool.or_eq_true, beq_iff_eq] at hclose
        rcases hclose with rfl | rfl <;>
          rw [tidyText_other (by decide) (by decide) (by decide)] <;>
          exact ⟨_, _, rfl, by decide⟩
  · rw [tidyText]
    split
    · exact ⟨'"', _, rfl, by decide⟩
    · split
      · split <;> exact ⟨c, _, rfl, hc⟩
      · exact ⟨c, _, rfl, hc⟩

theorem firmEnd_tidyText {s : List Char} (h : FirmEnd s) : FirmEnd (tidyText s) := by
  fun_induction tidyText s with
  | case1 => exact h
  | case2 cs parts ih =>
      exact h.pass ('"' :: parts.1) (splitLiteral_suffix cs) tidyText_nil
        (firmEnd_literal h) ih
  | case3 c cs hquote hdrop ih =>
      rcases h.suffix ((dropBlank_suffix cs).trans (List.suffix_cons c cs)) with hnil | hend
      · have hclose := hdrop.2
        rw [closesNext, hnil] at hclose
        cases hclose
      · exact ih hend
  | case4 c cs hquote hdrop hc key rest hkey ih =>
      have hcolon : FirmEnd (c :: '"' :: (key ++ ['"', ':'])) :=
        ⟨c :: '"' :: (key ++ ['"']), ':', by simp, by decide⟩
      have hrest : rest <:+ c :: cs := (readBareKey_suffix hkey).trans (List.suffix_cons c cs)
      have hpass := h.pass (c :: '"' :: (key ++ ['"', ':'])) hrest tidyText_nil (fun _ => hcolon) ih
      simpa using hpass
  | case5 c cs hquote hdrop hc hkey ih =>
      exact h.pass [c] (List.suffix_cons c cs) tidyText_nil (firmEnd_cons h) ih
  | case6 c cs hquote hdrop hc ih =>
      exact h.pass [c] (List.suffix_cons c cs) tidyText_nil (firmEnd_cons h) ih

/-! ## Whole texts -/

/-- No step adds a blank at either end. -/
theorem trimBlank_steps {s : List Char} (hstart : FirmStart s) (hend : FirmEnd s) :
    trimBlank (tidyText (substituteCalls (unifyQuotes s)))
      = tidyText (substituteCalls (unifyQuotes s)) :=
  trimBlank_of_firm
    (firmStart_tidyText (firmStart_substituteAfter _ (firmStart_unifyQuotes hstart)))
    (firmEnd_tidyText (firmEnd_substituteAfter (firmEnd_unifyQuotes hend)))

/-- Strict text has no outer blanks. -/
theorem trimBlank_normalizeChars (s : List Char) : trimBlank (normalizeChars s) = normalizeChars s := by
  rw [normalizeChars]
  rcases trimBlank_firm s with hnil | ⟨hstart, hend⟩
  · rw [hnil]
    rfl
  · by_cases hbare : trimBlank s = [] ∨ trimBlank s = ['{', '}']
    · rw [normalizeTrimmed, if_pos hbare]
      exact trimBlank_of_firm hstart hend
    · rw [normalizeTrimmed_eq hbare]
      exact trimBlank_steps hstart hend

end BulkSweep.Shell

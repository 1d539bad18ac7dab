import BulkSweep.Shell.Normalize

/-!
# Tidying around literals

A text is tidied run by run between its literals.  It comes to the same to go through the whole text at
once and leave its literals as they are (`strictSpans_eq`), since no look ahead goes past a quote:
neither a comma before a closing bracket nor a bare key has a literal inside.
-/

set_option autoImplicit false

namespace BulkSweep.Shell

open BulkSweep.Text

/-! ## Blanks -/

/-- White space of any kind. -/
def Blanks (s : List Char) : Prop :=
  ∀ c ∈ s, isBlank c = true

instance (s : List Char) : Decidable (Blanks s) :=
  List.decidableBAll _ s

theorem dropBlank_cons {c : Char} (h : isBlank c = false) (cs : List Char) :
    dropBlank (c :: cs) = c :: cs := by
  simp [dropBlank, h]

theorem dropBlank_append {blanks : List Char} (h : Blanks blanks) (rest : List Char) :
    dropBlank (blanks ++ rest) = dropBlank rest := by
  induction blanks with
  | nil => rfl
  | cons c cs ih =>
      rw [List.cons_append, dropBlank, if_pos (h c List.mem_cons_self)]
      exact ih fun d hd => h d (List.mem_cons_of_mem c hd)

theorem exists_blanks (s : List Char) :
    ∃ blanks, Blanks blanks ∧ s = blanks ++ dropBlank s := by
  induction s with
  | nil => exact ⟨[], List.forall_mem_nil _, rfl⟩
  | cons c cs ih =>
      rw [dropBlank]
      split
      · obtain ⟨blanks, hblanks, heq⟩ := ih
        exact ⟨c :: blanks, List.forall_mem_cons.mpr ⟨‹_›, hblanks⟩, congrArg (c :: ·) heq⟩
      · exact ⟨[], List.forall_mem_nil _, rfl⟩

/-- What is left is the end of the text. -/
theorem dropBlank_suffix (s : List Char) : dropBlank s <:+ s := by
  obtain ⟨blanks, -, heq⟩ := exists_blanks s
  exact ⟨blanks, heq.symm⟩

/-- A text that begins with something other than a blank. -/
def FirmStart (s : List Char) : Prop :=
  ∃ c cs, s = c :: cs ∧ isBlank c = false

theorem FirmStart.dropBlank {s : List Char} (h : FirmStart s) (rest : List Char) :
    Text.dropBlank (s ++ rest) = s ++ rest := by
  obtain ⟨c, cs, rfl, hc⟩ := h
  exact dropBlank_cons hc (cs ++ rest)

theorem FirmStart.append {s : List Char} (h : FirmStart s) (back : List Char) :
    FirmStart (s ++ back) := by
  obtain ⟨c, cs, rfl, hc⟩ := h
  exact ⟨c, cs ++ back, rfl, hc⟩

/-! ## Whole texts -/

/-- Quotes bare keys and drops trailing commas around the literals of a text. -/
def tidyText : List Char → List Char
  | [] => []
  | c :: cs =>
    if c = '"' then
      let parts := splitLiteral false cs
      '"' :: (parts.1 ++ tidyText parts.2)
    else if c = ',' ∧ closesNext cs then tidyText (dropBlank cs)
    else if c = '{' ∨ c = ',' then
      match _ : readBareKey cs with
      | some (key, rest) => c :: '"' :: (key ++ '"' :: ':' :: tidyText rest)
      | none => c :: tidyText cs
    else c :: tidyText cs
termination_by s => s.length
decreasing_by
  · exact Nat.lt_succ_of_le (splitLiteral_length_le false cs)
  · exact Nat.lt_succ_of_le (dropBlank_length_le cs)
  · exact Nat.lt_succ_of_le (readBareKey_length ‹_›)
  · exact Nat.lt_succ_self _
  · exact Nat.lt_succ_self _

theorem tidyText_quote (cs : List Char) :
    tidyText ('"' :: cs) = '"' :: ((splitLiteral false cs).1 ++ tidyText (splitLiteral false cs).2) := by
  rw [tidyText, if_pos rfl]

theorem tidyText_comma {cs : List Char} (h : closesNext cs = true) :
    tidyText (',' :: cs) = tidyText (dropBlank cs) := by
  rw [tidyText, if_neg (by decide), if_pos ⟨rfl, h⟩]

theorem tidyText_key {c : Char} (hc : c = '{' ∨ c = ',') {cs key rest : List Char}
    (hclose : c = ',' → closesNext cs = false) (hkey : readBareKey cs = some (key, rest)) :
    tidyText (c :: cs) = c :: '"' :: (key ++ '"' :: ':' :: tidyText rest) := by
  have hquote : c ≠ '"' := by rcases hc with rfl | rfl <;> decide
  have hopen : ¬(c = ',' ∧ closesNext cs = true) := by
    rintro ⟨hcomma, hcloses⟩
    rw [hclose hcomma] at hcloses
    cases hcloses
  rw [tidyText, if_neg hquote, if_neg hopen, if_pos hc]
  split
  · rename_i heq
    rw [hkey] at heq
    cases heq
    rfl
  · rename_i heq
    rw [hkey] at heq
    cases heq

theorem tidyText_noKey {c : Char} (hc : c = '{' ∨ c = ',') {cs : List Char}
    (hclose : c = ',' → closesNext cs = false) (hkey : readBareKey cs = none) :
    tidyText (c :: cs) = c :: tidyText cs := by
  have hquote : c ≠ '"' := by rcases hc with rfl | rfl <;> decide
  have hopen : ¬(c = ',' ∧ closesNext cs = true) := by
    rintro ⟨hcomma, hcloses⟩
    rw [hclose hcomma] at hcloses
    cases hcloses
  rw [tidyText, if_neg hquote, if_neg hopen, if_pos hc]
  split
  · rename_i heq
    rw [hkey] at heq
    cases heq
  · rfl

theorem tidyText_other {c : Char} (hquote : c ≠ '"') (hcomma : c ≠ ',') (hbrace : c ≠ '{')
    (cs : List Char) : tidyText (c :: cs) = c :: tidyText cs := by
  rw [tidyText, if_neg hquote, if_neg fun h => hcomma h.1, if_neg (not_or.mpr ⟨hbrace, hcomma⟩)]

/-! ## The end of a run -/

/-- What can follow a run between literals: nothing, or a literal. -/
def Edge (tail : List Char) : Prop :=
  ∀ c ∈ tail.head?, c = '"'

theorem takeWhile_append_edge {p : Char → Bool} (hp : p '"' = false) {tail : List Char}
    (h : Edge tail) (s : List Char) :
    (s ++ tail).takeWhile p = s.takeWhile p ∧ (s ++ tail).dropWhile p = s.dropWhile p ++ tail := by
  induction s with
  | nil =>
      cases tail with
      | nil => exact ⟨rfl, rfl⟩
      | cons c cs =>
          rw [h c rfl]
          simp [hp]
  | cons c cs ih =>
      cases hc : p c with
      | true => simp [hc, ih.1, ih.2]
      | false => simp [hc]

theorem dropBlank_append_edge {tail : List Char} (h : Edge tail) (s : List Char) :
    dropBlank (s ++ tail) = dropBlank s ++ tail := by
  induction s with
  | nil =>
      cases tail with
      | nil => rfl
      | cons c cs =>
          rw [h c rfl]
          exact dropBlank_cons (by decide) cs
  | cons c cs ih =>
      rw [List.cons_append, dropBlank, dropBlank]
      split
      · exact ih
      · rfl

theorem closesNext_append_edge {tail : List Char} (h : Edge tail) (s : List Char) :
    closesNext (s ++ tail) = closesNext s := by
  unfold closesNext
  rw [dropBlank_append_edge h]
  cases dropBlank s with
  | cons c cs => rfl
  | nil =>
      cases tail with
      | nil => rfl
      | cons c cs =>
          rw [h c rfl]
          rfl

theorem readKeyName_append_edge {tail : List Char} (h : Edge tail) (s : List Char) :
    readKeyName (s ++ tail) = (readKeyName s).map fun (key, rest) => (key, rest ++ tail) := by
  cases s with
  | nil =>
      cases tail with
      | nil => rfl
      | cons c cs =>
          rw [h c rfl]
          rfl
  | cons c cs =>
      obtain ⟨htake, hdrop⟩ := takeWhile_append_edge (p := isKeyChar) (by decide) h cs
      simp only [List.cons_append, readKeyName, htake, hdrop]
      split <;> rfl

theorem readKey_append_edge {tail : List Char} (h : Edge tail) (s : List Char) :
    readKey (s ++ tail) = (readKey s).map fun (key, rest) => (key, rest ++ tail) := by
  cases s with
  | nil =>
      cases tail with
      | nil => rfl
      | cons c cs =>
          rw [h c rfl]
          rfl
  | cons c cs =>
      by_cases hdollar : c = '$'
      · rw [hdollar]
        change (readKeyName (cs ++ tail)).map _ = ((readKeyName cs).map _).map _
        rw [readKeyName_append_edge h, Option.map_map, Option.map_map]
        rfl
      · have hplain : ∀ ds : List Char, readKey (c :: ds) = readKeyName (c :: ds) := by
          intro ds
          rw [readKey]
          rintro es ⟨⟩
          exact hdollar rfl
        rw [List.cons_append, hplain, hplain]
        exact readKeyName_append_edge h (c :: cs)

theorem readBareKey_append_edge {tail : List Char} (h : Edge tail) (s : List Char) :
    readBareKey (s ++ tail) = (readBareKey s).map fun (key, rest) => (key, rest ++ tail) := by
  simp only [readBareKey, Option.bind_eq_bind]
  rw [dropBlank_append_edge h, readKey_append_edge h]
  cases readKey (dropBlank s) with
  | none => rfl
  | some found =>
      obtain ⟨key, rest⟩ := found
      simp only [Option.map_some, Option.bind_some, dropBlank_append_edge h]
      cases dropBlank rest with
      | nil =>
          cases tail with
          | nil => rfl
          | cons c cs =>
              rw [h c rfl]
              rfl
      | cons c cs =>
          by_cases hcolon : c = ':'
          · rw [hcolon]
            rfl
          · rw [List.cons_append]
            split
            · rename_i heq
              exact absurd (List.head_eq_of_cons_eq heq) hcolon
            · split
              · rename_i heq
                exact absurd (List.head_eq_of_cons_eq heq) hcolon
              · rfl

theorem readKeyName_suffix {s key rest : List Char} (h : readKeyName s = some (key, rest)) :
    rest <:+ s := by
  cases s with
  | nil => cases h
  | cons c cs =>
      rw [readKeyName] at h
      split at h
      · cases h
        exact (List.dropWhile_suffix isKeyChar).trans (List.suffix_cons c cs)
      · cases h

theorem readKey_suffix {s key rest : List Char} (h : readKey s = some (key, rest)) : rest <:+ s := by
  unfold readKey at h
  split at h
  · obtain ⟨⟨name, after⟩, hname, heq⟩ := Option.map_eq_some_iff.mp h
    cases heq
    exact (readKeyName_suffix hname).trans (List.suffix_cons _ _)
  · exact readKeyName_suffix h

theorem readBareKey_suffix {s key rest : List Char} (h : readBareKey s = some (key, rest)) :
    rest <:+ s := by
  simp only [readBareKey, Option.bind_eq_bind, Option.bind_eq_some_iff] at h
  obtain ⟨⟨key', after⟩, hkey, h⟩ := h
  split at h
  · rename_i hcolon
    cases h
    have hafter : rest <:+ after := by
      refine (List.suffix_cons ':' rest).trans ?_
      rw [← hcolon]
      exact dropBlank_suffix after
    exact hafter.trans ((readKey_suffix hkey).trans (dropBlank_suffix s))
  · cases h

/-- A run without quotes is tidied by itself. -/
theorem tidyText_append_edge {tail : List Char} (h : Edge tail) {run : List Char}
    (hrun : '"' ∉ run) : tidyText (run ++ tail) = tidy run ++ tidyText tail := by
  fun_induction tidy run with
  | case1 => rfl
  | case2 c cs hclose ih =>
      obtain ⟨rfl, hclose⟩ := hclose
      rw [List.cons_append, tidyText_comma (by rw [closesNext_append_edge h]; exact hclose),
        dropBlank_append_edge h]
      exact ih fun hmem => hrun (List.mem_cons_of_mem _ ((dropBlank_suffix cs).subset hmem))
  | case3 c cs hopen hc key rest hkey ih =>
      have hclose : c = ',' → closesNext (cs ++ tail) = false := by
        intro hcomma
        rw [closesNext_append_edge h]
        exact Bool.eq_false_iff.mpr fun hcloses => hopen ⟨hcomma, hcloses⟩
      have hkey' : readBareKey (cs ++ tail) = some (key, rest ++ tail) := by
        rw [readBareKey_append_edge h, hkey]
        rfl
      have hrest : '"' ∉ rest := fun hmem =>
        hrun (List.mem_cons_of_mem _ ((readBareKey_suffix hkey).subset hmem))
      rw [List.cons_append, tidyText_key hc hclose hkey', ih hrest]
      simp
  | case4 c cs hopen hc hkey ih =>
      have hclose : c = ',' → closesNext (cs ++ tail) = false := by
        intro hcomma
        rw [closesNext_append_edge h]
        exact Bool.eq_false_iff.mpr fun hcloses => hopen ⟨hcomma, hcloses⟩
      have hkey' : readBareKey (cs ++ tail) = none := by
        rw [readBareKey_append_edge h, hkey]
        rfl
      rw [List.cons_append, tidyText_noKey hc hclose hkey',
        ih fun hmem => hrun (List.mem_cons_of_mem _ hmem)]
      rfl
  | case5 c cs hopen hc ih =>
      have hquote : c ≠ '"' := fun heq => hrun (heq ▸ List.mem_cons_self)
      rw [List.cons_append, tidyText_other hquote (fun heq => hc (.inr heq))
        (fun heq => hc (.inl heq)), ih fun hmem => hrun (List.mem_cons_of_mem _ hmem)]
      rfl

/-! ## Spans -/

theorem flatMap_strict_close (collected : List Char) :
    (Span.close collected true).flatMap Span.strict = collected.reverse ∧
      (Span.close collected false).flatMap Span.strict = tidy collected.reverse := by
  cases collected with
  | nil => exact ⟨rfl, by simp [Span.close, tidy]⟩
  | cons c cs => exact ⟨by simp [Span.close, Span.strict], by simp [Span.close, Span.strict]⟩

/-- The spans of a text, each in its strict form. -/
def strictSpans (s : List Char) : List Char :=
  (spans s).flatMap Span.strict

theorem flatMap_strict_spansInside (collected : List Char) (escaped : Bool) (s : List Char) :
    (spansInside collected escaped s).flatMap Span.strict
      = collected.reverse ++ ((splitLiteral escaped s).1 ++ strictSpans (splitLiteral escaped s).2) := by
  induction s generalizing collected escaped with
  | nil =>
      rw [spansInside, (flatMap_strict_close collected).1]
      simp [splitLiteral, strictSpans, spans, spansOutside, Span.close]
  | cons c cs ih =>
      cases escaped with
      | true =>
          rw [spansInside, if_pos rfl, ih]
          simp [splitLiteral]
      | false =>
          rw [spansInside, if_neg Bool.false_ne_true, splitLiteral]
          by_cases hslash : c = '\\'
          · rw [if_pos hslash, ih, if_neg (by rw [hslash]; decide), hslash]
            simp
          · rw [if_neg hslash]
            by_cases hquote : c = '"'
            · rw [if_pos hquote, if_pos hquote, List.flatMap_append, (flatMap_strict_close _).1]
              simp [strictSpans, spans]
            · rw [if_neg hquote, if_neg hquote, ih]
              simp [hslash]

theorem flatMap_strict_spansOutside (collected s : List Char) :
    (spansOutside collected s).flatMap Span.strict
      = tidy (collected.reverse ++ s.takeWhile (· ≠ '"')) ++
        (match s.dropWhile (· ≠ '"') with
        | [] => []
        | _ :: cs => '"' :: ((splitLiteral false cs).1 ++ strictSpans (splitLiteral false cs).2)) := by
  induction s generalizing collected with
  | nil =>
      rw [spansOutside, (flatMap_strict_close collected).2]
      simp
  | cons c cs ih =>
      rw [spansOutside]
      by_cases hquote : c = '"'
      · rw [if_pos hquote, List.flatMap_append, (flatMap_strict_close _).2,
          flatMap_strict_spansInside]
        simp [hquote]
      · rw [if_neg hquote, ih]
        simp [hquote]

/-- Tidying between the literals comes to the same as tidying around them. -/
theorem strictSpans_eq (s : List Char) : strictSpans s = tidyText s := by
  generalize hlength : s.length = n
  induction n using Nat.strongRecOn generalizing s with
  | _ n ih =>
      have hsplit := List.takeWhile_append_dropWhile (p := (· ≠ '"')) (l := s)
      have hrun : '"' ∉ s.takeWhile (· ≠ '"') := by
        intro hmem
        simpa using List.all_eq_true.mp List.all_takeWhile _ hmem
      rw [strictSpans, spans, flatMap_strict_spansOutside, List.reverse_nil, List.nil_append]
      cases htail : s.dropWhile (· ≠ '"') with
      | nil =>
          rw [htail, List.append_nil] at hsplit
          have hend : Edge [] := nofun
          have hall := tidyText_append_edge hend hrun
          rw [List.append_nil, hsplit] at hall
          rw [hsplit, hall, tidyText]
      | cons c cs =>
          have hquote : c = '"' := by
            have hhead := List.head?_dropWhile_not (· ≠ '"') s
            rw [htail] at hhead
            simpa using hhead
          rw [htail, hquote] at hsplit
          have hshort : (splitLiteral false cs).2.length < n := by
            have hle := splitLiteral_length_le false cs
            have hlong := congrArg List.length hsplit
            rw [List.length_append, List.length_cons, hlength] at hlong
            omega
          have hedge : Edge ('"' :: cs) := by
            rintro d ⟨⟩
            rfl
          have hall := tidyText_append_edge hedge hrun
          rw [hsplit, tidyText_quote] at hall
          rw [hall, ← ih _ hshort _ rfl]

/-- A text without blanks at its ends is given one kind of quote, then rid of its calls, then
tidied. -/
theorem normalizeTrimmed_eq {s : List Char} (h : ¬(s = [] ∨ s = ['{', '}'])) :
    normalizeTrimmed s = tidyText (substituteCalls (unifyQuotes s)) := by
  rw [normalizeTrimmed, if_neg h]
  exact strictSpans_eq _

end BulkSweep.Shell

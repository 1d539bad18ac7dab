import BulkSweep.Proofs.Shell.Calls

/-!
# Calls become objects

Replacing the calls of a text changes the calls of a tree and nothing else.  A call must not continue a
word, so the character before a run of text matters: values stand behind white space, brackets, commas
and colons alone.
-/

set_option autoImplicit false

namespace BulkSweep.Shell

open BulkSweep.Text
open BulkSweep.Json (Form)

/-! ## Steps of the scan -/

theorem substituteAfter_quote (previous : Option Char) (cs : List Char) :
    substituteAfter previous ('"' :: cs)
      = '"' :: ((splitLiteral false cs).1 ++ substituteAfter (some '"') (splitLiteral false cs).2) := by
  rw [substituteAfter, if_pos rfl]

/-- A character that begins no call is copied. -/
theorem substituteAfter_copy (previous : Option Char) {c : Char} {cs : List Char} (hquote : c ≠ '"')
    (hcall : Call.read (c :: cs) = none) :
    substituteAfter previous (c :: cs) = c :: substituteAfter (some c) cs := by
  rw [substituteAfter, if_neg hquote]
  split
  · rfl
  · split
    · rename_i heq
      rw [hcall] at heq
      cases heq
    · rfl

/-- A call that does not continue a word is replaced. -/
theorem substituteAfter_call {previous : Option Char} {s rest : List Char} {call : Call}
    (hprevious : previous.any isWordChar = false) (h : Call.read s = some (call, rest)) :
    substituteAfter previous s = call.extended ++ substituteAfter (some '}') rest := by
  cases s with
  | nil => cases h
  | cons c cs =>
      have hquote : c ≠ '"' := by
        rintro rfl
        cases h
      rw [substituteAfter, if_neg hquote, if_neg (Bool.eq_false_iff.mp hprevious)]
      split
      · rename_i heq
        rw [h] at heq
        cases heq
        rfl
      · rename_i heq
        rw [h] at heq
        cases heq

/-! ## Runs of text -/

/-- Whether a call can begin behind a character. -/
def Fresh (previous : Option Char) : Prop :=
  previous.any isWordChar = false

/-- Any character can be in front, or none. -/
def Anything (_ : Option Char) : Prop :=
  True

/-- Behind one kind of character a run of text becomes another run, whatever follows it, and leaves
another kind of character behind. -/
def Expands (p : Option Char → Prop) (run out : List Char) (q : Option Char → Prop) : Prop :=
  ∀ previous, p previous → ∀ rest, ∃ last, q last ∧
    substituteAfter previous (run ++ rest) = out ++ substituteAfter last rest

section

variable {p q r : Option Char → Prop} {run run' out out' : List Char}

theorem Expands.append (h : Expands p run out q) (h' : Expands q run' out' r) :
    Expands p (run ++ run') (out ++ out') r := by
  intro previous hprevious rest
  obtain ⟨middle, hmiddle, heq⟩ := h previous hprevious (run' ++ rest)
  obtain ⟨last, hlast, heq'⟩ := h' middle hmiddle rest
  exact ⟨last, hlast, by rw [List.append_assoc, heq, heq', List.append_assoc]⟩

theorem expands_nil (p : Option Char → Prop) : Expands p [] [] p :=
  fun previous hprevious _ => ⟨previous, hprevious, rfl⟩

theorem Expands.weaken (h : Expands p run out q) (hq : ∀ last, q last → r last) :
    Expands p run out r := by
  intro previous hprevious rest
  obtain ⟨last, hlast, heq⟩ := h previous hprevious rest
  exact ⟨last, hq last hlast, heq⟩

theorem Expands.anything (h : Expands p run out q) : Expands p run out Anything :=
  h.weaken fun _ _ => trivial

theorem expands_char {c : Char} (h : ∀ cs, Call.read (c :: cs) = none) (hquote : c ≠ '"')
    (hq : q (some c)) : Expands p [c] [c] q :=
  fun previous _ rest => ⟨some c, hq, substituteAfter_copy previous hquote (h rest)⟩

end

/-- A sign between values is copied, and a call can begin behind it. -/
theorem expands_sign (p : Option Char → Prop) {c : Char}
    (h : c ∈ [',', ':', '[', ']', '{', '}']) : Expands p [c] [c] Fresh := by
  simp only [List.mem_cons, List.not_mem_nil, or_false] at h
  rcases h with rfl | rfl | rfl | rfl | rfl | rfl <;>
    exact expands_char (no_call_of_head (by decide)) (by decide) rfl

theorem no_call_of_inert {c : Char} (h : Inert c) (cs : List Char) : Call.read (c :: cs) = none := by
  refine no_call_of_head (fun hmem => h ?_) cs
  exact List.Sublist.subset (by decide) hmem

/-- A run of characters that mean nothing is copied. -/
theorem expands_inert {s : List Char} (h : ∀ c ∈ s, Inert c) : Expands Anything s s Anything := by
  induction s with
  | nil => exact expands_nil _
  | cons c cs ih =>
      have hc := h c List.mem_cons_self
      refine (expands_char (no_call_of_inert hc) ?_ trivial).append
        (ih fun d hd => h d (List.mem_cons_of_mem c hd))
      rintro rfl
      exact absurd hc (by decide)

theorem inert_of_isSpace {c : Char} (h : Json.Cursor.isSpace c = true) : Inert c := by
  simp only [Json.Cursor.isSpace, Bool.or_eq_true, beq_iff_eq] at h
  rcases h with ((rfl | rfl) | rfl) | rfl <;> decide

/-- White space is copied, and what could begin in front of it can begin behind it. -/
theorem expands_space {p : Option Char → Prop} (hp : ∀ last, Fresh last → p last)
    (space : Form.Space) : Expands p space.chars space.chars p := by
  obtain ⟨chars, hspace⟩ := space
  induction chars with
  | nil => exact expands_nil p
  | cons c cs ih =>
      have hc := hspace c List.mem_cons_self
      have hinert := inert_of_isSpace hc
      have hquote : c ≠ '"' := by
        rintro rfl
        exact absurd hinert (by decide)
      have hchar : Expands p [c] [c] p :=
        expands_char (no_call_of_inert hinert) hquote (hp _ (isWordChar_of_isBlank (isBlank_of_isSpace hc)))
      exact hchar.append (ih fun d hd => hspace d (List.mem_cons_of_mem c hd))

theorem expands_fresh_space (space : Form.Space) : Expands Fresh space.chars space.chars Fresh :=
  expands_space (fun _ h => h) space

theorem expands_any_space (space : Form.Space) :
    Expands Anything space.chars space.chars Anything :=
  expands_space (fun _ _ => trivial) space

/-! ## Strings -/

/-- A literal is copied. -/
theorem IsLiteral.substituteAfter {s : List Char} (h : IsLiteral s) (previous : Option Char)
    (rest : List Char) :
    Shell.substituteAfter previous (s ++ rest) = s ++ Shell.substituteAfter (some '"') rest := by
  obtain ⟨cs, rfl, hsplit⟩ := h.split
  rw [List.cons_append, substituteAfter_quote, hsplit, List.cons_append]

theorem expands_literal (p : Option Char → Prop) (s : Form.Literal) : Expands p s.text s.text Fresh :=
  fun previous _ rest => ⟨some '"', rfl, (isLiteral_text s).substituteAfter previous rest⟩

/-! ## Keys -/

theorem expands_key {key : List Char} (h : ∀ c ∈ key, isKeyChar c = true) (gap : Form.Space) :
    Expands Anything (key ++ gap.chars ++ [':']) (key ++ gap.chars ++ [':']) Fresh := by
  induction key with
  | nil => exact (expands_any_space gap).append (expands_sign _ (by decide))
  | cons c cs ih =>
      intro previous _ rest
      have hquote : c ≠ '"' := by
        rintro rfl
        exact absurd (h _ List.mem_cons_self) (by decide)
      have hcall : Call.read (c :: (cs ++ gap.chars ++ [':'] ++ rest)) = none := by
        simpa using no_call_of_key h gap rest
      obtain ⟨last, hlast, heq⟩ := ih (fun d hd => h d (List.mem_cons_of_mem c hd)) (some c) trivial rest
      refine ⟨last, hlast, ?_⟩
      have hcopy : substituteAfter previous (c :: (cs ++ gap.chars ++ [':'] ++ rest))
          = c :: substituteAfter (some c) (cs ++ gap.chars ++ [':'] ++ rest) :=
        substituteAfter_copy previous hquote hcall
      rw [heq] at hcopy
      exact hcopy

theorem expands_label (label : Label) :
    Expands Fresh (label.text .unified) (label.text .expanded) Fresh := by
  cases label with
  | quoted lead name gap =>
      exact (((expands_fresh_space lead).append (expands_literal _ name.literal)).append
        (expands_fresh_space gap)).append (expands_sign _ (by decide))
  | bare lead name gap =>
      have hkey := (expands_any_space lead).append (expands_key name.isKeyChar gap)
      have htext : (Label.bare lead name gap).text .unified
          = lead.chars ++ (name.text ++ gap.chars ++ [':']) := by simp [Label.text]
      have htext' : (Label.bare lead name gap).text .expanded
          = lead.chars ++ (name.text ++ gap.chars ++ [':']) := by simp [Label.text]
      rw [htext, htext']
      exact fun previous _ => hkey previous trivial

/-! ## Values -/

theorem expands_call (c : CallText) : Expands Fresh (c.text .unified) (c.text .expanded) Anything := by
  intro previous hprevious rest
  refine ⟨some '}', trivial, ?_⟩
  change substituteAfter previous (c.written .unified ++ rest) = c.invocation.form.text ++ _
  rw [substituteAfter_call hprevious (read_written c rest), extended_call]

theorem expands_comma (comma : Option Form.Space) :
    Expands Anything (commaText .unified comma) (commaText .expanded comma) Anything := by
  cases comma with
  | none => exact expands_nil _
  | some space => exact ((expands_sign _ (by decide)).append (expands_fresh_space space)).anything

theorem expands_null : Expands Anything "null".toList "null".toList Anything := by
  intro previous _ rest
  obtain ⟨last, hlast, heq⟩ := expands_inert (s := "ull".toList) (by decide) (some 'n') trivial rest
  have hcall : Call.read ('n' :: ("ull".toList ++ rest)) = none := rfl
  have hcopy := substituteAfter_copy previous (by decide) hcall
  rw [heq] at hcopy
  exact ⟨last, hlast, hcopy⟩

mutual

/-- The calls of a value are replaced, and all else stays. -/
theorem expands_tree : ∀ t : Tree, Expands Fresh (t.text .unified) (t.text .expanded) Anything
  | .null => fun previous _ => expands_null previous trivial
  | .bool true => fun previous _ => expands_inert (s := "true".toList) (by decide) previous trivial
  | .bool false => fun previous _ => expands_inert (s := "false".toList) (by decide) previous trivial
  | .number n => fun previous _ => expands_inert (inert_figures n) previous trivial
  | .string s => (expands_literal _ s.literal).anything
  | .call c => expands_call c
  | .emptyList inside =>
      (((expands_sign _ (by decide)).append (expands_fresh_space inside)).append
        (expands_sign _ (by decide))).anything
  | .list items =>
      (((expands_sign _ (by decide)).append (expands_items items)).append
        (expands_sign _ (by decide))).anything
  | .emptyObject inside =>
      (((expands_sign _ (by decide)).append (expands_fresh_space inside)).append
        (expands_sign _ (by decide))).anything
  | .object members =>
      (((expands_sign _ (by decide)).append (expands_members members)).append
        (expands_sign _ (by decide))).anything

theorem expands_items : ∀ items : Items,
    Expands Fresh (items.text .unified) (items.text .expanded) Anything
  | .last lead item trail comma =>
      (((expands_fresh_space lead).append (expands_tree item)).append
        (expands_any_space trail)).append (expands_comma comma)
  | .more lead item trail rest =>
      (((expands_fresh_space lead).append (expands_tree item)).append
        (expands_any_space trail)).append ((expands_sign _ (by decide)).append (expands_items rest))

theorem expands_members : ∀ members : Members,
    Expands Fresh (members.text .unified) (members.text .expanded) Anything
  | .last label lead value trail comma =>
      ((((expands_label label).append (expands_fresh_space lead)).append (expands_tree value)).append
        (expands_any_space trail)).append (expands_comma comma)
  | .more label lead value trail rest =>
      ((((expands_label label).append (expands_fresh_space lead)).append (expands_tree value)).append
        (expands_any_space trail)).append
          ((expands_sign _ (by decide)).append (expands_members rest))

end

/-- A value with one kind of quote is rid of its calls. -/
theorem substituteCalls_text (t : Tree) : substituteCalls (t.text .unified) = t.text .expanded := by
  obtain ⟨last, -, heq⟩ := expands_tree t none rfl []
  rw [List.append_nil] at heq
  rw [substituteCalls, heq, substituteAfter, List.append_nil]

end BulkSweep.Shell

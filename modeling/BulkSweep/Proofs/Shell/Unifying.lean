import BulkSweep.Proofs.Shell.Literals

/-!
# One kind of quote

Giving a text one kind of quote changes the strings of a tree and nothing else: between them it finds
no quote, and it stands between literals again behind each of them.
-/

set_option autoImplicit false

namespace BulkSweep.Shell

open BulkSweep.Json (Form)

/-! ## Runs of text -/

/-- From one place to another, a run of text becomes another run, whatever follows it. -/
def Unifies (p : Place) (run out : List Char) (q : Place) : Prop :=
  ∀ rest, unifyFrom p (run ++ rest) = out ++ unifyFrom q rest

theorem Unifies.append {p q r : Place} {run run' out out' : List Char} (h : Unifies p run out q)
    (h' : Unifies q run' out' r) : Unifies p (run ++ run') (out ++ out') r := by
  intro rest
  rw [List.append_assoc, h, h', List.append_assoc]

theorem unifies_nil (p : Place) : Unifies p [] [] p :=
  fun _ => rfl

theorem unifies_char (p : Place) (c : Char) : Unifies p [c] (p.written c) (p.next c) :=
  fun _ => rfl

/-- A run is left alone if its characters are written as they are and lead nowhere else. -/
theorem unifies_self {p : Place} {s : List Char} (h : ∀ c ∈ s, p.written c = [c] ∧ p.next c = p) :
    Unifies p s s p := by
  induction s with
  | nil => exact unifies_nil p
  | cons c cs ih =>
      obtain ⟨hwritten, hnext⟩ := h c List.mem_cons_self
      have hchar := unifies_char p c
      rw [hwritten, hnext] at hchar
      exact hchar.append (ih fun d hd => h d (List.mem_cons_of_mem c hd))

theorem unifies_inert {s : List Char} (h : ∀ c ∈ s, Inert c) : Unifies .outside s s .outside := by
  refine unifies_self fun c hc => ?_
  have hinert := h c hc
  simp only [Inert, List.mem_cons, not_or] at hinert
  simp [Place.written, Place.next, hinert.1, hinert.2.1]

theorem unifyFrom_outside_nil : unifyFrom .outside [] = [] :=
  rfl

/-- Whatever follows it, a run of text becomes the same. -/
theorem exists_unifies (p : Place) (s : List Char) : ∃ out, Unifies p s out (p.after s) := by
  induction s generalizing p with
  | nil => exact ⟨[], unifies_nil p⟩
  | cons c cs ih =>
      obtain ⟨out, hout⟩ := ih (p.next c)
      exact ⟨p.written c ++ out, (unifies_char p c).append hout⟩

/-- If the scan stands between literals behind a run, nothing is kept back. -/
theorem unifies_of_after {p : Place} {s : List Char} (h : p.after s = .outside) :
    Unifies p s (unifyFrom p s) .outside := by
  obtain ⟨out, hout⟩ := exists_unifies p s
  rw [h] at hout
  have hself := hout []
  rw [List.append_nil, unifyFrom_outside_nil, List.append_nil] at hself
  rw [hself]
  exact hout

/-! ## Strings -/

theorem unifies_inside {s : List Char} (h : Inside s) :
    Unifies (.inDouble false) s s (.inDouble false) := by
  induction h with
  | nil => exact unifies_nil _
  | @plain c s hc _ ih =>
      obtain ⟨hquote, hslash⟩ := isPlain_iff.mp hc
      have hchar := unifies_char (.inDouble false) c
      simp only [Place.written, Place.next, hquote, hslash, if_false] at hchar
      exact hchar.append ih
  | escape c _ ih =>
      exact ((unifies_char (.inDouble false) '\\').append (unifies_char (.inDouble true) c)).append ih

/-- Literals in double quotes are left alone. -/
theorem IsLiteral.unifies {s : List Char} (h : IsLiteral s) : Unifies .outside s s .outside := by
  obtain ⟨inside, hinside, rfl⟩ := h
  exact ((unifies_char .outside '"').append (unifies_inside hinside)).append
    (unifies_char (.inDouble false) '"')

theorem unifies_single_piece (piece : Piece) :
    Unifies (.inSingle false) piece.text piece.doubled.text (.inSingle false) := by
  cases piece with
  | plain c h =>
      by_cases hquote : c = '"'
      · subst hquote
        exact unifies_char (.inSingle false) '"'
      · rw [Piece.doubled, dif_neg hquote]
        refine unifies_self (s := [c]) fun d hd => ?_
        simp [Place.written, Place.next, List.mem_singleton.mp hd, h.1, h.2.1, hquote]
  | apostrophe =>
      exact (unifies_char (.inSingle false) '\\').append (unifies_char (.inSingle true) '\'')
  | escape e =>
      have hletter := unifies_char (.inSingle true) e.letter
      have hne : e.letter ≠ '\'' := by cases e <;> decide
      simp only [Place.written, Place.next, hne, if_false] at hletter
      exact (unifies_char (.inSingle false) '\\').append hletter
  | unicode a b c d =>
      refine ((unifies_char (.inSingle false) '\\').append (unifies_char (.inSingle true) 'u')).append
        (unifies_self fun e he => ?_)
      obtain ⟨hsingle, hdouble, hslash⟩ := hexDigits_ne a b c d e he
      simp [Place.written, Place.next, hsingle, hdouble, hslash]

theorem unifies_single_body (s : List Piece) :
    Unifies (.inSingle false) (s.flatMap Piece.text) (Form.Literal.body (s.map Piece.doubled))
      (.inSingle false) := by
  induction s with
  | nil => exact unifies_nil _
  | cons piece more ih => exact (unifies_single_piece piece).append ih

theorem unifies_quoted (s : Quoted) : Unifies .outside (s.text .typed) (s.text .unified) .outside := by
  cases s with
  | double s => exact (isLiteral_text s).unifies
  | single s =>
      exact ((unifies_char .outside '\'').append (unifies_single_body s)).append
        (unifies_char (.inSingle false) '\'')

/-! ## Calls -/

theorem unifies_space (space : Form.Space) : Unifies .outside space.chars space.chars .outside :=
  unifies_inert (inert_space space)

/-- A text without quotes in quotes of either kind. -/
theorem unifies_between (kind : Quote) {s : List Char} (h : ∀ c ∈ s, c ≠ '\'' ∧ c ≠ '"' ∧ c ≠ '\\') :
    Unifies .outside (kind.char .typed :: s ++ [kind.char .typed])
      (kind.char .unified :: s ++ [kind.char .unified]) .outside := by
  cases kind with
  | double =>
      refine ((unifies_char .outside '"').append (unifies_self fun c hc => ?_)).append
        (unifies_char (.inDouble false) '"')
      simp [Place.written, Place.next, h c hc]
  | single =>
      refine ((unifies_char .outside '\'').append (unifies_self fun c hc => ?_)).append
        (unifies_char (.inSingle false) '\'')
      simp [Place.written, Place.next, h c hc]

/-- A run that holds no quotes is left alone between literals. -/
theorem unifies_outside {s : List Char} (h : ∀ c ∈ s, c ≠ '\'' ∧ c ≠ '"') :
    Unifies .outside s s .outside := by
  refine unifies_self fun c hc => ?_
  simp [Place.written, Place.next, h c hc]

theorem unifies_textCallee (callee : TextCallee) :
    Unifies .outside callee.text callee.text .outside := by
  cases callee with
  | newDate gap _ =>
      exact ((unifies_outside (by decide)).append (unifies_space gap)).append
        (unifies_outside (by decide))
  | _ => exact unifies_outside (by decide)

theorem unifies_intCallee (callee : IntCallee) :
    Unifies .outside callee.text callee.text .outside := by
  cases callee <;> exact unifies_outside (by decide)

theorem unifies_name (i : Invocation) : Unifies .outside i.name i.name .outside := by
  cases i with
  | text callee => exact unifies_textCallee callee
  | integer callee => exact unifies_intCallee callee
  | timestamp => exact unifies_outside (s := "Timestamp".toList) (by decide)

theorem unifies_arguments (i : Invocation) :
    Unifies .outside (i.arguments .typed) (i.arguments .unified) .outside := by
  cases i with
  | text callee kind argument =>
      refine unifies_between kind fun c hc => ?_
      obtain ⟨hsingle, hdouble, hslash, -⟩ := argument.isPlain c hc
      exact ⟨hsingle, hdouble, hslash⟩
  | integer callee kind argument =>
      have hinert := inert_integer argument
      cases kind with
      | none => exact unifies_inert hinert
      | some kind =>
          refine unifies_between kind fun c hc => ?_
          obtain ⟨hdouble, hslash, -⟩ := argument.isPlain c hc
          exact ⟨fun heq => absurd (heq ▸ hinert c hc) (by decide), hdouble, hslash⟩
  | timestamp seconds before after increment =>
      exact (((unifies_inert (inert_whole seconds)).append (unifies_space before)).append
        ((unifies_char .outside ',').append (unifies_space after))).append
          (unifies_inert (inert_whole increment))

theorem unifies_call (c : CallText) : Unifies .outside (c.text .typed) (c.text .unified) .outside :=
  (((((unifies_name c.invocation).append (unifies_space c.gap)).append
    ((unifies_char .outside '(').append (unifies_space c.lead))).append
      (unifies_arguments c.invocation)).append (unifies_space c.trail)).append
        (unifies_char .outside ')')

/-! ## Values -/

theorem unifies_label (label : Label) :
    Unifies .outside (label.text .typed) (label.text .unified) .outside := by
  cases label with
  | quoted lead name gap =>
      exact (((unifies_space lead).append (unifies_quoted name)).append (unifies_space gap)).append
        (unifies_char .outside ':')
  | bare lead name gap =>
      refine (((unifies_space lead).append (unifies_outside fun c hc => ?_)).append
        (unifies_space gap)).append (unifies_char .outside ':')
      have hrange := toNat_of_isKeyChar (name.isKeyChar c hc)
      constructor <;> rintro rfl <;> revert hrange <;> decide

theorem unifies_comma (comma : Option Form.Space) :
    Unifies .outside (commaText .typed comma) (commaText .unified comma) .outside := by
  cases comma with
  | none => exact unifies_nil _
  | some space => exact (unifies_char .outside ',').append (unifies_space space)

mutual

/-- The strings of a value get one kind of quote, and all else stays. -/
theorem unifies_tree : ∀ t : Tree, Unifies .outside (t.text .typed) (t.text .unified) .outside
  | .null => unifies_outside (by decide)
  | .bool true => unifies_outside (by decide)
  | .bool false => unifies_outside (by decide)
  | .number n => unifies_inert (inert_figures n)
  | .string s => unifies_quoted s
  | .call c => unifies_call c
  | .emptyList inside =>
      ((unifies_char .outside '[').append (unifies_space inside)).append (unifies_char .outside ']')
  | .list items =>
      ((unifies_char .outside '[').append (unifies_items items)).append (unifies_char .outside ']')
  | .emptyObject inside =>
      ((unifies_char .outside '{').append (unifies_space inside)).append (unifies_char .outside '}')
  | .object members =>
      ((unifies_char .outside '{').append (unifies_members members)).append (unifies_char .outside '}')

theorem unifies_items : ∀ items : Items,
    Unifies .outside (items.text .typed) (items.text .unified) .outside
  | .last lead item trail comma =>
      (((unifies_space lead).append (unifies_tree item)).append (unifies_space trail)).append
        (unifies_comma comma)
  | .more lead item trail rest =>
      (((unifies_space lead).append (unifies_tree item)).append (unifies_space trail)).append
        ((unifies_char .outside ',').append (unifies_items rest))

theorem unifies_members : ∀ members : Members,
    Unifies .outside (members.text .typed) (members.text .unified) .outside
  | .last label lead value trail comma =>
      ((((unifies_label label).append (unifies_space lead)).append (unifies_tree value)).append
        (unifies_space trail)).append (unifies_comma comma)
  | .more label lead value trail rest =>
      ((((unifies_label label).append (unifies_space lead)).append (unifies_tree value)).append
        (unifies_space trail)).append ((unifies_char .outside ',').append (unifies_members rest))

end

/-- A value that is typed gets one kind of quote. -/
theorem unifyQuotes_text (t : Tree) : unifyQuotes (t.text .typed) = t.text .unified := by
  have h := unifies_tree t []
  rw [List.append_nil] at h
  rw [unifyQuotes, h]
  exact List.append_nil _

/-! ## Whole literals -/

/-- The rest of a literal with its quote, and a closed text behind it. -/
def Closing (s : List Char) : Prop :=
  ∃ inside rest, Inside inside ∧ Closed rest ∧ s = inside ++ '"' :: rest

theorem Closing.plain {s : List Char} (h : Closing s) {c : Char} (hc : isPlain c = true) :
    Closing (c :: s) := by
  obtain ⟨inside, rest, hinside, hrest, rfl⟩ := h
  exact ⟨c :: inside, rest, .plain hc hinside, hrest, rfl⟩

theorem Closing.escape {s : List Char} (h : Closing s) (c : Char) : Closing ('\\' :: c :: s) := by
  obtain ⟨inside, rest, hinside, hrest, rfl⟩ := h
  exact ⟨'\\' :: c :: inside, rest, .escape c hinside, hrest, rfl⟩

theorem Closing.closed {s : List Char} (h : Closing s) : Closed ('"' :: s) := by
  obtain ⟨inside, rest, hinside, hrest, rfl⟩ := h
  exact .literal hinside hrest

theorem Closed.closing {s : List Char} (h : Closed s) : Closing ('"' :: s) :=
  ⟨[], s, .nil, h, rfl⟩

/-- What is written from a place on, if the scan ends between literals. -/
def Place.Closes : Place → List Char → Prop
  | outside, out => Closed out
  | inDouble true, out => ∃ c rest, Closing rest ∧ out = c :: rest
  | inDouble false, out | inSingle _, out => Closing out

theorem closes_unifyFrom {p : Place} {s : List Char} (h : p.after s = .outside) :
    p.Closes (unifyFrom p s) := by
  induction s generalizing p with
  | nil =>
      cases h
      exact Closed.nil
  | cons c cs ih =>
      have hrest := ih h
      rw [unifyFrom]
      match p with
      | .outside =>
          by_cases hdouble : c = '"'
          · subst hdouble
            exact hrest.closed
          · by_cases hsingle : c = '\''
            · subst hsingle
              exact hrest.closed
            · simp only [Place.next, Place.written, hdouble, hsingle, if_false] at hrest ⊢
              exact .plain hdouble hrest
      | .inDouble true => exact ⟨c, _, hrest, rfl⟩
      | .inDouble false =>
          by_cases hslash : c = '\\'
          · subst hslash
            obtain ⟨d, rest, hclosing, heq⟩ := hrest
            rw [heq]
            exact hclosing.escape d
          · by_cases hdouble : c = '"'
            · subst hdouble
              exact hrest.closing
            · simp only [Place.next, Place.written, hdouble, hslash, if_false] at hrest ⊢
              exact hrest.plain (isPlain_iff.mpr ⟨hdouble, hslash⟩)
      | .inSingle true =>
          by_cases hsingle : c = '\''
          · subst hsingle
            exact hrest.plain rfl
          · simp only [Place.next, Place.written, hsingle, if_false] at hrest ⊢
            exact hrest.escape c
      | .inSingle false =>
          by_cases hslash : c = '\\'
          · subst hslash
            exact hrest
          · by_cases hdouble : c = '"'
            · subst hdouble
              exact hrest.escape '"'
            · by_cases hsingle : c = '\''
              · subst hsingle
                exact hrest.closing
              · simp only [Place.next, Place.written, hdouble, hslash, hsingle, if_false] at hrest ⊢
                exact hrest.plain (isPlain_iff.mpr ⟨hdouble, hslash⟩)

/-- If the literals of a text are closed, so they are with one kind of quote. -/
theorem closed_unifyQuotes {s : List Char} (h : Place.outside.after s = .outside) :
    Closed (unifyQuotes s) :=
  closes_unifyFrom h

end BulkSweep.Shell

import BulkSweep.Proofs.Json.Form

/-!
# Reading forms

The reader answers what a form denotes, and fails if it denotes nothing.  Every reader is described in
the same way: what stands behind the part that it reads is any text that cannot continue that part, and
is left as it is.  Positions only show in failures, so nothing is said of them.
-/

set_option autoImplicit false

namespace BulkSweep.Json

open BulkSweep.Text

variable {α β : Type}

/-! ## Answers -/

/-- A reader answers a value and stands before the rest of the text; it fails if there is no value. -/
def Reads (answer : Except Failure (α × Cursor)) (value : Option α) (rest : List Char) : Prop :=
  match value with
  | some a => ∃ m, answer = .ok (a, ⟨m, rest⟩)
  | none => ∃ failure, answer = .error failure

theorem Reads.bind {answer : Except Failure (α × Cursor)} {value : Option α}
    {next : α × Cursor → Except Failure (β × Cursor)} {value' : α → Option β}
    {middle rest : List Char} (h : Reads answer value middle)
    (hnext : ∀ a m, value = some a → Reads (next (a, ⟨m, middle⟩)) (value' a) rest) :
    Reads (answer >>= next) (value.bind value') rest := by
  cases value with
  | none =>
      obtain ⟨failure, hfailure⟩ := h
      rw [hfailure]
      exact ⟨failure, rfl⟩
  | some a =>
      obtain ⟨m, hanswer⟩ := h
      rw [hanswer]
      exact hnext a m rfl

theorem Reads.map {answer : Except Failure (α × Cursor)} {value : Option α} {rest : List Char}
    (f : α → β) (h : Reads answer value rest) :
    Reads (answer >>= fun p => pure (f p.1, p.2)) (value.map f) rest := by
  rw [Option.map_eq_bind]
  exact h.bind fun a m _ => ⟨m, rfl⟩

/-! ## White space -/

/-- A text that does not begin with white space. -/
def Solid (rest : List Char) : Prop :=
  ∀ c ∈ rest.head?, Cursor.isSpace c = false

theorem Solid.cons {c : Char} (h : Cursor.isSpace c = false) (cs : List Char) : Solid (c :: cs) := by
  intro d hd
  cases hd
  exact h

theorem skipSpace_append (space : Form.Space) {rest : List Char} (h : Solid rest) (m : Mark) :
    ∃ m', (⟨m, space.chars ++ rest⟩ : Cursor).skipSpace = ⟨m', rest⟩ := by
  obtain ⟨chars, hchars⟩ := space
  induction chars generalizing m with
  | nil =>
      cases rest with
      | nil => exact ⟨m, rfl⟩
      | cons c cs => exact ⟨m, by simp [Cursor.skipSpace, Cursor.skipSpaceFrom, h c rfl]⟩
  | cons c cs ih =>
      obtain ⟨m', hm'⟩ := ih (m.past c) fun d hd => hchars d (List.mem_cons_of_mem c hd)
      refine ⟨m', ?_⟩
      simpa [Cursor.skipSpace, Cursor.skipSpaceFrom, hchars c List.mem_cons_self] using hm'

/-! ## Strings -/

theorem Form.HexDigit.hexValue_char (d : Form.HexDigit) : hexValue d.char = some d.value := by
  simp [Form.HexDigit.value]

theorem length_le_byteLength (s : List Char) : s.length ≤ byteLength s := by
  have hall : ∀ n : Nat, n + s.length ≤ s.foldl (fun n c => n + c.utf8Size) n := by
    induction s with
    | nil => exact fun n => Nat.le_refl n
    | cons c cs ih =>
        intro n
        have hstep := ih (n + c.utf8Size)
        have hsize := c.utf8Size_pos
        rw [List.length_cons, List.foldl_cons]
        omega
  simpa [byteLength] using hall 0

theorem readHexQuad_append (a b c d : Form.HexDigit) (rest : List Char) (m : Mark) :
    Reads (readHexQuad ⟨m, a.char :: b.char :: c.char :: d.char :: rest⟩)
      (some (Form.quad a b c d)) rest := by
  have hlong := length_le_byteLength (a.char :: b.char :: c.char :: d.char :: rest)
  simp only [List.length_cons] at hlong
  refine ⟨(((m.past a.char).past b.char).past c.char).past d.char, ?_⟩
  rw [readHexQuad, if_neg (by simp only; omega)]
  simp only [hexQuad, Form.HexDigit.hexValue_char]
  rfl

theorem readPairChar_append {c : Char} (cs : List Char) (m : Mark) :
    ∃ m', readPairChar c ⟨m, c :: cs⟩ = .ok ⟨m', cs⟩ :=
  ⟨m.past c, by simp [readPairChar, Cursor.advance]⟩

theorem readPairChar_of_ne {expected c : Char} (h : c ≠ expected) (cs : List Char) (m : Mark) :
    ∃ failure, readPairChar expected ⟨m, c :: cs⟩ = .error failure :=
  ⟨_, by simp only [readPairChar, if_neg h, Cursor.failNext]; rfl⟩

theorem Form.Literal.body_cons (piece : Form.Piece) (more : Form.Literal) (rest : List Char) :
    Form.Literal.body (piece :: more) ++ rest = piece.text ++ (Form.Literal.body more ++ rest) := by
  simp [Form.Literal.body]

theorem Form.Escape.letter_ne_u (e : Form.Escape) : e.letter ≠ 'u' := by
  cases e <;> decide

/-- What does not begin with a numeric escape completes no pair. -/
theorem readPair_fails {s : Form.Literal} (h : ∀ a b c d more, s ≠ .unicode a b c d :: more)
    (rest : List Char) (m : Mark) :
    ∃ failure, (readPairChar '\\' ⟨m, s.body ++ '"' :: rest⟩ >>= readPairChar 'u')
      = .error failure := by
  cases s with
  | nil => exact ⟨_, rfl⟩
  | cons piece more =>
      rw [Form.Literal.body_cons]
      cases piece with
      | plain c hplain =>
          obtain ⟨failure, hfailure⟩ :=
            readPairChar_of_ne hplain.2.1 (Form.Literal.body more ++ '"' :: rest) m
          exact ⟨failure, by simp [Form.Piece.text, hfailure, bind, Except.bind]⟩
      | escape e =>
          obtain ⟨m', hm'⟩ :=
            readPairChar_append (c := '\\') (e.letter :: (Form.Literal.body more ++ '"' :: rest)) m
          obtain ⟨failure, hfailure⟩ :=
            readPairChar_of_ne e.letter_ne_u (Form.Literal.body more ++ '"' :: rest) m'
          exact ⟨failure, by simp [Form.Piece.text, hm', hfailure, bind, Except.bind]⟩
      | unicode a b c d => exact absurd rfl (h a b c d more)

section Unicode

variable {a b c d : Form.HexDigit} {m : Mark}

theorem readUnicode_low (h : isLowSurrogate (Form.quad a b c d) = true) (rest : List Char) :
    Reads (readUnicode ⟨m, a.char :: b.char :: c.char :: d.char :: rest⟩) none rest := by
  obtain ⟨m', hquad⟩ := readHexQuad_append a b c d rest m
  exact ⟨⟨.loneSurrogate, m'⟩, by
    simp [readUnicode, hquad, h, bind, Except.bind, Cursor.fail]⟩

theorem readUnicode_single (hlow : ¬isLowSurrogate (Form.quad a b c d) = true)
    (hhigh : ¬isHighSurrogate (Form.quad a b c d) = true) (rest : List Char) :
    Reads (readUnicode ⟨m, a.char :: b.char :: c.char :: d.char :: rest⟩)
      (some (Char.ofNat (Form.quad a b c d))) rest := by
  obtain ⟨m', hquad⟩ := readHexQuad_append a b c d rest m
  exact ⟨m', by simp [readUnicode, hquad, hlow, hhigh, bind, Except.bind, pure, Except.pure]⟩

theorem readUnicode_alone (hlow : ¬isLowSurrogate (Form.quad a b c d) = true)
    (hhigh : isHighSurrogate (Form.quad a b c d) = true) {s : Form.Literal}
    (h : ∀ a b c d more, s ≠ .unicode a b c d :: more) (rest : List Char) :
    Reads (readUnicode ⟨m, a.char :: b.char :: c.char :: d.char :: (s.body ++ '"' :: rest)⟩)
      none rest := by
  obtain ⟨m', hquad⟩ := readHexQuad_append a b c d (s.body ++ '"' :: rest) m
  obtain ⟨failure, hfailure⟩ := readPair_fails h rest m'
  refine ⟨failure, ?_⟩
  cases hpair : readPairChar '\\' ⟨m', s.body ++ '"' :: rest⟩ with
  | error other =>
      simp only [hpair, bind, Except.bind, Except.error.injEq] at hfailure
      simp [readUnicode, hquad, hlow, hhigh, hpair, hfailure, bind, Except.bind]
  | ok next =>
      simp only [hpair, bind, Except.bind] at hfailure
      simp [readUnicode, hquad, hlow, hhigh, hpair, hfailure, bind, Except.bind]

theorem readUnicode_pair (hlow : ¬isLowSurrogate (Form.quad a b c d) = true)
    (hhigh : isHighSurrogate (Form.quad a b c d) = true) (a' b' c' d' : Form.HexDigit)
    (rest : List Char) :
    Reads
      (readUnicode ⟨m, a.char :: b.char :: c.char :: d.char ::
        '\\' :: 'u' :: a'.char :: b'.char :: c'.char :: d'.char :: rest⟩)
      (if isLowSurrogate (Form.quad a' b' c' d') then
        some (Char.ofNat (0x10000 + (Form.quad a b c d - 0xD800) * 0x400
          + (Form.quad a' b' c' d' - 0xDC00)))
      else none) rest := by
  obtain ⟨m₁, hquad⟩ := readHexQuad_append a b c d
    ('\\' :: 'u' :: a'.char :: b'.char :: c'.char :: d'.char :: rest) m
  obtain ⟨m₂, hslash⟩ := readPairChar_append (c := '\\')
    ('u' :: a'.char :: b'.char :: c'.char :: d'.char :: rest) m₁
  obtain ⟨m₃, hu⟩ := readPairChar_append (c := 'u')
    (a'.char :: b'.char :: c'.char :: d'.char :: rest) m₂
  obtain ⟨m₄, hquad'⟩ := readHexQuad_append a' b' c' d' rest m₃
  split
  · rename_i hlow'
    exact ⟨m₄, by
      simp [readUnicode, hquad, hlow, hhigh, hslash, hu, hquad', hlow', bind, Except.bind, pure,
        Except.pure]⟩
  · rename_i hlow'
    exact ⟨⟨.loneSurrogate, m₄⟩, by
      simp [readUnicode, hquad, hlow, hhigh, hslash, hu, hquad', hlow', bind, Except.bind,
        Cursor.fail]⟩

end Unicode

theorem readEscape_letter (e : Form.Escape) (rest : List Char) (m : Mark) :
    Reads (readEscape ⟨m, e.letter :: rest⟩) (some e.char) rest := by
  cases e <;> exact ⟨_, rfl⟩

theorem readStringFrom_plain {ch : Char} (h : Form.IsPlain ch) (fuel : Nat)
    (collected cs : List Char) (m : Mark) :
    readStringFrom (fuel + 1) collected ⟨m, ch :: cs⟩
      = readStringFrom fuel (ch :: collected) ⟨m.past ch, cs⟩ := by
  obtain ⟨hquote, hslash, hcontrol⟩ := h
  rw [readStringFrom]
  split
  · rename_i heq
    cases heq
  · rename_i heq
    exact absurd (List.head_eq_of_cons_eq heq) hquote
  · rename_i heq
    exact absurd (List.head_eq_of_cons_eq heq) hslash
  · rename_i heq
    cases heq
    rw [if_neg (by omega)]
    rfl

/-- The string of the characters before and those that are denoted. -/
def collect (collected : List Char) (chars : Option (List Char)) : Option String :=
  chars.map fun chars => String.ofList (collected.reverse ++ chars)

theorem collect_cons (collected : List Char) (ch : Char) (chars : Option (List Char)) :
    collect collected (chars.map (ch :: ·)) = collect (ch :: collected) chars := by
  simp [collect, Function.comp_def]

/-- A string goes on behind an escape that is read. -/
theorem readStringFrom_escape {fuel : Nat} {collected cs middle rest : List Char} {m : Mark}
    {ch : Char} {chars : Option (List Char)}
    (h : Reads (readEscape ⟨m.past '\\', cs⟩) (some ch) middle)
    (hnext : ∀ m', Reads (readStringFrom fuel (ch :: collected) ⟨m', middle⟩)
      (collect (ch :: collected) chars) rest) :
    Reads (readStringFrom (fuel + 1) collected ⟨m, '\\' :: cs⟩)
      (collect collected (chars.map (ch :: ·))) rest := by
  rw [collect_cons]
  obtain ⟨m', hm'⟩ := h
  change Reads (readEscape ⟨m.past '\\', cs⟩ >>= _) _ rest
  rw [hm']
  exact hnext m'

/-- A string fails with an escape that is not read. -/
theorem readStringFrom_escape_none {fuel : Nat} {collected cs middle rest : List Char} {m : Mark}
    (h : Reads (readEscape ⟨m.past '\\', cs⟩) none middle) :
    Reads (readStringFrom (fuel + 1) collected ⟨m, '\\' :: cs⟩) (collect collected none) rest := by
  obtain ⟨failure, hfailure⟩ := h
  refine ⟨failure, ?_⟩
  change (readEscape ⟨m.past '\\', cs⟩ >>= _) = _
  rw [hfailure]
  rfl

theorem Form.Piece.length_text_pos (piece : Form.Piece) : 0 < piece.text.length := by
  cases piece <;> exact Nat.succ_pos _

theorem Form.Literal.length_body_cons (piece : Form.Piece) (more : Form.Literal) :
    (Form.Literal.body (piece :: more)).length = piece.text.length + more.body.length := by
  simp [Form.Literal.body]

/-- A string is read up to its closing quote.  The induction is on its pieces, two at a time where
they form a surrogate pair. -/
theorem readStringFrom_body (s : Form.Literal) (rest : List Char) {fuel : Nat}
    (hfuel : s.body.length < fuel) (collected : List Char) (m : Mark) :
    Reads (readStringFrom fuel collected ⟨m, s.body ++ '"' :: rest⟩) (collect collected s.value?)
      rest := by
  obtain ⟨fuel, rfl⟩ : ∃ k, fuel = k + 1 := ⟨fuel - 1, by omega⟩
  fun_induction Form.Literal.value? s generalizing fuel collected m with
  | case1 => exact ⟨_, by simp [Form.Literal.body, readStringFrom, Cursor.advance]; rfl⟩
  | case2 c hplain more ih =>
      rw [Form.Literal.length_body_cons] at hfuel
      have hpositive := (Form.Piece.plain c hplain).length_text_pos
      obtain ⟨fuel, rfl⟩ : ∃ k, fuel = k + 1 := ⟨fuel - 1, by omega⟩
      rw [Form.Literal.body_cons, Form.Piece.text, List.singleton_append,
        readStringFrom_plain hplain, collect_cons]
      exact ih _ _ _ (by omega)
  | case3 e more ih =>
      rw [Form.Literal.length_body_cons] at hfuel
      have hpositive := (Form.Piece.escape e).length_text_pos
      obtain ⟨fuel, rfl⟩ : ∃ k, fuel = k + 1 := ⟨fuel - 1, by omega⟩
      rw [Form.Literal.body_cons]
      exact readStringFrom_escape (readEscape_letter e _ _) fun m' => ih _ _ _ (by omega)
  | case4 a b c d more high hlow =>
      rw [Form.Literal.body_cons]
      exact readStringFrom_escape_none (readUnicode_low hlow _)
  | case5 a b c d high hlow hhigh a' b' c' d' more low hlow' ih =>
      rw [Form.Literal.length_body_cons, Form.Literal.length_body_cons] at hfuel
      have hpositive := (Form.Piece.unicode a b c d).length_text_pos
      obtain ⟨fuel, rfl⟩ : ∃ k, fuel = k + 1 := ⟨fuel - 1, by omega⟩
      rw [Form.Literal.body_cons, Form.Literal.body_cons]
      have hpair := readUnicode_pair (m := (m.past '\\').past 'u') hlow hhigh a' b' c' d'
        (Form.Literal.body more ++ '"' :: rest)
      rw [if_pos hlow'] at hpair
      exact readStringFrom_escape hpair fun m' => ih _ _ _ (by omega)
  | case6 a b c d high hlow hhigh a' b' c' d' more low hlow' =>
      rw [Form.Literal.body_cons, Form.Literal.body_cons]
      have hpair := readUnicode_pair (m := (m.past '\\').past 'u') hlow hhigh a' b' c' d'
        (Form.Literal.body more ++ '"' :: rest)
      rw [if_neg hlow'] at hpair
      exact readStringFrom_escape_none hpair
  | case7 a b c d more high hlow hhigh hother =>
      rw [Form.Literal.body_cons]
      exact readStringFrom_escape_none (readUnicode_alone hlow hhigh hother rest)
  | case8 a b c d more high hlow hhigh ih =>
      rw [Form.Literal.length_body_cons] at hfuel
      have hpositive := (Form.Piece.unicode a b c d).length_text_pos
      obtain ⟨fuel, rfl⟩ : ∃ k, fuel = k + 1 := ⟨fuel - 1, by omega⟩
      rw [Form.Literal.body_cons]
      exact readStringFrom_escape (readUnicode_single hlow hhigh _) fun m' => ih _ _ _ (by omega)

theorem Form.Literal.text_append (s : Form.Literal) (rest : List Char) :
    s.text ++ rest = '"' :: (s.body ++ '"' :: rest) := by
  simp [Form.Literal.text]

theorem readString_body (s : Form.Literal) (rest : List Char) (m : Mark) :
    Reads (readString ⟨m, s.body ++ '"' :: rest⟩) (s.value?.map String.ofList) rest :=
  readStringFrom_body s rest (by simp only [List.length_append]; omega) [] m

/-! ## Numbers -/

/-- A text that does not begin with a digit. -/
def NoDigit (rest : List Char) : Prop :=
  ∀ c ∈ rest.head?, c.isDigit = false

/-- A text that cannot continue a number. -/
def NoFigure (rest : List Char) : Prop :=
  ∀ c ∈ rest.head?, c.isDigit = false ∧ c ≠ '.' ∧ c ≠ 'e' ∧ c ≠ 'E'

theorem NoFigure.noDigit {rest : List Char} (h : NoFigure rest) : NoDigit rest :=
  fun c hc => (h c hc).1

theorem NoDigit.cons {c : Char} (h : c.isDigit = false) (cs : List Char) : NoDigit (c :: cs) := by
  intro d hd
  cases hd
  exact h

theorem NoDigit.takeWhile {rest : List Char} (h : NoDigit rest) :
    rest.takeWhile Char.isDigit = [] ∧ rest.dropWhile Char.isDigit = rest := by
  cases rest with
  | nil => exact ⟨rfl, rfl⟩
  | cons c cs =>
      have hc := h c rfl
      simp [hc]

theorem Form.Digits.isDigit (d : Form.Digits) : ∀ c ∈ d.text, c.isDigit = true := by
  intro c hc
  rcases List.mem_cons.mp hc with rfl | hc
  · exact d.first_isDigit
  · exact d.rest_isDigit c hc

theorem readDigits_text (d : Form.Digits) {rest : List Char} (h : NoDigit rest) (m : Mark) :
    ∃ m', readDigits ⟨m, d.text ++ rest⟩ = (d.text, ⟨m', rest⟩) := by
  obtain ⟨htake, hdrop⟩ := h.takeWhile
  refine ⟨⟨m.line, m.column + d.text.length⟩, ?_⟩
  simp only [readDigits, List.takeWhile_append_of_pos d.isDigit, List.dropWhile_append_of_pos d.isDigit,
    htake, hdrop, List.append_nil]

theorem readWhole_text (w : Form.Whole) {rest : List Char} (h : NoDigit rest) (m : Mark) :
    ∃ m', readWhole ⟨m, w.text ++ rest⟩ = .ok (w.text, ⟨m', rest⟩) := by
  cases w with
  | zero =>
      refine ⟨m.past '0', ?_⟩
      cases rest with
      | nil => rfl
      | cons c cs => simp [Form.Whole.text, readWhole, h c rfl, Cursor.advance]
  | digits d hleads =>
      obtain ⟨m', hdigits⟩ := readDigits_text d h m
      refine ⟨m', ?_⟩
      rw [Form.Whole.text, ← hdigits, readWhole]
      split
      · rename_i heq
        exact absurd (List.head_eq_of_cons_eq heq) hleads
      · rename_i heq
        exact absurd (List.head_eq_of_cons_eq heq) hleads
      · rename_i heq
        rw [← List.head_eq_of_cons_eq heq, if_pos d.first_isDigit]
      · rename_i heq
        cases heq

theorem readPlaces_text (places : Option Form.Digits) {rest : List Char} (hdigit : NoDigit rest)
    (hpoint : ∀ c ∈ rest.head?, c ≠ '.') (m : Mark) :
    ∃ m', readPlaces ⟨m, Form.placesText places ++ rest⟩
      = .ok (places.map Form.Digits.text, ⟨m', rest⟩) := by
  cases places with
  | none =>
      refine ⟨m, ?_⟩
      change readPlaces ⟨m, rest⟩ = _
      rw [readPlaces]
      split
      · rename_i heq
        exact absurd rfl (hpoint '.' (by rw [show rest = _ from heq]; rfl))
      · rfl
  | some d =>
      obtain ⟨m', hdigits⟩ := readDigits_text d hdigit (m.past '.')
      refine ⟨m', ?_⟩
      change readPlaces ⟨m, '.' :: (d.text ++ rest)⟩ = _
      simp only [readPlaces, Cursor.advance, hdigits]
      rfl

theorem Form.Power.letter_eq (p : Form.Power) : p.letter = 'e' ∨ p.letter = 'E' := by
  unfold Form.Power.letter
  split
  · exact .inr rfl
  · exact .inl rfl

theorem readSign_text (p : Form.Power) (rest : List Char) (m : Mark) :
    ∃ m', readSign ⟨m, p.sign.text ++ (p.digits.text ++ rest)⟩
      = (decide (p.sign = .minus), ⟨m', p.digits.text ++ rest⟩) := by
  cases hsign : p.sign with
  | plus => exact ⟨m.past '+', rfl⟩
  | minus => exact ⟨m.past '-', rfl⟩
  | none =>
      refine ⟨m, ?_⟩
      have hdigit := p.digits.first_isDigit
      change readSign ⟨m, p.digits.text ++ rest⟩ = _
      rw [readSign]
      split
      · rename_i heq
        rw [show p.digits.first = '+' from List.head_eq_of_cons_eq heq] at hdigit
        cases hdigit
      · rename_i heq
        rw [show p.digits.first = '-' from List.head_eq_of_cons_eq heq] at hdigit
        cases hdigit
      · rfl

theorem readExponent_text (power : Option Form.Power) {rest : List Char} (h : NoFigure rest)
    (m : Mark) :
    ∃ m' place, readExponent ⟨m, Form.powerText power ++ rest⟩
      = .ok (power.map fun p => p.exponent place, ⟨m', rest⟩) := by
  cases power with
  | none =>
      refine ⟨m, m, ?_⟩
      change readExponent ⟨m, rest⟩ = _
      cases rest with
      | nil => rfl
      | cons c cs =>
          obtain ⟨-, -, he, hE⟩ := h c rfl
          simp [readExponent, he, hE]
  | some p =>
      obtain ⟨m₁, hsign⟩ := readSign_text p rest (m.past p.letter)
      obtain ⟨m₂, hdigits⟩ := readDigits_text p.digits h.noDigit m₁
      refine ⟨m₂, m₁, ?_⟩
      change readExponent ⟨m, p.letter :: (p.sign.text ++ p.digits.text) ++ rest⟩ = _
      rw [List.cons_append, List.append_assoc, readExponent]
      simp only [p.letter_eq, if_true, Cursor.advance, hsign, hdigits]
      rfl

/-- The exponent that is denoted is the same wherever it stands, its place in a failure apart. -/
theorem sumExponent_place (negative : Bool) (n : Nat) (digits : List Char) (m m' : Mark) :
    (∃ e, sumExponent negative n m digits = .exactly e ∧
      sumExponent negative n m' digits = .exactly e) ∨
    ∃ place place', sumExponent negative n m digits = .beyond negative place ∧
      sumExponent negative n m' digits = .beyond negative place' := by
  induction digits generalizing n m m' with
  | nil => exact .inl ⟨_, rfl, rfl⟩
  | cons d ds ih =>
      simp only [sumExponent]
      split
      · exact ih _ _ _
      · exact .inr ⟨_, _, rfl, rfl⟩

/-- The number that is denoted is the same wherever it stands. -/
theorem Form.Figures.value?_place (n : Form.Figures) (m : Mark) :
    ((n.numeral m).value n.negative).toOption = n.value? := by
  obtain ⟨negative, whole, places, power⟩ := n
  cases power with
  | none => rfl
  | some p =>
      have hscaled : ∀ signed significand scale,
          (Numeral.value.scaledNumber signed significand scale (some (p.exponent m))).toOption
            = (Numeral.value.scaledNumber signed significand scale
                (some (p.exponent .start))).toOption := by
        intro signed significand scale
        obtain ⟨e, hm, hstart⟩ | ⟨place, place', hm, hstart⟩ :=
          sumExponent_place (p.sign = .minus) 0 p.digits.text m .start
        · simp only [Form.Power.exponent, hm, hstart]
        · simp only [Form.Power.exponent, hm, hstart, Numeral.value.scaledNumber]
          split <;> rfl
      cases places with
      | none =>
          simp only [Form.Figures.value?, Form.Figures.numeral, Numeral.value]
          exact hscaled _ _ _
      | some d =>
          simp only [Form.Figures.value?, Form.Figures.numeral, Numeral.value]
          exact hscaled _ _ _

/-- What follows the digits before the point cannot continue them. -/
theorem noDigit_powerText (power : Option Form.Power) {rest : List Char} (h : NoFigure rest) :
    NoDigit (Form.powerText power ++ rest) ∧ ∀ c ∈ (Form.powerText power ++ rest).head?, c ≠ '.' := by
  cases power with
  | none => exact ⟨h.noDigit, fun c hc => (h c hc).2.1⟩
  | some p =>
      have hletter : p.letter.isDigit = false ∧ p.letter ≠ '.' := by
        rcases p.letter_eq with he | hE
        · rw [he]
          decide
        · rw [hE]
          decide
      exact ⟨NoDigit.cons hletter.1 _, by rintro c ⟨⟩; exact hletter.2⟩

theorem noDigit_placesText (places : Option Form.Digits) {rest : List Char} (h : NoDigit rest) :
    NoDigit (Form.placesText places ++ rest) := by
  cases places with
  | none => exact h
  | some d => exact NoDigit.cons (by decide) _

theorem readUnsigned_text (n : Form.Figures) {rest : List Char} (h : NoFigure rest) (m : Mark) :
    Reads (readUnsigned n.negative
      ⟨m, n.whole.text ++ (Form.placesText n.places ++ (Form.powerText n.power ++ rest))⟩)
      n.value? rest := by
  obtain ⟨hdigit, hpoint⟩ := noDigit_powerText n.power h
  obtain ⟨m₁, hwhole⟩ := readWhole_text n.whole (noDigit_placesText n.places hdigit) m
  obtain ⟨m₂, hplaces⟩ := readPlaces_text n.places hdigit hpoint m₁
  obtain ⟨m₃, place, hpower⟩ := readExponent_text n.power h m₂
  have hvalue := n.value?_place place
  have hnumeral : (⟨n.whole.text, n.places.map Form.Digits.text,
      n.power.map fun p => p.exponent place⟩ : Numeral) = n.numeral place := rfl
  simp only [readUnsigned, hwhole, hplaces, hpower, bind, Except.bind, hnumeral]
  rw [← hvalue]
  cases (n.numeral place).value n.negative with
  | ok value => exact ⟨m₃, rfl⟩
  | error mark => exact ⟨_, rfl⟩

theorem Form.Figures.text_append (n : Form.Figures) (rest : List Char) :
    n.text ++ rest = (if n.negative then ['-'] else []) ++ (n.whole.text ++
      (Form.placesText n.places ++ (Form.powerText n.power ++ rest))) := by
  simp [Form.Figures.text]

theorem Form.Whole.text_head (w : Form.Whole) :
    ∃ c cs, w.text = c :: cs ∧ c.isDigit = true := by
  cases w with
  | zero => exact ⟨'0', [], rfl, rfl⟩
  | digits d hleads => exact ⟨d.first, d.rest, rfl, d.first_isDigit⟩

theorem Form.Figures.text_head (n : Form.Figures) :
    ∃ c cs, n.text = c :: cs ∧ (c = '-' ∨ c.isDigit = true) := by
  obtain ⟨c, cs, hwhole, hdigit⟩ := n.whole.text_head
  have htext := n.text_append []
  rw [List.append_nil] at htext
  cases hnegative : n.negative with
  | true => exact ⟨'-', _, by rw [htext, hnegative]; rfl, .inl rfl⟩
  | false => exact ⟨c, _, by rw [htext, hnegative, hwhole]; rfl, .inr hdigit⟩

theorem readNumber_text (n : Form.Figures) {rest : List Char} (h : NoFigure rest) (m : Mark) :
    Reads (readNumber ⟨m, n.text ++ rest⟩) n.value? rest := by
  rw [n.text_append]
  cases hnegative : n.negative with
  | true =>
      have hread := readUnsigned_text n h (m.past '-')
      rw [hnegative] at hread
      exact hread
  | false =>
      have hread := readUnsigned_text n h m
      rw [hnegative] at hread
      obtain ⟨c, cs, hwhole, hdigit⟩ := n.whole.text_head
      rw [hwhole] at hread ⊢
      change Reads (readNumber ⟨m, c :: _⟩) _ _
      rw [readNumber]
      split
      · rename_i heq
        rw [List.head_eq_of_cons_eq heq] at hdigit
        cases hdigit
      · exact hread

/-! ## Between values -/

/-- A character that can begin a value. -/
def Begins (c : Char) : Prop :=
  c ∈ ['n', 't', 'f', '"', '[', '{', '-'] ∨ c.isDigit = true

instance (c : Char) : Decidable (Begins c) :=
  inferInstanceAs (Decidable (_ ∨ _))

theorem ne_of_isDigit {c d : Char} (hc : c.isDigit = true) (hd : d.isDigit = false) : c ≠ d := by
  rintro rfl
  rw [hc] at hd
  cases hd

theorem Begins.isSpace {c : Char} (h : Begins c) : Cursor.isSpace c = false := by
  rcases h with h | h
  · revert c
    decide
  · simp [Cursor.isSpace, ne_of_isDigit h]

/-- What begins a value does not end or continue a list or an object. -/
theorem Begins.ne {c : Char} (h : Begins c) : c ≠ ']' ∧ c ≠ '}' ∧ c ≠ ',' ∧ c ≠ ':' := by
  rcases h with h | h
  · revert c
    decide
  · exact ⟨ne_of_isDigit h rfl, ne_of_isDigit h rfl, ne_of_isDigit h rfl, ne_of_isDigit h rfl⟩

theorem Form.text_head (f : Form) : ∃ c cs, f.text = c :: cs ∧ Begins c := by
  cases f with
  | null => exact ⟨_, _, rfl, by decide⟩
  | bool b => cases b <;> exact ⟨_, _, rfl, by decide⟩
  | number n =>
      obtain ⟨c, cs, htext, hc⟩ := n.text_head
      refine ⟨c, cs, htext, ?_⟩
      rcases hc with rfl | hc
      · decide
      · exact .inr hc
  | string s => exact ⟨'"', _, rfl, by decide⟩
  | emptyList inside => exact ⟨'[', _, rfl, by decide⟩
  | list items => exact ⟨'[', _, rfl, by decide⟩
  | emptyObject inside => exact ⟨'{', _, rfl, by decide⟩
  | object members => exact ⟨'{', _, rfl, by decide⟩

/-- White space in front of a value is skipped. -/
theorem readValue_skip (space : Form.Space) {rest : List Char} (h : Solid rest)
    (fuel depth : Nat) (m : Mark) :
    ∃ m', readValue (fuel + 1) depth ⟨m, space.chars ++ rest⟩
      = readValue (fuel + 1) depth ⟨m', rest⟩ := by
  obtain ⟨m₁, hspace⟩ := skipSpace_append space h m
  obtain ⟨m₂, hnone⟩ := skipSpace_append .none h m₁
  change (⟨m₁, rest⟩ : Cursor).skipSpace = _ at hnone
  have hmark : m₂ = m₁ := by
    cases rest with
    | nil => cases hnone; rfl
    | cons c cs =>
        simp only [Cursor.skipSpace, Cursor.skipSpaceFrom, h c rfl] at hnone
        cases hnone
        rfl
  refine ⟨m₁, ?_⟩
  rw [readValue, readValue, hspace, hnone, hmark]

/-- The comma after an item or a member, with the white space before it; nothing before the first
one. -/
def separator (first : Bool) (trail : Form.Space) : List Char :=
  if first then [] else trail.chars ++ [',']

theorem nextItem_begins (first : Bool) (trail lead : Form.Space) {c : Char} (h : Begins c)
    (cs : List Char) (m : Mark) :
    ∃ m', nextItem first ⟨m, separator first trail ++ (lead.chars ++ c :: cs)⟩
      = .ok (some ⟨m', c :: cs⟩, ⟨m', c :: cs⟩) := by
  obtain ⟨hbracket, -, hcomma, -⟩ := h.ne
  have hsolid : Solid (c :: cs) := Solid.cons h.isSpace cs
  cases first with
  | true =>
      obtain ⟨m', hlead⟩ := skipSpace_append lead hsolid m
      refine ⟨m', ?_⟩
      change nextItem true ⟨m, lead.chars ++ c :: cs⟩ = _
      simp only [nextItem, hlead, if_true]
      split
      · rename_i heq
        cases heq
      · rename_i heq
        exact absurd (List.head_eq_of_cons_eq heq) hbracket
      · rfl
      · rfl
  | false =>
      have hmiddle : Solid (',' :: (lead.chars ++ c :: cs)) := Solid.cons rfl _
      obtain ⟨m₁, htrail⟩ := skipSpace_append trail hmiddle m
      obtain ⟨m₂, hlead⟩ := skipSpace_append lead hsolid (m₁.past ',')
      refine ⟨m₂, ?_⟩
      have htext : separator false trail ++ (lead.chars ++ c :: cs)
          = trail.chars ++ (',' :: (lead.chars ++ c :: cs)) := by simp [separator]
      rw [htext]
      simp only [nextItem, htrail, Cursor.advance, hlead, Bool.false_eq_true, if_false]
      split
      · rename_i heq
        cases heq
      · rename_i heq
        exact absurd (List.head_eq_of_cons_eq heq) hbracket
      · rfl

theorem nextItem_ends (first : Bool) (space : Form.Space) (rest : List Char) (m : Mark) :
    ∃ m', nextItem first ⟨m, space.chars ++ ']' :: rest⟩ = .ok (none, ⟨m', rest⟩) := by
  obtain ⟨m', hspace⟩ := skipSpace_append space (Solid.cons (c := ']') rfl rest) m
  exact ⟨m'.past ']', by simp only [nextItem, hspace]; rfl⟩

theorem nextMember_name (first : Bool) (trail lead : Form.Space) (cs : List Char) (m : Mark) :
    ∃ m', nextMember first ⟨m, separator first trail ++ (lead.chars ++ '"' :: cs)⟩
      = .ok (some ⟨m', '"' :: cs⟩, ⟨m', '"' :: cs⟩) := by
  have hsolid : Solid ('"' :: cs) := Solid.cons rfl cs
  cases first with
  | true =>
      obtain ⟨m', hlead⟩ := skipSpace_append lead hsolid m
      refine ⟨m', ?_⟩
      change nextMember true ⟨m, lead.chars ++ '"' :: cs⟩ = _
      simp only [nextMember, hlead, if_true]
      rfl
  | false =>
      have hmiddle : Solid (',' :: (lead.chars ++ '"' :: cs)) := Solid.cons rfl _
      obtain ⟨m₁, htrail⟩ := skipSpace_append trail hmiddle m
      obtain ⟨m₂, hlead⟩ := skipSpace_append lead hsolid (m₁.past ',')
      refine ⟨m₂, ?_⟩
      have htext : separator false trail ++ (lead.chars ++ '"' :: cs)
          = trail.chars ++ (',' :: (lead.chars ++ '"' :: cs)) := by simp [separator]
      rw [htext]
      simp only [nextMember, htrail, Cursor.advance, hlead, Bool.false_eq_true, if_false]
      rfl

theorem nextMember_ends (first : Bool) (space : Form.Space) (rest : List Char) (m : Mark) :
    ∃ m', nextMember first ⟨m, space.chars ++ '}' :: rest⟩ = .ok (none, ⟨m', rest⟩) := by
  obtain ⟨m', hspace⟩ := skipSpace_append space (Solid.cons (c := '}') rfl rest) m
  exact ⟨m'.past '}', by simp only [nextMember, hspace]; rfl⟩

theorem readColon_append (gap : Form.Space) (rest : List Char) (m : Mark) :
    ∃ m', readColon ⟨m, gap.chars ++ ':' :: rest⟩ = .ok ⟨m', rest⟩ := by
  obtain ⟨m', hspace⟩ := skipSpace_append gap (Solid.cons (c := ':') rfl rest) m
  exact ⟨m'.past ':', by simp only [readColon, hspace]; rfl⟩

/-! ## Values -/

/-- White space and then a mark of a list or an object cannot continue a number. -/
theorem noFigure_space (space : Form.Space) {rest : List Char} (h : NoFigure rest) :
    NoFigure (space.chars ++ rest) := by
  obtain ⟨chars, hchars⟩ := space
  cases chars with
  | nil => exact h
  | cons c cs =>
      rintro d ⟨⟩
      have hspace := hchars c List.mem_cons_self
      revert hspace
      simp only [Cursor.isSpace, Bool.or_eq_true, beq_iff_eq]
      rintro (((rfl | rfl) | rfl) | rfl) <;> decide

theorem noFigure_cons {c : Char} (h : c = ',' ∨ c = ']' ∨ c = '}') (cs : List Char) :
    NoFigure (c :: cs) := by
  rintro d ⟨⟩
  rcases h with rfl | rfl | rfl <;> decide

/-- A value with white space in front is read as the value without. -/
theorem readValue_lead (f : Form) (lead : Form.Space) {rest : List Char} {fuel : Nat}
    (hfuel : 2 * f.text.length ≤ fuel) {depth : Nat} {value : Option Json}
    (h : ∀ k m, 2 * f.text.length ≤ k + 1 →
      Reads (readValue (k + 1) depth ⟨m, f.text ++ rest⟩) value rest) (m : Mark) :
    Reads (readValue fuel depth ⟨m, lead.chars ++ (f.text ++ rest)⟩) value rest := by
  obtain ⟨c, cs, htext, hbegins⟩ := f.text_head
  have hsolid : Solid (f.text ++ rest) := by
    rw [htext]
    exact Solid.cons hbegins.isSpace _
  obtain ⟨k, rfl⟩ : ∃ k, fuel = k + 1 := by
    rw [htext, List.length_cons] at hfuel
    exact ⟨fuel - 1, by omega⟩
  obtain ⟨m', hskip⟩ := readValue_skip lead hsolid k depth m
  rw [hskip]
  exact h k m' hfuel

theorem readValue_figures (n : Form.Figures) {rest : List Char} (h : NoFigure rest)
    (fuel depth : Nat) (m : Mark) :
    Reads (readValue (fuel + 1) depth ⟨m, n.text ++ rest⟩) (n.value?.map .number) rest := by
  obtain ⟨c, cs, htext, hc⟩ := n.text_head
  have hread := (readNumber_text n h m).map Json.number
  rw [htext] at hread ⊢
  have hspace : Cursor.isSpace c = false := by
    rcases hc with rfl | hc
    · rfl
    · exact Begins.isSpace (.inr hc)
  have hskip : (⟨m, c :: cs ++ rest⟩ : Cursor).skipSpace = ⟨m, c :: cs ++ rest⟩ := by
    simp [Cursor.skipSpace, Cursor.skipSpaceFrom, hspace]
  -- the first character leaves only the branch of numbers
  have hother : ∀ d ∈ ['n', 't', 'f', '"', '[', '{'], c ≠ d := by
    intro d hd
    rcases hc with rfl | hc
    · revert d
      decide
    · refine ne_of_isDigit hc ?_
      revert d
      decide
  rw [readValue, hskip]
  split
  · rename_i heq
    cases heq
  iterate 6
    · rename_i heq
      exact absurd (List.head_eq_of_cons_eq heq) (hother _ (by decide))
  · rename_i next _ _ _ _ _ _ _ heq
    rw [← List.head_eq_of_cons_eq heq, if_pos hc]
    exact hread

/-- A list is read as its items are. -/
theorem readValue_bracket {fuel depth : Nat} {cs rest : List Char} {m : Mark}
    {items : Option (List Json)}
    (h : Reads (readItems fuel (depth - 1) true ⟨m.past '[', cs⟩) items rest) :
    Reads (readValue (fuel + 1) depth ⟨m, '[' :: cs⟩)
      (if depth ≤ 1 then none else items.map .array) rest := by
  by_cases hdepth : depth ≤ 1
  · rw [if_pos hdepth]
    refine ⟨⟨.tooDeep, m.overByte '['⟩, ?_⟩
    change (if depth ≤ 1 then _ else _) = _
    rw [if_pos hdepth]
    rfl
  · rw [if_neg hdepth]
    change Reads (if depth ≤ 1 then _ else _) _ _
    rw [if_neg hdepth]
    exact h.map Json.array

/-- An object is read as its members are. -/
theorem readValue_brace {fuel depth : Nat} {cs rest : List Char} {m : Mark}
    {members : Option (List (String × Json))}
    (h : Reads (readMembers fuel (depth - 1) true ⟨m.past '{', cs⟩) members rest) :
    Reads (readValue (fuel + 1) depth ⟨m, '{' :: cs⟩)
      (if depth ≤ 1 then none
      else members.map fun all =>
        .object (all.foldl (fun all (name, value) => setMember all name value) [])) rest := by
  by_cases hdepth : depth ≤ 1
  · rw [if_pos hdepth]
    refine ⟨⟨.tooDeep, m.overByte '{'⟩, ?_⟩
    change (if depth ≤ 1 then _ else _) = _
    rw [if_pos hdepth]
    rfl
  · rw [if_neg hdepth]
    change Reads (if depth ≤ 1 then _ else _) _ _
    rw [if_neg hdepth]
    exact h.map fun all =>
      Json.object (all.foldl (fun all (name, value) => setMember all name value) [])

/-- Items are read one after another. -/
theorem readItems_cons (item : Form) {fuel depth : Nat} {first : Bool} {trail lead : Form.Space}
    {cs rest : List Char} {m : Mark} {value : Option Json} {values : Option (List Json)}
    (hitem : ∀ m, Reads (readValue fuel depth ⟨m, item.text ++ cs⟩) value cs)
    (hitems : ∀ m, Reads (readItems fuel depth false ⟨m, cs⟩) values rest) :
    Reads (readItems (fuel + 1) depth first
      ⟨m, separator first trail ++ (lead.chars ++ (item.text ++ cs))⟩)
      (value.bind fun value => values.map (value :: ·)) rest := by
  obtain ⟨c, more, htext, hbegins⟩ := item.text_head
  rw [htext, List.cons_append] at hitem ⊢
  obtain ⟨m', hnext⟩ := nextItem_begins first trail lead hbegins (more ++ cs) m
  rw [readItems, hnext]
  exact (hitem m').bind fun value m _ => (hitems m).map (value :: ·)

/-- Items end at the closing bracket. -/
theorem readItems_nil (fuel depth : Nat) (first : Bool) (space : Form.Space) (rest : List Char)
    (m : Mark) :
    Reads (readItems (fuel + 1) depth first ⟨m, space.chars ++ ']' :: rest⟩) (some []) rest := by
  obtain ⟨m', hnext⟩ := nextItem_ends first space rest m
  rw [readItems, hnext]
  exact ⟨m', rfl⟩

/-- Members are read one after another. -/
theorem readMembers_cons {fuel depth : Nat} {first : Bool} {trail : Form.Space} {label : Form.Label}
    (cs : List Char) {text rest : List Char} {m : Mark} {value : Option Json}
    {members : Option (List (String × Json))}
    (hvalue : ∀ m, Reads (readValue fuel depth ⟨m, text⟩) value cs)
    (hmembers : ∀ m, Reads (readMembers fuel depth false ⟨m, cs⟩) members rest) :
    Reads (readMembers (fuel + 1) depth first
      ⟨m, separator first trail ++ (label.text ++ text)⟩)
      (label.name.value?.bind fun name => value.bind fun value =>
        members.map ((String.ofList name, value) :: ·)) rest := by
  have htext : label.text ++ text = label.lead.chars ++
      ('"' :: (label.name.body ++ '"' :: (label.gap.chars ++ ':' :: text))) := by
    simp [Form.Label.text, Form.Literal.text]
  obtain ⟨m₁, hnext⟩ := nextMember_name first trail label.lead
    (label.name.body ++ '"' :: (label.gap.chars ++ ':' :: text)) m
  rw [htext, readMembers, hnext]
  have hname := readString_body label.name (label.gap.chars ++ ':' :: text) (m₁.past '"')
  have hrest : ∀ name m, Reads
      (readColon ⟨m, label.gap.chars ++ ':' :: text⟩ >>= fun c =>
        readValue fuel depth c >>= fun p =>
          readMembers fuel depth false p.2 >>= fun q => pure ((name, p.1) :: q.1, q.2))
      (value.bind fun value => members.map ((name, value) :: ·)) rest := by
    intro name m
    obtain ⟨m', hcolon⟩ := readColon_append label.gap text m
    rw [hcolon]
    exact (hvalue m').bind fun value m _ => (hmembers m).map ((name, value) :: ·)
  have hall : Reads
      (readString ⟨m₁.past '"', label.name.body ++ '"' :: (label.gap.chars ++ ':' :: text)⟩ >>=
        fun n => readColon n.2 >>= fun c => readValue fuel depth c >>= fun p =>
          readMembers fuel depth false p.2 >>= fun q => pure ((n.1, p.1) :: q.1, q.2))
      ((label.name.value?.map String.ofList).bind fun name =>
        value.bind fun value => members.map ((name, value) :: ·)) rest :=
    hname.bind fun name m _ => hrest name m
  rw [Option.map_eq_bind, Option.bind_assoc] at hall
  exact hall

/-- Members end at the closing brace. -/
theorem readMembers_nil (fuel depth : Nat) (first : Bool) (space : Form.Space) (rest : List Char)
    (m : Mark) :
    Reads (readMembers (fuel + 1) depth first ⟨m, space.chars ++ '}' :: rest⟩) (some []) rest := by
  obtain ⟨m', hnext⟩ := nextMember_ends first space rest m
  rw [readMembers, hnext]
  exact ⟨m', rfl⟩

mutual

/-- Forms are read as what they denote, in front of anything that cannot continue a number.  Each level
takes two steps of fuel and has two characters of its own. -/
theorem readValue_text : ∀ (f : Form) (lead : Form.Space) {rest : List Char} (_ : NoFigure rest)
    {fuel : Nat} (_ : 2 * f.text.length ≤ fuel) (depth : Nat) (m : Mark),
    Reads (readValue fuel depth ⟨m, lead.chars ++ (f.text ++ rest)⟩) (f.value? depth) rest
  | .null, lead, rest, h, fuel, hfuel, depth, m => by
      refine readValue_lead .null lead hfuel (fun k m _ => ?_) m
      exact ⟨_, rfl⟩
  | .bool true, lead, rest, h, fuel, hfuel, depth, m => by
      refine readValue_lead (.bool true) lead hfuel (fun k m _ => ?_) m
      exact ⟨_, rfl⟩
  | .bool false, lead, rest, h, fuel, hfuel, depth, m => by
      refine readValue_lead (.bool false) lead hfuel (fun k m _ => ?_) m
      exact ⟨_, rfl⟩
  | .number n, lead, rest, h, fuel, hfuel, depth, m =>
      readValue_lead (.number n) lead hfuel (fun k m _ => readValue_figures n h k depth m) m
  | .string s, lead, rest, h, fuel, hfuel, depth, m => by
      refine readValue_lead (.string s) lead hfuel (fun k m _ => ?_) m
      rw [Form.text, s.text_append]
      have hread := (readString_body s rest (m.past '"')).map Json.string
      rw [Option.map_map] at hread
      exact hread
  | .emptyList inside, lead, rest, h, fuel, hfuel, depth, m => by
      refine readValue_lead (.emptyList inside) lead hfuel (fun k m hk => ?_) m
      simp only [Form.text, List.length_append, List.length_cons, List.length_nil] at hk
      obtain ⟨k, rfl⟩ : ∃ j, k = j + 1 := ⟨k - 1, by omega⟩
      simp only [Form.text, List.cons_append, List.append_assoc, List.nil_append]
      exact readValue_bracket (readItems_nil k (depth - 1) true inside rest _)
  | .list items, lead, rest, h, fuel, hfuel, depth, m => by
      refine readValue_lead (.list items) lead hfuel (fun k m hk => ?_) m
      simp only [Form.text, List.length_append, List.length_cons, List.length_nil] at hk
      simp only [Form.text, List.cons_append, List.append_assoc, List.nil_append]
      exact readValue_bracket (readItems_text items true .none rest (by omega) (depth - 1) _)
  | .emptyObject inside, lead, rest, h, fuel, hfuel, depth, m => by
      refine readValue_lead (.emptyObject inside) lead hfuel (fun k m hk => ?_) m
      simp only [Form.text, List.length_append, List.length_cons, List.length_nil] at hk
      obtain ⟨k, rfl⟩ : ∃ j, k = j + 1 := ⟨k - 1, by omega⟩
      simp only [Form.text, List.cons_append, List.append_assoc, List.nil_append]
      exact readValue_brace (readMembers_nil k (depth - 1) true inside rest _)
  | .object members, lead, rest, h, fuel, hfuel, depth, m => by
      refine readValue_lead (.object members) lead hfuel (fun k m hk => ?_) m
      simp only [Form.text, List.length_append, List.length_cons, List.length_nil] at hk
      simp only [Form.text, List.cons_append, List.append_assoc, List.nil_append]
      exact readValue_brace (readMembers_text members true .none rest (by omega) (depth - 1) _)

theorem readItems_text : ∀ (items : Form.Items) (first : Bool) (trail : Form.Space)
    (rest : List Char) {fuel : Nat} (_ : 2 * items.text.length + 3 ≤ fuel) (depth : Nat) (m : Mark),
    Reads (readItems fuel depth first
      ⟨m, separator first trail ++ (items.text ++ ']' :: rest)⟩) (items.values? depth) rest
  | .last lead item trail', first, trail, rest, fuel, hfuel, depth, m => by
      simp only [Form.Items.text, List.length_append] at hfuel
      obtain ⟨k, rfl⟩ : ∃ k, fuel = k + 2 := ⟨fuel - 2, by omega⟩
      simp only [Form.Items.text, List.append_assoc, Form.Items.values?, Option.map_eq_bind]
      have hend : NoFigure (trail'.chars ++ ']' :: rest) :=
        noFigure_space trail' (noFigure_cons (.inr (.inl rfl)) rest)
      change Reads _ ((item.value? depth).bind fun value => (some []).map (value :: ·)) rest
      refine readItems_cons item (fun m => ?_) fun m => ?_
      · exact readValue_text item .none hend (by omega) depth m
      · exact readItems_nil k depth false trail' rest m
  | .more lead item trail' more, first, trail, rest, fuel, hfuel, depth, m => by
      simp only [Form.Items.text, List.length_append, List.length_cons] at hfuel
      obtain ⟨k, rfl⟩ : ∃ k, fuel = k + 1 := ⟨fuel - 1, by omega⟩
      simp only [Form.Items.text, List.append_assoc, List.cons_append, Form.Items.values?]
      have hcomma : NoFigure (trail'.chars ++ ',' :: (more.text ++ ']' :: rest)) :=
        noFigure_space trail' (noFigure_cons (.inl rfl) _)
      refine readItems_cons item (fun m => ?_) fun m => ?_
      · exact readValue_text item .none hcomma (by omega) depth m
      · have hmore := readItems_text more false trail' rest (show _ ≤ k by omega) depth m
        simpa [separator] using hmore

theorem readMembers_text : ∀ (members : Form.Members) (first : Bool) (trail : Form.Space)
    (rest : List Char) {fuel : Nat} (_ : 2 * members.text.length + 3 ≤ fuel) (depth : Nat) (m : Mark),
    Reads (readMembers fuel depth first
      ⟨m, separator first trail ++ (members.text ++ '}' :: rest)⟩) (members.values? depth) rest
  | .last label lead value trail', first, trail, rest, fuel, hfuel, depth, m => by
      simp only [Form.Members.text, List.length_append] at hfuel
      obtain ⟨k, rfl⟩ : ∃ k, fuel = k + 2 := ⟨fuel - 2, by omega⟩
      simp only [Form.Members.text, List.append_assoc, Form.Members.values?, Option.map_eq_bind]
      have hend : NoFigure (trail'.chars ++ '}' :: rest) :=
        noFigure_space trail' (noFigure_cons (.inr (.inr rfl)) rest)
      change Reads _ (label.name.value?.bind fun name => (value.value? depth).bind fun value =>
        (some []).map ((String.ofList name, value) :: ·)) rest
      refine readMembers_cons (trail'.chars ++ '}' :: rest) (fun m => ?_) fun m => ?_
      · exact readValue_text value lead hend (by omega) depth m
      · exact readMembers_nil k depth false trail' rest m
  | .more label lead value trail' more, first, trail, rest, fuel, hfuel, depth, m => by
      simp only [Form.Members.text, List.length_append, List.length_cons] at hfuel
      obtain ⟨k, rfl⟩ : ∃ k, fuel = k + 1 := ⟨fuel - 1, by omega⟩
      simp only [Form.Members.text, List.append_assoc, List.cons_append, Form.Members.values?]
      have hcomma : NoFigure (trail'.chars ++ ',' :: (more.text ++ '}' :: rest)) :=
        noFigure_space trail' (noFigure_cons (.inl rfl) _)
      refine readMembers_cons (trail'.chars ++ ',' :: (more.text ++ '}' :: rest)) (fun m => ?_)
        fun m => ?_
      · exact readValue_text value lead hcomma (by omega) depth m
      · have hmore := readMembers_text more false trail' rest (show _ ≤ k by omega) depth m
        simpa [separator] using hmore

end

/-- The reader answers what a text denotes, and nothing if it denotes nothing. -/
theorem read_form (form : Form) :
    (read (String.ofList form.text)).toOption = form.value? maxDepth := by
  have hlong : 2 * form.text.length ≤ 2 * (String.ofList form.text).length + 2 := by simp
  have hread := readValue_text form .none (show NoFigure [] from nofun) hlong maxDepth .start
  rw [List.append_nil] at hread
  simp only [read, Cursor.start, String.toList_ofList]
  cases hvalue : form.value? maxDepth with
  | none =>
      rw [hvalue] at hread
      obtain ⟨failure, hfailure⟩ := hread
      change readValue _ _ ⟨.start, form.text⟩ = _ at hfailure
      rw [hfailure]
      rfl
  | some value =>
      rw [hvalue] at hread
      obtain ⟨m, hanswer⟩ := hread
      change readValue _ _ ⟨.start, form.text⟩ = _ at hanswer
      rw [hanswer]
      rfl

end BulkSweep.Json

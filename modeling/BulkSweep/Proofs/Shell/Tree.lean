import BulkSweep.Proofs.Json.Form
import BulkSweep.Shell.Normalize

/-!
# The grammar of shell text

A tree is a piece of shell text taken apart, as a form is for JSON.  Beyond JSON it has bare keys,
single quotes, constructor calls and trailing commas.  A tree has a text for each stage on the way to
its strict form: as it is typed, with one kind of quote, without calls, and tidied.  What it stands for
is a form, said here without the scans that bring it there.
-/

set_option autoImplicit false

namespace BulkSweep.Shell

open BulkSweep.Json (Form)

/-- How far a text has come on the way to its strict form. -/
inductive Stage where
  /-- as it was typed -/
  | typed
  /-- with one kind of quote -/
  | unified
  /-- without calls -/
  | expanded
  /-- without bare keys and trailing commas -/
  | tidied
  deriving DecidableEq, Repr

/-! ## Strings -/

/-- A piece of a string in single quotes. -/
inductive Piece where
  /-- a character that stands for itself, a double quote among them -/
  | plain (c : Char) (isPlain : c ≠ '\'' ∧ c ≠ '\\' ∧ 0x20 ≤ c.toNat)
  /-- a single quote with a backslash in front -/
  | apostrophe
  /-- a backslash with one more character -/
  | escape (e : Form.Escape)
  /-- `\u` with four digits -/
  | unicode (a b c d : Form.HexDigit)

/-- The text of a piece in single quotes. -/
def Piece.text : Piece → List Char
  | plain c _ => [c]
  | apostrophe => ['\\', '\'']
  | escape e => (Form.Piece.escape e).text
  | unicode a b c d => (Form.Piece.unicode a b c d).text

/-- A piece as it is written in double quotes. -/
def Piece.doubled : Piece → Form.Piece
  | plain c isPlain => if h : c = '"' then .escape .quote else .plain c ⟨h, isPlain.2⟩
  | apostrophe => .plain '\'' (by decide)
  | escape e => .escape e
  | unicode a b c d => .unicode a b c d

/-- A string in quotes of either kind. -/
inductive Quoted where
  | double (s : Form.Literal)
  | single (s : List Piece)

/-- The string in double quotes. -/
def Quoted.literal : Quoted → Form.Literal
  | double s => s
  | single s => s.map Piece.doubled

/-- The text of a string at a stage. -/
def Quoted.text : Stage → Quoted → List Char
  | .typed, .single s => '\'' :: s.flatMap Piece.text ++ ['\'']
  | _, s => s.literal.text

/-- A string of characters that stand for themselves. -/
def plainLiteral (s : List Char) (h : ∀ c ∈ s, Form.IsPlain c) : Form.Literal :=
  s.pmap Form.Piece.plain h

/-- A hexadecimal digit is neither a quote nor a backslash. -/
theorem hexDigit_ne (d : Form.HexDigit) : d.char ≠ '\'' ∧ d.char ≠ '"' ∧ d.char ≠ '\\' := by
  obtain ⟨c, hc⟩ := d
  refine ⟨?_, ?_, ?_⟩ <;> rintro rfl <;> revert hc <;> decide

theorem hexDigits_ne (a b c d : Form.HexDigit) :
    ∀ e ∈ [a.char, b.char, c.char, d.char], e ≠ '\'' ∧ e ≠ '"' ∧ e ≠ '\\' := by
  intro e he
  simp only [List.mem_cons, List.not_mem_nil, or_false] at he
  rcases he with rfl | rfl | rfl | rfl
  · exact hexDigit_ne a
  · exact hexDigit_ne b
  · exact hexDigit_ne c
  · exact hexDigit_ne d

/-! ## Keys -/

/-- A key without quotes. -/
structure Name where
  /-- whether it begins with a dollar sign -/
  dollar : Bool
  /-- its first character apart from that -/
  first : Char
  /-- the others -/
  rest : List Char
  /-- it begins with a letter or an underscore -/
  first_isStart : isKeyStart first = true
  /-- it goes on with letters, digits, underscores, points and dollar signs -/
  rest_isKey : ∀ c ∈ rest, isKeyChar c = true

/-- The text of a key without quotes. -/
def Name.text (n : Name) : List Char :=
  (if n.dollar then ['$'] else []) ++ n.first :: n.rest

theorem isKeyChar_of_isKeyStart {c : Char} (h : isKeyStart c = true) : isKeyChar c = true := by
  simp only [isKeyStart, isKeyChar, Char.isAlphanum, Bool.or_eq_true] at h ⊢
  rcases h with h | h
  · exact .inl (.inl (.inl (.inl h)))
  · exact .inl (.inl (.inr h))

theorem Name.isKeyChar (n : Name) : ∀ c ∈ n.text, Shell.isKeyChar c = true := by
  obtain ⟨dollar, first, rest, hfirst, hrest⟩ := n
  intro c hc
  rcases List.mem_append.mp hc with hc | hc
  · cases dollar with
    | true =>
        rw [List.mem_singleton.mp hc]
        decide
    | false => cases hc
  · rcases List.mem_cons.mp hc with rfl | hc
    · exact isKeyChar_of_isKeyStart hfirst
    · exact hrest c hc

/-- A character between two others lies between them by its number. -/
theorem toNat_between {low high c : Char} (hlow : low.val ≤ c.val) (hhigh : c.val ≤ high.val) :
    low.toNat ≤ c.toNat ∧ c.toNat ≤ high.toNat :=
  ⟨UInt32.le_iff_toNat_le.mp hlow, UInt32.le_iff_toNat_le.mp hhigh⟩

theorem toNat_of_isAlpha {c : Char} (h : c.isAlpha = true) :
    65 ≤ c.toNat ∧ c.toNat ≤ 90 ∨ 97 ≤ c.toNat ∧ c.toNat ≤ 122 := by
  rcases Bool.or_eq_true_iff.mp h with h | h
  · have hrange : c.val ≥ 'A'.val ∧ c.val ≤ 'Z'.val := of_decide_eq_true h
    exact .inl (toNat_between hrange.1 hrange.2)
  · obtain ⟨hlow, hhigh⟩ := Bool.and_eq_true_iff.mp h
    have hlow : c.val ≥ 'a'.val := of_decide_eq_true hlow
    have hhigh : c.val ≤ 'z'.val := of_decide_eq_true hhigh
    exact .inr (toNat_between hlow hhigh)

theorem toNat_of_isDigit {c : Char} (h : c.isDigit = true) : 48 ≤ c.toNat ∧ c.toNat ≤ 57 := by
  obtain ⟨hlow, hhigh⟩ := Bool.and_eq_true_iff.mp h
  have hlow : c.val ≥ '0'.val := of_decide_eq_true hlow
  have hhigh : c.val ≤ '9'.val := of_decide_eq_true hhigh
  exact toNat_between hlow hhigh

/-- The characters of keys by their numbers. -/
theorem toNat_of_isKeyChar {c : Char} (h : isKeyChar c = true) :
    65 ≤ c.toNat ∧ c.toNat ≤ 90 ∨ 97 ≤ c.toNat ∧ c.toNat ≤ 122 ∨ 48 ≤ c.toNat ∧ c.toNat ≤ 57 ∨
      c.toNat = 95 ∨ c.toNat = 46 ∨ c.toNat = 36 := by
  simp only [Shell.isKeyChar, Char.isAlphanum, Bool.or_eq_true, beq_iff_eq] at h
  rcases h with (((h | h) | rfl) | rfl) | rfl
  · rcases toNat_of_isAlpha h with h | h
    · exact .inl h
    · exact .inr (.inl h)
  · exact .inr (.inr (.inl (toNat_of_isDigit h)))
  · exact .inr (.inr (.inr (.inl rfl)))
  · exact .inr (.inr (.inr (.inr (.inl rfl))))
  · exact .inr (.inr (.inr (.inr (.inr rfl))))

theorem isPlain_of_isKeyChar {c : Char} (h : isKeyChar c = true) : Form.IsPlain c := by
  have hrange := toNat_of_isKeyChar h
  refine ⟨?_, ?_, by omega⟩
  · rintro rfl
    revert hrange
    decide
  · rintro rfl
    revert hrange
    decide

/-- The string that a key without quotes stands for. -/
def Name.literal (n : Name) : Form.Literal :=
  plainLiteral n.text fun c hc => isPlain_of_isKeyChar (n.isKeyChar c hc)

/-! ## Calls -/

/-- The kinds of quotes. -/
inductive Quote where
  | double
  | single
  deriving DecidableEq, Repr

/-- A quote at a stage. -/
def Quote.char : Stage → Quote → Char
  | .typed, .single => '\''
  | _, _ => '"'

/-- The text of a call's argument: not empty, and without quotes, backslashes and control
characters. -/
structure PlainText where
  /-- its characters -/
  chars : List Char
  /-- there are some -/
  ne_nil : chars ≠ []
  /-- what may stand in it -/
  isPlain : ∀ c ∈ chars, c ≠ '\'' ∧ Form.IsPlain c

/-- The string that an argument is. -/
def PlainText.literal (s : PlainText) : Form.Literal :=
  plainLiteral s.chars fun c hc => (s.isPlain c hc).2

/-- The text of an argument at a stage. -/
def PlainText.text (stage : Stage) (kind : Quote) (s : PlainText) : List Char :=
  kind.char stage :: s.chars ++ [kind.char stage]

/-- An integer of any number of digits. -/
structure IntText where
  /-- whether it has a minus sign -/
  negative : Bool
  /-- its digits -/
  digits : Form.Digits

/-- The text of an integer. -/
def IntText.text (n : IntText) : List Char :=
  (if n.negative then ['-'] else []) ++ n.digits.text

theorem isPlain_of_isDigit {c : Char} (h : c.isDigit = true) : Form.IsPlain c := by
  refine isPlain_of_isKeyChar ?_
  simp [isKeyChar, Char.isAlphanum, h]

theorem IntText.isPlain (n : IntText) : ∀ c ∈ n.text, Form.IsPlain c := by
  obtain ⟨negative, first, rest, hfirst, hrest⟩ := n
  intro c hc
  rcases List.mem_append.mp hc with hc | hc
  · cases negative with
    | true =>
        rw [List.mem_singleton.mp hc]
        decide
    | false => cases hc
  · rcases List.mem_cons.mp hc with rfl | hc
    · exact isPlain_of_isDigit hfirst
    · exact isPlain_of_isDigit (hrest c hc)

/-- The string that holds an integer. -/
def IntText.literal (n : IntText) : Form.Literal :=
  plainLiteral n.text n.isPlain

/-- The names of calls with a text. -/
inductive TextCallee where
  | isoDate
  /-- `new Date`, with white space between the two words -/
  | newDate (gap : Form.Space) (ne_nil : gap.chars ≠ [])
  | objectId
  | decimal

/-- The name of a call as it is written. -/
def TextCallee.text : TextCallee → List Char
  | isoDate => "ISODate".toList
  | newDate gap _ => "new".toList ++ gap.chars ++ "Date".toList
  | objectId => "ObjectId".toList
  | decimal => "NumberDecimal".toList

/-- The tag of what a call with a text stands for. -/
def TextCallee.tag : TextCallee → Form.Literal
  | isoDate | newDate _ _ => plainLiteral "$date".toList (by decide)
  | objectId => plainLiteral "$oid".toList (by decide)
  | decimal => plainLiteral "$numberDecimal".toList (by decide)

/-- The names of calls with an integer. -/
inductive IntCallee where
  | long
  | int
  deriving DecidableEq, Repr

/-- The name of a call as it is written. -/
def IntCallee.text : IntCallee → List Char
  | long => "NumberLong".toList
  | int => "NumberInt".toList

/-- The tag of what a call with an integer stands for. -/
def IntCallee.tag : IntCallee → Form.Literal
  | long => plainLiteral "$numberLong".toList (by decide)
  | int => plainLiteral "$numberInt".toList (by decide)

/-- The name and the arguments of a call. -/
inductive Invocation where
  /-- a name with a text -/
  | text (callee : TextCallee) (kind : Quote) (argument : PlainText)
  /-- a name with an integer, bare or in quotes -/
  | integer (callee : IntCallee) (kind : Option Quote) (argument : IntText)
  /-- `Timestamp` with seconds and increment -/
  | timestamp (seconds : Form.Whole) (before after : Form.Space) (increment : Form.Whole)

/-- The name of a call. -/
def Invocation.name : Invocation → List Char
  | text callee _ _ => callee.text
  | integer callee _ _ => callee.text
  | timestamp _ _ _ _ => "Timestamp".toList

/-- The arguments of a call at a stage. -/
def Invocation.arguments (stage : Stage) : Invocation → List Char
  | text _ kind argument => argument.text stage kind
  | integer _ none argument => argument.text
  | integer _ (some kind) argument => kind.char stage :: argument.text ++ [kind.char stage]
  | timestamp seconds before after increment =>
    seconds.text ++ before.chars ++ ',' :: after.chars ++ increment.text

/-- A name with its colon and no white space. -/
def bareLabel (name : Form.Literal) : Form.Label :=
  ⟨.none, name, .none⟩

/-- An object with one member and no white space. -/
def tagged (tag : Form.Literal) (value : Form) : Form :=
  .object (.last (bareLabel tag) .none value .none)

/-- A number of nothing but digits. -/
def wholeNumber (w : Form.Whole) : Form :=
  .number ⟨false, w, none, none⟩

/-- The form that a call stands for. -/
def Invocation.form : Invocation → Form
  | text callee _ argument => tagged callee.tag (.string argument.literal)
  | integer callee _ argument => tagged callee.tag (.string argument.literal)
  | timestamp seconds _ _ increment =>
    tagged (plainLiteral "$timestamp".toList (by decide))
      (.object (.more (bareLabel (plainLiteral ['t'] (by decide))) .none (wholeNumber seconds) .none
        (.last (bareLabel (plainLiteral ['i'] (by decide))) .none (wholeNumber increment) .none)))

/-- A call with the white space around its parts. -/
structure CallText where
  /-- what is called -/
  invocation : Invocation
  /-- the white space before the opening parenthesis -/
  gap : Form.Space
  /-- the white space after it -/
  lead : Form.Space
  /-- the white space before the closing parenthesis -/
  trail : Form.Space

/-- A call as it is written. -/
def CallText.written (stage : Stage) (c : CallText) : List Char :=
  c.invocation.name ++ c.gap.chars ++ '(' :: c.lead.chars ++ c.invocation.arguments stage
    ++ c.trail.chars ++ [')']

/-- The text of a call at a stage. -/
def CallText.text : Stage → CallText → List Char
  | .typed, c => c.written .typed
  | .unified, c => c.written .unified
  | _, c => c.invocation.form.text

/-! ## Values -/

/-- The key of a member, with the white space around it, up to its colon. -/
inductive Label where
  | quoted (lead : Form.Space) (name : Quoted) (gap : Form.Space)
  | bare (lead : Form.Space) (name : Name) (gap : Form.Space)

/-- The name of a member as it stands for it. -/
def Label.form : Label → Form.Label
  | quoted lead name gap => ⟨lead, name.literal, gap⟩
  | bare _ name _ => bareLabel name.literal

/-- The text of a key with its colon at a stage. -/
def Label.text : Stage → Label → List Char
  | .tidied, label => label.form.text
  | stage, quoted lead name gap => lead.chars ++ name.text stage ++ gap.chars ++ [':']
  | _, bare lead name gap => lead.chars ++ name.text ++ gap.chars ++ [':']

/-- The text of a trailing comma with the white space after it. -/
def commaText : Stage → Option Form.Space → List Char
  | .tidied, _ | _, none => []
  | _, some space => ',' :: space.chars

mutual

/-- A value of shell text. -/
inductive Tree where
  | null
  | bool (b : Bool)
  | number (n : Form.Figures)
  | string (s : Quoted)
  | call (c : CallText)
  | emptyList (inside : Form.Space)
  | list (items : Items)
  | emptyObject (inside : Form.Space)
  | object (members : Members)

/-- The items of a list, the last one with a trailing comma or without. -/
inductive Items where
  | last (lead : Form.Space) (item : Tree) (trail : Form.Space) (comma : Option Form.Space)
  | more (lead : Form.Space) (item : Tree) (trail : Form.Space) (rest : Items)

/-- The members of an object, the last one with a trailing comma or without. -/
inductive Members where
  | last (label : Label) (lead : Form.Space) (value : Tree) (trail : Form.Space)
      (comma : Option Form.Space)
  | more (label : Label) (lead : Form.Space) (value : Tree) (trail : Form.Space) (rest : Members)

end

mutual

/-- The text of a value at a stage. -/
def Tree.text (stage : Stage) : Tree → List Char
  | .null => "null".toList
  | .bool b => if b then "true".toList else "false".toList
  | .number n => n.text
  | .string s => s.text stage
  | .call c => c.text stage
  | .emptyList inside => '[' :: inside.chars ++ [']']
  | .list items => '[' :: items.text stage ++ [']']
  | .emptyObject inside => '{' :: inside.chars ++ ['}']
  | .object members => '{' :: members.text stage ++ ['}']

/-- The text between the brackets of a list. -/
def Items.text (stage : Stage) : Items → List Char
  | .last lead item trail comma =>
    lead.chars ++ item.text stage ++ trail.chars ++ commaText stage comma
  | .more lead item trail rest =>
    lead.chars ++ item.text stage ++ trail.chars ++ ',' :: rest.text stage

/-- The text between the braces of an object. -/
def Members.text (stage : Stage) : Members → List Char
  | .last label lead value trail comma =>
    label.text stage ++ lead.chars ++ value.text stage ++ trail.chars ++ commaText stage comma
  | .more label lead value trail rest =>
    label.text stage ++ lead.chars ++ value.text stage ++ trail.chars ++ ',' :: rest.text stage

end

mutual

/-- The form that a value stands for: calls as tagged objects, all keys and strings in double quotes,
no trailing commas. -/
def Tree.form : Tree → Form
  | .null => .null
  | .bool b => .bool b
  | .number n => .number n
  | .string s => .string s.literal
  | .call c => c.invocation.form
  | .emptyList inside => .emptyList inside
  | .list items => .list items.form
  | .emptyObject inside => .emptyObject inside
  | .object members => .object members.form

/-- The items of the form of a list. -/
def Items.form : Items → Form.Items
  | .last lead item trail _ => .last lead item.form trail
  | .more lead item trail rest => .more lead item.form trail rest.form

/-- The members of the form of an object. -/
def Members.form : Members → Form.Members
  | .last label lead value trail _ => .last label.form lead value.form trail
  | .more label lead value trail rest => .more label.form lead value.form trail rest.form

end

mutual

/-- A tidied value is the text of its form. -/
theorem Tree.text_tidied : ∀ t : Tree, t.text .tidied = t.form.text
  | .null | .bool _ | .number _ | .string _ | .call _ | .emptyList _ | .emptyObject _ => rfl
  | .list items => by rw [Tree.text, Tree.form, Form.text, items.text_tidied]
  | .object members => by rw [Tree.text, Tree.form, Form.text, members.text_tidied]

theorem Items.text_tidied : ∀ items : Items, items.text .tidied = items.form.text
  | .last lead item trail comma => by
      rw [Items.text, Items.form, Form.Items.text, item.text_tidied, commaText, List.append_nil]
  | .more lead item trail rest => by
      rw [Items.text, Items.form, Form.Items.text, item.text_tidied, rest.text_tidied]

theorem Members.text_tidied : ∀ members : Members, members.text .tidied = members.form.text
  | .last label lead value trail comma => by
      rw [Members.text, Members.form, Form.Members.text, value.text_tidied, commaText, Label.text,
        List.append_nil]
  | .more label lead value trail rest => by
      rw [Members.text, Members.form, Form.Members.text, value.text_tidied, rest.text_tidied,
        Label.text]

end

/-! ## JSON as shell text -/

mutual

/-- A form as the shell text that it is. -/
def Tree.ofForm : Form → Tree
  | .null => .null
  | .bool b => .bool b
  | .number n => .number n
  | .string s => .string (.double s)
  | .emptyList inside => .emptyList inside
  | .list items => .list (Items.ofForm items)
  | .emptyObject inside => .emptyObject inside
  | .object members => .object (Members.ofForm members)

/-- The items of a list as shell text. -/
def Items.ofForm : Form.Items → Items
  | .last lead item trail => .last lead (Tree.ofForm item) trail none
  | .more lead item trail rest => .more lead (Tree.ofForm item) trail (Items.ofForm rest)

/-- The members of an object as shell text. -/
def Members.ofForm : Form.Members → Members
  | .last label lead value trail =>
    .last (.quoted label.lead (.double label.name) label.gap) lead (Tree.ofForm value) trail none
  | .more label lead value trail rest =>
    .more (.quoted label.lead (.double label.name) label.gap) lead (Tree.ofForm value) trail
      (Members.ofForm rest)

end

mutual

/-- JSON is typed as shell text just as it stands. -/
theorem Tree.text_ofForm : ∀ f : Form, (Tree.ofForm f).text .typed = f.text
  | .null | .bool _ | .number _ | .string _ | .emptyList _ | .emptyObject _ => rfl
  | .list items => by rw [Tree.ofForm, Tree.text, Form.text, Items.text_ofForm items]
  | .object members => by rw [Tree.ofForm, Tree.text, Form.text, Members.text_ofForm members]

theorem Items.text_ofForm : ∀ items : Form.Items, (Items.ofForm items).text .typed = items.text
  | .last lead item trail => by
      rw [Items.ofForm, Items.text, Form.Items.text, Tree.text_ofForm item, commaText, List.append_nil]
      nofun
  | .more lead item trail rest => by
      rw [Items.ofForm, Items.text, Form.Items.text, Tree.text_ofForm item, Items.text_ofForm rest]

theorem Members.text_ofForm :
    ∀ members : Form.Members, (Members.ofForm members).text .typed = members.text
  | .last label lead value trail => by
      rw [Members.ofForm, Members.text, Form.Members.text, Tree.text_ofForm value, commaText,
        List.append_nil]
      · rfl
      · nofun
  | .more label lead value trail rest => by
      rw [Members.ofForm, Members.text, Form.Members.text, Tree.text_ofForm value,
        Members.text_ofForm rest]
      rfl

end

mutual

/-- JSON stands for itself. -/
theorem Tree.form_ofForm : ∀ f : Form, (Tree.ofForm f).form = f
  | .null | .bool _ | .number _ | .string _ | .emptyList _ | .emptyObject _ => rfl
  | .list items => by rw [Tree.ofForm, Tree.form, Items.form_ofForm items]
  | .object members => by rw [Tree.ofForm, Tree.form, Members.form_ofForm members]

theorem Items.form_ofForm : ∀ items : Form.Items, (Items.ofForm items).form = items
  | .last lead item trail => by rw [Items.ofForm, Items.form, Tree.form_ofForm item]
  | .more lead item trail rest => by
      rw [Items.ofForm, Items.form, Tree.form_ofForm item, Items.form_ofForm rest]

theorem Members.form_ofForm : ∀ members : Form.Members, (Members.ofForm members).form = members
  | .last label lead value trail => by
      rw [Members.ofForm, Members.form, Tree.form_ofForm value]
      rfl
  | .more label lead value trail rest => by
      rw [Members.ofForm, Members.form, Tree.form_ofForm value, Members.form_ofForm rest]
      rfl

end

/-! ## Characters that mean nothing to a scan -/

/-- A character that no scan takes notice of between literals: neither a quote, nor what can come
before a key, nor what can begin a call. -/
def Inert (c : Char) : Prop :=
  c ∉ ['"', '\'', ',', '{', 'n', 'I', 'O', 'N', 'T']

instance (c : Char) : Decidable (Inert c) :=
  inferInstanceAs (Decidable (¬_))

theorem inert_space (space : Form.Space) : ∀ c ∈ space.chars, Inert c := by
  intro c hc
  have hspace := space.isSpace c hc
  simp only [Json.Cursor.isSpace, Bool.or_eq_true, beq_iff_eq] at hspace
  rcases hspace with ((rfl | rfl) | rfl) | rfl <;> decide

theorem inert_of_isDigit {c : Char} (h : c.isDigit = true) : Inert c := by
  intro hmem
  simp only [List.mem_cons, List.not_mem_nil, or_false] at hmem
  rcases hmem with rfl | rfl | rfl | rfl | rfl | rfl | rfl | rfl | rfl <;> exact absurd h (by decide)

theorem inert_digits (d : Form.Digits) : ∀ c ∈ d.text, Inert c := by
  intro c hc
  rcases List.mem_cons.mp hc with rfl | hc
  · exact inert_of_isDigit d.first_isDigit
  · exact inert_of_isDigit (d.rest_isDigit c hc)

theorem inert_whole (w : Form.Whole) : ∀ c ∈ w.text, Inert c := by
  cases w with
  | zero => decide
  | digits d _ => exact inert_digits d

theorem inert_append {s s' : List Char} (h : ∀ c ∈ s, Inert c) (h' : ∀ c ∈ s', Inert c) :
    ∀ c ∈ s ++ s', Inert c := by
  intro c hc
  rcases List.mem_append.mp hc with hc | hc
  · exact h c hc
  · exact h' c hc

theorem inert_minus (negative : Bool) : ∀ c ∈ if negative then ['-'] else [], Inert c := by
  cases negative <;> decide

theorem inert_power (power : Option Form.Power) : ∀ c ∈ Form.powerText power, Inert c := by
  cases power with
  | none => nofun
  | some p =>
      have hletter : ∀ c ∈ [p.letter], Inert c := by
        rw [Form.Power.letter]
        cases p.capital <;> decide
      have hsign : ∀ c ∈ p.sign.text, Inert c := by cases p.sign <;> decide
      exact inert_append (inert_append hletter hsign) (inert_digits p.digits)

theorem inert_places (places : Option Form.Digits) : ∀ c ∈ Form.placesText places, Inert c := by
  cases places with
  | none => nofun
  | some d => exact inert_append (s := ['.']) (by decide) (inert_digits d)

theorem inert_figures (n : Form.Figures) : ∀ c ∈ n.text, Inert c :=
  inert_append (inert_append (inert_append (inert_minus n.negative) (inert_whole n.whole))
    (inert_places n.places)) (inert_power n.power)

theorem inert_integer (n : IntText) : ∀ c ∈ n.text, Inert c :=
  inert_append (inert_minus n.negative) (inert_digits n.digits)

end BulkSweep.Shell

import BulkSweep.Json.Reader

/-!
# The grammar of JSON

A form is a JSON text taken apart: its values, the way in which its strings and numbers are written,
and the white space between its tokens.  Every form is well-formed by its type, so that the texts of
forms are the JSON texts and no others.  What a form denotes is said here as well, without a reader:
not every form denotes a value, since numbers can be out of range, halves of surrogate pairs can stand
alone, and lists and objects can be nested too deeply.
-/

set_option autoImplicit false

namespace BulkSweep.Json

open BulkSweep.Text

/-- What holds of every character of a text is decided character by character of the text. -/
instance (priority := high) decidableEvery (p : Char → Prop) [DecidablePred p] (s : List Char) :
    Decidable (∀ c, c ∈ s → p c) :=
  List.decidableBAll p s

/-! ## White space -/

/-- White space of JSON. -/
structure Form.Space where
  /-- its characters -/
  chars : List Char
  /-- all of them are white space -/
  isSpace : ∀ c ∈ chars, Cursor.isSpace c = true

/-- No white space. -/
def Form.Space.none : Form.Space :=
  ⟨[], nofun⟩

/-! ## Strings -/

/-- A hexadecimal digit of either case. -/
structure Form.HexDigit where
  /-- the digit -/
  char : Char
  /-- it is one -/
  isHex : (hexValue char).isSome = true

/-- The value of a hexadecimal digit. -/
def Form.HexDigit.value (d : Form.HexDigit) : Nat :=
  (hexValue d.char).get d.isHex

/-- The characters that are written as a backslash with one more character. -/
inductive Form.Escape where
  | quote
  | backslash
  | slash
  | backspace
  | formFeed
  | lineFeed
  | carriageReturn
  | tab
  deriving DecidableEq, Repr

/-- What stands behind the backslash. -/
def Form.Escape.letter : Form.Escape → Char
  | quote => '"'
  | backslash => '\\'
  | slash => '/'
  | backspace => 'b'
  | formFeed => 'f'
  | lineFeed => 'n'
  | carriageReturn => 'r'
  | tab => 't'

/-- The character that is meant. -/
def Form.Escape.char : Form.Escape → Char
  | quote => '"'
  | backslash => '\\'
  | slash => '/'
  | backspace => '\x08'
  | formFeed => '\x0C'
  | lineFeed => '\n'
  | carriageReturn => '\r'
  | tab => '\t'

/-- A character that may stand for itself in a string. -/
def Form.IsPlain (c : Char) : Prop :=
  c ≠ '"' ∧ c ≠ '\\' ∧ 0x20 ≤ c.toNat

instance (c : Char) : Decidable (Form.IsPlain c) :=
  inferInstanceAs (Decidable (_ ∧ _ ∧ _))

/-- A piece of a string. -/
inductive Form.Piece where
  /-- a character that stands for itself -/
  | plain (c : Char) (isPlain : Form.IsPlain c)
  /-- a backslash with one more character -/
  | escape (e : Form.Escape)
  /-- `\u` with four digits -/
  | unicode (a b c d : Form.HexDigit)

/-- A string, quotes apart. -/
abbrev Form.Literal : Type :=
  List Form.Piece

/-- The text of a piece. -/
def Form.Piece.text : Form.Piece → List Char
  | plain c _ => [c]
  | escape e => ['\\', e.letter]
  | unicode a b c d => ['\\', 'u', a.char, b.char, c.char, d.char]

/-- The text of a string between its quotes. -/
def Form.Literal.body (s : Form.Literal) : List Char :=
  s.flatMap Form.Piece.text

/-- The text of a string. -/
def Form.Literal.text (s : Form.Literal) : List Char :=
  '"' :: s.body ++ ['"']

/-! ## Numbers -/

/-- One or more digits. -/
structure Form.Digits where
  /-- the first one -/
  first : Char
  /-- the others -/
  rest : List Char
  /-- the first one is a digit -/
  first_isDigit : first.isDigit = true
  /-- so are the others -/
  rest_isDigit : ∀ c ∈ rest, c.isDigit = true

/-- The text of some digits. -/
def Form.Digits.text (d : Form.Digits) : List Char :=
  d.first :: d.rest

/-- The digits of a number before its point: a zero alone, or digits that begin with another one. -/
inductive Form.Whole where
  | zero
  | digits (d : Form.Digits) (leads : d.first ≠ '0')

/-- The text of the digits before the point. -/
def Form.Whole.text : Form.Whole → List Char
  | zero => ['0']
  | digits d _ => d.text

/-- The sign of an exponent. -/
inductive Form.Sign where
  | none
  | plus
  | minus
  deriving DecidableEq, Repr

/-- The text of a sign. -/
def Form.Sign.text : Form.Sign → List Char
  | none => []
  | plus => ['+']
  | minus => ['-']

/-- An exponent as it is written. -/
structure Form.Power where
  /-- whether its letter is a capital -/
  capital : Bool
  /-- its sign -/
  sign : Form.Sign
  /-- its digits -/
  digits : Form.Digits

/-- The letter of an exponent. -/
def Form.Power.letter (p : Form.Power) : Char :=
  if p.capital then 'E' else 'e'

/-- The text of an exponent. -/
def Form.Power.text (p : Form.Power) : List Char :=
  p.letter :: p.sign.text ++ p.digits.text

/-- A number as it is written. -/
structure Form.Figures where
  /-- whether it has a minus sign -/
  negative : Bool
  /-- the digits before the point -/
  whole : Form.Whole
  /-- the digits behind the point -/
  places : Option Form.Digits
  /-- the exponent -/
  power : Option Form.Power

/-- The digits behind the point, with the point. -/
def Form.placesText (places : Option Form.Digits) : List Char :=
  places.elim [] fun d => '.' :: d.text

/-- The exponent, if there is one. -/
def Form.powerText (power : Option Form.Power) : List Char :=
  power.elim [] Form.Power.text

/-- The text of a number. -/
def Form.Figures.text (n : Form.Figures) : List Char :=
  (if n.negative then ['-'] else []) ++ n.whole.text ++ Form.placesText n.places
    ++ Form.powerText n.power

/-! ## Values -/

/-- The name of a member, with the white space around it, up to its colon. -/
structure Form.Label where
  /-- the white space before the name -/
  lead : Form.Space
  /-- the name -/
  name : Form.Literal
  /-- the white space before the colon -/
  gap : Form.Space

/-- The text of a name with its colon. -/
def Form.Label.text (l : Form.Label) : List Char :=
  l.lead.chars ++ l.name.text ++ l.gap.chars ++ [':']

mutual

/-- A JSON value as it is written. -/
inductive Form where
  | null
  | bool (b : Bool)
  | number (n : Form.Figures)
  | string (s : Form.Literal)
  | emptyList (inside : Form.Space)
  | list (items : Form.Items)
  | emptyObject (inside : Form.Space)
  | object (members : Form.Members)

/-- The items of a list, each with the white space around it. -/
inductive Form.Items where
  | last (lead : Form.Space) (item : Form) (trail : Form.Space)
  | more (lead : Form.Space) (item : Form) (trail : Form.Space) (rest : Form.Items)

/-- The members of an object, each with the white space around its parts. -/
inductive Form.Members where
  | last (label : Form.Label) (lead : Form.Space) (value : Form) (trail : Form.Space)
  | more (label : Form.Label) (lead : Form.Space) (value : Form) (trail : Form.Space)
      (rest : Form.Members)

end

mutual

/-- The text of a form. -/
def Form.text : Form → List Char
  | .null => "null".toList
  | .bool b => if b then "true".toList else "false".toList
  | .number n => n.text
  | .string s => s.text
  | .emptyList inside => '[' :: inside.chars ++ [']']
  | .list items => '[' :: items.text ++ [']']
  | .emptyObject inside => '{' :: inside.chars ++ ['}']
  | .object members => '{' :: members.text ++ ['}']

/-- The text between the brackets of a list. -/
def Form.Items.text : Form.Items → List Char
  | .last lead item trail => lead.chars ++ item.text ++ trail.chars
  | .more lead item trail rest => lead.chars ++ item.text ++ trail.chars ++ ',' :: rest.text

/-- The text between the braces of an object. -/
def Form.Members.text : Form.Members → List Char
  | .last label lead value trail => label.text ++ lead.chars ++ value.text ++ trail.chars
  | .more label lead value trail rest =>
    label.text ++ lead.chars ++ value.text ++ trail.chars ++ ',' :: rest.text

end

/-- A JSON text: a form with white space around it. -/
def Valid (text : List Char) : Prop :=
  ∃ (lead : Form.Space) (form : Form) (trail : Form.Space),
    text = lead.chars ++ form.text ++ trail.chars

/-! ## Denotations -/

/-- The number of four hexadecimal digits. -/
def Form.quad (a b c d : Form.HexDigit) : Nat :=
  ((a.value * 16 + b.value) * 16 + c.value) * 16 + d.value

/-- The characters that a string denotes; none if half of a surrogate pair stands alone in it. -/
def Form.Literal.value? : Form.Literal → Option (List Char)
  | [] => some []
  | .plain c _ :: rest => (value? rest).map (c :: ·)
  | .escape e :: rest => (value? rest).map (e.char :: ·)
  | .unicode a b c d :: rest =>
    let high := Form.quad a b c d
    if isLowSurrogate high then none
    else if isHighSurrogate high then
      match rest with
      | .unicode a b c d :: rest =>
        let low := Form.quad a b c d
        if isLowSurrogate low then
          (value? rest).map
            (Char.ofNat (0x10000 + (high - 0xD800) * 0x400 + (low - 0xDC00)) :: ·)
        else none
      | _ => none
    else (value? rest).map (Char.ofNat high :: ·)

/-- The exponent that is denoted.  The place only shows in a failure. -/
def Form.Power.exponent (p : Form.Power) (mark : Mark) : Exponent :=
  sumExponent (p.sign = .minus) 0 mark p.digits.text

/-- The parts of a number without its sign.  The place only shows in a failure. -/
def Form.Figures.numeral (n : Form.Figures) (mark : Mark) : Numeral :=
  ⟨n.whole.text, n.places.map Form.Digits.text, n.power.map fun p => p.exponent mark⟩

/-- The number that is denoted; none if it is out of range. -/
def Form.Figures.value? (n : Form.Figures) : Option Number :=
  ((n.numeral .start).value n.negative).toOption

mutual

/-- The value that a form denotes if so many levels are allowed, its own among them. -/
def Form.value? (depth : Nat) : Form → Option Json
  | .null => some .null
  | .bool b => some (.bool b)
  | .number n => n.value?.map .number
  | .string s => s.value?.map fun chars => .string (String.ofList chars)
  | .emptyList _ => if depth ≤ 1 then none else some (.array [])
  | .list items => if depth ≤ 1 then none else (items.values? (depth - 1)).map .array
  | .emptyObject _ => if depth ≤ 1 then none else some (.object [])
  | .object members =>
    if depth ≤ 1 then none
    else (members.values? (depth - 1)).map fun all =>
      .object (all.foldl (fun all (name, value) => setMember all name value) [])

/-- The values of the items of a list. -/
def Form.Items.values? (depth : Nat) : Form.Items → Option (List Json)
  | .last _ item _ => (item.value? depth).map ([·])
  | .more _ item _ rest =>
    (item.value? depth).bind fun value => (rest.values? depth).map (value :: ·)

/-- The names and the values of the members of an object. -/
def Form.Members.values? (depth : Nat) : Form.Members → Option (List (String × Json))
  | .last label _ value _ =>
    label.name.value?.bind fun name =>
      (value.value? depth).map fun value => [(String.ofList name, value)]
  | .more label _ value _ rest =>
    label.name.value?.bind fun name =>
      (value.value? depth).bind fun value =>
        (rest.values? depth).map ((String.ofList name, value) :: ·)

end

/-! ## Renderings -/

mutual

/-- Two forms that differ in white space alone, and in how their strings are escaped. -/
inductive Form.Alike : Form → Form → Prop where
  | null : Alike .null .null
  | bool (b : Bool) : Alike (.bool b) (.bool b)
  | number (n : Form.Figures) : Alike (.number n) (.number n)
  | string {s s' : Form.Literal} (h : s.value? = s'.value?) : Alike (.string s) (.string s')
  | emptyList (inside inside' : Form.Space) : Alike (.emptyList inside) (.emptyList inside')
  | list {items items' : Form.Items} (h : items.Alike items') : Alike (.list items) (.list items')
  | emptyObject (inside inside' : Form.Space) : Alike (.emptyObject inside) (.emptyObject inside')
  | object {members members' : Form.Members} (h : members.Alike members') :
    Alike (.object members) (.object members')

/-- The items of two lists that are alike. -/
inductive Form.Items.Alike : Form.Items → Form.Items → Prop where
  | last {item item' : Form} (lead lead' trail trail' : Form.Space) (h : item.Alike item') :
    Form.Items.Alike (.last lead item trail) (.last lead' item' trail')
  | more {item item' : Form} {rest rest' : Form.Items} (lead lead' trail trail' : Form.Space)
    (h : item.Alike item') (hrest : rest.Alike rest') :
    Form.Items.Alike (.more lead item trail rest) (.more lead' item' trail' rest')

/-- The members of two objects that are alike. -/
inductive Form.Members.Alike : Form.Members → Form.Members → Prop where
  | last {label label' : Form.Label} {value value' : Form} (lead lead' trail trail' : Form.Space)
    (hname : label.name.value? = label'.name.value?) (h : value.Alike value') :
    Form.Members.Alike (.last label lead value trail) (.last label' lead' value' trail')
  | more {label label' : Form.Label} {value value' : Form} {rest rest' : Form.Members}
    (lead lead' trail trail' : Form.Space) (hname : label.name.value? = label'.name.value?)
    (h : value.Alike value') (hrest : rest.Alike rest') :
    Form.Members.Alike (.more label lead value trail rest) (.more label' lead' value' trail' rest')

end

mutual

/-- Forms that are alike denote the same. -/
theorem Form.Alike.value? : ∀ {f f' : Form} (_ : f.Alike f') (depth : Nat),
    f.value? depth = f'.value? depth
  | _, _, .null, _ | _, _, .bool _, _ | _, _, .number _, _ => rfl
  | _, _, .emptyList _ _, _ | _, _, .emptyObject _ _, _ => rfl
  | _, _, .string h, _ => by simp only [Form.value?, h]
  | _, _, .list h, depth => by simp only [Form.value?, h.values? (depth - 1)]
  | _, _, .object h, depth => by simp only [Form.value?, h.values? (depth - 1)]

theorem Form.Items.Alike.values? : ∀ {items items' : Form.Items} (_ : items.Alike items')
    (depth : Nat), items.values? depth = items'.values? depth
  | _, _, .last _ _ _ _ h, depth => by simp only [Form.Items.values?, h.value? depth]
  | _, _, .more _ _ _ _ h hrest, depth => by
      simp only [Form.Items.values?, h.value? depth, hrest.values? depth]

theorem Form.Members.Alike.values? : ∀ {members members' : Form.Members}
    (_ : members.Alike members') (depth : Nat), members.values? depth = members'.values? depth
  | _, _, .last _ _ _ _ hname h, depth => by
      simp only [Form.Members.values?, hname, h.value? depth]
  | _, _, .more _ _ _ _ hname h hrest, depth => by
      simp only [Form.Members.values?, hname, h.value? depth, hrest.values? depth]

end

end BulkSweep.Json

/-!
# Positions in JSON text

Why a text is no JSON, and where that shows.  Lines are counted from one; columns count bytes, so that
the first byte of a line has column one.  A reader stands between two characters; the position of a
failure is that of the last byte which it has taken or, for a byte that it refuses without taking
it, of that byte.
-/

set_option autoImplicit false

namespace BulkSweep.Json

/-! ## Faults -/

/-- Why a text is no JSON. -/
inductive Fault where
  /-- the text ends where a value is expected, or within one -/
  | endInValue
  /-- the text ends within a list -/
  | endInList
  /-- the text ends within an object -/
  | endInObject
  /-- the text ends within a string -/
  | endInString
  /-- no value begins here -/
  | expectedValue
  /-- a word other than `null`, `true` and `false` -/
  | expectedWord
  /-- neither a comma nor the end of the list -/
  | expectedListSeparator
  /-- neither a comma nor the end of the object -/
  | expectedObjectSeparator
  /-- no colon after a member's name -/
  | expectedColon
  /-- a comma before a closing bracket -/
  | trailingComma
  /-- text after the value -/
  | trailingText
  /-- a member's name that is no string -/
  | nameNotString
  /-- too many lists and objects around each other -/
  | tooDeep
  /-- a control character in a string -/
  | controlCharacter
  /-- an escape that does not exist -/
  | invalidEscape
  /-- half of a surrogate pair -/
  | loneSurrogate
  /-- the first half of a surrogate pair without a second escape -/
  | unfinishedPair
  /-- a number with a digit missing or too many -/
  | invalidNumber
  /-- a number beyond the range of doubles -/
  | numberOutOfRange
  deriving DecidableEq, Repr, Inhabited

/-- The wording of a fault. -/
def Fault.text : Fault → String
  | endInValue => "EOF while parsing a value"
  | endInList => "EOF while parsing a list"
  | endInObject => "EOF while parsing an object"
  | endInString => "EOF while parsing a string"
  | expectedValue => "expected value"
  | expectedWord => "expected ident"
  | expectedListSeparator => "expected `,` or `]`"
  | expectedObjectSeparator => "expected `,` or `\x7d`"
  | expectedColon => "expected `:`"
  | trailingComma => "trailing comma"
  | trailingText => "trailing characters"
  | nameNotString => "key must be a string"
  | tooDeep => "recursion limit exceeded"
  | controlCharacter => "control character (\\u0000-\\u001F) found while parsing a string"
  | invalidEscape => "invalid escape"
  | loneSurrogate => "lone leading surrogate in hex escape"
  | unfinishedPair => "unexpected end of hex escape"
  | invalidNumber => "invalid number"
  | numberOutOfRange => "number out of range"

/-! ## Marks -/

/-- A place between two bytes of a text. -/
structure Mark where
  /-- one more than the number of line ends before -/
  line : Nat
  /-- the number of bytes since the last line end -/
  column : Nat
  deriving DecidableEq, Repr, Inhabited

namespace Mark

/-- The beginning of a text. -/
def start : Mark := ⟨1, 0⟩

/-- The place after a character. -/
def past (m : Mark) (c : Char) : Mark :=
  if c = '\n' then ⟨m.line + 1, 0⟩ else ⟨m.line, m.column + c.utf8Size⟩

/-- The place after the first byte of a character. -/
def overByte (m : Mark) (c : Char) : Mark :=
  if c = '\n' then ⟨m.line + 1, 0⟩ else ⟨m.line, m.column + 1⟩

/-- The place after a number of bytes, or at the end of the text. -/
def pastBytes : Mark → Nat → List Char → Mark
  | m, _, [] => m
  | m, n, c :: cs =>
    if c.utf8Size ≤ n then (m.past c).pastBytes (n - c.utf8Size) cs
    else ⟨m.line, m.column + n⟩

end Mark

/-- A fault with its place. -/
structure Failure where
  /-- what is wrong -/
  fault : Fault
  /-- where it shows -/
  mark : Mark
  deriving DecidableEq, Repr, Inhabited

/-- The message of a failure. -/
def Failure.message (f : Failure) : String :=
  f.fault.text ++ " at line " ++ toString f.mark.line ++ " column " ++ toString f.mark.column

/-! ## Cursors -/

/-- A reader's place in a text and what follows it. -/
structure Cursor where
  /-- the place -/
  mark : Mark
  /-- the text from there on -/
  rest : List Char
  deriving DecidableEq, Repr, Inhabited

namespace Cursor

/-- The beginning of a text. -/
def start (text : List Char) : Cursor := ⟨.start, text⟩

/-- Moves over one character; at the end it stays. -/
def advance : Cursor → Cursor
  | ⟨m, []⟩ => ⟨m, []⟩
  | ⟨m, c :: cs⟩ => ⟨m.past c, cs⟩

/-- White space of JSON. -/
def isSpace (c : Char) : Bool :=
  c == ' ' || c == '\n' || c == '\t' || c == '\r'

/-- Moves over the white space of a text. -/
def skipSpaceFrom : Mark → List Char → Cursor
  | m, [] => ⟨m, []⟩
  | m, c :: cs => if isSpace c then skipSpaceFrom (m.past c) cs else ⟨m, c :: cs⟩

/-- Moves over white space. -/
def skipSpace (c : Cursor) : Cursor :=
  skipSpaceFrom c.mark c.rest

/-- Fails at the last byte taken. -/
def fail {α : Type} (c : Cursor) (fault : Fault) : Except Failure α :=
  .error ⟨fault, c.mark⟩

/-- Fails at the byte that comes next, or at the end of the text. -/
def failNext {α : Type} (c : Cursor) (fault : Fault) : Except Failure α :=
  match c.rest with
  | [] => .error ⟨fault, c.mark⟩
  | next :: _ => .error ⟨fault, c.mark.overByte next⟩

end Cursor

end BulkSweep.Json

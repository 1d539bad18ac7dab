import BulkSweep.Text.Hex

/-!
# TOML strings

A string stands in double quotes, where a backslash begins an escape, or in single quotes, where every
character means itself.  Three quotes in a row begin a string that may go over several lines.
-/

set_option autoImplicit false

namespace BulkSweep.Toml

open BulkSweep.Text

/-- Whether a character may stand in a string or a comment: no control character but the tab. -/
def isPlain (c : Char) : Bool :=
  c == '\t' || (0x20 ≤ c.toNat && c.toNat != 0x7f)

/-- The character with the code that hexadecimal digits give.  Surrogates are none. -/
def charOfHex (digits : List Char) : Option Char := do
  let code ← digits.foldlM (fun n c => (hexValue c).map (16 * n + ·)) 0
  if h : code.isValidChar then some (Char.ofNatAux code h) else none

/-- The character of a one-letter escape. -/
def escaped? : Char → Option Char
  | 'b' => some '\x08'
  | 't' => some '\t'
  | 'n' => some '\n'
  | 'f' => some '\x0c'
  | 'r' => some '\r'
  | 'e' => some '\x1b'
  | '"' => some '"'
  | '\\' => some '\\'
  | _ => none

/-- The result of reading a string: the string, and what follows it. -/
abbrev Result : Type :=
  Option (String × List Char)

/-- The string of the characters read so far, last one first. -/
def finish (seen : List Char) (rest : List Char) : Result :=
  some (String.ofList seen.reverse, rest)

/-! ## Strings on one line -/

/-- Reads the rest of a string in double quotes. -/
def readBasic (seen : List Char) : List Char → Result
  | [] => none
  | '"' :: rest => finish seen rest
  | '\\' :: 'x' :: a :: b :: rest => do readBasic ((← charOfHex [a, b]) :: seen) rest
  | '\\' :: 'u' :: a :: b :: c :: d :: rest => do readBasic ((← charOfHex [a, b, c, d]) :: seen) rest
  | '\\' :: 'U' :: a :: b :: c :: d :: e :: f :: g :: h :: rest => do
    readBasic ((← charOfHex [a, b, c, d, e, f, g, h]) :: seen) rest
  | '\\' :: c :: rest => do readBasic ((← escaped? c) :: seen) rest
  | c :: rest => if isPlain c && c != '\\' then readBasic (c :: seen) rest else none

/-- Reads the rest of a string in single quotes. -/
def readLiteral (seen : List Char) : List Char → Result
  | [] => none
  | '\'' :: rest => finish seen rest
  | c :: rest => if isPlain c then readLiteral (c :: seen) rest else none

/-! ## Strings on several lines -/

/-- Whether blanks are left out: not, in a line after its last backslash, or up to the next character
that is none. -/
inductive Gap where
  /-- blanks stand for themselves -/
  | closed
  /-- after a backslash that must end its line -/
  | opened
  /-- in the lines after it -/
  | skipping
  deriving DecidableEq, Repr, Inhabited

/-- Reads the rest of a string in three double quotes.  Up to two quotes may stand before the three
that close it. -/
def readBasicLines (gap : Gap) (seen : List Char) : List Char → Result
  | [] => none
  | '"' :: '"' :: '"' :: '"' :: '"' :: rest =>
    if gap = .opened then none else finish ('"' :: '"' :: seen) rest
  | '"' :: '"' :: '"' :: '"' :: rest => if gap = .opened then none else finish ('"' :: seen) rest
  | '"' :: '"' :: '"' :: rest => if gap = .opened then none else finish seen rest
  | '\r' :: '\n' :: rest =>
    if gap = .closed then readBasicLines .closed ('\n' :: '\r' :: seen) rest
    else readBasicLines .skipping seen rest
  | '\n' :: rest =>
    if gap = .closed then readBasicLines .closed ('\n' :: seen) rest
    else readBasicLines .skipping seen rest
  | ' ' :: rest =>
    if gap = .closed then readBasicLines .closed (' ' :: seen) rest else readBasicLines gap seen rest
  | '\t' :: rest =>
    if gap = .closed then readBasicLines .closed ('\t' :: seen) rest else readBasicLines gap seen rest
  | '\\' :: 'x' :: a :: b :: rest => do
    if gap = .opened then none else readBasicLines .closed ((← charOfHex [a, b]) :: seen) rest
  | '\\' :: 'u' :: a :: b :: c :: d :: rest => do
    if gap = .opened then none else readBasicLines .closed ((← charOfHex [a, b, c, d]) :: seen) rest
  | '\\' :: 'U' :: a :: b :: c :: d :: e :: f :: g :: h :: rest => do
    if gap = .opened then none
    else readBasicLines .closed ((← charOfHex [a, b, c, d, e, f, g, h]) :: seen) rest
  | '\\' :: c :: rest =>
    if gap = .opened then none
    else if c == ' ' || c == '\t' then readBasicLines .opened seen rest
    else if c == '\n' then readBasicLines .skipping seen rest
    else if c == '\r' then
      match rest with
      | '\n' :: rest => readBasicLines .skipping seen rest
      | _ => none
    else do readBasicLines .closed ((← escaped? c) :: seen) rest
  | c :: rest =>
    if gap = .opened || !isPlain c || c == '\\' then none else readBasicLines .closed (c :: seen) rest

/-- Reads the rest of a string in three single quotes. -/
def readLiteralLines (seen : List Char) : List Char → Result
  | [] => none
  | '\'' :: '\'' :: '\'' :: '\'' :: '\'' :: rest => finish ('\'' :: '\'' :: seen) rest
  | '\'' :: '\'' :: '\'' :: '\'' :: rest => finish ('\'' :: seen) rest
  | '\'' :: '\'' :: '\'' :: rest => finish seen rest
  | '\r' :: '\n' :: rest => readLiteralLines ('\n' :: '\r' :: seen) rest
  | c :: rest => if isPlain c || c == '\n' then readLiteralLines (c :: seen) rest else none

/-- Drops a line end that directly follows the opening quotes. -/
def dropFirstBreak : List Char → List Char
  | '\r' :: '\n' :: rest => rest
  | '\n' :: rest => rest
  | rest => rest

/-- Reads a string of any kind as a value. -/
def readString : List Char → Result
  | '"' :: '"' :: '"' :: rest => readBasicLines .closed [] (dropFirstBreak rest)
  | '\'' :: '\'' :: '\'' :: rest => readLiteralLines [] (dropFirstBreak rest)
  | '"' :: rest => readBasic [] rest
  | '\'' :: rest => readLiteral [] rest
  | _ => none

end BulkSweep.Toml

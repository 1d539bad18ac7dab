import BulkSweep.Json.Numeral

/-!
# Reading JSON

A reader for whole JSON texts.  Lists and objects may stand within each other up to a fixed depth.  A
name that occurs twice in an object keeps its first place and its last value.
-/

set_option autoImplicit false

namespace BulkSweep.Json

open BulkSweep.Text

/-! ## Strings -/

/-- The number of four hexadecimal digits. -/
def hexQuad : List Char → Option Nat
  | a :: b :: c :: d :: _ => do
    let a ← hexValue a
    let b ← hexValue b
    let c ← hexValue c
    let d ← hexValue d
    return ((a * 16 + b) * 16 + c) * 16 + d
  | _ => none

/-- The number of bytes of a text. -/
def byteLength (s : List Char) : Nat :=
  s.foldl (fun n c => n + c.utf8Size) 0

/-- Reads the four digits of a numeric escape.  Four bytes are taken before they are looked at. -/
def readHexQuad (c : Cursor) : Except Failure (Nat × Cursor) :=
  if byteLength c.rest < 4 then
    .error ⟨.endInString, c.mark.pastBytes (byteLength c.rest) c.rest⟩
  else
    match hexQuad c.rest with
    | some n => .ok (n, c.advance.advance.advance.advance)
    | none => .error ⟨.invalidEscape, c.mark.pastBytes 4 c.rest⟩

/-- Takes one given character of the escape that completes a pair. -/
def readPairChar (expected : Char) (c : Cursor) : Except Failure Cursor :=
  match c.rest with
  | [] => c.fail .endInString
  | next :: _ => if next = expected then .ok c.advance else c.failNext .unfinishedPair

/-- Whether a number is the first half of a surrogate pair. -/
def isHighSurrogate (n : Nat) : Bool :=
  0xD800 ≤ n && n < 0xDC00

/-- Whether a number is the second half of a surrogate pair. -/
def isLowSurrogate (n : Nat) : Bool :=
  0xDC00 ≤ n && n < 0xE000

/-- Reads a numeric escape after its letter; characters beyond 16 bits take two of them. -/
def readUnicode (c : Cursor) : Except Failure (Char × Cursor) := do
  let (high, c) ← readHexQuad c
  if isLowSurrogate high then c.fail .loneSurrogate
  else if isHighSurrogate high then
    let c ← readPairChar '\\' c
    let c ← readPairChar 'u' c
    let (low, c) ← readHexQuad c
    if isLowSurrogate low then
      return (Char.ofNat (0x10000 + (high - 0xD800) * 0x400 + (low - 0xDC00)), c)
    else c.fail .loneSurrogate
  else return (Char.ofNat high, c)

/-- Reads an escape after its backslash. -/
def readEscape (c : Cursor) : Except Failure (Char × Cursor) :=
  match c.rest with
  | [] => c.fail .endInString
  | '"' :: _ => .ok ('"', c.advance)
  | '\\' :: _ => .ok ('\\', c.advance)
  | '/' :: _ => .ok ('/', c.advance)
  | 'b' :: _ => .ok ('\x08', c.advance)
  | 'f' :: _ => .ok ('\x0C', c.advance)
  | 'n' :: _ => .ok ('\n', c.advance)
  | 'r' :: _ => .ok ('\r', c.advance)
  | 't' :: _ => .ok ('\t', c.advance)
  | 'u' :: _ => readUnicode c.advance
  | _ => c.failNext .invalidEscape

/-- Reads the inside of a string and its closing quote; `collected` holds the characters before, last
one first.  Each step takes at least one character, so the length of the text is fuel enough. -/
def readStringFrom : Nat → List Char → Cursor → Except Failure (String × Cursor)
  | 0, _, c => c.fail .endInString
  | fuel + 1, collected, c =>
    match c.rest with
    | [] => c.fail .endInString
    | '"' :: _ => .ok (String.ofList collected.reverse, c.advance)
    | '\\' :: _ => do
      let (char, c) ← readEscape c.advance
      readStringFrom fuel (char :: collected) c
    | char :: _ =>
      if char.toNat < 0x20 then c.failNext .controlCharacter
      else readStringFrom fuel (char :: collected) c.advance

/-- Reads a string after its opening quote. -/
def readString (c : Cursor) : Except Failure (String × Cursor) :=
  readStringFrom (c.rest.length + 1) [] c

/-! ## Values -/

/-- Reads the letters of a word after its first one. -/
def readWord : List Char → Json → Cursor → Except Failure (Json × Cursor)
  | [], value, c => .ok (value, c)
  | letter :: more, value, c =>
    match c.rest with
    | [] => c.fail .endInValue
    | next :: _ => if next = letter then readWord more value c.advance else c.failNext .expectedWord

/-- How many lists and objects may stand around a value, less the value itself. -/
def maxDepth : Nat := 128

/-- Fails unless a member's name begins here. -/
def expectName (c : Cursor) : Except Failure Unit :=
  match c.rest with
  | '"' :: _ => .ok ()
  | _ => c.failNext .nameNotString

/-- Moves to the first item of a list or past the comma before the next one; `none` at its end. -/
def nextItem (first : Bool) (c : Cursor) : Except Failure (Option Cursor × Cursor) :=
  let c := c.skipSpace
  match c.rest with
  | [] => c.failNext .endInList
  | ']' :: _ => .ok (none, c.advance)
  | ',' :: _ =>
    if first then .ok (some c, c)
    else
      let c := c.advance.skipSpace
      match c.rest with
      | [] => c.failNext .endInValue
      | ']' :: _ => c.failNext .trailingComma
      | _ => .ok (some c, c)
  | _ => if first then .ok (some c, c) else c.failNext .expectedListSeparator

/-- Moves to the first member of an object or past the comma before the next one; `none` at its
end. -/
def nextMember (first : Bool) (c : Cursor) : Except Failure (Option Cursor × Cursor) :=
  let c := c.skipSpace
  match c.rest with
  | [] => c.failNext .endInObject
  | '}' :: _ => .ok (none, c.advance)
  | ',' :: _ =>
    if first then c.failNext .nameNotString
    else
      let c := c.advance.skipSpace
      match c.rest with
      | [] => c.failNext .endInValue
      | '}' :: _ => c.failNext .trailingComma
      | _ => .ok (some c, c)
  | _ => if first then .ok (some c, c) else c.failNext .expectedObjectSeparator

/-- Takes the colon after a member's name. -/
def readColon (c : Cursor) : Except Failure Cursor :=
  let c := c.skipSpace
  match c.rest with
  | [] => c.failNext .endInObject
  | ':' :: _ => .ok c.advance
  | _ => c.failNext .expectedColon

mutual

/-- Reads a value; `depth` counts the levels that are still allowed.  Between two steps down at least
one character is taken, so twice the length of the text is fuel enough. -/
def readValue : Nat → Nat → Cursor → Except Failure (Json × Cursor)
  | 0, _, c => c.failNext .tooDeep
  | fuel + 1, depth, c =>
    let c := c.skipSpace
    match c.rest with
    | [] => c.failNext .endInValue
    | 'n' :: _ => readWord "ull".toList .null c.advance
    | 't' :: _ => readWord "rue".toList (.bool true) c.advance
    | 'f' :: _ => readWord "alse".toList (.bool false) c.advance
    | '"' :: _ => do
      let (s, c) ← readString c.advance
      return (.string s, c)
    | '[' :: _ =>
      if depth ≤ 1 then c.failNext .tooDeep
      else do
        let (items, c) ← readItems fuel (depth - 1) true c.advance
        return (.array items, c)
    | '{' :: _ =>
      if depth ≤ 1 then c.failNext .tooDeep
      else do
        let (members, c) ← readMembers fuel (depth - 1) true c.advance
        return (.object (members.foldl (fun all (name, value) => setMember all name value) []), c)
    | next :: _ =>
      if next = '-' ∨ next.isDigit then do
        let (n, c) ← readNumber c
        return (.number n, c)
      else c.failNext .expectedValue

/-- Reads the items of a list up to its end. -/
def readItems : Nat → Nat → Bool → Cursor → Except Failure (List Json × Cursor)
  | 0, _, _, c => c.failNext .tooDeep
  | fuel + 1, depth, first, c => do
    match ← nextItem first c with
    | (none, c) => return ([], c)
    | (some c, _) =>
      let (item, c) ← readValue fuel depth c
      let (items, c) ← readItems fuel depth false c
      return (item :: items, c)

/-- Reads the members of an object up to its end, as they stand. -/
def readMembers : Nat → Nat → Bool → Cursor → Except Failure (List (String × Json) × Cursor)
  | 0, _, _, c => c.failNext .tooDeep
  | fuel + 1, depth, first, c => do
    match ← nextMember first c with
    | (none, c) => return ([], c)
    | (some c, _) =>
      expectName c
      let (name, c) ← readString c.advance
      let c ← readColon c
      let (value, c) ← readValue fuel depth c
      let (members, c) ← readMembers fuel depth false c
      return ((name, value) :: members, c)

end

/-- Reads a whole text as one value. -/
def read (text : String) : Except Failure Json := do
  let (value, c) ← readValue (2 * text.length + 2) maxDepth (.start text.toList)
  let c := c.skipSpace
  match c.rest with
  | [] => return value
  | _ => c.failNext .trailingText

end BulkSweep.Json

import BulkSweep.Toml.Scalar
import BulkSweep.Toml.Text

/-!
# Reading TOML documents

A document is a sequence of lines: headers, keys with values, and comments.  Values in brackets and in
braces may go over several lines.  A text that breaks a rule anywhere is no document.
-/

set_option autoImplicit false

namespace BulkSweep.Toml

/-! ## Blanks and comments -/

/-- Drops blanks within a line. -/
def skipBlank (s : List Char) : List Char :=
  s.dropWhile fun c => c == ' ' || c == '\t'

/-- Drops the rest of a comment with its line end, if it is one line of plain characters. -/
def skipComment : List Char → Option (List Char)
  | [] => some []
  | '\r' :: '\n' :: rest => some rest
  | c :: rest => if c == '\n' then some rest else if isPlain c then skipComment rest else none

/-- Drops the rest of a line that holds nothing more. -/
def endLine (s : List Char) : Option (List Char) :=
  match skipBlank s with
  | [] => some []
  | '#' :: rest => skipComment rest
  | '\r' :: '\n' :: rest => some rest
  | '\n' :: rest => some rest
  | _ => none

/-- Drops blanks, line ends and comments. -/
def skipGap (inComment : Bool) : List Char → Option (List Char)
  | [] => some []
  | '\r' :: '\n' :: rest => skipGap false rest
  | c :: rest =>
    if c == '\n' then skipGap false rest
    else if inComment then if isPlain c then skipGap true rest else none
    else if c == ' ' || c == '\t' then skipGap false rest
    else if c == '#' then skipGap true rest
    else some (c :: rest)

/-! ## Keys -/

/-- Whether a character may stand in a key without quotes. -/
def inKey (c : Char) : Bool :=
  c.isAlphanum || c == '_' || c == '-'

/-- Reads one part of a key. -/
def readPart : List Char → Option (String × List Char)
  | '"' :: rest => readBasic [] rest
  | '\'' :: rest => readLiteral [] rest
  | s =>
    let part := s.takeWhile inKey
    if part.isEmpty then none else some (String.ofList part, s.dropWhile inKey)

/-- The most parts of a key. -/
def maxParts : Nat := 80

/-- Reads a key of some parts at most, with points between them: all parts but the last, the last, and
what follows it without blanks. -/
def readParts : (most : Nat) → List Char → Option (List String × String × List Char)
  | 0, _ => none
  | most + 1, s => do
    let (part, rest) ← readPart s
    match skipBlank rest with
    | '.' :: rest =>
      let (path, key, rest) ← readParts most (skipBlank rest)
      return (part :: path, key, rest)
    | rest => return ([], part, rest)

/-- Reads a key. -/
def readKey (s : List Char) : Option (List String × String × List Char) :=
  readParts maxParts s

/-! ## Values -/

/-- How deep values may stand in one another. -/
def maxDepth : Nat := 80

mutual

/-- Reads a value. -/
def readValue : (fuel depth : Nat) → List Char → Option (Toml × List Char)
  | 0, _, _ => none
  | fuel + 1, depth, s =>
    match s with
    | '[' :: rest => if depth = 0 then none else readItems fuel (depth - 1) [] rest
    | '{' :: rest => if depth = 0 then none else readFields fuel (depth - 1) [] rest
    | '"' :: _ | '\'' :: _ => (readString s).map fun (content, rest) => (Toml.text content, rest)
    | _ => readScalar s

/-- Reads the rest of a list, its items so far given last one first. -/
def readItems : (fuel depth : Nat) → List Toml → List Char → Option (Toml × List Char)
  | 0, _, _, _ => none
  | fuel + 1, depth, seen, s => do
    match ← skipGap false s with
    | ']' :: rest => return (.array seen.reverse, rest)
    | s =>
      let (item, rest) ← readValue fuel depth s
      match ← skipGap false rest with
      | ',' :: rest => readItems fuel depth (item :: seen) rest
      | ']' :: rest => return (.array (item :: seen).reverse, rest)
      | _ => none

/-- Reads the rest of a table in braces.  Line ends and comments may stand beside keys and values, but
not within a key. -/
def readFields : (fuel depth : Nat) → Fields → List Char → Option (Toml × List Char)
  | 0, _, _, _ => none
  | fuel + 1, depth, fields, s => do
    match ← skipGap false s with
    | '}' :: rest => return (.table .braces fields, rest)
    | s =>
      let (path, key, rest) ← readKey s
      match ← skipGap false rest with
      | '=' :: rest =>
        let (value, rest) ← readValue fuel depth (← skipGap false rest)
        let fields ← addValue path key value .braces fields
        match ← skipGap false rest with
        | ',' :: rest => readFields fuel depth fields rest
        | '}' :: rest => return (.table .braces fields, rest)
        | _ => none
      | _ => none

end

/-! ## Lines -/

/-- Reads a header and opens its table: the path to the table, all fields, and what follows. -/
def readHeader (root : Fields) (s : List Char) :
    Option (List String × Fields × List Char) := do
  match s with
  | '[' :: s =>
    let (path, key, rest) ← readKey (skipBlank s)
    match rest with
    | ']' :: ']' :: rest => return (path ++ [key], ← openItem path key root, rest)
    | _ => none
  | s =>
    let (path, key, rest) ← readKey (skipBlank s)
    match rest with
    | ']' :: rest => return (path ++ [key], ← openTable path key root, rest)
    | _ => none

/-- Reads a key with its value into the table of the current header. -/
def readAssignment (current : List String) (root : Fields) (s : List Char) :
    Option (Fields × List Char) := do
  let (path, key, rest) ← readKey s
  match rest with
  | '=' :: rest =>
    let rest := skipBlank rest
    let (value, rest) ← readValue (2 * rest.length + 2) maxDepth rest
    return (← addAt current path key value root, rest)
  | _ => none

/-- Reads line after line; the current header and the fields so far are given. -/
def readLines : (fuel : Nat) → List String → Fields → List Char → Option Fields
  | 0, _, _, _ => none
  | fuel + 1, current, root, s => do
    match skipBlank s with
    | [] => return root
    | '[' :: rest =>
      let (current, root, rest) ← readHeader root rest
      readLines fuel current root (← endLine rest)
    | c :: rest =>
      if c == '#' || c == '\n' || c == '\r' then readLines fuel current root (← endLine (c :: rest))
      else
        let (root, rest) ← readAssignment current root (c :: rest)
        readLines fuel current root (← endLine rest)

/-- Drops the mark that may begin a file. -/
def dropMark : List Char → List Char
  | '\ufeff' :: rest => rest
  | s => s

/-- Reads a document. -/
def read (text : String) : Option Fields :=
  let s := dropMark text.toList
  readLines (s.length + 1) [] [] s

end BulkSweep.Toml

/-!
# Contents of files

A file holds bytes.  Nearly always they are text, and then the text is kept; other bytes are kept as
they are, so that the lines before the first bad one can still be read.
-/

set_option autoImplicit false

namespace BulkSweep

/-- What a file holds. -/
inductive Content where
  /-- text -/
  | text (s : String)
  /-- bytes that are no text as a whole -/
  | raw (bytes : List UInt8)
  deriving DecidableEq, Repr, Inhabited

namespace Content

/-- The content of the given bytes. -/
def ofBytes (bytes : ByteArray) : Content :=
  match String.fromUTF8? bytes with
  | some s => text s
  | none => raw bytes.toList

/-- The bytes of a content. -/
def bytes : Content → List UInt8
  | text s => s.toUTF8.toList
  | raw bytes => bytes

/-- The text of a content, if it is one. -/
def text? : Content → Option String
  | text s => some s
  | raw _ => none

/-- A content with a text at its end. -/
def append (c : Content) (more : String) : Content :=
  match c with
  | text s => text (s ++ more)
  | raw bytes => ofBytes (ByteArray.mk (bytes ++ more.toUTF8.toList).toArray)

/-! ## Lines -/

/-- Puts one more element in front of the pieces of a list. -/
def addToPieces {α : Type} [BEq α] (separator c : α) :
    List (List α × Bool) → List (List α × Bool)
  | [] => if c == separator then [([], true)] else [([c], false)]
  | (piece, ended) :: more =>
    if c == separator then ([], true) :: (piece, ended) :: more else (c :: piece, ended) :: more

/-- The pieces between separators, each with whether a separator ends it.  Nothing after the last
separator is no piece. -/
def pieces {α : Type} [BEq α] (separator : α) (cs : List α) : List (List α × Bool) :=
  cs.foldr (addToPieces separator) []

/-- A piece without the character `last` before its separator.  A piece that no separator ends keeps
all of its characters. -/
def trimmedPiece {α : Type} [BEq α] (last : α) : List α × Bool → List α
  | (piece, false) => piece
  | (piece, true) => if piece.getLast? == some last then piece.dropLast else piece

/-- The lines of a text. -/
def linesOf (s : String) : List String :=
  (pieces '\n' s.toList).map fun piece => String.ofList (trimmedPiece '\r' piece)

/-- The lines of a content; nothing stands for a line that is no text. -/
def lines : Content → List (Option String)
  | text s => (linesOf s).map some
  | raw bytes => (pieces 10 bytes).map fun piece =>
    String.fromUTF8? (ByteArray.mk (trimmedPiece 13 piece).toArray)

end Content

end BulkSweep

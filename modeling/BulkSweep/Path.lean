import BulkSweep.Value.Basic

/-!
# Dotted paths

A path names a field of a document or of a document within it, the names separated by points.  Looking
a path up is limited in length and depth; what lies beyond a limit counts as absent.
-/

set_option autoImplicit false

namespace BulkSweep.Path

/-! ## Segments -/

/-- The pieces of a text between its points; there is always at least one. -/
def splitDots : List Char → List (List Char)
  | [] => [[]]
  | c :: cs =>
    if c = '.' then [] :: splitDots cs
    else
      match splitDots cs with
      | [] => [[c]]
      | first :: rest => (c :: first) :: rest

/-- The names along a path. -/
def segments (path : String) : List String :=
  (splitDots path.toList).map String.ofList

/-- The names before the last one. -/
def parents (path : String) : List String :=
  (segments path).dropLast

/-- The last name. -/
def leaf (path : String) : String :=
  (segments path).getLast?.getD ""

/-! ## Lookup -/

/-- The most names of a path that is looked up. -/
def maxDepth : Nat := 32

/-- The most bytes of a path that is looked up. -/
def maxBytes : Nat := 1024

/-- Follows names through nested documents. -/
def follow : List String → Document → Option Value
  | [], _ => none
  | [name], d => d.get? name
  | name :: more, d =>
    match d.get? name with
    | some (.document inner) => follow more inner
    | _ => none

/-- The value at a path. -/
def lookup (d : Document) (path : String) : Option Value :=
  if path.isEmpty || maxBytes < path.utf8ByteSize || maxDepth < (segments path).length then none
  else follow (segments path) d

end BulkSweep.Path

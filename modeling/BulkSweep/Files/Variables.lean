import BulkSweep.Files.Route
import BulkSweep.Text.Alphanumeric

/-!
# Variables in paths

A path may mention variables of the environment by their names in braces, after a mark.  A mention of a
variable that is set stands for its value; any other text stands for itself.
-/

set_option autoImplicit false

namespace BulkSweep.Route

open BulkSweep.Text

/-- Whether a character may stand in the name of a variable. -/
def inName (c : Char) : Bool :=
  isAlphanumeric c || c == '_' || c == '.'

/-- Reads a name and the brace after it.  A name does not begin with a point. -/
def readName (s : List Char) : Option String :=
  match s.takeWhile inName, s.dropWhile inName with
  | first :: more, '}' :: _ => if first == '.' then none else some (String.ofList (first :: more))
  | _, _ => none

/-- The names that a path mentions, in order. -/
def mentioned : List Char → List String
  | [] => []
  | '$' :: 'E' :: 'N' :: 'V' :: '{' :: rest => (readName rest).toList ++ mentioned rest
  | _ :: rest => mentioned rest

/-- How a path mentions a name. -/
def mention (name : String) : String :=
  "$ENV\x7b" ++ name ++ "\x7d"

/-- A path with the values of the variables it mentions.  One after the other, each variable that is set
replaces all its mentions, also those in the values of earlier ones. -/
def expand (env : String → Option String) (path : String) : String :=
  (mentioned path.toList).foldl
    (fun out name =>
      match env name with
      | some value => value.intercalate (out.splitOn (mention name))
      | none => out)
    path

end BulkSweep.Route

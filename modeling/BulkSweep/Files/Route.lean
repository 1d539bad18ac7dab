/-!
# Paths as text

A path is text whose parts are separated by slashes.  What it leads to is decided by the file system;
here it is only put together and taken apart.
-/

set_option autoImplicit false

namespace BulkSweep.Route

/-- Whether a path begins at the outermost folder. -/
def isAbsolute (path : String) : Bool :=
  path.toList.head? == some '/'

/-- A path inside a folder.  An absolute path stays as it is. -/
def join (folder path : String) : String :=
  if isAbsolute path || folder.isEmpty then path
  else if folder.toList.getLast? == some '/' then folder ++ path
  else folder ++ "/" ++ path

/-- A path without slashes at its end, unless it is nothing but slashes. -/
def withoutTrailing (path : String) : String :=
  match path.toList.reverse.dropWhile (· == '/') with
  | [] => if path.isEmpty then "" else "/"
  | cs => String.ofList cs.reverse

/-! ## Parts -/

/-- The parts of a path.  Two slashes in a row, and one at an end, have an empty part beside them. -/
def parts (path : String) : List String :=
  let add (c : Char) : List (List Char) → List (List Char)
    | [] => [[c]]
    | part :: more => if c == '/' then [] :: part :: more else (c :: part) :: more
  (path.toList.foldr add [[]]).map String.ofList

/-- Whether a part leads nowhere else: the empty one, and the single point. -/
def isIdle (part : String) : Bool :=
  part.isEmpty || part == "."

/-! ## Folders -/

/-- What stands before each part that leads somewhere, the parts given last one first. -/
def above : List String → List (List String)
  | [] => []
  | part :: before =>
    if isIdle part then above before else before.dropWhile isIdle :: above before

/-- The folders above a path, innermost first.  Parts at their ends that lead nowhere are left out; a
single point at the beginning is a folder.  Where an absolute or a relative path begins is none of
them. -/
def folders (path : String) : List String :=
  match parts path with
  | [] => []
  | first :: rest =>
    let prefixes := (above rest.reverse).map fun before => first :: before.reverse
    (prefixes.map "/".intercalate).filter (! ·.isEmpty)

/-- The folder that holds what a path leads to. -/
def parent (path : String) : String :=
  match folders path with
  | folder :: _ => folder
  | [] => if isAbsolute path then "/" else ""

/-- A path that names a folder, and the folders above it, innermost first.  Where paths begin is left
out. -/
def chain (path : String) : List String :=
  if (isAbsolute path || path.isEmpty) && (parts path).all isIdle then [] else path :: folders path

end BulkSweep.Route

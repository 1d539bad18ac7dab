import BulkSweep.Files.Content
import BulkSweep.Files.Folders

/-!
# File trees

A file system as a value.  A place is the list of names on the way from the outermost folder, which is
always there.  A path is followed name by name, and what stands on the way is kept: the way back out of
a folder leads where it was entered.
-/

set_option autoImplicit false

namespace BulkSweep

/-! ## Nodes -/

/-- What stands under a name. -/
inductive Node where
  /-- a file with its content -/
  | file (content : Content)
  /-- a folder with what stands in it, by name -/
  | folder (entries : List (String × Node))
  deriving Repr, Inhabited

/-- The names on the way to something. -/
abbrev Place : Type :=
  List String

namespace Node

/-- What stands in a folder, by name. -/
abbrev Entries : Type :=
  List (String × Node)

/-- Puts something under a name; a new name goes to the end. -/
def setEntry : Entries → String → Node → Entries
  | [], name, node => [(name, node)]
  | (n, old) :: rest, name, node =>
    if n = name then (n, node) :: rest else (n, old) :: setEntry rest name node

/-- Puts something at a place inside a folder.  Folders on the way are made if they are missing; nothing
is put inside a file. -/
def putIn (entries : Entries) (place : Place) (node : Node) : Entries :=
  match place with
  | [] => entries
  | [name] => setEntry entries name node
  | name :: rest =>
    match entries.lookup name with
    | some (.file _) => entries
    | some (.folder inner) => setEntry entries name (.folder (putIn inner rest node))
    | none => setEntry entries name (.folder (putIn [] rest node))

mutual

/-- The files at and below a place, with what stands there. -/
def filesAt (place : Place) : Node → List (Place × Content)
  | .file content => [(place, content)]
  | .folder entries => filesIn place entries

/-- The files of a folder at a place, with what stands in it. -/
def filesIn (place : Place) : List (String × Node) → List (Place × Content)
  | [] => []
  | (name, node) :: rest => filesAt (place ++ [name]) node ++ filesIn place rest

end

end Node

/-! ## Trees -/

/-- A file tree. -/
structure FileTree where
  /-- what stands in the outermost folder -/
  entries : Node.Entries
  /-- the working folder -/
  working : Place
  deriving Repr, Inhabited

namespace FileTree

/-- Puts something at a place other than the outermost folder. -/
def put (t : FileTree) (place : Place) (node : Node) : FileTree :=
  { t with entries := Node.putIn t.entries place node }

/-- The files of a tree. -/
def files (t : FileTree) : List (Place × Content) :=
  Node.filesIn [] t.entries

/-! ## Paths -/

/-- The most bytes of a name. -/
def maxName : Nat := 255

/-- The most bytes of a path. -/
def maxPath : Nat := 4095

/-- The names on a way from the outermost folder, each with what stands there, last one first.  Nothing
stands under a name that is not in use. -/
abbrev Trail : Type :=
  List (String × Option Node)

/-- The place to which a trail leads. -/
def Trail.place (trail : Trail) : Place :=
  (trail.map Prod.fst).reverse

/-- What stands at the end of a trail. -/
def nodeAt (t : FileTree) (trail : Trail) : Option Node :=
  match trail with
  | [] => some (.folder t.entries)
  | (_, node) :: _ => node

/-- Goes one name further. -/
def step (t : FileTree) (trail : Trail) (name : String) : Except FileError Trail :=
  match t.nodeAt trail with
  | none => .error .notFound
  | some (.file _) => .error .notFolder
  | some (.folder entries) =>
    if Route.isIdle name then .ok trail
    else if name == ".." then .ok trail.tail
    else if maxName < name.utf8ByteSize then .error .nameTooLong
    else .ok ((name, entries.lookup name) :: trail)

/-- Follows names from the end of a trail. -/
def follow (t : FileTree) : Trail → List String → Except FileError Trail
  | trail, [] => .ok trail
  | trail, name :: rest =>
    match t.step trail name with
    | .error e => .error e
    | .ok next => t.follow next rest

/-- Checks a path as a whole. -/
def checkPath (path : String) : Except FileError Unit :=
  if path.toList.contains '\x00' then .error .zeroInName
  else if path.isEmpty then .error .notFound
  else if maxPath < path.utf8ByteSize then .error .nameTooLong
  else .ok ()

/-- Follows some names from where a path begins, if the path as a whole is in order. -/
def followFor (t : FileTree) (path : String) (names : List String) : Except FileError Trail :=
  match checkPath path with
  | .error e => .error e
  | .ok _ => t.follow [] ((if Route.isAbsolute path then [] else t.working) ++ names)

/-- The trail of a path.  Its folder is there; whether anything stands at its end is another
question. -/
def locate (t : FileTree) (path : String) : Except FileError Trail :=
  t.followFor path (Route.parts path)

/-- What stands where a path leads. -/
def find (t : FileTree) (path : String) : Except FileError (Trail × Node) :=
  match t.locate path with
  | .error e => .error e
  | .ok trail =>
    match t.nodeAt trail with
    | none => .error .notFound
    | some node => .ok (trail, node)

/-! ## Operations -/

/-- The content of a file. -/
def read (t : FileTree) (path : String) : Except FileError Content :=
  match t.find path with
  | .error e => .error e
  | .ok (_, .folder _) => .error .isFolder
  | .ok (_, .file content) => .ok content

/-- Whether a path leads to a file. -/
def isFile (t : FileTree) (path : String) : Bool :=
  match t.read path with
  | .ok _ => true
  | .error _ => false

/-- Whether a path leads to a folder. -/
def isFolder (t : FileTree) (path : String) : Bool :=
  match t.find path with
  | .ok (_, .folder _) => true
  | _ => false

/-- Makes one folder in a folder that is there.  Slashes at the end of the path do not matter. -/
def makeFolder (t : FileTree) (path : String) : FileTree × Except FileError Unit :=
  match t.followFor path (Route.parts (Route.withoutTrailing path)) with
  | .error e => (t, .error e)
  | .ok trail =>
    match t.nodeAt trail with
    | some _ => (t, .error .exists)
    | none => (t.put trail.place (.folder []), .ok ())

/-- The making of folders in a tree. -/
def folderAccess : FolderAccess (StateM FileTree) where
  make := fun path t => (t.makeFolder path).swap
  isFolder := fun path t => (t.isFolder path, t)

/-- Makes a folder with all folders above it. -/
def makeFolders (t : FileTree) (path : String) : FileTree × Except FileError Unit :=
  ((folderAccess.ensureAll path).run t).swap

/-- Gives a file a new content; it is made if there is none. -/
def replace (t : FileTree) (path : String) (content : Content) : FileTree × Except FileError Unit :=
  match t.locate path with
  | .error .zeroInName => (t, .error .invalidName)
  | .error e => (t, .error e)
  | .ok trail =>
    match t.nodeAt trail with
    | some (.folder _) => (t, .error .isFolder)
    | _ => (t.put trail.place (.file content), .ok ())

/-- Adds text to the file at the end of a trail; it is made if there is none. -/
def appendAt (t : FileTree) (trail : Trail) (text : String) : FileTree × Except FileError Unit :=
  match t.nodeAt trail with
  | some (.folder _) => (t, .error .isFolder)
  | some (.file content) => (t.put trail.place (.file (content.append text)), .ok ())
  | none => (t.put trail.place (.file (.text text)), .ok ())

/-- Adds text to the end of a file, which is made if there is none.  A path that ends in a slash asks
for a folder, whatever its last name. -/
def append (t : FileTree) (path text : String) : FileTree × Except FileError Unit :=
  let short := Route.withoutTrailing path
  let names := Route.parts short
  if short = path then
    match t.followFor path names with
    | .error e => (t, .error e)
    | .ok trail => t.appendAt trail text
  else
    match t.followFor path (names.dropLast ++ ["."]) with
    | .error e => (t, .error e)
    | .ok _ => (t, .error .isFolder)

/-- The own name of what a path leads to. -/
def ownName? (t : FileTree) (path : String) : Option String :=
  match t.find path with
  | .error _ => none
  | .ok (trail, _) => trail.place.getLast?

end FileTree

end BulkSweep

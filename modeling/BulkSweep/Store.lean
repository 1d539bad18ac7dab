import BulkSweep.Collection
import BulkSweep.Expression
import BulkSweep.Extended.Encode
import BulkSweep.Files.Route
import BulkSweep.Host

/-!
# Stores

A store keeps collections in memory.  Each of them can be read from a file with one document a line,
and written there again.  A store answers as a connection does; it takes the database of a namespace
for granted.
-/

set_option autoImplicit false

namespace BulkSweep

/-! ## Errors -/

/-- Why a collection could not be read or written. -/
inductive StoreError where
  /-- its file cannot be read or written -/
  | file (path : String) (cause : FileError)
  /-- a line of its file is no document; lines are counted from one -/
  | line (path : String) (number : Nat) (cause : SyntaxError)
  /-- the store has no folder for files -/
  | noFolder
  deriving DecidableEq, Repr, Inhabited

/-- The message of an error. -/
def StoreError.message : StoreError → String
  | file path cause => "I/O error on " ++ path ++ ": " ++ cause.message
  | line path number cause => path ++ ":" ++ toString number ++ ": " ++ cause.message
  | noFolder => "store has no data directory"

/-! ## Stores -/

/-- Collections by name, and the folder of their files. -/
structure Store where
  /-- the folder; without one, collections are only kept in memory -/
  folder : Option String
  /-- the collections -/
  collections : List (String × Collection)
  deriving Inhabited

namespace Store

/-- A store without collections. -/
def empty (folder : Option String) : Store :=
  ⟨folder, []⟩

/-- The documents of a collection; none if there is no such collection. -/
def documents (s : Store) (name : String) : Collection :=
  (s.collections.lookup name).getD []

/-- Gives a collection other documents. -/
def setDocuments (s : Store) (name : String) (docs : Collection) : Store :=
  { s with collections := (name, docs) :: s.collections.filter fun entry => entry.1 != name }

@[simp]
theorem documents_setDocuments_self (s : Store) (name : String) (docs : Collection) :
    (s.setDocuments name docs).documents name = docs := by
  simp [documents, setDocuments]

/-- Other collections stay as they are. -/
theorem documents_setDocuments_of_ne (s : Store) {name other : String} (h : other ≠ name)
    (docs : Collection) : (s.setDocuments name docs).documents other = s.documents other := by
  have hother : (other == name) = false := beq_eq_false_iff_ne.mpr h
  have hkept : ∀ entries : List (String × Collection),
      (entries.filter fun entry => entry.1 != name).lookup other = entries.lookup other := by
    intro entries
    induction entries with
    | nil => rfl
    | cons entry rest ih =>
      obtain ⟨key, old⟩ := entry
      by_cases hkey : key = name
      · rw [List.filter_cons_of_neg (by simp [hkey]), ih, List.lookup_cons, hkey, hother]
      · rw [List.filter_cons_of_pos (by simp [hkey]), List.lookup_cons, List.lookup_cons, ih]
  rw [documents, setDocuments, List.lookup_cons, hother]
  exact congrArg (·.getD []) (hkept s.collections)

/-- The file of a collection. -/
def path? (s : Store) (name : String) : Option String :=
  s.folder.map fun folder => Route.join folder (name ++ ".ndjson")

/-! ## Files -/

/-- The documents in the lines of a file.  Blank lines hold none.  The first line that cannot be read
stands for the failure. -/
def readLines (path : String) (number : Nat) :
    List (Option String) → Except StoreError Collection
  | [] => .ok []
  | none :: _ => .error (.file path .notText)
  | some text :: rest =>
    if (Text.trim text).isEmpty then readLines path (number + 1) rest
    else
      match parseDocument text with
      | .error cause => .error (.line path number cause)
      | .ok d => (readLines path (number + 1) rest).map (d :: ·)

/-- The text of a file that holds the given documents. -/
def fileText (docs : Collection) : String :=
  String.join (docs.map fun d => Extended.storedLine d ++ "\n")

variable {m : Type → Type} [Monad m]

/-- Documents that all have an id. -/
def withIds (host : Host m) : Collection → m Collection
  | [] => return []
  | d :: rest => do
    let d := Document.withId d (← host.newId)
    return d :: (← withIds host rest)

/-- The documents that a file holds; none if there is no file. -/
def readFile (host : Host m) (path : String) : m (Except StoreError Collection) := do
  match ← host.files.read path with
  | .ok content => return readLines path 1 content.lines
  | .error .notFound =>
    host.log .debug (path ++ " does not exist, starting empty")
    return .ok []
  | .error cause => return .error (.file path cause)

/-- Reads a collection from its file, in place of the one in memory, and tells how many documents it
has. -/
def load (host : Host m) (name : String) : StateT Store m (Except StoreError Nat) := do
  match (← get).path? name with
  | none => return .error .noFolder
  | some path =>
    match ← (readFile host path : m _) with
    | .error e => return .error e
    | .ok docs =>
      let docs ← (withIds host docs : m _)
      host.log .info ("loaded " ++ toString docs.length ++ " documents from " ++ path)
      modify fun s => s.setDocuments name docs
      return .ok docs.length

/-- Writes a collection to its file and tells where that is. -/
def save (host : Host m) (name : String) : StateT Store m (Except StoreError String) := do
  let store ← get
  match store.path? name with
  | none => return .error .noFolder
  | some path =>
    match ← host.files.makeFolders (Route.parent path) with
    | .error cause => return .error (.file path cause)
    | .ok _ =>
      match ← host.files.replace path (fileText (store.documents name)) with
      | .error cause => return .error (.file path cause)
      | .ok _ =>
        host.log .info ("saved " ++ name ++ " to " ++ path)
        return .ok path

/-! ## Single documents -/

/-- Adds a document to the end of a collection and tells its id. -/
def insert (host : Host m) (name : String) (d : Document) : StateT Store m Value := do
  let d := Document.withId d (← host.newId)
  modify fun s => s.setDocuments name (s.documents name ++ [d])
  return (Document.id? d).getD .null

/-! ## Connections -/

/-- A store as a connection. -/
def connection : Connection (StateT Store m) where
  count := fun target filter => do
    return .ok (Collection.count ((← get).documents target.collection) filter)
  openCursor := fun target filter => do
    return .ok ⟨Collection.ids ((← get).documents target.collection) filter, none⟩
  deleteByIds := fun target ids => do
    let before := (← get).documents target.collection
    let after := Collection.delete before ids
    modify fun s => s.setDocuments target.collection after
    return .ok (before.length - after.length)
  updateByIds := fun target ids operators => do
    let (after, result) := Collection.update ((← get).documents target.collection) ids operators
    modify fun s => s.setDocuments target.collection after
    return result

end Store

end BulkSweep

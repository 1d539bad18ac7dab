import BulkSweep.Files.Error
import BulkSweep.Files.Route

/-!
# Making folders

A folder is made with those above it that are missing.  The one that is asked for is tried first, so
that nothing above it is looked at when its own folder is there.
-/

set_option autoImplicit false

namespace BulkSweep

/-- The two operations by which folders are made, each on a path. -/
structure FolderAccess (m : Type → Type) where
  /-- makes one folder in a folder that is there -/
  make : String → m (Except FileError Unit)
  /-- whether the path leads to a folder -/
  isFolder : String → m Bool

namespace FolderAccess

variable {m : Type → Type} [Monad m]

/-- Makes one folder unless it is there. -/
def ensure (folders : FolderAccess m) (path : String) : m (Except FileError Unit) := do
  match ← folders.make path with
  | .error .exists => return if ← folders.isFolder path then .ok () else .error .exists
  | result => return result

/-- Makes the first of the given folders, and before it those of the others that are missing, each of
them above the one before it. -/
def ensureChain (folders : FolderAccess m) : List String → m (Except FileError Unit)
  | [] => return .ok ()
  | path :: above => do
    match ← folders.ensure path with
    | .error .notFound =>
      match ← folders.ensureChain above with
      | .ok _ => folders.ensure path
      | failed => return failed
    | result => return result

/-- Makes a folder with all folders above it.  Where paths begin there is always one. -/
def ensureAll (folders : FolderAccess m) (path : String) : m (Except FileError Unit) :=
  folders.ensureChain (Route.chain path)

end FolderAccess

end BulkSweep

import BulkSweep.Files.Variables
import BulkSweep.Host
import BulkSweep.Settings

/-!
# Logging

Where log lines go: to the terminal always, and to a file that is renamed when it has grown large, if a
folder is given.
-/

set_option autoImplicit false

namespace BulkSweep

/-- A place for log lines. -/
inductive LogTarget where
  /-- the terminal -/
  | terminal
  /-- a file, of which some old ones are kept under paths of a pattern -/
  | file (path oldPattern : String) (keep : Nat)
  deriving DecidableEq, Repr, Inhabited

/-- The name of a place. -/
def LogTarget.name : LogTarget → String
  | terminal => "stderr"
  | file _ _ _ => "file"

/-- What is logged, and where. -/
structure Logging where
  /-- the threshold -/
  level : Level
  /-- the places, in order -/
  targets : List LogTarget
  deriving DecidableEq, Repr, Inhabited

namespace Logging

/-- How many old logs are kept when nothing is said, or too much. -/
def defaultKeep : Nat := 7

/-- The most old logs. -/
def maxKeep : Nat := 2 ^ 32 - 1

/-- The size from which on a log is renamed, in bytes. -/
def rollSize : Nat := 10 * 1024 * 1024

/-- The name of the log. -/
def fileName : String :=
  "docbulk.log"

/-- What stands for the number of an old log. -/
def numberMark : String :=
  "\x7b\x7d"

/-- The name of an old log, a mark in place of its number. -/
def oldFileName : String :=
  "docbulk." ++ numberMark ++ ".log"

/-- The path of the old log with a number.  The number goes wherever the pattern has the mark. -/
def oldPath (env : Settings.Environment) (pattern : String) (number : Nat) : String :=
  Route.expand env ((toString number).intercalate (pattern.splitOn numberMark))

/-- How many old logs are kept. -/
def keepOf (retention : Option Nat) : Nat :=
  match retention with
  | some n => if n ≤ maxKeep then n else defaultKeep
  | none => defaultKeep

/-- A log line as it is written. -/
def lineText (time : String) (level : Level) (message : String) : String :=
  time ++ " [" ++ level.name ++ "] " ++ message ++ "\n"

variable {m : Type → Type} [Monad m]

/-- Makes a file with the folder it stands in. -/
def makeFile (files : FileAccess m) (path : String) : m (Except FileError Unit) := do
  match ← files.makeFolders (Route.parent path) with
  | .error e => return .error e
  | .ok _ => files.append path ""

/-- Makes the folder and the file of a log.  The folder is made as it is written; the file stands where
the variables in its path lead. -/
def prepare (files : FileAccess m) (env : Settings.Environment) (folder : Option String)
    (level : Option String) (retention : Option Nat) : m (Except FileError Logging) := do
  match folder with
  | none => return .ok ⟨.ofSetting level, [.terminal]⟩
  | some folder =>
    match ← files.makeFolders folder with
    | .error e => return .error e
    | .ok _ =>
      let path := Route.expand env (Route.join folder fileName)
      match ← makeFile files path with
      | .error e => return .error e
      | .ok _ =>
        let oldPattern := Route.join folder oldFileName
        return .ok ⟨.ofSetting level, [.terminal, .file path oldPattern (keepOf retention)]⟩

/-- Prepares logging as settings ask for it. -/
def ofSettings (files : FileAccess m) (env : Settings.Environment) (s : Settings) :
    m (Except FileError Logging) :=
  prepare files env s.logFolder s.logLevel s.logRetention

/-- Prepares logging as an environment asks for it.  A retention that is no number is left out. -/
def ofEnvironment (files : FileAccess m) (env : Settings.Environment) :
    m (Except FileError Logging) :=
  prepare files env (env "DOCBULK_LOG_DIR") (env "DOCBULK_LOG_LEVEL")
    ((env "DOCBULK_LOG_RETENTION").bind fun text => Settings.readWord text.toList)

end Logging

end BulkSweep

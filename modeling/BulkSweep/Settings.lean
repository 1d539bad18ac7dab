import BulkSweep.Files.Route
import BulkSweep.Host
import BulkSweep.Job
import BulkSweep.Text.Quoted
import BulkSweep.Toml.Reader

/-!
# Settings

Settings come from the environment and from up to four files.  Each of them is taken from the first
source that has it: the environment comes first, then the file that the command line names, the one
that the environment names, the one of the user and the one in the working folder.
-/

set_option autoImplicit false

namespace BulkSweep

open BulkSweep.Numeric

/-! ## Settings -/

/-- The settings, each given or not. -/
structure Settings where
  /-- how many documents are changed at once -/
  batchSize : Option Int := none
  /-- how long to wait between batches, in milliseconds -/
  pauseMs : Option Int := none
  /-- the folder of the collections -/
  dataFolder : Option String := none
  /-- the folder of the log -/
  logFolder : Option String := none
  /-- how much is logged -/
  logLevel : Option String := none
  /-- how many old logs are kept -/
  logRetention : Option Nat := none
  deriving DecidableEq, Repr, Inhabited

namespace Settings

/-- Settings with those of another source where they have none. -/
def orElse (a b : Settings) : Settings where
  batchSize := a.batchSize.or b.batchSize
  pauseMs := a.pauseMs.or b.pauseMs
  dataFolder := a.dataFolder.or b.dataFolder
  logFolder := a.logFolder.or b.logFolder
  logLevel := a.logLevel.or b.logLevel
  logRetention := a.logRetention.or b.logRetention

/-- The size of a batch. -/
def effectiveBatchSize (s : Settings) : Int :=
  s.batchSize.getD defaultBatchSize

/-- The pause between batches, in milliseconds. -/
def effectivePauseMs (s : Settings) : Int :=
  s.pauseMs.getD defaultPauseMs

end Settings

/-- Why settings could not be read. -/
inductive SettingsError where
  /-- a file cannot be read -/
  | unreadable (path : String) (cause : FileError)
  /-- a file holds no settings -/
  | malformed (path : String)
  /-- a variable of the environment holds no number -/
  | variable (name value : String)
  deriving DecidableEq, Repr, Inhabited

/-- The message of an error. -/
def SettingsError.message : SettingsError → String
  | unreadable path cause => "failed to read config " ++ path ++ ": " ++ cause.message
  | malformed path => "invalid config " ++ path ++ ": not a valid settings document"
  | .variable name value => "invalid value for " ++ name ++ ": " ++ Text.quoted value

namespace Settings

/-! ## Files -/

/-- An optional field of a file: it may be absent, but must not hold another kind of value. -/
def field {α : Type} (read : Toml → Option α) (fields : Toml.Fields) (name : String) :
    Option (Option α) :=
  match fields.lookup name with
  | none => some none
  | some value => (read value).map some

/-- A 64-bit integer with sign. -/
def signed? : Toml → Option Int
  | .integer n => if -(2 ^ 63) ≤ n ∧ n < 2 ^ 63 then some n else none
  | _ => none

/-- A 64-bit integer without sign. -/
def unsigned? : Toml → Option Nat
  | .integer n => if 0 ≤ n ∧ n < 2 ^ 64 then some n.toNat else none
  | _ => none

/-- A text. -/
def text? : Toml → Option String
  | .text s => some s
  | _ => none

/-- The settings that a file holds.  Other fields are left alone. -/
def ofFields (fields : Toml.Fields) : Option Settings := do
  return {
    batchSize := ← field signed? fields "batch_size"
    pauseMs := ← field signed? fields "pause_ms"
    dataFolder := ← field text? fields "data_dir"
    logFolder := ← field text? fields "log_dir"
    logLevel := ← field text? fields "log_level"
    logRetention := ← field unsigned? fields "log_retention" }

/-- The settings that a content holds. -/
def ofContent (path : String) (content : Content) : Except SettingsError Settings :=
  match content.text? with
  | none => .error (.unreadable path .notText)
  | some text =>
    match (Toml.read text).bind ofFields with
    | none => .error (.malformed path)
    | some settings => .ok settings

variable {m : Type → Type} [Monad m]

/-- Reads the settings of a file. -/
def readFile (host : Host m) (path : String) : m (Except SettingsError Settings) := do
  match ← host.files.read path with
  | .error cause => return .error (.unreadable path cause)
  | .ok content => return ofContent path content

/-! ## Environments -/

/-- The variables of an environment. -/
abbrev Environment : Type :=
  String → Option String

/-- The number in a variable; blanks around it do not matter. -/
def number {α : Type} (read : List Char → Option α) (env : Environment) (name : String) :
    Except SettingsError (Option α) :=
  match env name with
  | none => .ok none
  | some value =>
    match read (Text.trim value).toList with
    | none => .error (.variable name value)
    | some n => .ok (some n)

/-- Reads a number without sign of 64 bits. -/
def readWord (s : List Char) : Option Nat := do
  let n ← readUnsigned s
  if n < 2 ^ 64 then some n else none

/-- The settings of an environment. -/
def ofEnvironment (env : Environment) : Except SettingsError Settings := do
  return {
    batchSize := ← number (readSized 64) env "DOCBULK_BATCH_SIZE"
    pauseMs := ← number (readSized 64) env "DOCBULK_PAUSE_MS"
    logRetention := ← number readWord env "DOCBULK_LOG_RETENTION"
    dataFolder := env "DOCBULK_DATA_DIR"
    logFolder := env "DOCBULK_LOG_DIR"
    logLevel := env "DOCBULK_LOG_LEVEL" }

/-! ## Sources -/

/-- The name of a file of settings. -/
def fileName : String :=
  "docbulk.toml"

/-- The home folder of the user: the one that the environment names, else the one of the account. -/
def homeFolder? (env : Environment) (account : Option String) : Option String :=
  match env "HOME" with
  | some home => if home.isEmpty then account else some home
  | none => account

/-- The folder of a user's settings, by the environment of the process.  Only an absolute path can name
it. -/
def userFolder? (env : Environment) (account : Option String) : Option String :=
  match (env "XDG_CONFIG_HOME").filter Route.isAbsolute with
  | some folder => some folder
  | none => (homeFolder? env account).map fun home => Route.join home ".config"

/-- The files that are looked for, in order. -/
def candidates (named userFolder : Option String) (working : String) : List String :=
  named.toList ++ (userFolder.map fun folder => Route.join folder fileName).toList
    ++ [Route.join working fileName]

/-- Adds the settings of those files that are there. -/
def readCandidates (host : Host m) :
    List String → Settings → m (Except SettingsError Settings)
  | [], settings => return .ok settings
  | path :: rest, settings => do
    if ← host.files.isFile path then
      host.log .debug ("reading config " ++ path)
      match ← readFile host path with
      | .error e => return .error e
      | .ok more => readCandidates host rest (settings.orElse more)
    else readCandidates host rest settings

/-- Reads the settings of the file that the command line names. -/
def readNamed (host : Host m) : Option String → m (Except SettingsError Settings)
  | none => return .ok {}
  | some path => readFile host path

/-- Reads all settings. -/
def load (host : Host m) (env : Environment) (userFolder named : Option String) :
    m (Except SettingsError Settings) := do
  match ← readNamed host named with
  | .error e => return .error e
  | .ok settings =>
    let paths := candidates (env "DOCBULK_CONFIG") userFolder (← host.files.workingFolder)
    match ← readCandidates host paths settings with
    | .error e => return .error e
    | .ok settings => return (ofEnvironment env).map fun first => first.orElse settings

end Settings

end BulkSweep

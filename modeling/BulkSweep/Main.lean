import Std.Async.Signal
import Std.Time
import BulkSweep.Files.Folders
import BulkSweep.Interrupt
import BulkSweep.Program

/-!
# The program in the real world

The operations of a host, done for real: on the terminal, the files, the clock and the signals of the
process.
-/

set_option autoImplicit false

namespace BulkSweep.Real

/-! ## Files -/

/-- The failure with a number of the operating system.  Some calls give the number with its sign
changed. -/
def failureOf (code : UInt32) (details : String) : FileError :=
  let number := if code < 0x80000000 then code else 0 - code
  match number with
  | 2 => .notFound
  | 17 => .exists
  | 20 => .notFolder
  | 21 => .isFolder
  | 36 => .nameTooLong
  | _ => .other (details ++ " (os error " ++ toString number ++ ")")

/-- The failure behind an exception. -/
def failure : IO.Error → FileError
  | .noFileOrDirectory _ code details => failureOf code details
  | .alreadyExists _ code details => failureOf code details
  | .inappropriateType _ code details => failureOf code details
  | .invalidArgument _ code details => failureOf code details
  | .permissionDenied _ code details => failureOf code details
  | .resourceExhausted _ code details => failureOf code details
  | .noSuchThing _ code details => failureOf code details
  | .otherError code details => failureOf code details
  | e => .other e.toString

/-- Does an operation on files and tells how it failed. -/
def attempt {α : Type} (act : IO α) : IO (Except FileError α) := do
  try
    return .ok (← act)
  catch e =>
    return .error (failure e)

/-- Asks something of a path; what cannot be asked is answered with no. -/
def ask (act : IO Bool) : IO Bool := do
  try act catch _ => return false

/-- Whether a path leads to a folder. -/
def isFolder (path : String) : IO Bool :=
  ask do (← IO.FS.realPath path).isDir

/-- Whether a path leads to a file. -/
def isFile (path : String) : IO Bool :=
  ask do
    let real ← IO.FS.realPath path
    return (← real.pathExists) && !(← real.isDir)

/-- Does an operation on a path, unless the path holds a character with the code zero. -/
def attemptAt {α : Type} (path : String) (act : IO α) : IO (Except FileError α) :=
  if path.toList.contains '\x00' then return .error .zeroInName else attempt act

/-- The making of folders on the machine. -/
def folders : FolderAccess IO where
  make := fun path => attemptAt path (IO.FS.createDir path)
  isFolder := isFolder

/-- Adds text to the end of a file. -/
def append (path text : String) : IO Unit := do
  let file ← IO.FS.Handle.mk path .append
  file.putStr text
  file.flush

/-- Gives a file a new text: a file beside it is written and then takes its name. -/
def replace (path text : String) : IO (Except FileError Unit) := do
  if path.toList.contains '\x00' then return .error .invalidName
  attempt do
    let beside := Route.join (Route.parent path) (".tmp" ++ toString (← IO.rand 0 (2 ^ 60)))
    IO.FS.writeFile beside text
    try
      IO.FS.rename beside path
    catch e =>
      IO.FS.removeFile beside
      throw e

/-- The files of the machine. -/
def files : FileAccess IO where
  read := fun path => attemptAt path do return Content.ofBytes (← IO.FS.readBinFile path)
  isFile := isFile
  makeFolders := folders.ensureAll
  replace := replace
  append := fun path text => attemptAt path (append path text)
  ownName? := fun path => do
    if path.isEmpty then return none
    match ← attempt (IO.FS.realPath path) with
    | .ok real => return real.fileName
    | .error _ => return none
  workingFolder := return (← IO.currentDir).toString

/-! ## Time -/

/-- The milliseconds since the beginning of 1970. -/
def millis : IO Int := do
  return (← Std.Time.Timestamp.now).toMillisecondsSinceUnixEpoch.val

/-- The local date and time; universal time where the zone is not known. -/
def timestamp : IO String := do
  try
    return (← Std.Time.PlainDateTime.now).format "uuuu-MM-dd HH:mm:ss"
  catch _ =>
    return Calendar.secondText (← millis)

/-! ## Log -/

/-- Whether there is anything at a path. -/
def isThere (path : String) : IO Bool :=
  ask do (← IO.FS.realPath path).pathExists

/-- Renames a file; the folder of its new name is made if it is missing. -/
def move (path newPath : String) : IO Unit := do
  let _ ← folders.ensureChain (Route.folders newPath)
  IO.FS.rename path newPath

/-- Renames a log that has grown large: each old log takes the next number, and the last one goes. -/
def roll (path : String) (oldPath : Nat → String) (keep : Nat) : IO Unit := do
  if keep = 0 then
    IO.FS.removeFile path
  else
    for i in (List.range (keep - 1)).reverse do
      if ← isThere (oldPath i) then
        move (oldPath i) (oldPath (i + 1))
    move path (oldPath 0)

/-- Writes a line to one place of the log. -/
def writeTo (env : Settings.Environment) (line : String) : LogTarget → IO Unit
  | .terminal => IO.eprint line
  | .file path oldPattern keep => do
    append path line
    if Logging.rollSize < (← (← IO.FS.realPath path).metadata).byteSize.toNat then
      roll path (Logging.oldPath env oldPattern) keep

/-- Writes a line to the log.  A log that cannot be written to stops nothing. -/
def log (env : Settings.Environment) (logging : Option Logging) (level : Level)
    (message : String) : IO Unit := do
  match logging with
  | none => return
  | some logging =>
    if logging.level.keeps level then
      let line := Logging.lineText (← timestamp) level message
      for target in logging.targets do
        let _ ← attempt (writeTo env line target)

/-! ## Interrupts -/

/-- Notes a signal once it comes. -/
def await (flag : IO.Ref Bool) (log : Level → String → IO Unit) (i : Interrupt)
    (signal : Std.Async.Signal) : IO Unit := do
  let waiter ← Std.Async.Signal.Waiter.mk signal false
  let task ← waiter.wait
  let _ ← IO.mapTask (fun _ => do
    if !(← flag.get) then
      flag.set true
      for (level, line) in i.lines do
        log level line) task

/-- Begins to listen for the signals that ask to stop. -/
def listen (flag : IO.Ref Bool) (log : Level → String → IO Unit) : IO (Except FileError Unit) :=
  attempt do
    await flag log .keyboard .sigint
    await flag log .termination .sigterm

/-! ## Ids -/

/-- Makes an id of the time, of chance and of a running number. -/
def newId (counter : IO.Ref Nat) : IO ObjectId := do
  let seconds := (← millis).toNat / 1000
  let chance ← IO.rand 0 (2 ^ 40 - 1)
  let number ← counter.modifyGet fun n => (n, n + 1)
  return ⟨BitVec.ofNat 96 (seconds * 2 ^ 64 + chance * 2 ^ 24 + number % 2 ^ 24)⟩

/-! ## Program -/

/-- Writes to the terminal at once. -/
def print (text : String) : IO Unit := do
  let out ← IO.getStdout
  let _ ← attempt do
    out.putStr text
    out.flush

/-- The text of a file of the system; nothing if it cannot be read. -/
def systemFile (path : String) : IO (List String) := do
  try
    return Content.linesOf (← IO.FS.readFile path)
  catch _ =>
    return []

/-- A variable in the block of the environment.  Its name ends at the first sign of equality that does
not begin it. -/
def variableOf (entry : List UInt8) : Option (String × String) := do
  let text ← String.fromUTF8? (ByteArray.mk entry.toArray)
  match text.toList with
  | [] => none
  | first :: rest =>
    let name := rest.takeWhile (· != '=')
    match rest.drop name.length with
    | _ :: value => some (String.ofList (first :: name), String.ofList value)
    | [] => none

/-- The variables that the program looks at by itself. -/
def variableNames : List String :=
  ["DOCBULK_CONFIG", "DOCBULK_BATCH_SIZE", "DOCBULK_PAUSE_MS", "DOCBULK_LOG_RETENTION",
   "DOCBULK_DATA_DIR", "DOCBULK_LOG_DIR", "DOCBULK_LOG_LEVEL", "XDG_CONFIG_HOME", "HOME",
   "CLICOLOR", "CLICOLOR_FORCE", "NO_COLOR"]

/-- The variables that are set.  Those that are no text are left out.  Where the system does not show
the whole block, they are asked for by name. -/
def setVariables : IO (List (String × String)) := do
  match ← attempt (IO.FS.readBinFile "/proc/self/environ") with
  | .ok block => return (Content.pieces 0 block.toList).filterMap fun entry => variableOf entry.1
  | .error _ =>
    variableNames.filterMapM fun name => do
      return (← IO.getEnv name).map fun value => (name, value)

/-- The environment of the process. -/
def environment : IO Settings.Environment := do
  let set ← setVariables
  return fun name => set.lookup name

/-- The home folder in the account of the user who runs the process. -/
def accountFolder : IO (Option String) := do
  let status ← systemFile "/proc/self/status"
  let accounts ← systemFile "/etc/passwd"
  return do
    let owner ← status.findSome? fun line =>
      match line.splitOn "\t" with
      | "Uid:" :: user :: _ => some user
      | _ => none
    accounts.findSome? fun line =>
      match line.splitOn ":" with
      | [_, _, user, _, _, home, _] => if user = owner && !home.isEmpty then some home else none
      | _ => none

/-- The host of a process. -/
def host (env : Settings.Environment) (palette : Palette) (flag : IO.Ref Bool)
    (counter : IO.Ref Nat) (logging : Option Logging) : Host IO where
  palette := palette
  print := print
  log := log env logging
  clock := IO.monoNanosNow
  timestamp := timestamp
  sleep := fun _ nanos => IO.sleep (UInt32.ofNat ((nanos + 999999) / 1000000))
  draw := IO.rand 0 (2 ^ 62)
  newId := newId counter
  listen := listen flag (log env logging)
  interrupted := flag.get
  overflow := fun cause => throw (IO.userError cause.message)
  files := files

/-- The surroundings of a process. -/
def surroundings : IO (Surroundings IO) := do
  let environment ← environment
  let palette := Palette.ofEnvironment environment (← (← IO.getStdout).isTty)
  let flag ← IO.mkRef false
  let counter ← IO.mkRef 0
  return {
    host := host environment palette flag counter
    environment := environment
    accountFolder := ← accountFolder
    complain := IO.eprint }

/-- The exit code of a process that breaks off. -/
def brokenCode : UInt32 := 101

end BulkSweep.Real

/-- Runs the program. -/
def main (args : List String) : IO UInt32 := do
  try
    return UInt32.ofNat (← BulkSweep.Program.run (← BulkSweep.Real.surroundings) args)
  catch cause =>
    IO.eprintln cause
    return BulkSweep.Real.brokenCode

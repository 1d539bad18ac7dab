import BulkSweep.Command.Arguments
import BulkSweep.Command.Run
import BulkSweep.Logging

/-!
# The program

From a command line to an exit code: settings are read, the log is prepared, and the command is run.  A
log that cannot be prepared is done without.
-/

set_option autoImplicit false

namespace BulkSweep

/-- Where the program runs. -/
structure Surroundings (m : Type → Type) where
  /-- the host whose log lines go as prepared, or nowhere -/
  host : Option Logging → Host m
  /-- the environment -/
  environment : Settings.Environment
  /-- the home folder that the system knows for the user -/
  accountFolder : Option String
  /-- writes to the terminal beside the output -/
  complain : String → m Unit

namespace Program

/-- The exit code for words that are no command line. -/
def usageCode : Nat := 2

/-- The exit code of a failure. -/
def failureCode : Nat := 1

variable {m : Type → Type} [Monad m]

/-- Tells a failure. -/
def fail (s : Surroundings m) (message : String) : m Nat := do
  s.complain ("error: " ++ message ++ "\n")
  return failureCode

/-- Prepares the log; what goes wrong is told, and the log is done without. -/
def prepareLog (s : Surroundings m) (settings : Settings) : m (Host m) := do
  match ← Logging.ofSettings (s.host none).files s.environment settings with
  | .ok logging => return s.host (some logging)
  | .error e =>
    s.complain ("warning: logging disabled: " ++ e.message ++ "\n")
    return s.host none

/-- Runs a command with settings. -/
def invoke (s : Surroundings m) (i : Arguments.Invocation) : m Nat := do
  let quiet := s.host none
  let userFolder := Settings.userFolder? s.environment s.accountFolder
  match ← Settings.load quiet s.environment userFolder i.config with
  | .error e => fail s e.message
  | .ok settings =>
    let host ← prepareLog s settings
    match ← i.command.run host settings true with
    | .ok status => return status.exitCode
    | .error e =>
      host.log .error e.message
      fail s e.message

/-- Runs the program with the words of a command line; the result is the exit code. -/
def run (s : Surroundings m) (args : List String) : m Nat := do
  match Arguments.read args with
  | .error .help =>
    (s.host none).print Arguments.usage
    return Status.success.exitCode
  | .error .version =>
    (s.host none).printLine Arguments.versionLine
    return Status.success.exitCode
  | .error (.usage cause) =>
    s.complain ("error: " ++ cause.message ++ "\n\n" ++ Arguments.usage)
    return usageCode
  | .ok invocation => invoke s invocation

end Program

end BulkSweep

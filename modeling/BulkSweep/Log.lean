/-!
# Log lines

What the program tells its operator beside its output.
-/

set_option autoImplicit false

namespace BulkSweep

/-- How much a line matters, and how much of the log is kept: a threshold keeps the lines of its own
level and of those before it. -/
inductive Level where
  /-- nothing -/
  | off
  /-- failures -/
  | error
  /-- things to look at -/
  | warn
  /-- milestones -/
  | info
  /-- single steps -/
  | debug
  /-- everything -/
  | trace
  deriving DecidableEq, Repr, Inhabited

namespace Level

/-- The name of a level. -/
def name : Level → String
  | off => "OFF"
  | error => "ERROR"
  | warn => "WARN"
  | info => "INFO"
  | debug => "DEBUG"
  | trace => "TRACE"

/-- The place of a level among all levels. -/
def rank : Level → Nat
  | off => 0
  | error => 1
  | warn => 2
  | info => 3
  | debug => 4
  | trace => 5

/-- Whether a threshold keeps lines of a level. -/
def keeps (threshold line : Level) : Bool :=
  line.rank ≤ threshold.rank

/-- The level of a setting, in any mixture of cases; the milestones when it is absent or unknown. -/
def ofSetting (setting : Option String) : Level :=
  match (setting.getD "info").toList.map Char.toLower |> String.ofList with
  | "off" => off
  | "error" => error
  | "warn" => warn
  | "debug" => debug
  | "trace" => trace
  | _ => info

end Level

end BulkSweep

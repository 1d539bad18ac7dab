import BulkSweep.Log

/-!
# Interrupts

The operator can ask a running job to stop.  The request is only noted; the job looks for it between
two batches.
-/

set_option autoImplicit false

namespace BulkSweep

/-- How a job is asked to stop. -/
inductive Interrupt where
  /-- from the keyboard -/
  | keyboard
  /-- by another program -/
  | termination
  deriving DecidableEq, Repr, Inhabited

namespace Interrupt

/-- The name of an interrupt in the log. -/
def name : Interrupt → String
  | keyboard => "SIGINT"
  | termination => "SIGTERM"

/-- What the operator is told when the request is noted. -/
def notice : String :=
  "Interrupt received, will exit safely after current batch completes..."

/-- The lines that an interrupt leaves in the log. -/
def lines (i : Interrupt) : List (Level × String) :=
  [(.debug, "received " ++ i.name), (.warn, notice)]

end Interrupt

end BulkSweep

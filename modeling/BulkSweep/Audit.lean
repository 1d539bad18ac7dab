import BulkSweep.Host
import BulkSweep.Job

/-!
# Audit logs

A job can leave a trace of its events in a file of the operator's choice: a line for each event, the
time in front, after whatever the file held before.
-/

set_option autoImplicit false

namespace BulkSweep

/-- Where the events of a job go; nowhere without a path. -/
structure AuditLog where
  /-- the file -/
  path : Option String
  deriving DecidableEq, Repr, Inhabited

namespace AuditLog

variable {m : Type → Type} [Monad m]

/-- The line of an event. -/
def entry (time message : String) : String :=
  "[" ++ time ++ "] " ++ message ++ "\n"

/-- Opens a log.  Its file is made if there is none. -/
def openAt (h : Host m) : Option String → m (Except BulkError AuditLog)
  | none => return .ok ⟨none⟩
  | some path => do
    match ← h.files.append path "" with
    | .error cause => return .error (.auditLog path cause)
    | .ok _ =>
      h.log .info ("Log output to: " ++ path)
      return .ok ⟨some path⟩

/-- Writes down an event.  A failure is logged and changes nothing else. -/
def record (h : Host m) (log : AuditLog) (message : String) : m Unit :=
  match log.path with
  | none => return ()
  | some path => do
    match ← h.files.append path (entry (← h.timestamp) message) with
    | .ok _ => return ()
    | .error cause => h.log .warn ("failed to write to log file: " ++ cause.message)

end AuditLog

end BulkSweep

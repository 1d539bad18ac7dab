import BulkSweep.Connection
import BulkSweep.Expression
import BulkSweep.Files.Error
import BulkSweep.Update

/-!
# Jobs

A job is one bulk delete or update of a collection, as its operator gave it.  It is checked before
anything is done.
-/

set_option autoImplicit false

namespace BulkSweep

/-! ## Operations -/

/-- What a job does to the documents that it finds. -/
inductive Operation where
  /-- deletes them -/
  | delete
  /-- updates them -/
  | update
  deriving DecidableEq, Repr, Inhabited

/-- The name of an operation. -/
def Operation.name : Operation → String
  | delete => "bulk-delete"
  | update => "bulk-update"

/-- The notice of a run that only counts. -/
def Operation.dryRunNotice : Operation → String
  | delete => "[DRY-RUN] Count only, no actual delete."
  | update => "[DRY-RUN] Count only, no actual update."

/-! ## Jobs -/

/-- The largest batch. -/
def maxBatchSize : Int := 50000

/-- The size of a batch when none is given. -/
def defaultBatchSize : Int := 1000

/-- The pause between batches when none is given, in milliseconds. -/
def defaultPauseMs : Int := 100

/-- A job.  Numbers are kept as given until they are checked. -/
structure Job where
  /-- the collection -/
  target : Namespace
  /-- the filter, as text -/
  filter : String := "\x7b\x7d"
  /-- the update, as text -/
  update : Option String := none
  /-- how many documents are changed at once -/
  batchSize : Int := defaultBatchSize
  /-- how long to wait between batches, in milliseconds -/
  pauseMs : Int := defaultPauseMs
  /-- whether matches are only counted -/
  dryRun : Bool := false
  /-- the file to which events are appended -/
  auditLog : Option String := none
  deriving DecidableEq, Repr, Inhabited

/-! ## Validity -/

/-- Why a job is refused. -/
inductive ValidationError where
  /-- a batch without documents -/
  | batchSizeTooSmall (size : Int)
  /-- a batch with too many documents -/
  | batchSizeTooLarge (size : Int)
  /-- a pause below zero -/
  | negativePause (millis : Int)
  /-- an update job without update -/
  | missingUpdate
  /-- an update without operators -/
  | emptyUpdate
  /-- no database -/
  | missingDatabase
  /-- no collection -/
  | missingCollection
  deriving DecidableEq, Repr, Inhabited

/-- The message of a refusal. -/
def ValidationError.message : ValidationError → String
  | batchSizeTooSmall size => "--batch-size must be greater than 0, got " ++ toString size
  | batchSizeTooLarge size =>
    "--batch-size must be less than or equal to " ++ toString maxBatchSize ++ ", got "
      ++ toString size
  | negativePause millis => "--pause-ms must be greater than or equal to 0, got " ++ toString millis
  | missingUpdate => "--update is required for bulk-update command"
  | emptyUpdate => "update cannot be empty"
  | missingDatabase => "database is required"
  | missingCollection => "collection is required"

namespace Job

/-- Checks the names and the numbers of a job; the first refusal stands. -/
def validate (job : Job) : Except ValidationError Unit :=
  if job.target.database.isEmpty then .error .missingDatabase
  else if job.target.collection.isEmpty then .error .missingCollection
  else if job.batchSize ≤ 0 then .error (.batchSizeTooSmall job.batchSize)
  else if maxBatchSize < job.batchSize then .error (.batchSizeTooLarge job.batchSize)
  else if job.pauseMs < 0 then .error (.negativePause job.pauseMs)
  else .ok ()

/-- The number of documents of a full batch; at least one. -/
def batchLength (job : Job) : Nat :=
  max job.batchSize.toNat 1

/-- The pause between batches in milliseconds; none when it is below zero. -/
def pauseMillis (job : Job) : Nat :=
  job.pauseMs.toNat

end Job

/-! ## Errors of a job -/

/-- Why a job failed. -/
inductive BulkError where
  /-- an expression of the job is none -/
  | invalidExpression (what : String) (cause : SyntaxError)
  /-- the job is refused -/
  | validation (cause : ValidationError)
  /-- matches could not be counted -/
  | count (cause : ConnError)
  /-- the file for events could not be opened -/
  | auditLog (path : String) (cause : FileError)
  /-- interrupts could not be listened for -/
  | signal (cause : FileError)
  /-- reading ids failed for good -/
  | cursor (processed total : Nat) (cause : ConnError)
  /-- reading ids failed each time -/
  | cursorRetriesExhausted (attempts processed total : Nat) (cause : ConnError)
  /-- changing documents failed -/
  | batch (label : String) (number processed total : Nat) (cause : ConnError)
  deriving DecidableEq, Repr, Inhabited

namespace BulkError

/-- The message of a failure. -/
def message : BulkError → String
  | invalidExpression what cause => "failed to parse " ++ what ++ ": " ++ cause.message
  | validation cause => cause.message
  | count cause => "failed to count documents: " ++ cause.message
  | auditLog path cause => "failed to open log file " ++ path ++ ": " ++ cause.message
  | signal cause => "failed to install signal handler: " ++ cause.message
  | cursor processed total cause =>
    "cursor iteration error at " ++ toString processed ++ "/" ++ toString total ++ ": "
      ++ cause.message
  | cursorRetriesExhausted attempts processed total cause =>
    "cursor retries exhausted after " ++ toString attempts ++ " attempts at " ++ toString processed
      ++ "/" ++ toString total ++ ": " ++ cause.message
  | .batch label number processed total cause =>
    label ++ " failed at batch #" ++ toString number ++ " (" ++ toString processed ++ "/"
      ++ toString total ++ "): " ++ cause.message

/-- Whether the job failed before anything was asked of the database. -/
def isPreflight : BulkError → Bool
  | invalidExpression _ _ | validation _ => true
  | _ => false

end BulkError

/-! ## Changes -/

/-- What a job does to each batch, its update read. -/
inductive Change where
  /-- deletes the documents -/
  | delete
  /-- updates the documents -/
  | update (operators : Document)
  deriving Inhabited

/-- The operation of a change. -/
def Change.operation : Change → Operation
  | delete => .delete
  | update _ => .update

/-- The change that a job makes: an update needs an expression with operators. -/
def Job.change (job : Job) : Operation → Except BulkError Change
  | .delete => .ok .delete
  | .update =>
    match job.update with
    | none => .error (.validation .missingUpdate)
    | some text =>
      if (Text.trim text).isEmpty then .error (.validation .missingUpdate)
      else
        match parseDocument text with
        | .error cause => .error (.invalidExpression "update" cause)
        | .ok [] => .error (.validation .emptyUpdate)
        | .ok update => .ok (.update update)

/-- The warning about operators whose effect grows when a batch is read twice. -/
def Change.warning? : Change → Option String
  | delete => none
  | .update operators =>
    match Update.compounding operators with
    | [] => none
    | risky =>
      some ("update uses non-idempotent operators " ++ Text.quotedList risky
        ++ "; a cursor retry may apply them twice to some documents")

end BulkSweep

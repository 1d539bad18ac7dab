import BulkSweep.Command.Basic
import BulkSweep.Run.Execution
import BulkSweep.Settings

/-!
# Running commands

A bulk operation reads its collection from a file, runs its job on the store, and writes the collection
back when the job changed something, or may have done so before it failed.
-/

set_option autoImplicit false

namespace BulkSweep

namespace BulkOptions

/-- The folder of the collections; the working folder if nothing is said. -/
def folder (options : BulkOptions) (settings : Settings) : String :=
  (options.dataFolder.or settings.dataFolder).getD "."

/-- The job that the options ask for. -/
def job (options : BulkOptions) (settings : Settings) (database : String)
    (update : Option String) : Job where
  target := ⟨database, options.collection⟩
  filter := options.filter
  update := update
  batchSize := options.batchSize.getD settings.effectiveBatchSize
  pauseMs := options.pauseMs.getD settings.effectivePauseMs
  dryRun := options.dryRun
  auditLog := options.auditLog

end BulkOptions

/-- Why an update cannot be applied to a store.  An update that is no expression, or has no operators,
is refused later. -/
def unsupportedUpdate? (update : Option String) : Option Update.Invalid := do
  match parseDocument (← update) with
  | .error _ | .ok [] => none
  | .ok operators =>
    match Update.validate operators with
    | .error cause => some cause
    | .ok _ => none

variable {m : Type → Type} [Monad m]

/-- Writes a collection back after a failure, as well as it goes. -/
def saveAfterFailure (host : Host m) (op : Operation) (collection : String) (cause : BulkError) :
    StateT Store m Unit := do
  host.log .error (op.name ++ " failed, err: " ++ cause.message)
  match ← Store.save host collection with
  | .ok _ => return ()
  | .error e => host.log .error ("failed to save " ++ collection ++ ": " ++ e.message)

/-- Writes a collection back after a job that handled some documents. -/
def saveAfterRun (host : Host m) (op : Operation) (collection : String) (report : Report) :
    StateT Store m (Except StoreError Unit) := do
  if report.processed = 0 then return .ok ()
  else
    match ← Store.save host collection with
    | .error e => return .error e
    | .ok path =>
      let written := ((← get).documents collection).length
      host.log .info (op.name ++ " " ++ toString written ++ " documents written to " ++ path)
      return .ok ()

/-- Runs a job on the collection of a store. -/
def runOnStore (host : Host m) (plan : Plan) (op : Operation) (listens : Bool) :
    StateT Store m (Except CommandError Report) := do
  let collection := plan.job.target.collection
  match ← Store.load host collection with
  | .error e => return .error (.store e)
  | .ok _ =>
    match ← (plan.job.announceChange host op : m _) with
    | .error e => return .error (.job e)
    | .ok change =>
      match ← plan.run host.withState Store.connection change { listens := listens } with
      | .error e =>
        saveAfterFailure host op collection e
        return .error (.job e)
      | .ok report =>
        match ← saveAfterRun host op collection report with
        | .error e => return .error (.store e)
        | .ok _ => return .ok report

/-- The status after a job. -/
def Outcome.status : Outcome → Status
  | .cancelled => .cancelled
  | _ => .success

/-- Runs a bulk operation. -/
def runBulk (host : Host m) (settings : Settings) (options : BulkOptions) (op : Operation)
    (update : Option String) (listens : Bool) : m (Except CommandError Status) := do
  let began ← host.clock
  let folder := options.folder settings
  let database := (← host.files.ownName? folder).getD "local"
  match unsupportedUpdate? update with
  | some cause => return .error (.unsupported cause)
  | none =>
    match (options.job settings database update).plan with
    | .error e => return .error (.job e)
    | .ok plan =>
      match ← (runOnStore host plan op listens).run' (.empty (some folder)) with
      | .error e => return .error e
      | .ok report =>
        let elapsed := elapsedText ((← host.clock) - began)
        host.printLine ("Cost: " ++ host.palette.paint .green elapsed)
        return .ok report.outcome.status

/-- Runs a command. -/
def Command.run (host : Host m) (settings : Settings) (listens : Bool) :
    Command → m (Except CommandError Status)
  | .normalize expression => do
    host.printLine (Shell.normalize expression)
    return .ok .success
  | .parse expression =>
    match parseDocument expression with
    | .error e => return .error (.syntaxError e)
    | .ok d => do
      host.printLine (Extended.relaxedText d)
      return .ok .success
  | .delete options => runBulk host settings options .delete none listens
  | .update options operators => runBulk host settings options .update operators listens

end BulkSweep

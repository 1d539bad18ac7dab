import BulkSweep.Audit
import BulkSweep.Run.Report

/-!
# Execution of a job

A run counts the matches of the filter, reads their ids through a cursor and changes them batch by
batch.  Ids wait in a buffer until they fill a batch.  A cursor that fails in a way that may pass is
opened again with the same filter; a batch that fails ends the run.  The operator can stop a run
between two batches.
-/

set_option autoImplicit false

namespace BulkSweep

/-! ## Plans -/

/-- A checked job: its numbers and names are valid, and its filter is read. -/
structure Plan where
  /-- the job -/
  job : Job
  /-- its filter -/
  filter : Document
  deriving Inhabited

/-- Checks a job and reads its filter.  No database is asked. -/
def Job.plan (job : Job) : Except BulkError Plan :=
  match job.validate with
  | .error cause => .error (.validation cause)
  | .ok _ =>
    match parseDocument job.filter with
    | .error cause => .error (.invalidExpression "filter" cause)
    | .ok filter => .ok ⟨job, filter⟩

/-- The change that a job makes.  The log is told when its update is not safe to apply twice. -/
def Job.announceChange {m : Type → Type} [Monad m] (job : Job) (host : Host m) (op : Operation) :
    m (Except BulkError Change) :=
  match job.change op with
  | .error cause => return .error cause
  | .ok change => do
    match change.warning? with
    | none => return .ok change
    | some line =>
      host.log .warn line
      return .ok change

/-- How a run goes about its job. -/
structure RunSettings where
  /-- how often matches are counted -/
  countRetry : Retry.Policy := .default
  /-- how often a cursor is opened -/
  cursorRetry : Retry.Policy := .default
  /-- whether the run listens for interrupts -/
  listens : Bool := true

/-! ## State of a run -/

/-- What a run has done so far. -/
structure Tally where
  /-- the progress line -/
  tracker : Tracker
  /-- the ids that were read and wait for their batch -/
  buffer : Array Value
  /-- how many ids were handled -/
  processed : Nat
  /-- what the batches did -/
  counts : BatchCounts
  /-- how many batches were begun -/
  batches : Nat
  /-- how many cursors were opened, or tried to -/
  passes : Nat
  deriving Repr, Inhabited

namespace Tally

/-- A run that begins. -/
def start (total clock : Nat) : Tally :=
  ⟨.start total clock, #[], 0, .zero, 0, 0⟩

/-- The total of the run. -/
def total (t : Tally) : Nat :=
  t.tracker.total

/-- How far the run is, as two numbers. -/
def place (t : Tally) : String :=
  toString t.processed ++ "/" ++ toString t.total

/-- A cursor is opened. -/
def beginPass (t : Tally) : Tally :=
  { t with passes := t.passes + 1 }

/-- An id is read. -/
def push (t : Tally) (id : Value) : Tally :=
  { t with buffer := t.buffer.push id }

/-- The ids that wait are forgotten. -/
def clear (t : Tally) : Tally :=
  { t with buffer := #[] }

/-- A batch is begun. -/
def beginBatch (t : Tally) : Tally :=
  { t with batches := t.batches + 1 }

/-- A batch of the ids that wait is done. -/
def endBatch (t : Tally) (counts : BatchCounts) : Tally :=
  { t with
    processed := t.processed + t.buffer.size
    counts := t.counts.add counts
    tracker := t.tracker.update (t.processed + t.buffer.size) }

/-- The progress line shows what was handled. -/
def settle (t : Tally) : Tally :=
  { t with tracker := t.tracker.update t.processed }

/-- The progress line shows that all is done. -/
def finish (t : Tally) : Tally :=
  { t with tracker := t.tracker.finish }

/-- The report of a run, with two looks at the clock: for the time, and then for the speed. -/
def report (t : Tally) (outcome : Outcome) (clock later : Nat) : Report where
  outcome := outcome
  total := t.total
  processed := t.processed
  counts := t.counts
  batches := t.batches
  passes := t.passes
  elapsed := t.tracker.elapsed clock
  speed := t.tracker.speed later

end Tally

/-- Why a pass over the matches ended before all batches were done. -/
inductive Stop where
  /-- the operator stopped it -/
  | cancelled
  /-- the run failed -/
  | failed (cause : BulkError)
  /-- its cursor failed in a way that may pass -/
  | transient (cause : ConnError)
  deriving Repr

/-! ## Steps -/

/-- What a run works with. -/
structure Bench (m : Type → Type) where
  /-- the host -/
  host : Host m
  /-- the database -/
  connection : Connection m
  /-- the job -/
  plan : Plan
  /-- what is done to each batch -/
  change : Change
  /-- where events go -/
  audit : AuditLog

namespace Bench

variable {m : Type → Type} [Monad m]

/-- The collection of the job. -/
def target (b : Bench m) : Namespace :=
  b.plan.job.target

/-- The operation of the job. -/
def operation (b : Bench m) : Operation :=
  b.change.operation

/-- Writes down an event. -/
def note (b : Bench m) (event : String) : StateT Tally m Unit :=
  (b.audit.record b.host event : m Unit)

/-- Writes a line to the log. -/
def log (b : Bench m) (level : Level) (line : String) : StateT Tally m Unit :=
  b.host.log level line

/-- Draws the progress line.  The program breaks off if that cannot be done. -/
def draw (b : Bench m) : StateT Tally m Unit := do
  let tally ← get
  let now ← b.host.clock
  if !tally.tracker.drawable now then
    b.host.overflow (.remaining tally.tracker now)
  b.host.print (tally.tracker.redraw now)

/-- Draws the progress line for the last time and leaves it. -/
def settle (b : Bench m) : StateT Tally m Unit := do
  modify Tally.settle
  b.draw
  b.host.printLine ""

/-- Changes the documents with the given ids. -/
def apply (b : Bench m) (ids : List Value) : m (Except ConnError BatchCounts) :=
  match b.change with
  | .delete => do
    return (← b.connection.deleteByIds b.target ids).map fun deleted => ⟨deleted, 0⟩
  | .update operators => do
    return (← b.connection.updateByIds b.target ids operators).map fun counts =>
      ⟨counts.matched, counts.modified⟩

/-- Stops because the operator asked for it. -/
def cancel (b : Bench m) : StateT Tally m Stop := do
  b.settle
  let place := (← get).place
  b.host.printColoured .yellow ("Interrupt received, exited safely. Processed: " ++ place)
  b.note ("User interrupted, exited safely. Processed: " ++ place)
  return .cancelled

/-- Stops because the current batch failed. -/
def failBatch (b : Bench m) (cause : ConnError) : StateT Tally m Stop := do
  b.settle
  let tally ← get
  let event := "batch #" ++ toString tally.batches ++ " execution failed: " ++ cause.message
    ++ " (completed: " ++ tally.place ++ ")"
  b.log .error event
  b.note event
  return .failed (.batch b.operation.name tally.batches tally.processed tally.total cause)

/-- Does a batch of the ids that wait, unless the operator asked to stop.  They wait no longer when
it is done. -/
def batch (b : Bench m) : StateT Tally m (Except Stop Unit) := do
  if ← b.host.interrupted then
    return .error (← b.cancel)
  modify Tally.beginBatch
  match ← b.apply (← get).buffer.toList with
  | .error cause => return .error (← b.failBatch cause)
  | .ok counts =>
    modify fun tally => tally.endBatch counts
    b.draw
    let tally ← get
    let speed := tally.tracker.speed (← b.host.clock)
    let event := b.operation.batchLine tally.batches tally.processed tally.total tally.counts speed
    b.log .debug event
    b.note event
    modify Tally.clear
    let pause := b.plan.job.pauseMillis * Retry.millisecond
    if pause ≠ 0 then
      b.host.sleep .pause pause
    return .ok ()

/-- Reads ids; each time they fill a batch, it is done. -/
def drain (b : Bench m) : List Value → StateT Tally m (Except Stop Unit)
  | [] => return .ok ()
  | id :: rest => do
    modify fun tally => tally.push id
    if b.plan.job.batchLength ≤ (← get).buffer.size then
      match ← b.batch with
      | .error stop => return .error stop
      | .ok _ => b.drain rest
    else b.drain rest

/-- Handles a failure of the cursor: it asks for another cursor if it may pass. -/
def cursorFailure (b : Bench m) (cause : ConnError) :
    StateT Tally m (Retry.Attempt Unit Stop Stop) := do
  if cause.isRetryable then
    b.log .warn ("retryable cursor error encountered, will retry: " ++ cause.message)
    b.note ("retryable cursor error, retrying: " ++ cause.message ++ " (processed so far: "
      ++ (← get).place ++ ")")
    return .again (.transient cause)
  else
    b.settle
    let tally ← get
    let event := "cursor iteration error: " ++ cause.message ++ " (completed: " ++ tally.place ++ ")"
    b.log .error event
    b.note event
    return .fatal (.failed (.cursor tally.processed tally.total cause))

/-- Does a batch of the ids that are left when the cursor has ended. -/
def finishPass (b : Bench m) : StateT Tally m (Retry.Attempt Unit Stop Stop) := do
  if (← get).buffer.isEmpty then return .done ()
  else
    match ← b.batch with
    | .error stop => return .fatal stop
    | .ok _ => return .done ()

/-- Goes through one cursor.  Ids that wait from an interrupted pass are forgotten once it is open: it
yields them again. -/
def pass (b : Bench m) : StateT Tally m (Retry.Attempt Unit Stop Stop) := do
  modify Tally.beginPass
  match ← b.connection.openCursor b.target b.plan.filter with
  | .error cause => b.cursorFailure cause
  | .ok cursor =>
    modify Tally.clear
    match ← b.drain cursor.ids with
    | .error stop => return .fatal stop
    | .ok _ =>
      match cursor.fault with
      | some cause => b.cursorFailure cause
      | none => b.finishPass

/-- Ends a run whose batches are all done. -/
def complete (b : Bench m) : StateT Tally m Report := do
  modify Tally.finish
  b.draw
  b.host.printLine ""
  let report := (← get).report .completed (← b.host.clock) (← b.host.clock)
  b.host.printLine (b.operation.doneLine b.host.palette report)
  b.note (b.operation.doneEvent report)
  return report

/-- Ends a run whose cursors all failed. -/
def exhausted (b : Bench m) (attempts : Nat) (last : ConnError) : StateT Tally m BulkError := do
  b.settle
  let tally ← get
  b.log .error ("cursor retries exhausted after " ++ toString attempts ++ " attempts: "
    ++ last.message ++ " (completed: " ++ tally.place ++ ")")
  return .cursorRetriesExhausted attempts tally.processed tally.total last

/-- Ends a run that was stopped before all batches were done. -/
def abort (b : Bench m) : Stop → StateT Tally m (Except BulkError Report)
  | .cancelled => return .ok ((← get).report .cancelled (← b.host.clock) (← b.host.clock))
  | .failed cause => return .error cause
  | .transient cause => return .error (.cursor (← get).processed (← get).total cause)

/-- Opens cursors until one of them is read to its end, the run is stopped, or no try is left. -/
def sweep (b : Bench m) (policy : Retry.Policy) : StateT Tally m (Except BulkError Report) := do
  match ← policy.conditional (b.host.backOff .reopen).withState b.pass with
  | .ok _ => return .ok (← b.complete)
  | .error (.exhausted attempts (.transient last)) => return .error (← b.exhausted attempts last)
  | .error (.exhausted _ stop) => b.abort stop
  | .error (.fatal stop) => b.abort stop

end Bench

/-! ## Runs -/

namespace Plan

variable {m : Type → Type} [Monad m]

/-- Counts the matches of the filter, once more for each error that may pass. -/
def countMatches (plan : Plan) (host : Host m) (connection : Connection m)
    (policy : Retry.Policy) : m (Except BulkError Nat) := do
  let attempt : m (Retry.Attempt Nat ConnError ConnError) := do
    match ← connection.count plan.job.target plan.filter with
    | .ok total => return .done total
    | .error cause =>
      if cause.isRetryable then
        host.log .warn ("transient error counting " ++ plan.job.target.text ++ ", will retry: "
          ++ cause.message)
        return .again cause
      else return .fatal cause
  match ← policy.conditional (host.backOff .recount) attempt with
  | .ok total => return .ok total
  | .error (.fatal cause) | .error (.exhausted _ cause) => return .error (.count cause)

/-- Prints lines to the terminal. -/
def printAll (host : Host m) : List String → m Unit
  | [] => return ()
  | line :: rest => do
    host.printLine line
    printAll host rest

/-- Runs a job to its end. -/
def run (plan : Plan) (host : Host m) (connection : Connection m) (change : Change)
    (settings : RunSettings) : m (Except BulkError Report) := do
  match ← plan.countMatches host connection settings.countRetry with
  | .error cause => return .error cause
  | .ok total =>
    printAll host (plan.job.summary change.operation host.palette total)
    if total = 0 then
      host.printColoured .yellow "No matching documents, nothing to do."
      return .ok (.idle .nothingToDo 0)
    else if plan.job.dryRun then
      host.printColoured .yellow change.operation.dryRunNotice
      return .ok (.idle .dryRun total)
    else
      match ← AuditLog.openAt host plan.job.auditLog with
      | .error cause => return .error cause
      | .ok audit =>
        let listening ← if settings.listens then host.listen else pure (.ok ())
        match listening with
        | .error cause => return .error (.signal cause)
        | .ok _ =>
          let bench : Bench m := ⟨host, connection, plan, change, audit⟩
          (bench.sweep settings.cursorRetry).run' (.start total (← host.clock))

end Plan

end BulkSweep

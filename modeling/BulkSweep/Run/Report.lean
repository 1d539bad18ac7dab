import BulkSweep.Host
import BulkSweep.Job
import BulkSweep.Progress

/-!
# Reports of a run

What a run did, and the lines in which it says so.
-/

set_option autoImplicit false

namespace BulkSweep

open BulkSweep.Numeric

/-! ## Counts -/

/-- What the batches of a run did: how many documents were deleted, or else found and changed. -/
structure BatchCounts where
  /-- deleted, or found by an update -/
  primary : Nat
  /-- changed by an update -/
  secondary : Nat
  deriving DecidableEq, Repr, Inhabited

/-- Nothing done yet. -/
def BatchCounts.zero : BatchCounts :=
  ⟨0, 0⟩

/-- Counts together. -/
def BatchCounts.add (a b : BatchCounts) : BatchCounts :=
  ⟨a.primary + b.primary, a.secondary + b.secondary⟩

/-! ## Reports -/

/-- How a run ended that did not fail. -/
inductive Outcome where
  /-- the filter accepts no document -/
  | nothingToDo
  /-- matches were only counted -/
  | dryRun
  /-- all batches are done -/
  | completed
  /-- the operator stopped it between two batches -/
  | cancelled
  deriving DecidableEq, Repr, Inhabited

/-- The report of a run. -/
structure Report where
  /-- how it ended -/
  outcome : Outcome
  /-- how many documents there were to do -/
  total : Nat
  /-- how many ids were handled -/
  processed : Nat
  /-- what the batches did -/
  counts : BatchCounts
  /-- how many batches were begun -/
  batches : Nat
  /-- how many cursors were opened, or tried to -/
  passes : Nat
  /-- the time from the first cursor on, in nanoseconds -/
  elapsed : Nat
  /-- the documents per second -/
  speed : Binary64
  deriving DecidableEq, Repr, Inhabited

/-- The report of a run that opened no cursor. -/
def Report.idle (outcome : Outcome) (total : Nat) : Report where
  outcome := outcome
  total := total
  processed := 0
  counts := .zero
  batches := 0
  passes := 0
  elapsed := 0
  speed := .zero

/-! ## Lines -/

/-- A speed as it is shown. -/
def speedText (speed : Binary64) : String :=
  fixedText speed 0 ++ " docs/sec"

/-- The part of a line that names the counts of an operation. -/
def Operation.countsText (op : Operation) (counts : BatchCounts) : String :=
  match op with
  | .delete => "deleted=" ++ toString counts.primary
  | .update => "matched=" ++ toString counts.primary ++ " modified=" ++ toString counts.secondary

/-- The line of a finished batch. -/
def Operation.batchLine (op : Operation) (batch processed total : Nat) (counts : BatchCounts)
    (speed : Binary64) : String :=
  "Batch #" ++ toString batch ++ " completed: processed=" ++ toString processed ++ "/"
    ++ toString total ++ " " ++ op.countsText counts ++ " speed=" ++ speedText speed

/-- The last line of a complete run on the terminal. -/
def Operation.doneLine (op : Operation) (palette : Palette) (report : Report) : String :=
  let shown (n : Nat) := palette.paint .green (toString n)
  let done :=
    match op with
    | .delete =>
      "Bulk delete done: processed " ++ shown report.processed ++ " docs, deleted "
        ++ shown report.counts.primary ++ " docs"
    | .update =>
      "Bulk update done: processed " ++ shown report.processed ++ " docs, matched "
        ++ shown report.counts.primary ++ ", modified " ++ shown report.counts.secondary
  done ++ ", elapsed " ++ palette.paint .green (elapsedText report.elapsed) ++ ", avg speed "
    ++ speedText report.speed

/-- The last event of a complete run. -/
def Operation.doneEvent (op : Operation) (report : Report) : String :=
  let name :=
    match op with
    | .delete => "Bulk delete"
    | .update => "Bulk update"
  name ++ " done: processed=" ++ toString report.processed ++ " " ++ op.countsText report.counts
    ++ " elapsed=" ++ elapsedText report.elapsed ++ " avgSpeed=" ++ speedText report.speed

/-! ## Summaries -/

/-- The table that comes before a run: what was asked for, and how many documents it is about. -/
def Job.summary (job : Job) (op : Operation) (palette : Palette) (total : Nat) : List String :=
  let given := palette.paint .green
  let update :=
    match op with
    | .delete => []
    | .update => ["  Update:     " ++ given (job.update.getD "")]
  let mode := if job.dryRun then ["  Mode:       " ++ palette.paint .yellow "DRY-RUN"] else []
  [palette.paint .cyan ("========== " ++ op.name ++ " Summary =========="),
   "  Database:   " ++ given job.target.database,
   "  Collection: " ++ given job.target.collection,
   "  Filter:     " ++ given job.filter]
  ++ update
  ++ ["  Matched:    " ++ palette.paint .brightRed (toString total),
      "  Batch size: " ++ given (toString job.batchSize),
      "  Pause:      " ++ given (toString job.pauseMs ++ "ms")]
  ++ mode
  ++ [palette.paint .cyan "======================================"]

end BulkSweep

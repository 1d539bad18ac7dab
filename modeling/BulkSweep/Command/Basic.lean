import BulkSweep.Job
import BulkSweep.Store

/-!
# Commands

What the operator can ask for, how it ends, and what can go wrong.
-/

set_option autoImplicit false

namespace BulkSweep

/-- The options of a bulk operation. -/
structure BulkOptions where
  /-- the folder of the collections -/
  dataFolder : Option String := none
  /-- the collection -/
  collection : String
  /-- the filter, as text -/
  filter : String := "\x7b\x7d"
  /-- how many documents are changed at once -/
  batchSize : Option Int := none
  /-- how long to wait between batches, in milliseconds -/
  pauseMs : Option Int := none
  /-- whether matches are only counted -/
  dryRun : Bool := false
  /-- the file to which events are appended -/
  auditLog : Option String := none
  deriving DecidableEq, Repr, Inhabited

/-- A command. -/
inductive Command where
  /-- prints the strict form of an expression -/
  | normalize (expression : String)
  /-- prints an expression as relaxed text -/
  | parse (expression : String)
  /-- deletes documents -/
  | delete (options : BulkOptions)
  /-- updates documents -/
  | update (options : BulkOptions) (update : Option String)
  deriving DecidableEq, Repr, Inhabited

/-- How a command ended that did not fail. -/
inductive Status where
  /-- it is done -/
  | success
  /-- the operator stopped it -/
  | cancelled
  deriving DecidableEq, Repr, Inhabited

/-- The number that tells the caller how a command ended. -/
def Status.exitCode : Status → Nat
  | success => 0
  | cancelled => 130

/-- Why a command failed. -/
inductive CommandError where
  /-- an expression is none -/
  | syntaxError (cause : SyntaxError)
  /-- the job failed -/
  | job (cause : BulkError)
  /-- the collection could not be read or written -/
  | store (cause : StoreError)
  /-- an update that cannot be applied to a store -/
  | unsupported (cause : Update.Invalid)
  deriving DecidableEq, Repr, Inhabited

/-- The message of an error. -/
def CommandError.message : CommandError → String
  | syntaxError cause => cause.message
  | job cause => cause.message
  | .store cause => cause.message
  | unsupported cause => "unsupported update for the local store: " ++ cause.message

end BulkSweep

import BulkSweep.Shell.Normalize
import BulkSweep.Numeric.Notation
import BulkSweep.Numeric.Decimal128
import BulkSweep.Text.Hex
import BulkSweep.Text.Base64
import BulkSweep.Value.Calendar
import BulkSweep.Value.Basic
import BulkSweep.Value.Equality
import BulkSweep.Value.Order
import BulkSweep.Value.Label
import BulkSweep.Json.Basic
import BulkSweep.Text.Hidden
import BulkSweep.Text.Quoted
import BulkSweep.Json.Numeral
import BulkSweep.Json.Reader
import BulkSweep.Expression
import BulkSweep.Extended.Encode
import BulkSweep.Filter
import BulkSweep.Update
import BulkSweep.Connection
import BulkSweep.Files.Error
import BulkSweep.Job
import BulkSweep.Log
import BulkSweep.Paint
import BulkSweep.Progress
import BulkSweep.Retry
import BulkSweep.Audit
import BulkSweep.Run.Batches
import BulkSweep.Run.Execution
import BulkSweep.Collection
import BulkSweep.Files.Route
import BulkSweep.Files.Tree
import BulkSweep.Rehearsal
import BulkSweep.Store
import BulkSweep.Interrupt
import BulkSweep.Toml.Basic
import BulkSweep.Toml.Scalar
import BulkSweep.Toml.Text
import BulkSweep.Toml.Reader
import BulkSweep.Command.Basic
import BulkSweep.Command.Run
import BulkSweep.Logging
import BulkSweep.Main
import BulkSweep.Text.Alphanumeric
import BulkSweep.Proofs.Run.Leads
import BulkSweep.Proofs.Run.Steps
import BulkSweep.Proofs.Run.Passes
import BulkSweep.Proofs.Run.Reckoning
import BulkSweep.Proofs.Run.Sweeps
import BulkSweep.Proofs.Numeric.Nearness
import BulkSweep.Proofs.Run.Remaining
import BulkSweep.Proofs.Run.Causes
import BulkSweep.Proofs.Store.Identity
import BulkSweep.Proofs.Store.Trial
import BulkSweep.Proofs.Update.Fields
import BulkSweep.Proofs.Update.Paths
import BulkSweep.Proofs.Update.Edits
import BulkSweep.Proofs.Store.Updates
import BulkSweep.Proofs.Run.Deletes
import BulkSweep.Proofs.Run.OnePass
import BulkSweep.Proofs.Run.Retries
import BulkSweep.Proofs.Run.Transcript
import BulkSweep.Proofs.Run.Likeness
import BulkSweep.Proofs.Run.Breaking
import BulkSweep.Proofs.Run.Sequence
import BulkSweep.Proofs.Run.Endings
import BulkSweep.Proofs.Run.Verdicts
import BulkSweep.Proofs.Run.Ledger
import BulkSweep.Proofs.Run.Books
import BulkSweep.Proofs.Run.Accounts
import BulkSweep.Proofs.Json.Form
import BulkSweep.Proofs.Json.Reading
import BulkSweep.Proofs.Shell.Tidying
import BulkSweep.Proofs.Shell.Tree
import BulkSweep.Proofs.Shell.Unifying
import BulkSweep.Proofs.Shell.Calls
import BulkSweep.Proofs.Shell.Expanding
import BulkSweep.Proofs.Shell.Cleaning
import BulkSweep.Proofs.Shell.Trimming
import BulkSweep.Proofs.Shell.Strict
import BulkSweep.Proofs.Json.Braces
import BulkSweep.Proofs.Shell.Braces
import BulkSweep.Proofs.Numeric.Numerals
import BulkSweep.Proofs.Text.Hex
import BulkSweep.Proofs.Text.Base64
import BulkSweep.Proofs.Json.Printing
import BulkSweep.Proofs.Extended.Stored
import BulkSweep.Proofs.Files.Tree
import BulkSweep.Proofs.Store.Persistence
import BulkSweep.Proofs.Store.Reachable
import BulkSweep.Proofs.Numeric.Places
import BulkSweep.Proofs.Filter.Conditions
import BulkSweep.Proofs.Filter.Numbers
import BulkSweep.Proofs.Filter.Sets
import BulkSweep.Proofs.Filter.Unsupported
import BulkSweep.Proofs.Value.Labels
import BulkSweep.Proofs.Store.Deletions
import BulkSweep.Proofs.Store.Handed
import BulkSweep.Proofs.Command.Stages
import BulkSweep.Proofs.Command.Journal
import BulkSweep.Proofs.Command.Saving
import BulkSweep.Proofs.Update.Increments
import BulkSweep.Proofs.Value.Sameness
import BulkSweep.Proofs.Update.Changes
import BulkSweep.Proofs.Update.Effects
import BulkSweep.Proofs.Update.FieldChanges
import BulkSweep.Proofs.Update.FieldOrder
import BulkSweep.Proofs.Update.Repeats
import BulkSweep.Proofs.Extended.Decoded
import BulkSweep.Proofs.Extended.Reread
import BulkSweep.Proofs.Extended.Widths
import BulkSweep.Proofs.Shell.Contexts
import BulkSweep.Proofs.Retry.Tries
import BulkSweep.Proofs.Filter.Reordering
import BulkSweep.Proofs.Retry.Pauses
import BulkSweep.Proofs.Retry.Agreement
import BulkSweep.Proofs.Settings.Sources
import BulkSweep.Proofs.Run.Courses
import BulkSweep.Proofs.Run.Display
import BulkSweep.Proofs.Files.Lines
import BulkSweep.Proofs.Files.Growth
import BulkSweep.Proofs.Run.Diary
import BulkSweep.Proofs.Run.LogFile
import BulkSweep.Proofs.Value.Coherence
import BulkSweep.Proofs.Filter.Ranges
import BulkSweep.Proofs.Shell.Cuts
import BulkSweep.Proofs.Shell.Agreement

import BulkSweep.Proofs.Run.Steps
import BulkSweep.Proofs.Run.Transcript

/-!
# Ledgers

The account of a run is drawn up from its transcript alone: the ids of the batches that were done, what
these batches did, how many were begun, how many cursors were opened, and what was written into the
audit log.  A tally agrees with the account (`Ledger`), and every step of a run keeps it so.
-/

set_option autoImplicit false

namespace BulkSweep

/-! ## Reading a transcript -/

namespace Event

/-- The number that a count came to. -/
def count? : Event → Option Nat
  | counted (.ok total) => some total
  | _ => none

/-- A batch that was done, with what it did. -/
def done? : Event → Option (List Value × BatchCounts)
  | handed ids (.ok counts) => some (ids, counts)
  | _ => none

/-- Whether a batch was handed on. -/
def isBatch : Event → Bool
  | handed _ _ => true
  | _ => false

/-- Whether a cursor was opened, or tried to. -/
def isOpening : Event → Bool
  | opened _ => true
  | _ => false

/-- A text on the terminal. -/
def printed? : Event → Option String
  | printed text => some text
  | _ => none

/-- A text that was added to the given file. -/
def record? (path : String) : Event → Option String
  | appended file text => if file = path ∧ text ≠ "" then some text else none
  | _ => none

end Event

namespace Transcript

/-- What the counts came to. -/
def totals (events : List Event) : List Nat :=
  events.filterMap Event.count?

/-- The batches that were done. -/
def batches (events : List Event) : List (List Value × BatchCounts) :=
  events.filterMap Event.done?

/-- How many batches were begun. -/
def begun (events : List Event) : Nat :=
  events.countP Event.isBatch

/-- How many cursors were opened, or tried to. -/
def openings (events : List Event) : Nat :=
  events.countP Event.isOpening

/-- The texts on the terminal. -/
def printed (events : List Event) : List String :=
  events.filterMap Event.printed?

/-- The texts that were added to a file. -/
def records (path : String) (events : List Event) : List String :=
  events.filterMap (Event.record? path)

section Append

variable {events : List Event} {event : Event}

theorem totals_skip (h : event.count? = none) : totals (events ++ [event]) = totals events := by
  simp [totals, h]

theorem totals_add {total : Nat} (h : event.count? = some total) :
    totals (events ++ [event]) = totals events ++ [total] := by
  simp [totals, h]

theorem batches_skip (h : event.done? = none) : batches (events ++ [event]) = batches events := by
  simp [batches, h]

theorem batches_add {batch : List Value × BatchCounts} (h : event.done? = some batch) :
    batches (events ++ [event]) = batches events ++ [batch] := by
  simp [batches, h]

theorem begun_skip (h : event.isBatch = false) : begun (events ++ [event]) = begun events := by
  simp [begun, h]

theorem begun_add (h : event.isBatch = true) : begun (events ++ [event]) = begun events + 1 := by
  simp [begun, h]

theorem openings_skip (h : event.isOpening = false) :
    openings (events ++ [event]) = openings events := by
  simp [openings, h]

theorem openings_add (h : event.isOpening = true) :
    openings (events ++ [event]) = openings events + 1 := by
  simp [openings, h]

variable {path : String}

theorem records_skip (h : event.record? path = none) :
    records path (events ++ [event]) = records path events := by
  simp [records, h]

theorem records_add {text : String} (h : event.record? path = some text) :
    records path (events ++ [event]) = records path events ++ [text] := by
  simp [records, h]

end Append

end Transcript

/-! ## Accounts -/

/-- A number of each batch, all added up. -/
def addedUp (number : List Value × BatchCounts → Nat) (batches : List (List Value × BatchCounts)) :
    Nat :=
  batches.foldl (fun sum batch => sum + number batch) 0

theorem addedUp_concat (number : List Value × BatchCounts → Nat)
    (batches : List (List Value × BatchCounts)) (batch : List Value × BatchCounts) :
    addedUp number (batches ++ [batch]) = addedUp number batches + number batch := by
  rw [addedUp, List.foldl_append]
  rfl

/-- How many ids some batches are about. -/
def handledIds (batches : List (List Value × BatchCounts)) : Nat :=
  addedUp (fun batch => batch.1.length) batches

/-- What some batches did together. -/
def summedCounts (batches : List (List Value × BatchCounts)) : BatchCounts :=
  ⟨addedUp (fun batch => batch.2.primary) batches, addedUp (fun batch => batch.2.secondary) batches⟩

theorem handledIds_concat (batches : List (List Value × BatchCounts)) (ids : List Value)
    (counts : BatchCounts) :
    handledIds (batches ++ [(ids, counts)]) = handledIds batches + ids.length :=
  addedUp_concat _ _ _

theorem summedCounts_concat (batches : List (List Value × BatchCounts)) (ids : List Value)
    (counts : BatchCounts) :
    summedCounts (batches ++ [(ids, counts)]) = (summedCounts batches).add counts := by
  simp only [summedCounts, addedUp_concat, BatchCounts.add]

/-- How far a run is when some batches are done. -/
structure Milestone where
  /-- how many batches are done -/
  number : Nat
  /-- how many ids are handled -/
  processed : Nat
  /-- how many there are to do -/
  total : Nat
  /-- what the batches did -/
  counts : BatchCounts
  deriving DecidableEq, Repr

/-- How far a run is when the given batches are done, if so many matches were counted. -/
def milestone (counted : Nat) (batches : List (List Value × BatchCounts)) : Milestone :=
  ⟨batches.length, handledIds batches, max counted (handledIds batches), summedCounts batches⟩

/-- How far a run is after each of the given batches. -/
def milestones (counted : Nat) (batches : List (List Value × BatchCounts)) : List Milestone :=
  (List.range batches.length).map fun i => milestone counted (batches.take (i + 1))

theorem milestones_concat (counted : Nat) (batches : List (List Value × BatchCounts))
    (batch : List Value × BatchCounts) :
    milestones counted (batches ++ [batch])
      = milestones counted batches ++ [milestone counted (batches ++ [batch])] := by
  unfold milestones
  rw [List.length_append, List.length_singleton, List.range_succ, List.map_append, List.map_singleton]
  congr 1
  · refine List.map_congr_left fun i hi => ?_
    rw [List.take_append_of_le_length (List.mem_range.mp hi)]
  · rw [List.take_of_length_le (by simp)]

/-! ## Audit logs -/

/-- What an event of an audit log says. -/
inductive Line where
  /-- a batch is done, at some speed -/
  | batch (milestone : Milestone) (speed : Numeric.Binary64)
  /-- a cursor failed and another one will be opened -/
  | retrying (cause : ConnError) (processed total : Nat)
  /-- the operator stopped the run -/
  | interrupted (processed total : Nat)
  /-- a cursor failed for good -/
  | cursorFailed (cause : ConnError) (processed total : Nat)
  /-- a batch failed -/
  | batchFailed (number : Nat) (cause : ConnError) (processed total : Nat)
  /-- all is done -/
  | completed (report : Report)

/-- How far a run is, as two numbers. -/
def placeText (processed total : Nat) : String :=
  toString processed ++ "/" ++ toString total

/-- The notice of a run that the operator stopped. -/
def cancelNotice (processed total : Nat) : String :=
  "Interrupt received, exited safely. Processed: " ++ placeText processed total

namespace Line

/-- The wording of an event. -/
def text (op : Operation) : Line → String
  | batch m speed => op.batchLine m.number m.processed m.total m.counts speed
  | retrying cause processed total =>
    "retryable cursor error, retrying: " ++ cause.message ++ " (processed so far: "
      ++ placeText processed total ++ ")"
  | interrupted processed total =>
    "User interrupted, exited safely. Processed: " ++ placeText processed total
  | cursorFailed cause processed total =>
    "cursor iteration error: " ++ cause.message ++ " (completed: " ++ placeText processed total ++ ")"
  | batchFailed number cause processed total =>
    "batch #" ++ toString number ++ " execution failed: " ++ cause.message
      ++ " (completed: " ++ placeText processed total ++ ")"
  | completed report => op.doneEvent report

/-- The milestone that an event tells of. -/
def milestone? : Line → Option Milestone
  | batch m _ => some m
  | _ => none

end Line

/-- An event of an audit log and the time that stands in front of it. -/
structure Entry where
  /-- the time -/
  time : String
  /-- the event -/
  line : Line

/-- What is added to the file of a log for an entry. -/
def Entry.text (op : Operation) (entry : Entry) : String :=
  AuditLog.entry entry.time (entry.line.text op)

/-- What is written down when a text is added to a log. -/
def AuditLog.written (audit : AuditLog) (text : String) : List Event :=
  audit.path.toList.map fun path => .appended path text

theorem AuditLog.entry_ne_empty (time message : String) : AuditLog.entry time message ≠ "" := by
  intro hempty
  have hchars := congrArg String.toList hempty
  simp [entry] at hchars

/-! ## Ledgers -/

/-- The account that is drawn up from a transcript agrees with a tally; so many batches have failed. -/
structure Ledger (counted failures : Nat) (t : Tally) (events : List Event) : Prop where
  /-- the matches were counted once -/
  totals : Transcript.totals events = [counted]
  /-- the ids of the batches that were done are handled -/
  processed : t.processed = handledIds (Transcript.batches events)
  /-- the counts are those of these batches -/
  counts : t.counts = summedCounts (Transcript.batches events)
  /-- the batches that were begun are numbered -/
  begun : t.batches = Transcript.begun events
  /-- those that were begun are done or have failed -/
  ended : Transcript.begun events = (Transcript.batches events).length + failures
  /-- the cursors are numbered -/
  openings : t.passes = Transcript.openings events
  /-- the total has grown with the ids -/
  total : t.total = max counted t.processed

namespace Ledger

variable {counted failures : Nat} {t t' : Tally} {events : List Event}

/-- Only the numbers of a tally are in an account. -/
theorem congr (h : Ledger counted failures t events) (hprocessed : t'.processed = t.processed)
    (hcounts : t'.counts = t.counts) (hbatches : t'.batches = t.batches)
    (hpasses : t'.passes = t.passes) (htotal : t'.total = t.total) :
    Ledger counted failures t' events where
  totals := h.totals
  processed := hprocessed.trans h.processed
  counts := hcounts.trans h.counts
  begun := hbatches.trans h.begun
  ended := h.ended
  openings := hpasses.trans h.openings
  total := by rw [htotal, hprocessed, h.total]

/-- The progress line has shown the total all along. -/
theorem settle_total (h : Ledger counted failures t events) : t.settle.total = t.total := by
  have htotal := h.total
  change max t.total t.processed = t.total
  omega

theorem settle (h : Ledger counted failures t events) : Ledger counted failures t.settle events :=
  h.congr rfl rfl rfl rfl h.settle_total

theorem finish (h : Ledger counted failures t events) : Ledger counted failures t.finish events :=
  h.congr rfl rfl rfl rfl (Nat.max_self _)

/-- What is neither a count, an opening nor a batch is in no account. -/
theorem skip (h : Ledger counted failures t events) {event : Event} (hcount : event.count? = none)
    (hdone : event.done? = none) (hbatch : event.isBatch = false)
    (hopening : event.isOpening = false) : Ledger counted failures t (events ++ [event]) where
  totals := (Transcript.totals_skip hcount).trans h.totals
  processed := by rw [Transcript.batches_skip hdone, h.processed]
  counts := by rw [Transcript.batches_skip hdone, h.counts]
  begun := by rw [Transcript.begun_skip hbatch, h.begun]
  ended := by rw [Transcript.begun_skip hbatch, Transcript.batches_skip hdone, h.ended]
  openings := by rw [Transcript.openings_skip hopening, h.openings]
  total := h.total

theorem print (h : Ledger counted failures t events) (text : String) :
    Ledger counted failures t (events ++ [.printed text]) :=
  h.skip rfl rfl rfl rfl

theorem note (h : Ledger counted failures t events) (audit : AuditLog) (text : String) :
    Ledger counted failures t (events ++ audit.written text) := by
  unfold AuditLog.written
  cases audit.path with
  | none => simpa using h
  | some path => exact h.skip rfl rfl rfl rfl

/-- An opening is numbered. -/
theorem opening (h : Ledger counted failures t events) (answer : Except ConnError Cursor) :
    Ledger counted failures t.beginPass (events ++ [.opened answer]) where
  totals := (Transcript.totals_skip rfl).trans h.totals
  processed := by rw [Transcript.batches_skip rfl]; exact h.processed
  counts := by rw [Transcript.batches_skip rfl]; exact h.counts
  begun := by rw [Transcript.begun_skip rfl]; exact h.begun
  ended := by rw [Transcript.begun_skip rfl, Transcript.batches_skip rfl, h.ended]
  openings := by rw [Transcript.openings_add rfl, ← h.openings]; rfl
  total := h.total

/-- A batch that fails is numbered and nothing else. -/
theorem failed (h : Ledger counted failures t events) (ids : List Value) (cause : ConnError) :
    Ledger counted (failures + 1) t.beginBatch (events ++ [.handed ids (.error cause)]) where
  totals := (Transcript.totals_skip rfl).trans h.totals
  processed := by rw [Transcript.batches_skip rfl]; exact h.processed
  counts := by rw [Transcript.batches_skip rfl]; exact h.counts
  begun := by rw [Transcript.begun_add rfl, ← h.begun]; rfl
  ended := by rw [Transcript.begun_add rfl, Transcript.batches_skip rfl, h.ended, Nat.add_assoc]
  openings := by rw [Transcript.openings_skip rfl]; exact h.openings
  total := h.total

/-- A batch that is done adds its ids and its counts. -/
theorem done (h : Ledger counted failures t events) (counts : BatchCounts) :
    Ledger counted failures (t.beginBatch.endBatch counts)
      (events ++ [.handed t.buffer.toList (.ok counts)]) where
  totals := (Transcript.totals_skip rfl).trans h.totals
  processed := by
    rw [Transcript.batches_add rfl, handledIds_concat, ← h.processed, Array.length_toList]
    rfl
  counts := by
    rw [Transcript.batches_add rfl, summedCounts_concat, ← h.counts]
    rfl
  begun := by rw [Transcript.begun_add rfl, ← h.begun]; rfl
  ended := by
    rw [Transcript.begun_add rfl, Transcript.batches_add rfl, h.ended, List.length_append,
      List.length_singleton]
    omega
  openings := by rw [Transcript.openings_skip rfl]; exact h.openings
  total := by
    have htotal := h.total
    change max t.total (t.processed + t.buffer.size) = max counted (t.processed + t.buffer.size)
    omega

/-- Where no batch has failed, the tally shows the last milestone. -/
theorem milestone_eq (h : Ledger counted 0 t events) :
    milestone counted (Transcript.batches events) = ⟨t.batches, t.processed, t.total, t.counts⟩ := by
  rw [milestone, h.begun, h.ended, Nat.add_zero, h.total, h.processed, h.counts]

end Ledger

/-! ## Audit logs of a run -/

/-- The audit log of a run holds the given entries, and one of them for each batch that was done. -/
structure Logged (op : Operation) (audit : AuditLog) (counted : Nat) (events : List Event)
    (entries : List Entry) : Prop where
  /-- the entries are in the log -/
  recorded : ∀ path, audit.path = some path →
    Transcript.records path events = entries.map (Entry.text op)
  /-- the batches have their entries -/
  milestones : entries.filterMap (fun entry => entry.line.milestone?)
    = milestones counted (Transcript.batches events)

namespace Logged

variable {op : Operation} {audit : AuditLog} {counted : Nat} {events : List Event}
  {entries : List Entry}

/-- What is neither a batch that is done nor in a file is not in the log. -/
theorem skip (h : Logged op audit counted events entries) {event : Event}
    (hdone : event.done? = none) (hrecord : ∀ path, event.record? path = none) :
    Logged op audit counted (events ++ [event]) entries where
  recorded := fun path hpath => (Transcript.records_skip (hrecord path)).trans (h.recorded path hpath)
  milestones := by rw [Transcript.batches_skip hdone, h.milestones]

theorem print (h : Logged op audit counted events entries) (text : String) :
    Logged op audit counted (events ++ [.printed text]) entries :=
  h.skip rfl fun _ => rfl

/-- What is added to a log is found in its file. -/
theorem records_written {path : String} (hpath : audit.path = some path) {text : String}
    (htext : text ≠ "") :
    Transcript.records path (events ++ audit.written text)
      = Transcript.records path events ++ [text] := by
  rw [AuditLog.written, hpath]
  exact Transcript.records_add (if_pos ⟨rfl, htext⟩)

theorem batches_written (text : String) :
    Transcript.batches (events ++ audit.written text) = Transcript.batches events := by
  unfold AuditLog.written
  cases audit.path with
  | none => simp
  | some path => exact Transcript.batches_skip rfl

/-- An entry that tells of no milestone. -/
theorem note (h : Logged op audit counted events entries) (time : String) {line : Line}
    (hline : line.milestone? = none) :
    Logged op audit counted (events ++ audit.written (AuditLog.entry time (line.text op)))
      (entries ++ [⟨time, line⟩]) where
  recorded := fun path hpath => by
    rw [records_written hpath (AuditLog.entry_ne_empty _ _), h.recorded path hpath, List.map_append]
    rfl
  milestones := by
    rw [batches_written, List.filterMap_append, h.milestones]
    simp [hline]

/-- The entry of a batch, behind whatever is printed. -/
theorem batch (h : Logged op audit counted events entries) (ids : List Value) (counts : BatchCounts)
    (text time : String) (speed : Numeric.Binary64) {m : Milestone}
    (hmilestone : milestone counted (Transcript.batches events ++ [(ids, counts)]) = m) :
    Logged op audit counted
      (events ++ [.handed ids (.ok counts)] ++ [.printed text]
        ++ audit.written (AuditLog.entry time ((Line.batch m speed).text op)))
      (entries ++ [⟨time, .batch m speed⟩]) where
  recorded := fun path hpath => by
    rw [records_written hpath (AuditLog.entry_ne_empty _ _), Transcript.records_skip rfl,
      Transcript.records_skip rfl, h.recorded path hpath, List.map_append]
    rfl
  milestones := by
    rw [batches_written, Transcript.batches_skip rfl, Transcript.batches_add rfl, milestones_concat,
      hmilestone, List.filterMap_append, h.milestones]
    rfl

end Logged

end BulkSweep

import BulkSweep.Proofs.Run.Books
import BulkSweep.Proofs.Run.Courses

/-!
# Accounts

Whatever a connection answers, a run gives the right account of what it did: the numbers in its result,
in the notice of a run that was stopped and in the audit log are those that can be read off its
transcript (`run_accounted`).
-/

set_option autoImplicit false

namespace BulkSweep

variable {σ : Type}

/-! ## Accounts of a run -/

/-- How many ids a run has handled. -/
def Transcript.handled (events : List Event) : Nat :=
  handledIds (Transcript.batches events)

/-- How many there were to do, if so many matches were counted: the total grows with the ids. -/
def Transcript.total (counted : Nat) (events : List Event) : Nat :=
  max counted (Transcript.handled events)

/-- A report has the numbers of a transcript. -/
structure Report.Accounts (counted : Nat) (events : List Event) (report : Report) : Prop where
  /-- the ids of the batches that were done -/
  processed : report.processed = Transcript.handled events
  /-- the matches, or the ids if these are more -/
  total : report.total = Transcript.total counted events
  /-- what these batches did, all together -/
  counts : report.counts = summedCounts (Transcript.batches events)
  /-- the batches that were begun -/
  batches : report.batches = Transcript.begun events
  /-- the cursors that were opened, or tried to -/
  passes : report.passes = Transcript.openings events

/-- A result has the numbers of a transcript, and so have the last entry of the audit log and the
notice of a run that was stopped. -/
def ResultAccounts (palette : Palette) (op : Operation) (counted : Nat) (events : List Event)
    (entries : List Entry) : Except BulkError Report → Prop
  | .ok report =>
      report.Accounts counted events ∧
        (report.outcome = .completed ∧ LastLine entries (.completed report) ∨
          report.outcome = .cancelled ∧
            (Transcript.printed events).getLast? =
              some (palette.paint .yellow (cancelNotice report.processed report.total) ++ "\n") ∧
            LastLine entries (.interrupted report.processed report.total))
  | .error (.cursor processed total cause) =>
      (processed = Transcript.handled events ∧ total = Transcript.total counted events) ∧
        LastLine entries (.cursorFailed cause processed total)
  | .error (.cursorRetriesExhausted attempts processed total cause) =>
      attempts = Transcript.openings events ∧
        (processed = Transcript.handled events ∧ total = Transcript.total counted events) ∧
        LastLine entries (.retrying cause processed total)
  | .error (.batch label number processed total cause) =>
      (label = op.name ∧ number = Transcript.begun events) ∧
        (processed = Transcript.handled events ∧ total = Transcript.total counted events) ∧
        LastLine entries (.batchFailed number cause processed total)
  | _ => False

/-- A run that counted so many matches gave the right account of what it did: in its audit log, which
has an entry for each batch that was done, and in its result. -/
def Accounted (palette : Palette) (op : Operation) (audit : AuditLog) (counted : Nat)
    (result : Except BulkError Report) (events : List Event) : Prop :=
  Transcript.totals events = [counted] ∧
    ∃ entries, Logged op audit counted events entries ∧
      ResultAccounts palette op counted events entries result

section Ends

variable {b : Bench (StateM σ)} {counted failures : Nat} {t : Tally} {w : List Event}
  {entries : List Entry}

theorem Ledger.handled (h : Ledger counted failures t w) : t.processed = Transcript.handled w :=
  h.processed

theorem Ledger.total_eq (h : Ledger counted failures t w) :
    t.total = Transcript.total counted w := by
  rw [h.total, h.processed]
  rfl

theorem Ledger.report_accounts (h : Ledger counted failures t w) (outcome : Outcome)
    (now later : Nat) : (t.report outcome now later).Accounts counted w where
  processed := h.handled
  total := h.total_eq
  counts := h.counts
  batches := h.begun
  passes := h.openings

theorem leads_complete_accounted (h : Books b counted 0 t w entries) :
    Leads b.recorded.complete t w fun report _ events =>
      Accounted b.host.palette b.operation b.audit counted (.ok report) events := by
  refine leads_modify_bind (leads_bind (leads_draw_recorded fun text => ?_))
  refine leads_bind (leads_print_recorded (leads_get_bind ?_))
  refine leads_bystander_bind (bystander_lift b.host.clock) fun now => ?_
  refine leads_bystander_bind (bystander_lift b.host.clock) fun later => ?_
  refine leads_bind (leads_print_recorded (leads_bind (leads_note_recorded fun time => ?_)))
  have hnoted := (((h.finish.print text).print "\n").print
    (b.operation.doneLine b.host.palette (t.finish.report .completed now later) ++ "\n")).note time
      (.completed (t.finish.report .completed now later)) rfl
  exact leads_pure ⟨hnoted.ledger.totals, _, hnoted.logged, hnoted.ledger.report_accounts _ _ _,
    .inl ⟨rfl, lastLine_concat _ _ _⟩⟩

theorem leads_exhausted_accounted {attempts : Nat} {cause : ConnError}
    (h : Paused b counted attempts t w cause) :
    Leads (b.recorded.exhausted attempts cause) t w fun error _ events =>
      Accounted b.host.palette b.operation b.audit counted (.error error) events := by
  obtain ⟨hpasses, entries, hbooks, hlast⟩ := h
  refine leads_bind (leads_settle_recorded fun text => leads_get_bind ?_)
  refine leads_bind (leads_log_recorded ?_)
  have hsettled := (hbooks.settle.print text).print "\n"
  refine leads_pure ⟨hsettled.ledger.totals, entries, hsettled.logged, ?_,
    ⟨hsettled.ledger.handled, hsettled.ledger.total_eq⟩, ?_⟩
  · exact hpasses.symm.trans hsettled.ledger.openings
  · rw [hbooks.ledger.settle_total]
    exact hlast

theorem leads_abort_accounted {stop : Stop} (h : Halted b counted t w stop) :
    Leads (b.recorded.abort stop) t w fun result _ events =>
      Accounted b.host.palette b.operation b.audit counted result events := by
  obtain ⟨failures, entries, ⟨hledger, hlogged⟩, hstop⟩ := h
  cases stop with
  | cancelled =>
      obtain ⟨hnotice, hlast⟩ := hstop
      refine leads_get_bind (leads_bystander_bind (bystander_lift b.host.clock) fun now => ?_)
      refine leads_bystander_bind (bystander_lift b.host.clock) fun later => ?_
      exact leads_pure ⟨hledger.totals, entries, hlogged, hledger.report_accounts _ _ _,
        .inr ⟨rfl, hnotice, hlast⟩⟩
  | transient cause => exact hstop.elim
  | failed cause =>
      refine leads_pure ⟨hledger.totals, entries, hlogged, ?_⟩
      cases cause with
      | cursor processed total cause =>
          obtain ⟨⟨rfl, rfl⟩, hlast⟩ := hstop
          exact ⟨⟨hledger.handled, hledger.total_eq⟩, hlast⟩
      | batch label number processed total cause =>
          obtain ⟨⟨rfl, rfl⟩, ⟨rfl, rfl⟩, hlast⟩ := hstop
          exact ⟨⟨rfl, hledger.begun⟩, ⟨hledger.handled, hledger.total_eq⟩, hlast⟩
      | _ => exact hstop.elim

/-- The books at the landmarks of a run, and its account at the end. -/
def booksCourse (b : Bench (StateM σ)) (counted : Nat) : Course (List Event) where
  going := Going b counted
  reading passes _ := Going b counted passes
  halted stop t events := Halted b counted t events stop
  paused passes cause t events := Paused b counted passes t events cause
  ended := Accounted b.host.palette b.operation b.audit counted

/-- A run keeps its books. -/
theorem keeps_books : b.recorded.Keeps (booksCourse b counted) where
  opening := by
    rintro passes t w ⟨hpasses, entries, hbooks⟩
    exact yields_recorded_open fun answer =>
      ⟨congrArg Nat.succ hpasses, entries, hbooks.opening answer⟩
  buffer := by
    -- ids that wait are in no book
    rintro passes fault t w ids ⟨hpasses, entries, hbooks⟩
    exact ⟨hpasses, entries, hbooks.buffer ids⟩
  batch h := leads_batch_books h
  failing h := leads_cursorFailure_books h
  closing h := h
  resuming := by
    rintro passes cause t w ⟨hpasses, entries, hbooks, -⟩
    exact ⟨hpasses, entries, hbooks⟩
  completing := by
    rintro passes t w ⟨-, entries, hbooks⟩
    exact leads_complete_accounted hbooks
  exhausting h := leads_exhausted_accounted h
  aborting h := leads_abort_accounted h

/-- A sweep gives the right account of what it did. -/
theorem leads_sweep_accounted (policy : Retry.Policy) (h : Going b counted 0 t w) :
    Leads (b.recorded.sweep policy) t w fun result _ events =>
      Accounted b.host.palette b.operation b.audit counted result events :=
  leads_sweep_keeps b.host.idles_recorded keeps_books policy h

end Ends

/-! ## Before the first cursor -/

/-- Nothing but counts has been asked of the connection, and no file has been written. -/
structure Unopened (totals : List Nat) (events : List Event) : Prop where
  /-- what the counts came to -/
  totals : Transcript.totals events = totals
  /-- no batch is done -/
  batches : Transcript.batches events = []
  /-- none is begun -/
  begun : Transcript.begun events = 0
  /-- no cursor is opened -/
  openings : Transcript.openings events = 0
  /-- no log has an entry -/
  records : ∀ path, Transcript.records path events = []

namespace Unopened

variable {totals : List Nat} {events : List Event}

theorem nil : Unopened [] [] :=
  ⟨rfl, rfl, rfl, rfl, fun _ => rfl⟩

theorem skip (h : Unopened totals events) {event : Event} (hcount : event.count? = none)
    (hdone : event.done? = none) (hbatch : event.isBatch = false)
    (hopening : event.isOpening = false) (hrecord : ∀ path, event.record? path = none) :
    Unopened totals (events ++ [event]) where
  totals := (Transcript.totals_skip hcount).trans h.totals
  batches := (Transcript.batches_skip hdone).trans h.batches
  begun := (Transcript.begun_skip hbatch).trans h.begun
  openings := (Transcript.openings_skip hopening).trans h.openings
  records := fun path => (Transcript.records_skip (hrecord path)).trans (h.records path)

/-- A count that succeeds is the only one. -/
theorem count (h : Unopened [] events) (total : Nat) :
    Unopened [total] (events ++ [.counted (.ok total)]) where
  totals := by
    rw [Transcript.totals_add rfl, h.totals]
    rfl
  batches := (Transcript.batches_skip rfl).trans h.batches
  begun := (Transcript.begun_skip rfl).trans h.begun
  openings := (Transcript.openings_skip rfl).trans h.openings
  records := fun path => (Transcript.records_skip rfl).trans (h.records path)

/-- A run begins with its books in order. -/
theorem going {b : Bench (StateM σ)} {counted : Nat} (h : Unopened [counted] events) (now : Nat) :
    Going b counted 0 (.start counted now) events where
  left := rfl
  right := by
    refine ⟨[], ⟨h.totals, ?_, ?_, h.begun.symm, ?_, h.openings.symm, ?_⟩,
      fun path _ => h.records path, ?_⟩
    · rw [h.batches]
      rfl
    · rw [h.batches]
      rfl
    · rw [h.batches, h.begun]
      rfl
    · exact (Nat.max_zero counted).symm
    · rw [h.batches]
      rfl

end Unopened

section Runs

variable {host : Host (StateM σ)} {connection : Connection (StateM σ)} {plan : Plan}

/-- Matches are counted until a count succeeds. -/
theorem yields_countMatches_recorded (policy : Retry.Policy) :
    Yields (plan.countMatches host.recorded connection.recorded policy) [] fun answer events =>
      match answer with
      | .ok total => Unopened [total] events
      | .error _ => Unopened [] events := by
  refine yields_counting host.idles_recorded policy (fun _ => Unopened []) ?_ .nil
  intro i events hi hunopened
  refine yields_recorded_count fun answer => ?_
  cases answer with
  | ok total => exact hunopened.count total
  | error cause =>
      have hfailed : Unopened [] (events ++ [.counted (.error cause)]) :=
        hunopened.skip rfl rfl rfl rfl fun _ => rfl
      dsimp only [CountFails]
      split
      · split
        · exact hfailed
        · exact hfailed
      · exact hfailed

/-- Lines of a summary are no calls. -/
theorem yields_printAll_recorded {totals : List Nat} (lines : List String) {events : List Event}
    (h : Unopened totals events) :
    Yields (Plan.printAll host.recorded lines) events fun _ events' => Unopened totals events' := by
  induction lines generalizing events with
  | nil => exact yields_pure h
  | cons line rest ih =>
      exact yields_bind (yields_recording fun _ => ih (h.skip rfl rfl rfl rfl fun _ => rfl))

/-- A log is opened without an entry. -/
theorem yields_openAt_recorded {totals : List Nat} (path? : Option String) {events : List Event}
    (h : Unopened totals events) :
    Yields (AuditLog.openAt host.recorded path?) events fun answer events' =>
      Unopened totals events' ∧ ∀ audit, answer = .ok audit → audit = ⟨path?⟩ := by
  cases path? with
  | none => exact yields_pure ⟨h, fun _ hsame => (Except.ok.inj hsame).symm⟩
  | some path =>
      refine yields_bind (yields_recording fun answer => ?_)
      have hopened : Unopened totals (events ++ [.appended path ""]) :=
        h.skip rfl rfl rfl rfl fun _ => if_neg fun hrecord => hrecord.2 rfl
      cases answer with
      | error cause => exact yields_pure ⟨hopened, nofun⟩
      | ok _ =>
          refine yields_bind ((bystander_lift (host.log _ _)).yields fun _ => yields_pure ?_)
          exact ⟨hopened, fun _ hsame => (Except.ok.inj hsame).symm⟩

theorem yields_listen_recorded {listens : Bool} {events : List Event} {β : Type}
    {post : β → List Event → Prop} {next : Except FileError Unit → StateT (List Event) (StateM σ) β}
    (h : ∀ answer, Yields (next answer) events post) :
    Yields (if listens then host.recorded.listen >>= next else pure (.ok ()) >>= next) events post := by
  split
  · exact yields_bind ((bystander_lift host.listen).yields h)
  · exact h _

/-- Whatever the connection answers and however a run ends that has opened a cursor, it gives the right
account of what it did.  The ids that it tells as handled are those of the batches that were done, its
counts are what these came to, its batches those that were begun, its passes the cursors that were
opened, and its total is the number of matches, or of handled ids if these are more.  The same two
numbers stand in the last entry of the audit log and in the notice of a run that was stopped; and in the
log each batch that was done has an entry with its number, counted over all cursors, and with how far
the run was then. -/
theorem run_accounted (host : Host (StateM σ)) (connection : Connection (StateM σ)) (plan : Plan)
    (change : Change) (settings : RunSettings) :
    Yields (plan.run host.recorded connection.recorded change settings) [] fun result events =>
      Transcript.openings events ≠ 0 → ∃ counted,
        Accounted host.palette change.operation ⟨plan.job.auditLog⟩ counted result events := by
  have hidle : ∀ {totals : List Nat} {events : List Event} {P : Prop}, Unopened totals events →
      Transcript.openings events ≠ 0 → P :=
    fun hunopened hopened => absurd hunopened.openings hopened
  refine yields_bind ((yields_countMatches_recorded settings.countRetry).mono fun answer w hcount => ?_)
  cases answer with
  | error cause => exact yields_pure (hidle hcount)
  | ok total =>
      refine yields_bind ((yields_printAll_recorded _ hcount).mono fun _ w hprinted => ?_)
      have hnotice : ∀ text, Unopened [total] (w ++ [.printed text]) :=
        fun text => hprinted.skip rfl rfl rfl rfl fun _ => rfl
      split
      · exact yields_bind (yields_recording fun _ => yields_pure (hidle (hnotice _)))
      · split
        · exact yields_bind (yields_recording fun _ => yields_pure (hidle (hnotice _)))
        · refine yields_bind ((yields_openAt_recorded _ hprinted).mono fun answer w hopen => ?_)
          obtain ⟨hopened, haudit⟩ := hopen
          cases answer with
          | error cause => exact yields_pure (hidle hopened)
          | ok audit =>
              obtain rfl := haudit audit rfl
              refine yields_listen_recorded fun answer => ?_
              cases answer with
              | error cause => exact yields_pure (hidle hopened)
              | ok _ =>
                  refine yields_bind ((bystander_lift host.clock).yields fun now => ?_)
                  have hgoing : Going ⟨host, connection, plan, change, ⟨plan.job.auditLog⟩⟩ total 0
                      (.start total now) w := hopened.going now
                  refine Leads.yields ((leads_sweep_accounted settings.cursorRetry hgoing).mono ?_)
                  exact fun result _ events haccounted _ => ⟨total, haccounted⟩

end Runs

end BulkSweep

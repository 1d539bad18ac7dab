import BulkSweep.Proofs.Run.Ledger
import BulkSweep.Proofs.Run.Sweeps

/-!
# Books

A run keeps its books in order, step by step: its tally agrees with the account of its transcript, and
its audit log has the entries that it should have (`Books`).  While the run goes on, no batch has failed
(`Going`); what stops it is told by the last entry (`Halted`), and so is a cursor that failed in a way
that may pass (`Paused`).
-/

set_option autoImplicit false

namespace BulkSweep

variable {σ : Type}

/-! ## Books -/

/-- The same work with everything written down. -/
def Bench.recorded (b : Bench (StateM σ)) : Bench (StateT (List Event) (StateM σ)) :=
  ⟨b.host.recorded, b.connection.recorded, b.plan, b.change, b.audit⟩

/-- The books of a run are in order: its ledger, and its audit log. -/
structure Books (b : Bench (StateM σ)) (counted failures : Nat) (t : Tally) (events : List Event)
    (entries : List Entry) : Prop where
  /-- the numbers agree -/
  ledger : Ledger counted failures t events
  /-- the entries are in the log -/
  logged : Logged b.operation b.audit counted events entries

namespace Books

variable {b : Bench (StateM σ)} {counted failures : Nat} {t : Tally} {events : List Event}
  {entries : List Entry}

theorem print (h : Books b counted failures t events entries) (text : String) :
    Books b counted failures t (events ++ [.printed text]) entries :=
  ⟨h.ledger.print text, h.logged.print text⟩

theorem note (h : Books b counted failures t events entries) (time : String) (line : Line)
    (hline : line.milestone? = none) :
    Books b counted failures t
      (events ++ b.audit.written (AuditLog.entry time (line.text b.operation)))
      (entries ++ [⟨time, line⟩]) :=
  ⟨h.ledger.note _ _, h.logged.note time hline⟩

theorem settle (h : Books b counted failures t events entries) :
    Books b counted failures t.settle events entries :=
  ⟨h.ledger.settle, h.logged⟩

theorem finish (h : Books b counted failures t events entries) :
    Books b counted failures t.finish events entries :=
  ⟨h.ledger.finish, h.logged⟩

/-- The ids that wait are in no book. -/
theorem buffer (h : Books b counted failures t events entries) (ids : Array Value) :
    Books b counted failures { t with buffer := ids } events entries :=
  ⟨h.ledger.congr rfl rfl rfl rfl rfl, h.logged⟩

theorem opening (h : Books b counted failures t events entries)
    (answer : Except ConnError Cursor) :
    Books b counted failures t.beginPass (events ++ [.opened answer]) entries :=
  ⟨h.ledger.opening answer, h.logged.skip rfl fun _ => rfl⟩

theorem failed (h : Books b counted failures t events entries) (ids : List Value)
    (cause : ConnError) :
    Books b counted (failures + 1) t.beginBatch (events ++ [.handed ids (.error cause)]) entries :=
  ⟨h.ledger.failed ids cause, h.logged.skip rfl fun _ => rfl⟩

/-- The books after a batch, its text on the terminal and its entry. -/
theorem batch (h : Books b counted 0 t events entries) (counts : BatchCounts)
    (text time : String) (speed : Numeric.Binary64) {m : Milestone} {after : Tally}
    (hafter : after = t.beginBatch.endBatch counts)
    (hm : m = ⟨after.batches, after.processed, after.total, after.counts⟩) :
    Books b counted 0 after
      (events ++ [.handed t.buffer.toList (.ok counts)] ++ [.printed text]
        ++ b.audit.written (AuditLog.entry time ((Line.batch m speed).text b.operation)))
      (entries ++ [⟨time, .batch m speed⟩]) := by
  have hdone := h.ledger.done counts
  rw [← hafter] at hdone
  have hmilestone := hdone.milestone_eq
  rw [Transcript.batches_add rfl, ← hm] at hmilestone
  exact ⟨(hdone.print text).note b.audit _, h.logged.batch _ counts text time speed hmilestone⟩

end Books

/-! ## Writing -/

section Writing

variable {b : Bench (StateM σ)} {t : Tally} {w : List Event} {post : Unit → Tally → List Event → Prop}

theorem leads_print_recorded {text : String} (h : post () t (w ++ [.printed text])) :
    Leads (liftM (b.recorded.host.print text) : StateT Tally (StateT (List Event) (StateM σ)) Unit) t w
      post := by
  rw [← bind_pure (liftM (b.recorded.host.print text))]
  exact leads_lift_bind (yields_recording fun _ => leads_pure h)

theorem leads_log_recorded {level : Level} {line : String} (h : post () t w) :
    Leads (b.recorded.log level line) t w post :=
  leads_bystander (bystander_lift (b.host.log level line)) fun _ => h

theorem leads_note_recorded {event : String}
    (h : ∀ time, post () t (w ++ b.audit.written (AuditLog.entry time event))) :
    Leads (b.recorded.note event) t w post := by
  have hrecord : Yields (b.audit.record b.recorded.host event) w fun _ w' => post () t w' := by
    unfold AuditLog.record
    unfold AuditLog.written at h
    cases hpath : b.audit.path with
    | none =>
        rw [hpath] at h
        exact yields_pure (by simpa using h "")
    | some path =>
        rw [hpath] at h
        refine yields_bind ((bystander_lift b.host.timestamp).yields fun time => ?_)
        refine yields_bind (yields_recording fun answer => ?_)
        cases answer with
        | ok _ => exact yields_pure (h time)
        | error cause => exact (bystander_lift (b.host.log _ _)).yields fun _ => h time
  rw [← bind_pure (b.recorded.note event)]
  exact leads_lift_bind (hrecord.mono fun _ _ hpost => leads_pure hpost)

theorem leads_draw_shown (h : ∀ now, post () t (w ++ [.printed (t.tracker.redraw now)])) :
    Leads b.recorded.draw t w post :=
  leads_get_bind (leads_bystander_bind (bystander_lift b.host.clock) fun now => by
    dsimp only
    split
    · exact leads_bystander_bind (bystander_lift (b.host.overflow _)) fun _ =>
        leads_print_recorded (h now)
    · exact leads_print_recorded (h now))

/-- For the books it does not matter what is drawn. -/
theorem leads_draw_recorded (h : ∀ text, post () t (w ++ [.printed text])) :
    Leads b.recorded.draw t w post :=
  leads_draw_shown fun _ => h _

theorem leads_settle_recorded
    (h : ∀ text, post () t.settle (w ++ [.printed text] ++ [.printed "\n"])) :
    Leads b.recorded.settle t w post :=
  leads_modify_bind (leads_bind (leads_draw_recorded fun text => leads_print_recorded (h text)))

end Writing

/-! ## Steps -/

/-- The last entry of an audit log says this. -/
def LastLine (entries : List Entry) (line : Line) : Prop :=
  entries.getLast?.map Entry.line = some line

theorem lastLine_concat (entries : List Entry) (time : String) (line : Line) :
    LastLine (entries ++ [⟨time, line⟩]) line := by
  rw [LastLine, List.getLast?_concat]
  rfl

/-- The books of a run that goes on, with so many passes begun. -/
def Going (b : Bench (StateM σ)) (counted passes : Nat) (t : Tally) (events : List Event) : Prop :=
  t.passes = passes ∧ ∃ entries, Books b counted 0 t events entries

/-- The books of a run whose cursor failed in a way that may pass: the log says so. -/
def Paused (b : Bench (StateM σ)) (counted passes : Nat) (t : Tally) (events : List Event)
    (cause : ConnError) : Prop :=
  t.passes = passes ∧ ∃ entries, Books b counted 0 t events entries ∧
    LastLine entries (.retrying cause t.processed t.total)

/-- The books of a run that was stopped: the log says so, and on the terminal the notice stands if the
operator did it. -/
def Halted (b : Bench (StateM σ)) (counted : Nat) (t : Tally) (events : List Event) (stop : Stop) :
    Prop :=
  ∃ failures entries, Books b counted failures t events entries ∧
    match stop with
    | .cancelled =>
        (Transcript.printed events).getLast? =
            some (b.host.palette.paint .yellow (cancelNotice t.processed t.total) ++ "\n") ∧
          LastLine entries (.interrupted t.processed t.total)
    | .failed (.cursor processed total cause) =>
        (processed = t.processed ∧ total = t.total) ∧
          LastLine entries (.cursorFailed cause processed total)
    | .failed (.batch label number processed total cause) =>
        (label = b.operation.name ∧ number = t.batches) ∧
          (processed = t.processed ∧ total = t.total) ∧
          LastLine entries (.batchFailed number cause processed total)
    | _ => False

section Steps

variable {b : Bench (StateM σ)} {counted passes : Nat} {t : Tally} {w : List Event}

theorem Transcript.printed_written (events : List Event) (audit : AuditLog) (text : String) :
    Transcript.printed (events ++ audit.written text) = Transcript.printed events := by
  unfold AuditLog.written
  cases audit.path with
  | none => simp
  | some path => simp [Transcript.printed, Event.printed?]

theorem Transcript.printed_getLast (events : List Event) (text : String) :
    (Transcript.printed (events ++ [.printed text])).getLast? = some text := by
  simp [Transcript.printed, Event.printed?]

theorem leads_cancel_books {entries : List Entry} (h : Books b counted 0 t w entries) :
    Leads b.recorded.cancel t w fun stop t' w' => Halted b counted t' w' stop := by
  refine leads_bind (leads_settle_recorded fun text => leads_get_bind ?_)
  refine leads_bind (leads_print_recorded (leads_bind (leads_note_recorded fun time => ?_)))
  have hbooks := ((h.settle.print text).print "\n").print
    (b.host.palette.paint .yellow (cancelNotice t.settle.processed t.settle.total) ++ "\n")
  have hnoted := hbooks.note time (.interrupted t.processed t.settle.total) rfl
  -- the entry goes to a file, so the notice is still the last text on the terminal
  refine leads_pure ⟨0, _, hnoted, ?_, lastLine_concat _ _ _⟩
  rw [Transcript.printed_written, Transcript.printed_getLast]
  rfl

theorem leads_failBatch_books {entries : List Entry} {cause : ConnError}
    (h : Books b counted 1 t w entries) :
    Leads (b.recorded.failBatch cause) t w fun stop t' w' => Halted b counted t' w' stop := by
  refine leads_bind (leads_settle_recorded fun text => leads_get_bind ?_)
  refine leads_bind (leads_log_recorded (leads_bind (leads_note_recorded fun time => ?_)))
  have hnoted := ((h.settle.print text).print "\n").note time
    (.batchFailed t.batches cause t.processed t.settle.total) rfl
  exact leads_pure ⟨1, _, hnoted, ⟨rfl, rfl⟩, ⟨rfl, rfl⟩, lastLine_concat _ _ _⟩

/-- What is left of the books when batches are over, or stop the run. -/
def Goes (b : Bench (StateM σ)) (counted passes : Nat) (answer : Except Stop Unit) (t : Tally)
    (events : List Event) : Prop :=
  match answer with
  | .error stop => Halted b counted t events stop
  | .ok _ => Going b counted passes t events

/-- A batch keeps the books. -/
theorem leads_batch_books (h : Going b counted passes t w) :
    Leads b.recorded.batch t w (Goes b counted passes) := by
  obtain ⟨hpasses, entries, hbooks⟩ := h
  refine leads_bystander_bind (bystander_lift b.host.interrupted) fun stopped => ?_
  cases stopped with
  | true => exact leads_bind ((leads_cancel_books hbooks).mono fun _ _ _ hstop => leads_pure hstop)
  | false =>
      refine leads_modify_bind (leads_get_bind (leads_lift_bind ?_))
      refine yields_recorded_apply fun answer => ?_
      cases answer with
      | error cause =>
          refine leads_bind ((leads_failBatch_books (hbooks.failed _ cause)).mono ?_)
          exact fun _ _ _ hstop => leads_pure hstop
      | ok counts =>
          refine leads_modify_bind (leads_bind (leads_draw_recorded fun text => leads_get_bind ?_))
          refine leads_bystander_bind (bystander_lift b.host.clock) fun now => ?_
          refine leads_bind (leads_log_recorded (leads_bind (leads_note_recorded fun time => ?_)))
          refine leads_modify_bind ?_
          -- the entry shows the tally after the batch, which is the milestone of the batch
          have hgoing : Going b counted passes (t.beginBatch.endBatch counts).clear _ :=
            ⟨hpasses, _, (hbooks.batch counts text time
              ((t.beginBatch.endBatch counts).tracker.speed now) rfl rfl).buffer #[]⟩
          dsimp only
          split
          · refine leads_bystander_bind (bystander_lift (b.host.sleep _ _)) fun _ => ?_
            exact leads_pure hgoing
          · exact leads_pure hgoing

end Steps

/-! ## Passes -/

section Passes

variable {b : Bench (StateM σ)} {counted passes : Nat} {t : Tally} {w : List Event}

/-- What is left of the books when a pass is over. -/
def PassGoes (b : Bench (StateM σ)) (counted passes : Nat) (answer : Retry.Attempt Unit Stop Stop)
    (t : Tally) (events : List Event) : Prop :=
  match answer with
  | .done _ => Going b counted passes t events
  | .fatal stop => Halted b counted t events stop
  | .again stop => ∃ cause, stop = .transient cause ∧ Paused b counted passes t events cause

theorem leads_cursorFailure_books {cause : ConnError} (h : Going b counted passes t w) :
    Leads (b.recorded.cursorFailure cause) t w (PassGoes b counted passes) := by
  obtain ⟨hpasses, entries, hbooks⟩ := h
  unfold Bench.cursorFailure
  split
  · refine leads_bind (leads_log_recorded (leads_get_bind (leads_bind (leads_note_recorded ?_))))
    intro time
    have hnoted := hbooks.note time (.retrying cause t.processed t.total) rfl
    exact leads_pure ⟨cause, rfl, hpasses, _, hnoted, lastLine_concat _ _ _⟩
  · refine leads_bind (leads_settle_recorded fun text => leads_get_bind ?_)
    refine leads_bind (leads_log_recorded (leads_bind (leads_note_recorded fun time => ?_)))
    have hnoted := ((hbooks.settle.print text).print "\n").note time
      (.cursorFailed cause t.processed t.settle.total) rfl
    exact leads_pure ⟨0, _, hnoted, ⟨rfl, rfl⟩, lastLine_concat _ _ _⟩

end Passes

end BulkSweep

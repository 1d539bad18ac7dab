import BulkSweep.Proofs.Run.Accounts
import BulkSweep.Proofs.Run.Courses
import BulkSweep.Rehearsal

/-!
# The last progress line

However a run ends that has opened a cursor, the last progress line on the terminal is drawn when it
ends.  If it ends before all is done, the line shows how many ids it has handled, of how many, just as its
report or its error does; if all is done, the line is full (`run_draws_place`).
-/

set_option autoImplicit false

namespace BulkSweep

variable {σ : Type}

/-! ## Progress lines on the terminal -/

/-- Whether a text draws the progress line again: it begins at the beginning of the line. -/
def redraws (text : String) : Bool :=
  text.toList.head? == some '\r'

/-- The last text that drew the progress line. -/
def Transcript.lastDrawn (events : List Event) : Option String :=
  ((Transcript.printed events).filter redraws).getLast?

/-- The last progress line is the one of a tracker. -/
def Tracker.Drawn (τ : Tracker) (events : List Event) : Prop :=
  ∃ now, Transcript.lastDrawn events = some (τ.redraw now)

/-- What a text draws is decided by its first character. -/
theorem redraws_append {first : String} {c : Char} (h : first.toList.head? = some c)
    (rest : String) : redraws (first ++ rest) = (c == '\r') := by
  rw [redraws, String.toList_append, List.head?_append, h]
  rfl

theorem redraws_redraw (τ : Tracker) (now : Nat) : redraws (τ.redraw now) = true := by
  rw [Tracker.redraw, String.append_assoc]
  exact redraws_append (c := '\r') (by simp) _

theorem redraws_paint (palette : Palette) (colour : Colour) {text : String} (rest : String)
    (h : ∀ rest, redraws (text ++ rest) = false) :
    redraws (palette.paint colour text ++ rest) = false := by
  unfold Palette.paint
  split
  · simp only [Colour.opening, String.append_assoc]
    exact redraws_append (c := '\x1b') (by simp) _
  · exact h rest

namespace Transcript

theorem lastDrawn_draw {text : String} (h : redraws text = true) (events : List Event) :
    lastDrawn (events ++ [.printed text]) = some text := by
  simp [lastDrawn, printed, Event.printed?, h]

theorem lastDrawn_print {text : String} (h : redraws text = false) (events : List Event) :
    lastDrawn (events ++ [.printed text]) = lastDrawn events := by
  simp [lastDrawn, printed, Event.printed?, h]

theorem lastDrawn_written (events : List Event) (audit : AuditLog) (text : String) :
    lastDrawn (events ++ audit.written text) = lastDrawn events := by
  rw [lastDrawn, printed_written, lastDrawn]

end Transcript

namespace Tracker.Drawn

variable {τ : Tracker} {events : List Event}

theorem draw (τ : Tracker) (now : Nat) (events : List Event) :
    τ.Drawn (events ++ [.printed (τ.redraw now)]) :=
  ⟨now, Transcript.lastDrawn_draw (redraws_redraw τ now) events⟩

theorem print (h : τ.Drawn events) {text : String} (htext : redraws text = false) :
    τ.Drawn (events ++ [.printed text]) := by
  obtain ⟨now, hlast⟩ := h
  exact ⟨now, (Transcript.lastDrawn_print htext events).trans hlast⟩

theorem note (h : τ.Drawn events) (audit : AuditLog) (text : String) :
    τ.Drawn (events ++ audit.written text) := by
  obtain ⟨now, hlast⟩ := h
  exact ⟨now, (Transcript.lastDrawn_written events audit text).trans hlast⟩

end Tracker.Drawn

theorem redraws_cancelNotice (palette : Palette) (processed total : Nat) :
    redraws (palette.paint .yellow (cancelNotice processed total) ++ "\n") = false := by
  refine redraws_paint palette .yellow "\n" fun rest => ?_
  unfold cancelNotice
  rw [String.append_assoc]
  exact redraws_append (c := 'I') (by simp) _

theorem redraws_doneLine (op : Operation) (palette : Palette) (report : Report) :
    redraws (op.doneLine palette report ++ "\n") = false := by
  unfold Operation.doneLine
  cases op with
  | delete =>
      simp only [String.append_assoc]
      exact redraws_append (c := 'B') (by simp) _
  | update =>
      simp only [String.append_assoc]
      exact redraws_append (c := 'B') (by simp) _

/-! ## Drawing -/

section Drawing

variable {b : Bench (StateM σ)} {t : Tally} {w : List Event} {post : Unit → Tally → List Event → Prop}

/-- Before a run ends, the line is drawn with what was handled, and left. -/
theorem leads_settle_shown
    (h : ∀ w', t.settle.tracker.Drawn w' → post () t.settle w') :
    Leads b.recorded.settle t w post := by
  refine leads_modify_bind (leads_bind (leads_draw_shown fun now => leads_print_recorded ?_))
  exact h _ ((Tracker.Drawn.draw t.settle.tracker now w).print (by decide))

end Drawing

/-! ## Ends -/

/-- The times of a report are those of a tracker, each at some moment. -/
def Tracker.Times (τ : Tracker) (report : Report) : Prop :=
  ∃ now later, report.elapsed = τ.elapsed now ∧ report.speed = τ.speed later

/-- What is drawn when a run was stopped: how many ids it has handled, of how many. -/
def HaltedDrawn (stop : Stop) (t : Tally) (events : List Event) : Prop :=
  t.tracker.Drawn events ∧ t.tracker.current = t.processed ∧
    match stop with
    | .cancelled => True
    | .failed (.cursor processed total _) | .failed (.batch _ _ processed total _) =>
        processed = t.processed ∧ total = t.total
    | _ => False

/-- What is drawn when a run ends: the place that its result tells, or a full line. -/
def EndDrawn (result : Except BulkError Report) (events : List Event) : Prop :=
  match result with
  | .ok report =>
      ∃ τ : Tracker, τ.Drawn events ∧ τ.total = report.total ∧ τ.Times report ∧
        (report.outcome = .cancelled ∧ τ.current = report.processed ∨
          report.outcome = .completed ∧ τ.current = report.total)
  | .error (.cursor processed total _) | .error (.cursorRetriesExhausted _ processed total _)
  | .error (.batch _ _ processed total _) =>
      ∃ τ : Tracker, τ.Drawn events ∧ τ.current = processed ∧ τ.total = total
  | _ => False

/-- Nothing need hold of what is drawn until a run is stopped or ends. -/
def displayCourse : Course (List Event) where
  going _ _ _ := True
  reading _ _ _ _ := True
  halted := HaltedDrawn
  paused _ _ _ _ := True
  ended := EndDrawn

section Ends

variable {b : Bench (StateM σ)} {t : Tally} {w : List Event}

theorem leads_cancel_drawn :
    Leads b.recorded.cancel t w fun stop t' w' => HaltedDrawn stop t' w' := by
  refine leads_bind (leads_settle_shown fun w' hdrawn => leads_get_bind ?_)
  refine leads_bind (leads_print_recorded (leads_bind (leads_note_recorded fun time => ?_)))
  exact leads_pure ⟨(hdrawn.print (redraws_cancelNotice _ _ _)).note _ _, rfl, trivial⟩

theorem leads_failBatch_drawn (cause : ConnError) :
    Leads (b.recorded.failBatch cause) t w fun stop t' w' => HaltedDrawn stop t' w' := by
  refine leads_bind (leads_settle_shown fun w' hdrawn => leads_get_bind ?_)
  refine leads_bind (leads_log_recorded (leads_bind (leads_note_recorded fun time => ?_)))
  exact leads_pure ⟨hdrawn.note _ _, rfl, rfl, rfl⟩

theorem leads_batch_drawn (passes : Nat) (fault : Option ConnError) :
    Leads b.recorded.batch t w (displayCourse.AfterBatch passes fault) := by
  refine leads_bystander_bind (bystander_lift b.host.interrupted) fun stopped => ?_
  cases stopped with
  | true => exact leads_bind (leads_cancel_drawn.mono fun _ _ _ hstop => leads_pure hstop)
  | false =>
      refine leads_modify_bind (leads_get_bind (leads_lift_bind ?_))
      refine yields_recorded_apply fun answer => ?_
      cases answer with
      | error cause =>
          exact leads_bind ((leads_failBatch_drawn cause).mono fun _ _ _ hstop => leads_pure hstop)
      | ok counts =>
          refine leads_modify_bind (leads_bind (leads_draw_shown fun now => leads_get_bind ?_))
          refine leads_bystander_bind (bystander_lift b.host.clock) fun now => ?_
          refine leads_bind (leads_log_recorded (leads_bind (leads_note_recorded fun time => ?_)))
          refine leads_modify_bind ?_
          dsimp only
          split
          · exact leads_bystander_bind (bystander_lift (b.host.sleep _ _)) fun _ =>
              leads_pure trivial
          · exact leads_pure trivial

theorem leads_cursorFailure_drawn (passes : Nat) (cause : ConnError) :
    Leads (b.recorded.cursorFailure cause) t w (displayCourse.AfterPass passes) := by
  unfold Bench.cursorFailure
  split
  · refine leads_bind (leads_log_recorded (leads_get_bind (leads_bind (leads_note_recorded ?_))))
    exact fun time => leads_pure ⟨cause, rfl, trivial⟩
  · refine leads_bind (leads_settle_shown fun w' hdrawn => leads_get_bind ?_)
    refine leads_bind (leads_log_recorded (leads_bind (leads_note_recorded fun time => ?_)))
    exact leads_pure ⟨hdrawn.note _ _, rfl, rfl, rfl⟩

theorem leads_complete_drawn :
    Leads b.recorded.complete t w fun report _ w' => EndDrawn (.ok report) w' := by
  refine leads_modify_bind (leads_bind (leads_draw_shown fun drawn => ?_))
  refine leads_bind (leads_print_recorded (leads_get_bind ?_))
  refine leads_bystander_bind (bystander_lift b.host.clock) fun now => ?_
  refine leads_bystander_bind (bystander_lift b.host.clock) fun later => ?_
  refine leads_bind (leads_print_recorded (leads_bind (leads_note_recorded fun time => ?_)))
  have hline := (Tracker.Drawn.draw t.finish.tracker drawn w).print
    (by decide : redraws ("" ++ "\n") = false)
  have hdone := hline.print
    (redraws_doneLine b.operation b.host.palette (t.finish.report .completed now later))
  have hfull : t.finish.tracker.current = t.finish.total := (Nat.max_self t.total).symm
  exact leads_pure ⟨_, hdone.note _ _, rfl, ⟨now, later, rfl, rfl⟩, .inr ⟨rfl, hfull⟩⟩

theorem leads_exhausted_drawn (attempts : Nat) (cause : ConnError) :
    Leads (b.recorded.exhausted attempts cause) t w fun error _ w' => EndDrawn (.error error) w' := by
  refine leads_bind (leads_settle_shown fun w' hdrawn => leads_get_bind ?_)
  exact leads_bind (leads_log_recorded (leads_pure ⟨_, hdrawn, rfl, rfl⟩))

theorem leads_abort_drawn {stop : Stop} (h : HaltedDrawn stop t w) :
    Leads (b.recorded.abort stop) t w fun result _ w' => EndDrawn result w' := by
  obtain ⟨hdrawn, hcurrent, hstop⟩ := h
  cases stop with
  | cancelled =>
      refine leads_get_bind (leads_bystander_bind (bystander_lift b.host.clock) fun now => ?_)
      refine leads_bystander_bind (bystander_lift b.host.clock) fun later => ?_
      exact leads_pure ⟨_, hdrawn, rfl, ⟨now, later, rfl, rfl⟩, .inl ⟨rfl, hcurrent⟩⟩
  | transient cause => exact hstop.elim
  | failed cause =>
      refine leads_pure ?_
      cases cause with
      | cursor processed total cause =>
          obtain ⟨rfl, rfl⟩ := hstop
          exact ⟨_, hdrawn, hcurrent, rfl⟩
      | batch label number processed total cause =>
          obtain ⟨rfl, rfl⟩ := hstop
          exact ⟨_, hdrawn, hcurrent, rfl⟩
      | _ => exact hstop.elim

/-- A run draws its line when it ends. -/
theorem keeps_display : b.recorded.Keeps displayCourse where
  opening _ := yields_any fun _ _ => trivial
  buffer _ _ := trivial
  batch _ := leads_batch_drawn _ _
  failing _ := leads_cursorFailure_drawn _ _
  closing _ := trivial
  resuming _ := trivial
  completing _ := leads_complete_drawn
  exhausting _ := leads_exhausted_drawn _ _
  aborting h := leads_abort_drawn h

end Ends

/-! ## Runs -/

section Runs

variable {host : Host (StateM σ)} {connection : Connection (StateM σ)} {plan : Plan} {change : Change}
  {settings : RunSettings}

/-- The stages of a run that is recorded: until a cursor is opened, there is nothing but counts. -/
def recordedStages (ended : Except BulkError Report → List Event → Prop) : Stages (List Event) where
  counted total := Unopened [total]
  ready total := Unopened [total]
  ended := ended

theorem reaches_recorded {ended : Except BulkError Report → List Event → Prop}
    (hended : ∀ {totals events} (result : Except BulkError Report), Unopened totals events →
      ended result events) :
    plan.Reaches host.recorded (recordedStages ended) where
  print _ h := yields_recording fun _ => h.skip rfl rfl rfl rfl fun _ => rfl
  idle _ _ h := hended _ h
  openAt h := (yields_openAt_recorded plan.job.auditLog h).mono fun answer w' hopen => by
    cases answer with
    | error cause => exact hended _ hopen.1
    | ok audit => exact ⟨hopen.2 audit rfl, hopen.1⟩
  listen h := (bystander_lift host.listen).yields fun answer => by
    cases answer with
    | error cause => exact hended _ h
    | ok _ => exact h
  clock := bystander_lift host.clock

/-- A run that has opened a cursor draws its line when it ends, and gives the right account. -/
theorem run_drawn (host : Host (StateM σ)) (connection : Connection (StateM σ)) (plan : Plan)
    (change : Change) (settings : RunSettings) :
    Yields (plan.run host.recorded connection.recorded change settings) [] fun result events =>
      Transcript.openings events ≠ 0 →
        EndDrawn result events ∧ ∃ counted,
          Accounted host.palette change.operation ⟨plan.job.auditLog⟩ counted result events := by
  refine yields_run_stages (c := recordedStages _)
    (reaches_recorded fun _ hunopened hopened => absurd hunopened.openings hopened) ?_ ?_
  · refine (yields_countMatches_recorded settings.countRetry).mono fun answer w' hcount => ?_
    cases answer with
    | error cause => exact fun hopened => absurd hcount.openings hopened
    | ok total => exact hcount
  · intro total now w hready
    let b : Bench (StateM σ) := ⟨host, connection, plan, change, ⟨plan.job.auditLog⟩⟩
    have hdrawn : Leads (b.recorded.sweep settings.cursorRetry) (.start total now) w
        fun result _ events => EndDrawn result events :=
      leads_sweep_keeps host.idles_recorded keeps_display settings.cursorRetry trivial
    have haccounted := leads_sweep_accounted (b := b) settings.cursorRetry (hready.going now)
    exact (hdrawn.and haccounted).mono fun result _ events hend _ => ⟨hend.1, total, hend.2⟩

/-- The last progress line is that of a tracker with the place that a result tells: so many are handled,
of so many, and the times of a report are this tracker's.  Where all is done, the line is full instead;
that is the same place, and so are the times, if as many ids were handled as matches were counted. -/
def PlaceDrawn (counted : Nat) (events : List Event) : Except BulkError Report → Prop
  | .ok report =>
      ∃ τ : Tracker, τ.Drawn events ∧ τ.total = report.total ∧
        (report.outcome = .cancelled ∧ τ.current = report.processed ∧ τ.Times report ∨
          report.outcome = .completed ∧ τ.current = report.total ∧
            (counted ≤ report.processed → τ.current = report.processed ∧ τ.Times report))
  | .error (.cursor processed total _) | .error (.cursorRetriesExhausted _ processed total _)
  | .error (.batch _ _ processed total _) =>
      ∃ τ : Tracker, τ.Drawn events ∧ τ.current = processed ∧ τ.total = total
  | _ => False

/-- However a run ends that has opened a cursor, the last progress line on the terminal shows the place
that its result tells: how many ids were handled, of how many.  This holds for a run that the operator
stopped, for one whose batch or cursor failed and for one whose cursors all failed, whether the cursors
yielded fewer ids than were counted or more; and the average speed of a run that was stopped is that of
the ids it has handled.  A run that is completed shows a full line; if it has handled as many ids as were
counted, or more, that is the place which its report tells, and the average speed is that of these
ids. -/
theorem run_draws_place (host : Host (StateM σ)) (connection : Connection (StateM σ)) (plan : Plan)
    (change : Change) (settings : RunSettings) :
    Yields (plan.run host.recorded connection.recorded change settings) [] fun result events =>
      Transcript.openings events ≠ 0 →
        ∃ counted, Transcript.totals events = [counted] ∧ PlaceDrawn counted events result := by
  refine (run_drawn host connection plan change settings).mono fun result events hrun hopened => ?_
  obtain ⟨hend, counted, htotals, entries, -, haccounts⟩ := hrun hopened
  refine ⟨counted, htotals, ?_⟩
  cases result with
  | error cause => cases cause <;> exact hend
  | ok report =>
      obtain ⟨τ, hdrawn, htotal, htimes, ⟨hcancelled, hcurrent⟩ | ⟨hcompleted, hcurrent⟩⟩ := hend
      · exact ⟨τ, hdrawn, htotal, .inl ⟨hcancelled, hcurrent, htimes⟩⟩
      · refine ⟨τ, hdrawn, htotal, .inr ⟨hcompleted, hcurrent, fun hmany => ⟨?_, htimes⟩⟩⟩
        -- the total has grown with the ids
        have hgrown : report.total = max counted report.processed := by
          rw [haccounts.1.total, haccounts.1.processed, Transcript.total]
        omega

end Runs

/-! ## A cursor without ids -/

/-- A line begins with its bar. -/
theorem exists_bar (τ : Tracker) (now : Nat) :
    ∃ rest : List Char, (τ.redraw now).toList = '\r' :: '[' :: (List.replicate τ.filled '█' ++
      (List.replicate (Tracker.barWidth - τ.filled) '░' ++ rest)) := by
  unfold Tracker.redraw Tracker.line
  simp only [String.append_assoc, String.toList_append, String.toList_ofList, List.append_assoc]
  exact ⟨_, rfl⟩

theorem filled_eq (τ : Tracker) : τ.filled = (⟨τ.total, τ.current, 0⟩ : Tracker).filled :=
  rfl

/-- A full line is not the line of five ids none of which is handled. -/
theorem redraw_full_ne {τ τ' : Tracker} (hτ : τ.total = 5 ∧ τ.current = 5)
    (hτ' : τ'.total = 5 ∧ τ'.current = 0) (now now' : Nat) : τ.redraw now ≠ τ'.redraw now' := by
  have hfull : τ.filled = 40 := by
    rw [filled_eq, hτ.1, hτ.2]
    decide +kernel
  have hempty : τ'.filled = 0 := by
    rw [filled_eq, hτ'.1, hτ'.2]
    decide +kernel
  obtain ⟨rest, hline⟩ := exists_bar τ now
  obtain ⟨rest', hline'⟩ := exists_bar τ' now'
  intro hsame
  rw [hsame, hline', hfull, hempty] at hline
  simp [Tracker.barWidth, List.replicate_succ] at hline

/-- A database that counts five matches and whose cursors yield none of them. -/
def emptyHanded : Connection (StateM Rehearsal) where
  count _ _ := return .ok 5
  openCursor _ _ := return .ok ⟨[], none⟩
  deleteByIds _ _ := return .ok 0
  updateByIds _ _ _ := return .ok ⟨0, 0⟩

/-- A run on this database, recorded: what came of it, and what was written down. -/
def emptyHandedRun : (Except BulkError Report × List Event) × Rehearsal :=
  ((Plan.run ⟨{ target := ⟨"shop", "orders"⟩ }, []⟩ (Rehearsal.host false).recorded
    emptyHanded.recorded .delete {}).run []).run { tree := ⟨[], []⟩ }

theorem openings_emptyHandedRun : Transcript.openings emptyHandedRun.1.2 = 1 := by
  decide +kernel

theorem emptyHandedRun_drawn {result : Except BulkError Report} (h : emptyHandedRun.1.1 = result) :
    EndDrawn result emptyHandedRun.1.2 := by
  have hopened := openings_emptyHandedRun
  rw [← h]
  unfold emptyHandedRun at hopened ⊢
  refine (run_drawn _ _ _ _ _ _ ?_).1
  rw [hopened]
  exact Nat.one_ne_zero

theorem emptyHandedRun_completed : ∃ report, emptyHandedRun.1.1 = .ok report ∧
    report.outcome = .completed ∧ report.processed = 0 ∧ report.total = 5 := by
  have htold : (emptyHandedRun.1.1.map fun report =>
      (report.outcome, report.processed, report.total)).toOption = some (.completed, 0, 5) := by
    decide +kernel
  cases hrun : emptyHandedRun.1.1 with
  | error cause =>
      rw [hrun] at htold
      cases htold
  | ok report =>
      rw [hrun] at htold
      obtain ⟨houtcome, hprocessed, htotal⟩ := by simpa using Option.some.inj htold
      exact ⟨report, rfl, houtcome, hprocessed, htotal⟩

/-- Where the cursor yields fewer ids than were counted, the last line of a completed run does not show
the place that its report tells: none of five ids is handled, but the line is full. -/
theorem full_line_of_none_handled :
    let plan : Plan := ⟨{ target := ⟨"shop", "orders"⟩ }, []⟩
    let run := ((plan.run (Rehearsal.host false).recorded emptyHanded.recorded .delete {}).run []).run
      { tree := ⟨[], []⟩ }
    ∃ report, run.1.1 = .ok report ∧ report.outcome = .completed ∧ report.processed = 0 ∧
      report.total = 5 ∧ Transcript.openings run.1.2 = 1 ∧
      (∃ τ : Tracker, τ.Drawn run.1.2 ∧ τ.current = 5 ∧ τ.total = 5 ∧ τ.Times report) ∧
      ∀ τ : Tracker, τ.current = report.processed → τ.total = report.total → ¬ τ.Drawn run.1.2 := by
  intro plan run
  have hsame : run = emptyHandedRun := rfl
  rw [hsame]
  obtain ⟨report, hrun, houtcome, hprocessed, htotal⟩ := emptyHandedRun_completed
  have hend := emptyHandedRun_drawn hrun
  refine ⟨report, hrun, houtcome, hprocessed, htotal, openings_emptyHandedRun, ?_⟩
  rw [hprocessed]
  obtain ⟨τ, hdrawn, hcounted, htimes, ⟨hcancelled, -⟩ | ⟨-, hcurrent⟩⟩ := hend
  · rw [houtcome] at hcancelled
    cases hcancelled
  · rw [htotal] at hcurrent hcounted ⊢
    refine ⟨⟨τ, hdrawn, hcurrent, hcounted, htimes⟩, fun τ' hnone hcounted' hdrawn' => ?_⟩
    obtain ⟨now, hlast⟩ := hdrawn
    obtain ⟨now', hlast'⟩ := hdrawn'
    exact redraw_full_ne ⟨hcounted, hcurrent⟩ ⟨hcounted', hnone⟩ now now'
      (Option.some.inj (hlast.symm.trans hlast'))

end BulkSweep

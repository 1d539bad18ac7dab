import BulkSweep.Proofs.Run.Sweeps

/-!
# Courses

The course of a run is what holds at its landmarks: before each pass, while a cursor is read, when the
run was stopped, when its cursor failed in a way that may pass, and at its end.  If each step leads from
one landmark to the next (`Bench.Keeps`), a whole sweep leads from the first to the last
(`leads_sweep_keeps`), and a run does if the steps before its first cursor do (`yields_run_stages`).
-/

set_option autoImplicit false

namespace BulkSweep

variable {σ W : Type}

/-! ## Landmarks -/

/-- What holds at the landmarks of a run. -/
structure Course (W : Type) where
  /-- before a pass, when so many were begun -/
  going : Nat → Tally → W → Prop
  /-- while a cursor is read that will fail with the given error, or will not fail -/
  reading : Nat → Option ConnError → Tally → W → Prop
  /-- when the run was stopped -/
  halted : Stop → Tally → W → Prop
  /-- when a cursor failed in a way that may pass -/
  paused : Nat → ConnError → Tally → W → Prop
  /-- at the end -/
  ended : Except BulkError Report → W → Prop

/-- The error of a cursor that fails, or that cannot be opened. -/
def cursorFault : Except ConnError Cursor → Option ConnError
  | .error cause => some cause
  | .ok cursor => cursor.fault

namespace Course

variable (c : Course W) (passes : Nat)

/-- What holds after a batch. -/
def AfterBatch (fault : Option ConnError) (answer : Except Stop Unit) (t : Tally) (w : W) : Prop :=
  match answer with
  | .error stop => c.halted stop t w
  | .ok _ => c.reading passes fault t w

/-- What holds after a pass. -/
def AfterPass (answer : Retry.Attempt Unit Stop Stop) (t : Tally) (w : W) : Prop :=
  match answer with
  | .done _ => c.going passes t w
  | .fatal stop => c.halted stop t w
  | .again stop => ∃ cause, stop = .transient cause ∧ c.paused passes cause t w

/-- What holds after all passes. -/
def AfterTries (answer : Except (Retry.Failure Stop Stop) Unit) (t : Tally) (w : W) : Prop :=
  match answer with
  | .ok _ => ∃ passes, c.going passes t w
  | .error (.fatal stop) => c.halted stop t w
  | .error (.exhausted attempts stop) =>
      ∃ cause, stop = .transient cause ∧ c.paused attempts cause t w

end Course

/-- Each step leads from one landmark of a course to the next. -/
structure Bench.Keeps (b : Bench (StateT W (StateM σ))) (c : Course W) : Prop where
  /-- a cursor is opened, or cannot be -/
  opening : ∀ {passes t w}, c.going passes t w →
    Yields (b.connection.openCursor b.target b.plan.filter) w fun answer w' =>
      c.reading (passes + 1) (cursorFault answer) t.beginPass w'
  /-- ids are read or forgotten -/
  buffer : ∀ {passes fault t w} (ids : Array Value), c.reading passes fault t w →
    c.reading passes fault { t with buffer := ids } w
  /-- a batch is done, or stops the run -/
  batch : ∀ {passes fault t w}, c.reading passes fault t w →
    Leads b.batch t w (c.AfterBatch passes fault)
  /-- a cursor fails -/
  failing : ∀ {passes cause t w}, c.reading passes (some cause) t w →
    Leads (b.cursorFailure cause) t w (c.AfterPass passes)
  /-- a cursor ends by itself -/
  closing : ∀ {passes t w}, c.reading passes none t w → c.going passes t w
  /-- another cursor is tried -/
  resuming : ∀ {passes cause t w}, c.paused passes cause t w → c.going passes t w
  /-- all is done -/
  completing : ∀ {passes t w}, c.going passes t w →
    Leads b.complete t w fun report _ w' => c.ended (.ok report) w'
  /-- no try is left -/
  exhausting : ∀ {attempts cause t w}, c.paused attempts cause t w →
    Leads (b.exhausted attempts cause) t w fun error _ w' => c.ended (.error error) w'
  /-- a run that was stopped ends -/
  aborting : ∀ {stop t w}, c.halted stop t w →
    Leads (b.abort stop) t w fun result _ w' => c.ended result w'

/-! ## Passes -/

section Passes

variable {b : Bench (StateT W (StateM σ))} {c : Course W} {passes : Nat} {fault : Option ConnError}
  {t : Tally} {w : W}

theorem leads_drain_keeps (hkeeps : b.Keeps c) (ids : List Value)
    (h : c.reading passes fault t w) : Leads (b.drain ids) t w (c.AfterBatch passes fault) := by
  induction ids generalizing t w with
  | nil => exact leads_pure h
  | cons id rest ih =>
      have hread : c.reading passes fault (t.push id) w := hkeeps.buffer _ h
      refine leads_modify_bind (leads_get_bind ?_)
      split
      · refine leads_bind ((hkeeps.batch hread).mono fun answer t' w' hanswer => ?_)
        cases answer with
        | error stop => exact leads_pure hanswer
        | ok _ => exact ih hanswer
      · exact ih hread

theorem leads_finishPass_keeps (hkeeps : b.Keeps c) (h : c.reading passes none t w) :
    Leads b.finishPass t w (c.AfterPass passes) := by
  refine leads_get_bind ?_
  split
  · exact leads_pure (hkeeps.closing h)
  · refine leads_bind ((hkeeps.batch h).mono fun answer t' w' hanswer => ?_)
    cases answer with
    | error stop => exact leads_pure hanswer
    | ok _ => exact leads_pure (hkeeps.closing hanswer)

theorem leads_pass_keeps (hkeeps : b.Keeps c) (h : c.going passes t w) :
    Leads b.pass t w (c.AfterPass (passes + 1)) := by
  refine leads_modify_bind (leads_lift_bind ((hkeeps.opening h).mono fun answer w' hopened => ?_))
  cases answer with
  | error cause => exact hkeeps.failing hopened
  | ok cursor =>
      refine leads_modify_bind (leads_bind ?_)
      refine (leads_drain_keeps hkeeps cursor.ids (hkeeps.buffer #[] hopened)).mono ?_
      intro answer t' w' hanswer
      cases answer with
      | error stop => exact leads_pure hanswer
      | ok _ =>
          obtain ⟨ids, fault⟩ := cursor
          cases fault with
          | some cause => exact hkeeps.failing hanswer
          | none => exact leads_finishPass_keeps hkeeps hanswer

end Passes

/-! ## Sweeps -/

section Sweeps

variable {b : Bench (StateT W (StateM σ))} {c : Course W} {t : Tally} {w : W}

theorem leads_tries_keeps (hidle : b.host.Idles) (hkeeps : b.Keeps c) (policy : Retry.Policy)
    (h : c.going 0 t w) :
    Leads (policy.conditional (b.host.backOff .reopen).withState b.pass) t w c.AfterTries := by
  refine leads_conditional hidle .reopen policy c.going ?_ h
  intro i t w hi hgoing
  refine (leads_pass_keeps hkeeps hgoing).mono fun answer t' w' hanswer => ?_
  cases answer with
  | done _ => exact ⟨_, hanswer⟩
  | fatal stop => exact hanswer
  | again stop =>
      obtain ⟨cause, rfl, hpaused⟩ := hanswer
      dsimp only
      split
      · rename_i hall
        exact ⟨cause, rfl, hall ▸ hpaused⟩
      · exact hkeeps.resuming hpaused

/-- A sweep leads from the first landmark of a course to its end. -/
theorem leads_sweep_keeps (hidle : b.host.Idles) (hkeeps : b.Keeps c) (policy : Retry.Policy)
    (h : c.going 0 t w) : Leads (b.sweep policy) t w fun result _ w' => c.ended result w' := by
  refine leads_bind ((leads_tries_keeps hidle hkeeps policy h).mono fun answer t' w' hanswer => ?_)
  cases answer with
  | ok _ =>
      obtain ⟨passes, hgoing⟩ := hanswer
      exact leads_bind ((hkeeps.completing hgoing).mono fun _ _ _ hend => leads_pure hend)
  | error failure =>
      cases failure with
      | fatal stop => exact hkeeps.aborting hanswer
      | exhausted attempts stop =>
          obtain ⟨cause, rfl, hpaused⟩ := hanswer
          exact leads_bind ((hkeeps.exhausting hpaused).mono fun _ _ _ hend => leads_pure hend)

end Sweeps

/-! ## Runs -/

/-- What holds in a run before its first cursor: once the matches are counted, and once the audit log is
open. -/
structure Stages (W : Type) where
  /-- so many matches were counted -/
  counted : Nat → W → Prop
  /-- the audit log is open -/
  ready : Nat → W → Prop
  /-- at the end -/
  ended : Except BulkError Report → W → Prop

/-- The steps of a run before its first cursor lead from one stage to the next. -/
structure Plan.Reaches (plan : Plan) (host : Host (StateT W (StateM σ))) (c : Stages W) : Prop where
  /-- a text is printed -/
  print : ∀ {total w} (text : String), c.counted total w →
    Yields (host.print text) w fun _ w' => c.counted total w'
  /-- there is nothing to do, or nothing to be done -/
  idle : ∀ {total w} (outcome : Outcome) (shown : Nat), c.counted total w →
    c.ended (.ok (.idle outcome shown)) w
  /-- the audit log is opened, or cannot be -/
  openAt : ∀ {total w}, c.counted total w →
    Yields (AuditLog.openAt host plan.job.auditLog) w fun answer w' =>
      match answer with
      | .error cause => c.ended (.error cause) w'
      | .ok audit => audit = ⟨plan.job.auditLog⟩ ∧ c.ready total w'
  /-- interrupts are listened for, or cannot be -/
  listen : ∀ {total w}, c.ready total w →
    Yields host.listen w fun answer w' =>
      match answer with
      | .error cause => c.ended (.error (.signal cause)) w'
      | .ok _ => c.ready total w'
  /-- the clock is looked at -/
  clock : Bystander host.clock

section Runs

variable {host : Host (StateT W (StateM σ))} {connection : Connection (StateT W (StateM σ))}
  {plan : Plan} {change : Change} {settings : RunSettings} {c : Stages W} {w : W}

theorem yields_printAll_reaches (hreaches : plan.Reaches host c) {total : Nat}
    (lines : List String) (h : c.counted total w) :
    Yields (Plan.printAll host lines) w fun _ w' => c.counted total w' := by
  induction lines generalizing w with
  | nil => exact yields_pure h
  | cons line rest ih => exact yields_bind ((hreaches.print _ h).mono fun _ _ hprinted => ih hprinted)

theorem yields_listen_reaches (hreaches : plan.Reaches host c) {total : Nat} (listens : Bool)
    (h : c.ready total w)
    {next : Except FileError Unit → StateT W (StateM σ) (Except BulkError Report)}
    (hrefused : ∀ cause w, c.ended (.error (.signal cause)) w → Yields (next (.error cause)) w c.ended)
    (hnext : ∀ w, c.ready total w → Yields (next (.ok ())) w c.ended) :
    Yields (if listens then host.listen >>= next else pure (.ok ()) >>= next) w c.ended := by
  split
  · refine yields_bind ((hreaches.listen h).mono fun answer w hlistened => ?_)
    cases answer with
    | error cause => exact hrefused cause w hlistened
    | ok _ => exact hnext w hlistened
  · exact hnext w h

/-- A run leads from its count to its end. -/
theorem yields_run_stages (hreaches : plan.Reaches host c)
    (hcount : Yields (plan.countMatches host connection settings.countRetry) w fun answer w' =>
      match answer with
      | .error cause => c.ended (.error cause) w'
      | .ok total => c.counted total w')
    (hsweep : ∀ total now w, c.ready total w →
      Leads (Bench.sweep ⟨host, connection, plan, change, ⟨plan.job.auditLog⟩⟩ settings.cursorRetry)
        (.start total now) w fun result _ w' => c.ended result w') :
    Yields (plan.run host connection change settings) w c.ended := by
  refine yields_bind (hcount.mono fun answer w hcount => ?_)
  cases answer with
  | error cause => exact yields_pure hcount
  | ok total =>
      refine yields_bind ((yields_printAll_reaches hreaches _ hcount).mono fun _ w hcounted => ?_)
      have hnotice (text : String) (outcome : Outcome) (shown : Nat) :
          Yields (host.print text >>= fun _ => pure (.ok (.idle outcome shown))) w c.ended :=
        yields_bind ((hreaches.print text hcounted).mono fun _ _ hprinted =>
          yields_pure (hreaches.idle outcome shown hprinted))
      split
      · exact hnotice _ _ _
      · split
        · exact hnotice _ _ _
        · refine yields_bind ((hreaches.openAt hcounted).mono fun answer w hopened => ?_)
          cases answer with
          | error cause => exact yields_pure hopened
          | ok audit =>
              obtain ⟨rfl, hready⟩ := hopened
              refine yields_listen_reaches hreaches settings.listens hready ?_ fun w hready => ?_
              · exact fun _ _ hrefused => yields_pure hrefused
              · exact yields_bind (hreaches.clock.yields fun now =>
                  (hsweep total now w hready).yields)

end Runs

end BulkSweep

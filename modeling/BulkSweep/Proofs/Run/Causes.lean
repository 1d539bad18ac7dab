import BulkSweep.Proofs.Run.Reckoning
import BulkSweep.Proofs.Run.Remaining

/-!
# Why a run breaks off

A run breaks off only where a length of time cannot be told, and that has few causes (`Overflow.Grounded`):
a pause is too long to be told, which takes a policy whose first pause cannot be told with half of it
added; or the rest of the job takes too long, which takes a total, as it was counted, that makes at
least `2 ^ 63` when it is multiplied by the seconds since the beginning.  Each step of a run keeps what this
rests on (`Tally.Sound`), and so does the whole run (`run_grounded`).
-/

set_option autoImplicit false

namespace BulkSweep

/-! ## Causes -/

/-- What a run may break off for, with these policies and this word on what was counted. -/
def Overflow.Grounded (settings : RunSettings) (Counted : Nat → Prop) : Overflow → Prop
  | .pause nanos =>
      Retry.maxTime < nanos ∧ ¬(settings.countRetry.Tellable ∧ settings.cursorRetry.Tellable)
  | .remaining tracker now =>
      Counted tracker.total ∧ 2 ^ 63 * Retry.second ≤ tracker.total * tracker.elapsed now

theorem Overflow.Grounded.mono {settings : RunSettings} {Counted Counted' : Nat → Prop}
    {cause : Overflow} (h : cause.Grounded settings Counted)
    (himp : ∀ total, Counted total → Counted' total) : cause.Grounded settings Counted' := by
  cases cause with
  | pause nanos => exact h
  | remaining tracker now => exact ⟨himp _ h.1, h.2⟩

/-! ## Tallies -/

/-- The total of a tally is what was counted, unless more was handled, and its line shows how much was
handled or that all is done. -/
structure Tally.Sound (counted : Nat) (t : Tally) : Prop where
  /-- the total is what was counted or handled -/
  total : t.tracker.total = max counted t.processed
  /-- the line shows what was handled, or all -/
  current : t.tracker.current = t.processed ∨ t.tracker.current = t.tracker.total

namespace Tally

variable {counted : Nat} {t : Tally}

theorem sound_start (counted clock : Nat) : (start counted clock).Sound counted :=
  ⟨(Nat.max_eq_left (Nat.zero_le counted)).symm, .inl rfl⟩

namespace Sound

theorem beginPass (h : t.Sound counted) : t.beginPass.Sound counted :=
  ⟨h.total, h.current⟩

theorem push (h : t.Sound counted) (id : Value) : (t.push id).Sound counted :=
  ⟨h.total, h.current⟩

theorem clear (h : t.Sound counted) : t.clear.Sound counted :=
  ⟨h.total, h.current⟩

theorem beginBatch (h : t.Sound counted) : t.beginBatch.Sound counted :=
  ⟨h.total, h.current⟩

theorem endBatch (h : t.Sound counted) (counts : BatchCounts) :
    (t.endBatch counts).Sound counted := by
  have htotal := h.total
  refine ⟨?_, .inl rfl⟩
  change max t.tracker.total (t.processed + t.buffer.size) = max counted (t.processed + t.buffer.size)
  omega

theorem settle (h : t.Sound counted) : t.settle.Sound counted := by
  have htotal := h.total
  refine ⟨?_, .inl rfl⟩
  change max t.tracker.total t.processed = max counted t.processed
  omega

theorem finish (h : t.Sound counted) : t.finish.Sound counted := by
  have hsame : t.finish.tracker.total = t.tracker.total := Nat.max_self _
  exact ⟨hsame.trans h.total, .inr hsame.symm⟩

/-- A line that cannot be drawn tells of a total as it was counted, and of much time. -/
theorem grounded (h : t.Sound counted) {now : Nat} (hlong : t.tracker.drawable now = false)
    (settings : RunSettings) :
    (Overflow.remaining t.tracker now).Grounded settings (· = counted) := by
  have hrest : t.tracker.total - t.tracker.current ≠ 0 := fun hfull => by
    rw [Tracker.drawable_of_idle (.inr hfull)] at hlong
    cases hlong
  have htotal := h.total
  have hcurrent := h.current
  refine ⟨by omega, Nat.le_of_not_lt fun hshort => ?_⟩
  rw [Tracker.drawable_of_lt hshort] at hlong
  cases hlong

end Sound

end Tally

/-! ## Surroundings -/

section Surroundings

variable {n : Type → Type} [Monad n] {W : Type}

/-- The operations of a host keep a property of the world; where it has a program break off, only for a
cause that is grounded. -/
structure Host.Keeps (h : Host n) (R : Reckoning n W) (settings : RunSettings)
    (Counted : Nat → Prop) (P : W → Prop) : Prop where
  print : ∀ text, R.Keeps P (h.print text)
  log : ∀ level line, R.Keeps P (h.log level line)
  clock : R.Keeps P h.clock
  timestamp : R.Keeps P h.timestamp
  sleep : ∀ reason nanos, R.Keeps P (h.sleep reason nanos)
  draw : R.Keeps P h.draw
  listen : R.Keeps P h.listen
  interrupted : R.Keeps P h.interrupted
  overflow : ∀ cause, cause.Grounded settings Counted → R.Keeps P (h.overflow cause)
  append : ∀ path text, R.Keeps P (h.files.append path text)

/-- The operations of a connection keep a property of the world. -/
structure Connection.Keeps (c : Connection n) (R : Reckoning n W) (P : W → Prop) : Prop where
  openCursor : ∀ target filter, R.Keeps P (c.openCursor target filter)
  deleteByIds : ∀ target ids, R.Keeps P (c.deleteByIds target ids)
  updateByIds : ∀ target ids operators, R.Keeps P (c.updateByIds target ids operators)

variable {R : Reckoning n W} {settings : RunSettings} {Counted : Nat → Prop} {P : W → Prop}
  {h : Host n}

theorem Host.Keeps.record (hhost : h.Keeps R settings Counted P) (audit : AuditLog)
    (event : String) : R.Keeps P (audit.record h event) := by
  unfold AuditLog.record
  cases audit.path with
  | none => exact Reckoning.keeps_pure ()
  | some path =>
      refine hhost.timestamp.bind fun time => (hhost.append path _).bind fun answer => ?_
      cases answer with
      | ok _ => exact Reckoning.keeps_pure ()
      | error cause => exact hhost.log _ _

/-- The pauses of a retry, of a policy of the settings. -/
theorem Host.Keeps.pauses (hhost : h.Keeps R settings Counted P) (reason : Wait)
    {policy : Retry.Policy}
    (hpolicy : settings.countRetry.Tellable ∧ settings.cursorRetry.Tellable → policy.Tellable) :
    R.Pauses policy P (h.backOff reason) :=
  ⟨hhost.draw, hhost.sleep reason, hhost.log .debug, fun nanos hlong huntold =>
    hhost.overflow (.pause nanos) ⟨hlong, fun htold => huntold (hpolicy htold)⟩⟩

end Surroundings

/-! ## Steps -/

section Steps

variable {n : Type → Type} [Monad n] {W : Type} {R : Reckoning n W} {settings : RunSettings}
  {counted : Nat} {P : W → Prop} {b : Bench n} {α : Type}

/-- An action of a run keeps its tally sound, and a property of the world. -/
def Steady (R : Reckoning n W) (counted : Nat) (P : W → Prop) (act : StateT Tally n α) : Prop :=
  R.tallied.Keeps (fun s => s.1.Sound counted ∧ P s.2) act

theorem steady_lift {act : n α} (h : R.Keeps P act) :
    Steady R counted P (liftM act : StateT Tally n α) :=
  Reckoning.keeps_lift fun _ s hs => R.mono (h s hs.2) fun _ _ h' => ⟨hs.1, h'⟩

theorem steady_modify {change : Tally → Tally} (h : ∀ t, t.Sound counted → (change t).Sound counted) :
    Steady R counted P (modify change : StateT Tally n PUnit) :=
  Reckoning.keeps_modify fun t _ hs => ⟨h t hs.1, hs.2⟩

theorem steady_get : Steady R counted P (get : StateT Tally n Tally) :=
  Reckoning.keeps_get

theorem steady_pure (a : α) : Steady R counted P (pure a : StateT Tally n α) :=
  Reckoning.keeps_pure a

variable (hhost : b.host.Keeps R settings (· = counted) P) (hconn : b.connection.Keeps R P)

include hhost

theorem steady_note (event : String) : Steady R counted P (b.note event) :=
  steady_lift (hhost.record b.audit event)

theorem steady_log (level : Level) (line : String) : Steady R counted P (b.log level line) :=
  steady_lift (hhost.log level line)

/-- A line that cannot be drawn is a cause that is grounded. -/
theorem steady_draw : Steady R counted P b.draw := by
  intro s hs
  refine Reckoning.ends_get_bind (Reckoning.ends_lift_bind (R.mono (hhost.clock s.2 hs.2) ?_))
  intro now w hw
  dsimp only
  split
  · rename_i hlong
    have hcause := hs.1.grounded (by simpa using hlong) settings
    refine Reckoning.ends_lift_bind (R.mono (hhost.overflow _ hcause w hw) fun _ w' hw' => ?_)
    exact steady_lift (hhost.print _) (s.1, w') ⟨hs.1, hw'⟩
  · exact steady_lift (hhost.print _) (s.1, w) ⟨hs.1, hw⟩

theorem steady_settle : Steady R counted P b.settle :=
  (steady_modify fun _ => Tally.Sound.settle).bind fun _ => (steady_draw hhost).bind fun _ =>
    steady_lift (hhost.print _)

theorem steady_cancel : Steady R counted P b.cancel := by
  refine (steady_settle hhost).bind fun _ => steady_get.bind fun tally => ?_
  refine (steady_lift (hhost.print _)).bind fun _ => (steady_note hhost _).bind fun _ => ?_
  exact steady_pure _

theorem steady_failBatch (cause : ConnError) : Steady R counted P (b.failBatch cause) := by
  refine (steady_settle hhost).bind fun _ => steady_get.bind fun tally => ?_
  exact (steady_log hhost _ _).bind fun _ => (steady_note hhost _).bind fun _ => steady_pure _

theorem steady_cursorFailure (cause : ConnError) : Steady R counted P (b.cursorFailure cause) := by
  unfold Bench.cursorFailure
  split
  · refine (steady_log hhost _ _).bind fun _ => steady_get.bind fun tally => ?_
    exact (steady_note hhost _).bind fun _ => steady_pure _
  · refine (steady_settle hhost).bind fun _ => steady_get.bind fun tally => ?_
    exact (steady_log hhost _ _).bind fun _ => (steady_note hhost _).bind fun _ => steady_pure _

theorem steady_complete : Steady R counted P b.complete := by
  refine (steady_modify fun _ => Tally.Sound.finish).bind fun _ => (steady_draw hhost).bind fun _ => ?_
  refine (steady_lift (hhost.print _)).bind fun _ => steady_get.bind fun tally => ?_
  refine (steady_lift hhost.clock).bind fun now => (steady_lift hhost.clock).bind fun later => ?_
  refine (steady_lift (hhost.print _)).bind fun _ => (steady_note hhost _).bind fun _ => ?_
  exact steady_pure _

theorem steady_exhausted (attempts : Nat) (last : ConnError) :
    Steady R counted P (b.exhausted attempts last) := by
  refine (steady_settle hhost).bind fun _ => steady_get.bind fun tally => ?_
  exact (steady_log hhost _ _).bind fun _ => steady_pure _

theorem steady_abort (stop : Stop) : Steady R counted P (b.abort stop) := by
  cases stop with
  | cancelled =>
      refine steady_get.bind fun tally => (steady_lift hhost.clock).bind fun now => ?_
      exact (steady_lift hhost.clock).bind fun later => steady_pure _
  | failed cause => exact steady_pure _
  | transient cause => exact steady_get.bind fun tally => steady_get.bind fun tally' => steady_pure _

omit hhost in
include hconn in
theorem keeps_apply (ids : List Value) : R.Keeps P (b.apply ids) := by
  unfold Bench.apply
  split
  · exact (hconn.deleteByIds _ _).bind fun _ => Reckoning.keeps_pure _
  · exact (hconn.updateByIds _ _ _).bind fun _ => Reckoning.keeps_pure _

include hconn

theorem steady_batch : Steady R counted P b.batch := by
  refine (steady_lift hhost.interrupted).bind fun stopped => ?_
  cases stopped with
  | true => exact (steady_cancel hhost).bind fun _ => steady_pure _
  | false =>
      refine (steady_modify fun _ => Tally.Sound.beginBatch).bind fun _ => ?_
      refine steady_get.bind fun tally => (steady_lift (keeps_apply hconn _)).bind fun answer => ?_
      cases answer with
      | error cause => exact (steady_failBatch hhost cause).bind fun _ => steady_pure _
      | ok counts =>
          refine (steady_modify fun _ h => h.endBatch counts).bind fun _ => ?_
          refine (steady_draw hhost).bind fun _ => steady_get.bind fun tally => ?_
          refine (steady_lift hhost.clock).bind fun now => (steady_log hhost _ _).bind fun _ => ?_
          refine (steady_note hhost _).bind fun _ => ?_
          refine (steady_modify fun _ => Tally.Sound.clear).bind fun _ => Reckoning.Keeps.ite ?_ ?_
          · exact (steady_lift (hhost.sleep _ _)).bind fun _ => steady_pure _
          · exact steady_pure _

theorem steady_drain (ids : List Value) : Steady R counted P (b.drain ids) := by
  induction ids with
  | nil => exact steady_pure _
  | cons id rest ih =>
      refine (steady_modify fun _ h => h.push id).bind fun _ => steady_get.bind fun tally => ?_
      refine Reckoning.Keeps.ite ((steady_batch hhost hconn).bind fun answer => ?_) ih
      cases answer with
      | error stop => exact steady_pure _
      | ok _ => exact ih

theorem steady_finishPass : Steady R counted P b.finishPass := by
  refine steady_get.bind fun tally => Reckoning.Keeps.ite (steady_pure _) ?_
  refine (steady_batch hhost hconn).bind fun answer => ?_
  cases answer with
  | error stop => exact steady_pure _
  | ok _ => exact steady_pure _

theorem steady_pass : Steady R counted P b.pass := by
  refine (steady_modify fun _ => Tally.Sound.beginPass).bind fun _ => ?_
  refine (steady_lift (hconn.openCursor _ _)).bind fun answer => ?_
  cases answer with
  | error cause => exact steady_cursorFailure hhost cause
  | ok cursor =>
      refine (steady_modify fun _ => Tally.Sound.clear).bind fun _ => ?_
      refine (steady_drain hhost hconn _).bind fun answer => ?_
      obtain ⟨ids, fault⟩ := cursor
      cases answer with
      | error stop => exact steady_pure _
      | ok _ =>
          cases fault with
          | some cause => exact steady_cursorFailure hhost cause
          | none => exact steady_finishPass hhost hconn

theorem steady_tries :
    Steady R counted P (settings.cursorRetry.conditional (b.host.backOff .reopen).withState b.pass) := by
  have hpauses := hhost.pauses .reopen And.right
  intro s hs
  refine R.tallied.conditional settings.cursorRetry (fun _ s => s.1.Sound counted ∧ P s.2)
    (fun _ => ?_) ?_ hs
  · exact ⟨steady_lift hpauses.draw, fun nanos => steady_lift (hpauses.sleep nanos),
      fun line => steady_lift (hpauses.note line),
      fun nanos hlong huntold => steady_lift (hpauses.overflow nanos hlong huntold)⟩
  · intro i s hi hs
    refine R.tallied.mono (steady_pass hhost hconn s hs) fun answer s' hs' => ?_
    cases answer with
    | done _ => exact hs'
    | fatal stop => exact hs'
    | again stop =>
        dsimp only
        split
        · exact hs'
        · exact hs'

theorem steady_sweep : Steady R counted P (b.sweep settings.cursorRetry) := by
  refine (steady_tries hhost hconn).bind fun answer => ?_
  cases answer with
  | ok _ => exact (steady_complete hhost).bind fun _ => steady_pure _
  | error failure =>
      cases failure with
      | fatal stop => exact steady_abort hhost stop
      | exhausted attempts stop =>
          cases stop with
          | transient last => exact (steady_exhausted hhost _ _).bind fun _ => steady_pure _
          | cancelled => exact steady_abort hhost _
          | failed cause => exact steady_abort hhost _

end Steps

/-! ## Runs -/

section Runs

variable {n : Type → Type} [Monad n] {W : Type} {R : Reckoning n W} {settings : RunSettings}
  {plan : Plan} {h : Host n} {c : Connection n} {P : Nat → W → Prop}

/-- After the matches are counted, what the count says of the world holds of the total. -/
theorem ends_countMatches (hhost : h.Keeps R settings (fun _ => False) fun _ => True)
    (hcount : ∀ w, R.Ends (c.count plan.job.target plan.filter) w fun answer w' =>
      ∀ total, answer = .ok total → P total w') (w : W) :
    R.Ends (plan.countMatches h c settings.countRetry) w fun answer w' =>
      ∀ total, answer = .ok total → P total w' := by
  refine R.bind (R.mono (?_ : R.Ends _ w fun answer w' => ∀ total, answer = .ok total → P total w') ?_)
  · refine R.conditional settings.countRetry (fun _ _ => True)
      (fun _ => hhost.pauses .recount And.left) ?_ trivial
    intro i s hi _
    refine R.bind (R.mono (hcount s) fun answer w' hanswer => ?_)
    cases answer with
    | ok total => exact R.pure fun _ hsame => hanswer _ (by cases hsame; rfl)
    | error cause =>
        dsimp only
        split
        · refine R.bind (R.mono (hhost.log _ _ w' trivial) fun _ _ _ => R.pure ?_)
          dsimp only
          split
          · exact nofun
          · trivial
        · exact R.pure nofun
  · intro answer w' hanswer
    cases answer with
    | ok total => exact R.pure fun _ hsame => hanswer _ (by cases hsame; rfl)
    | error failure =>
        cases failure with
        | fatal cause => exact R.pure nofun
        | exhausted attempts cause => exact R.pure nofun

theorem keeps_printAll {Counted : Nat → Prop} {Q : W → Prop}
    (hhost : h.Keeps R settings Counted Q) (lines : List String) :
    R.Keeps Q (Plan.printAll h lines) := by
  induction lines with
  | nil => exact Reckoning.keeps_pure ()
  | cons line rest ih => exact (hhost.print _).bind fun _ => ih

theorem keeps_openAt {Counted : Nat → Prop} {Q : W → Prop}
    (hhost : h.Keeps R settings Counted Q) (path? : Option String) :
    R.Keeps Q (AuditLog.openAt h path?) := by
  cases path? with
  | none => exact Reckoning.keeps_pure _
  | some path =>
      refine (hhost.append _ _).bind fun answer => ?_
      cases answer with
      | error cause => exact Reckoning.keeps_pure _
      | ok _ => exact (hhost.log _ _).bind fun _ => Reckoning.keeps_pure _

theorem keeps_listen {Counted : Nat → Prop} {Q : W → Prop} (hhost : h.Keeps R settings Counted Q)
    (listens : Bool) {α : Type} {next : Except FileError Unit → n α}
    (hnext : ∀ answer, R.Keeps Q (next answer)) :
    R.Keeps Q (if listens then h.listen >>= next else pure (.ok ()) >>= next) :=
  Reckoning.Keeps.ite (hhost.listen.bind hnext) ((Reckoning.keeps_pure _).bind hnext)

/-- A sweep from its beginning. -/
theorem keeps_sweep [LawfulMonad n] {b : Bench n} {counted : Nat} {Q : W → Prop}
    (hhost : b.host.Keeps R settings (· = counted) Q) (hconn : b.connection.Keeps R Q) (now : Nat) :
    R.Keeps Q ((b.sweep settings.cursorRetry).run' (.start counted now)) := by
  intro w hw
  have hsweep := steady_sweep hhost hconn (.start counted now, w) ⟨Tally.sound_start counted now, hw⟩
  rw [StateT.run'_eq, map_eq_pure_bind]
  exact R.bind (R.mono hsweep fun _ _ h' => R.pure h'.2)

/-- A run keeps what holds of a total once it is counted. -/
theorem ends_run [LawfulMonad n] (hidle : h.Keeps R settings (fun _ => False) fun _ => True)
    (hhost : ∀ counted, h.Keeps R settings (· = counted) (P counted))
    (hconn : ∀ counted, c.Keeps R (P counted))
    (hcount : ∀ w, R.Ends (c.count plan.job.target plan.filter) w fun answer w' =>
      ∀ total, answer = .ok total → P total w') (change : Change) (w : W) :
    R.Ends (plan.run h c change settings) w fun _ _ => True := by
  refine R.bind (R.mono (ends_countMatches hidle hcount w) fun answer w hcounted => ?_)
  cases answer with
  | error cause => exact R.pure trivial
  | ok total =>
      refine Reckoning.Keeps.ends (P := P total) ?_ (hcounted total rfl)
      refine (keeps_printAll (hhost total) _).bind fun _ => ?_
      split
      · exact ((hhost total).print _).bind fun _ => Reckoning.keeps_pure _
      · split
        · exact ((hhost total).print _).bind fun _ => Reckoning.keeps_pure _
        · refine (keeps_openAt (hhost total) _).bind fun answer => ?_
          cases answer with
          | error cause => exact Reckoning.keeps_pure _
          | ok audit =>
              refine keeps_listen (hhost total) _ fun answer => ?_
              cases answer with
              | error cause => exact Reckoning.keeps_pure _
              | ok _ =>
                  let b : Bench n := ⟨h, c, plan, change, audit⟩
                  exact (hhost total).clock.bind fun now =>
                    keeps_sweep (b := b) (hhost total) (hconn total) now

end Runs

/-! ## Runs that break off -/

section Breaking

variable {σ W : Type} {host : Host (StateT W (StateM σ))}
  {connection : Connection (StateT W (StateM σ))} {settings : RunSettings}
  {off : Overflow → W → Prop}

theorem keeps_breaking {α : Type} {act : StateT W (StateM σ) α} {P : W → Prop}
    (hact : Reckoning.world.Keeps P act) :
    (Reckoning.world.breaking off).Keeps P (liftM act : ExceptT Overflow (StateT W (StateM σ)) α) :=
  fun w hw s => hact w hw s

theorem Host.keeps_breaking (hhost : host.StandsBy) {Counted : Nat → Prop} {P : W → Prop}
    (hinterrupted : Reckoning.world.Keeps P host.interrupted)
    (hoff : ∀ cause w, P w → cause.Grounded settings Counted → off cause w) :
    host.breaking.Keeps (Reckoning.world.breaking off) settings Counted P where
  print := fun text => BulkSweep.keeps_breaking ((hhost.print text).keeps P)
  log := fun level line => BulkSweep.keeps_breaking ((hhost.log level line).keeps P)
  clock := BulkSweep.keeps_breaking (hhost.clock.keeps P)
  timestamp := BulkSweep.keeps_breaking (hhost.timestamp.keeps P)
  sleep := fun reason nanos => BulkSweep.keeps_breaking ((hhost.sleep reason nanos).keeps P)
  draw := BulkSweep.keeps_breaking (hhost.draw.keeps P)
  listen := BulkSweep.keeps_breaking (hhost.listen.keeps P)
  interrupted := BulkSweep.keeps_breaking hinterrupted
  overflow := fun cause hcause w hw _ => hoff cause w hw hcause
  append := fun path text => BulkSweep.keeps_breaking ((hhost.append path text).keeps P)

theorem Connection.keeps_breaking {P : W → Prop} (hconn : connection.Keeps Reckoning.world P) :
    connection.breaking.Keeps (Reckoning.world.breaking off) P where
  openCursor := fun target filter => BulkSweep.keeps_breaking (hconn.openCursor target filter)
  deleteByIds := fun target ids => BulkSweep.keeps_breaking (hconn.deleteByIds target ids)
  updateByIds := fun target ids operators =>
    BulkSweep.keeps_breaking (hconn.updateByIds target ids operators)

/-- A run breaks off only for a cause that is grounded, with a total that was counted. -/
theorem run_grounded (hhost : host.StandsBy) (plan : Plan) (change : Change) (settings : RunSettings)
    (P : Nat → W → Prop) (hinterrupted : ∀ counted, Reckoning.world.Keeps (P counted) host.interrupted)
    (hconn : ∀ counted, connection.Keeps Reckoning.world (P counted))
    (hcount : ∀ w, Yields (connection.count plan.job.target plan.filter) w fun answer w' =>
      ∀ total, answer = .ok total → P total w') (w : W) :
    Yields (plan.run host.breaking connection.breaking change settings).run w fun answer w' =>
      ∀ cause, answer = .error cause → cause.Grounded settings (P · w') := by
  let R : Reckoning (ExceptT Overflow (StateT W (StateM σ))) W :=
    Reckoning.world.breaking fun cause w => cause.Grounded settings (P · w)
  have hidle : host.breaking.Keeps R settings (fun _ => False) fun _ => True :=
    Host.keeps_breaking hhost (fun _ _ _ => trivial) fun _ _ _ h => h.mono fun _ => False.elim
  have hbusy (counted : Nat) : host.breaking.Keeps R settings (· = counted) (P counted) :=
    Host.keeps_breaking hhost (hinterrupted counted) fun _ w hw h => h.mono fun _ hsame => hsame ▸ hw
  have hrun : R.Ends (plan.run host.breaking connection.breaking change settings) w fun _ _ => True :=
    ends_run hidle hbusy (fun counted => Connection.keeps_breaking (hconn counted))
      (fun w s => hcount w s) change w
  refine (Reckoning.breaking_ends.mp hrun).mono fun answer w' hanswer cause hcause => ?_
  rw [hcause] at hanswer
  exact hanswer

end Breaking

end BulkSweep

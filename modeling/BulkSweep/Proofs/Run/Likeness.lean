import BulkSweep.Proofs.Run.Transcript

/-!
# Likeness

A run uses its host and its connection by their operations alone.  So when the operations of two hosts
and of two connections are alike, in whatever sense programs can be alike, then the runs are
(`run_alike`).  A recorded run is therefore the run itself (`run_recorded`).
-/

set_option autoImplicit false

namespace BulkSweep

/-! ## Programs that are alike -/

/-- A way in which programs can be alike: the same results are, and so are programs that do one thing
after another when each of these things is. -/
structure Likeness (m m' : Type → Type) [Monad m] [Monad m'] where
  /-- two programs are alike -/
  Like : {α : Type} → m α → m' α → Prop
  pure : ∀ {α : Type} (a : α), Like (Pure.pure a) (Pure.pure a)
  map : ∀ {α β : Type} (f : α → β) {act : m α} {act' : m' α},
    Like act act' → Like (f <$> act) (f <$> act')
  bind : ∀ {α β : Type} {act : m α} {act' : m' α} {next : α → m β} {next' : α → m' β},
    Like act act' → (∀ a, Like (next a) (next' a)) → Like (act >>= next) (act' >>= next')

section Likeness

variable {m m' : Type → Type} [Monad m] [Monad m'] (L : Likeness m m')

namespace Likeness

/-- Programs with a state of their own are alike if they are from every state. -/
def withState (S : Type) : Likeness (StateT S m) (StateT S m') where
  Like := fun act act' => ∀ s, L.Like (act.run s) (act'.run s)
  pure := fun a s => L.pure (a, s)
  map := fun f _ _ hact s => L.bind (hact s) fun answer => L.pure (f answer.1, answer.2)
  bind := fun hact hnext s => L.bind (hact s) fun answer => hnext answer.1 answer.2

variable {L} {S α β : Type}

theorem got : (L.withState S).Like (get : StateT S m S) (get : StateT S m' S) :=
  fun s => L.pure (s, s)

theorem modified (change : S → S) :
    (L.withState S).Like (modify change : StateT S m PUnit) (modify change : StateT S m' PUnit) :=
  fun s => L.pure (PUnit.unit, change s)

theorem lifted {act : m α} {act' : m' α} (h : L.Like act act') :
    (L.withState S).Like (liftM act : StateT S m α) (liftM act' : StateT S m' α) :=
  fun s => L.bind h fun a => L.pure (a, s)

theorem ite {p : Prop} [Decidable p] {act other : m α} {act' other' : m' α} (hact : L.Like act act')
    (hother : L.Like other other') :
    L.Like (if p then act else other) (if p then act' else other') := by
  split
  · exact hact
  · exact hother

end Likeness

/-- Hosts whose operations are alike. -/
structure Host.Alike (h : Host m) (h' : Host m') : Prop where
  palette : h.palette = h'.palette
  print : ∀ text, L.Like (h.print text) (h'.print text)
  log : ∀ level line, L.Like (h.log level line) (h'.log level line)
  clock : L.Like h.clock h'.clock
  timestamp : L.Like h.timestamp h'.timestamp
  sleep : ∀ reason nanos, L.Like (h.sleep reason nanos) (h'.sleep reason nanos)
  draw : L.Like h.draw h'.draw
  listen : L.Like h.listen h'.listen
  interrupted : L.Like h.interrupted h'.interrupted
  overflow : ∀ cause, L.Like (h.overflow cause) (h'.overflow cause)
  append : ∀ path text, L.Like (h.files.append path text) (h'.files.append path text)

/-- Connections whose operations are alike. -/
structure Connection.Alike (c : Connection m) (c' : Connection m') : Prop where
  count : ∀ target filter, L.Like (c.count target filter) (c'.count target filter)
  openCursor : ∀ target filter, L.Like (c.openCursor target filter) (c'.openCursor target filter)
  deleteByIds : ∀ target ids, L.Like (c.deleteByIds target ids) (c'.deleteByIds target ids)
  updateByIds : ∀ target ids operators,
    L.Like (c.updateByIds target ids operators) (c'.updateByIds target ids operators)

/-- Pauses that are alike. -/
structure Retry.BackOff.Alike (back : Retry.BackOff m) (back' : Retry.BackOff m') : Prop where
  draw : L.Like back.draw back'.draw
  sleep : ∀ nanos, L.Like (back.sleep nanos) (back'.sleep nanos)
  note : ∀ line, L.Like (back.note line) (back'.note line)
  overflow : ∀ nanos, L.Like (back.overflow nanos) (back'.overflow nanos)

variable {L}

/-! ## Retries -/

section Retries

variable {back : Retry.BackOff m} {back' : Retry.BackOff m'} {α φ ε : Type}
  {act : m (Retry.Attempt α φ ε)} {act' : m' (Retry.Attempt α φ ε)}

theorem conditionalFrom_alike (hback : back.Alike L back') (hact : L.Like act act')
    (attempts left attempt pause : Nat) :
    L.Like (Retry.conditionalFrom back attempts act left attempt pause)
      (Retry.conditionalFrom back' attempts act' left attempt pause) := by
  induction left generalizing attempt pause with
  | zero =>
      refine L.bind hact fun answer => ?_
      cases answer with
      | done a => exact L.pure _
      | fatal f => exact L.pure _
      | again e => exact L.pure _
  | succ left ih =>
      refine L.bind hact fun answer => ?_
      cases answer with
      | done a => exact L.pure _
      | fatal f => exact L.pure _
      | again e =>
          refine L.bind (hback.note _) fun _ => L.bind ?_ fun due => ih _ _
          refine L.bind hback.draw fun draw => Likeness.ite (L.bind (hback.overflow _) fun _ => ?_) ?_
          · exact L.bind (hback.sleep _) fun _ => L.pure _
          · exact L.bind (hback.sleep _) fun _ => L.pure _

theorem conditional_alike (hback : back.Alike L back') (hact : L.Like act act')
    (policy : Retry.Policy) :
    L.Like (policy.conditional back act) (policy.conditional back' act') :=
  conditionalFrom_alike hback hact _ _ _ _

end Retries

/-! ## Steps -/

section Steps

variable {h : Host m} {h' : Host m'} {c : Connection m} {c' : Connection m'} {plan : Plan}
  {change : Change} {audit : AuditLog}

theorem backOff_alike (hhost : h.Alike L h') (reason : Wait) :
    (h.backOff reason).Alike L (h'.backOff reason) :=
  ⟨hhost.draw, hhost.sleep reason, hhost.log .debug, fun nanos => hhost.overflow (.pause nanos)⟩

theorem printColoured_alike (hhost : h.Alike L h') (colour : Colour) (line : String) :
    L.Like (h.printColoured colour line) (h'.printColoured colour line) := by
  unfold Host.printColoured
  rw [hhost.palette]
  exact hhost.print _

theorem record_alike (hhost : h.Alike L h') (event : String) :
    L.Like (audit.record h event) (audit.record h' event) := by
  unfold AuditLog.record
  cases audit.path with
  | none => exact L.pure _
  | some path =>
      refine L.bind hhost.timestamp fun time => L.bind (hhost.append _ _) fun answer => ?_
      cases answer with
      | ok _ => exact L.pure _
      | error cause => exact hhost.log _ _

theorem printAll_alike (hhost : h.Alike L h') (lines : List String) :
    L.Like (Plan.printAll h lines) (Plan.printAll h' lines) := by
  induction lines with
  | nil => exact L.pure _
  | cons line rest ih => exact L.bind (hhost.print _) fun _ => ih

theorem openAt_alike (hhost : h.Alike L h') (path? : Option String) :
    L.Like (AuditLog.openAt h path?) (AuditLog.openAt h' path?) := by
  cases path? with
  | none => exact L.pure _
  | some path =>
      refine L.bind (hhost.append _ _) fun answer => ?_
      cases answer with
      | error cause => exact L.pure _
      | ok _ => exact L.bind (hhost.log _ _) fun _ => L.pure _

/-- Whatever follows the word whether interrupts can be listened for. -/
theorem listen_alike (hhost : h.Alike L h') (listens : Bool) {β : Type}
    {next : Except FileError Unit → m β} {next' : Except FileError Unit → m' β}
    (hnext : ∀ answer, L.Like (next answer) (next' answer)) :
    L.Like (if listens then h.listen >>= next else pure (.ok ()) >>= next)
      (if listens then h'.listen >>= next' else pure (.ok ()) >>= next') :=
  Likeness.ite (L.bind hhost.listen hnext) (L.bind (L.pure _) hnext)

theorem countMatches_alike (hhost : h.Alike L h') (hconn : c.Alike L c') (policy : Retry.Policy) :
    L.Like (plan.countMatches h c policy) (plan.countMatches h' c' policy) := by
  refine L.bind (conditional_alike (backOff_alike hhost .recount) ?_ policy) fun answer => ?_
  · refine L.bind (hconn.count _ _) fun answer => ?_
    cases answer with
    | ok total => exact L.pure _
    | error cause =>
        dsimp only
        split
        · exact L.bind (hhost.log _ _) fun _ => L.pure _
        · exact L.pure _
  · cases answer with
    | ok total => exact L.pure _
    | error failure =>
        cases failure with
        | fatal cause => exact L.pure _
        | exhausted attempts cause => exact L.pure _

end Steps

/-! ## Passes -/

/-- The same work on another host and another connection. -/
def Bench.on (b : Bench m) (h' : Host m') (c' : Connection m') : Bench m' :=
  ⟨h', c', b.plan, b.change, b.audit⟩

section Passes

variable {b : Bench m} {h' : Host m'} {c' : Connection m'} (hhost : b.host.Alike L h')
  (hconn : b.connection.Alike L c')

include hhost

theorem note_alike (event : String) :
    (L.withState Tally).Like (b.note event) ((b.on h' c').note event) :=
  Likeness.lifted (record_alike hhost event)

theorem log_alike (level : Level) (line : String) :
    (L.withState Tally).Like (b.log level line) ((b.on h' c').log level line) :=
  Likeness.lifted (hhost.log level line)

theorem draw_alike : (L.withState Tally).Like b.draw (b.on h' c').draw := by
  refine Likeness.bind _ Likeness.got fun tally => ?_
  refine Likeness.bind _ (Likeness.lifted hhost.clock) fun now => ?_
  refine Likeness.ite (Likeness.bind _ (Likeness.lifted (hhost.overflow _)) fun _ => ?_) ?_
  · exact Likeness.lifted (hhost.print _)
  · exact Likeness.lifted (hhost.print _)

theorem settle_alike : (L.withState Tally).Like b.settle (b.on h' c').settle := by
  refine Likeness.bind _ (Likeness.modified _) fun _ => ?_
  refine Likeness.bind _ (draw_alike hhost) fun _ => ?_
  exact Likeness.lifted (hhost.print _)

theorem cancel_alike : (L.withState Tally).Like b.cancel (b.on h' c').cancel := by
  refine Likeness.bind _ (settle_alike hhost) fun _ => ?_
  refine Likeness.bind _ Likeness.got fun tally => ?_
  refine Likeness.bind _ (Likeness.lifted (printColoured_alike hhost _ _)) fun _ => ?_
  exact Likeness.bind _ (note_alike hhost _) fun _ => Likeness.pure _ _

theorem failBatch_alike (cause : ConnError) :
    (L.withState Tally).Like (b.failBatch cause) ((b.on h' c').failBatch cause) := by
  refine Likeness.bind _ (settle_alike hhost) fun _ => ?_
  refine Likeness.bind _ Likeness.got fun tally => ?_
  refine Likeness.bind _ (log_alike hhost _ _) fun _ => ?_
  exact Likeness.bind _ (note_alike hhost _) fun _ => Likeness.pure _ _

theorem cursorFailure_alike (cause : ConnError) :
    (L.withState Tally).Like (b.cursorFailure cause) ((b.on h' c').cursorFailure cause) := by
  unfold Bench.cursorFailure
  split
  · refine Likeness.bind _ (log_alike hhost _ _) fun _ => ?_
    refine Likeness.bind _ Likeness.got fun tally => ?_
    exact Likeness.bind _ (note_alike hhost _) fun _ => Likeness.pure _ _
  · refine Likeness.bind _ (settle_alike hhost) fun _ => ?_
    refine Likeness.bind _ Likeness.got fun tally => ?_
    refine Likeness.bind _ (log_alike hhost _ _) fun _ => ?_
    exact Likeness.bind _ (note_alike hhost _) fun _ => Likeness.pure _ _

theorem complete_alike : (L.withState Tally).Like b.complete (b.on h' c').complete := by
  refine Likeness.bind _ (Likeness.modified _) fun _ => ?_
  refine Likeness.bind _ (draw_alike hhost) fun _ => ?_
  refine Likeness.bind _ (Likeness.lifted (hhost.print _)) fun _ => ?_
  refine Likeness.bind _ Likeness.got fun tally => ?_
  refine Likeness.bind _ (Likeness.lifted hhost.clock) fun now => ?_
  refine Likeness.bind _ (Likeness.lifted hhost.clock) fun later => ?_
  dsimp only
  rw [hhost.palette]
  refine Likeness.bind _ (Likeness.lifted (hhost.print _)) fun _ => ?_
  exact Likeness.bind _ (note_alike hhost _) fun _ => Likeness.pure _ _

theorem exhausted_alike (attempts : Nat) (last : ConnError) :
    (L.withState Tally).Like (b.exhausted attempts last) ((b.on h' c').exhausted attempts last) := by
  refine Likeness.bind _ (settle_alike hhost) fun _ => ?_
  refine Likeness.bind _ Likeness.got fun tally => ?_
  exact Likeness.bind _ (log_alike hhost _ _) fun _ => Likeness.pure _ _

theorem abort_alike (stop : Stop) :
    (L.withState Tally).Like (b.abort stop) ((b.on h' c').abort stop) := by
  cases stop with
  | cancelled =>
      refine Likeness.bind _ Likeness.got fun tally => ?_
      refine Likeness.bind _ (Likeness.lifted hhost.clock) fun now => ?_
      exact Likeness.bind _ (Likeness.lifted hhost.clock) fun later => Likeness.pure _ _
  | failed cause => exact Likeness.pure _ _
  | transient cause =>
      refine Likeness.bind _ Likeness.got fun tally => ?_
      exact Likeness.bind _ Likeness.got fun tally' => Likeness.pure _ _

omit hhost in
theorem apply_alike (hconn : b.connection.Alike L c') (ids : List Value) :
    L.Like (b.apply ids) ((b.on h' c').apply ids) := by
  unfold Bench.apply
  cases hchange : b.change with
  | delete =>
      simp only [Bench.on, hchange]
      exact L.bind (hconn.deleteByIds _ _) fun _ => L.pure _
  | update operators =>
      simp only [Bench.on, hchange]
      exact L.bind (hconn.updateByIds _ _ _) fun _ => L.pure _

include hconn

theorem batch_alike : (L.withState Tally).Like b.batch (b.on h' c').batch := by
  refine Likeness.bind _ (Likeness.lifted hhost.interrupted) fun stopped => ?_
  cases stopped with
  | true => exact Likeness.bind _ (cancel_alike hhost) fun _ => Likeness.pure _ _
  | false =>
      refine Likeness.bind _ (Likeness.modified _) fun _ => ?_
      refine Likeness.bind _ Likeness.got fun tally => ?_
      refine Likeness.bind _ (Likeness.lifted (apply_alike hconn _)) fun answer => ?_
      cases answer with
      | error cause => exact Likeness.bind _ (failBatch_alike hhost _) fun _ => Likeness.pure _ _
      | ok counts =>
          refine Likeness.bind _ (Likeness.modified _) fun _ => ?_
          refine Likeness.bind _ (draw_alike hhost) fun _ => ?_
          refine Likeness.bind _ Likeness.got fun tally => ?_
          refine Likeness.bind _ (Likeness.lifted hhost.clock) fun now => ?_
          refine Likeness.bind _ (log_alike hhost _ _) fun _ => ?_
          refine Likeness.bind _ (note_alike hhost _) fun _ => ?_
          refine Likeness.bind _ (Likeness.modified _) fun _ => ?_
          refine Likeness.ite ?_ (Likeness.pure _ _)
          exact Likeness.bind _ (Likeness.lifted (hhost.sleep _ _)) fun _ => Likeness.pure _ _

theorem drain_alike (ids : List Value) :
    (L.withState Tally).Like (b.drain ids) ((b.on h' c').drain ids) := by
  induction ids with
  | nil => exact Likeness.pure _ _
  | cons id rest ih =>
      refine Likeness.bind _ (Likeness.modified _) fun _ => ?_
      refine Likeness.bind _ Likeness.got fun tally => ?_
      refine Likeness.ite (Likeness.bind _ (batch_alike hhost hconn) fun answer => ?_) ih
      cases answer with
      | error stop => exact Likeness.pure _ _
      | ok _ => exact ih

theorem finishPass_alike : (L.withState Tally).Like b.finishPass (b.on h' c').finishPass := by
  refine Likeness.bind _ Likeness.got fun tally => ?_
  split
  · exact Likeness.pure _ _
  · refine Likeness.bind _ (batch_alike hhost hconn) fun answer => ?_
    cases answer with
    | error stop => exact Likeness.pure _ _
    | ok _ => exact Likeness.pure _ _

theorem pass_alike : (L.withState Tally).Like b.pass (b.on h' c').pass := by
  refine Likeness.bind _ (Likeness.modified _) fun _ => ?_
  refine Likeness.bind _ (Likeness.lifted (hconn.openCursor _ _)) fun answer => ?_
  cases answer with
  | error cause => exact cursorFailure_alike hhost cause
  | ok cursor =>
      refine Likeness.bind _ (Likeness.modified _) fun _ => ?_
      refine Likeness.bind _ (drain_alike hhost hconn _) fun answer => ?_
      obtain ⟨ids, fault⟩ := cursor
      cases answer with
      | error stop => exact Likeness.pure _ _
      | ok _ =>
          cases fault with
          | some cause => exact cursorFailure_alike hhost cause
          | none => exact finishPass_alike hhost hconn

theorem tries_alike (policy : Retry.Policy) :
    (L.withState Tally).Like (policy.conditional (b.host.backOff .reopen).withState b.pass)
      (policy.conditional (h'.backOff .reopen).withState (b.on h' c').pass) := by
  have hback : (b.host.backOff .reopen).withState.Alike (L.withState Tally)
      (h'.backOff .reopen).withState := by
    refine ⟨Likeness.lifted hhost.draw, fun nanos => ?_, fun line => ?_, fun nanos => ?_⟩
    · exact Likeness.lifted (hhost.sleep .reopen nanos)
    · exact Likeness.lifted (hhost.log .debug line)
    · exact Likeness.lifted (hhost.overflow (.pause nanos))
  exact conditional_alike hback (pass_alike hhost hconn) policy

theorem sweep_alike (policy : Retry.Policy) :
    (L.withState Tally).Like (b.sweep policy) ((b.on h' c').sweep policy) := by
  refine Likeness.bind _ (tries_alike hhost hconn policy) fun answer => ?_
  cases answer with
  | ok _ => exact Likeness.bind _ (complete_alike hhost) fun _ => Likeness.pure _ _
  | error failure =>
      cases failure with
      | fatal stop => exact abort_alike hhost stop
      | exhausted attempts stop =>
          cases stop with
          | transient last =>
              exact Likeness.bind _ (exhausted_alike hhost _ _) fun _ => Likeness.pure _ _
          | cancelled => exact abort_alike hhost _
          | failed cause => exact abort_alike hhost _

end Passes

/-! ## Runs -/

/-- Runs are alike if their hosts and their connections are, in whatever sense programs can be. -/
theorem run_alike {h : Host m} {h' : Host m'} {c : Connection m} {c' : Connection m'}
    (hhost : h.Alike L h') (hconn : c.Alike L c') (plan : Plan) (change : Change)
    (settings : RunSettings) :
    L.Like (plan.run h c change settings) (plan.run h' c' change settings) := by
  refine L.bind (countMatches_alike hhost hconn _) fun answer => ?_
  cases answer with
  | error cause => exact L.pure _
  | ok total =>
      dsimp only
      rw [hhost.palette]
      refine L.bind (printAll_alike hhost _) fun _ => ?_
      split
      · exact L.bind (printColoured_alike hhost _ _) fun _ => L.pure _
      · split
        · exact L.bind (printColoured_alike hhost _ _) fun _ => L.pure _
        · refine L.bind (openAt_alike hhost _) fun answer => ?_
          cases answer with
          | error cause => exact L.pure _
          | ok audit =>
              refine listen_alike hhost _ fun answer => ?_
              cases answer with
              | error cause => exact L.pure _
              | ok _ =>
                  refine L.bind hhost.clock fun now => ?_
                  have hsweep := sweep_alike (b := ⟨h, c, plan, change, audit⟩) hhost hconn
                    settings.cursorRetry (.start total now)
                  exact L.map Prod.fst hsweep

end Likeness

/-! ## Recorded runs -/

section Recorded

variable {σ : Type}

/-- A program that writes down what it does is like one that does not, if it has the same result and
leaves the rest of the world the same, whatever was written down before. -/
def Likeness.unrecorded : Likeness (StateT (List Event) (StateM σ)) (StateM σ) where
  Like := fun act act' => ∀ events s,
    ((act.run events).run s).1.1 = (act'.run s).1 ∧ ((act.run events).run s).2 = (act'.run s).2
  pure := fun _ _ _ => ⟨rfl, rfl⟩
  map := fun f _ _ hact events s => ⟨congrArg f (hact events s).1, (hact events s).2⟩
  bind := by
    intro α β act act' next next' hact hnext events s
    obtain ⟨hanswer, hstate⟩ := hact events s
    obtain ⟨hresult, hrest⟩ := hnext ((act.run events).run s).1.1 ((act.run events).run s).1.2
      ((act.run events).run s).2
    refine ⟨hresult.trans ?_, hrest.trans ?_⟩
    · rw [hanswer, hstate]
      rfl
    · rw [hanswer, hstate]
      rfl

theorem host_recorded_alike (host : Host (StateM σ)) : host.recorded.Alike .unrecorded host where
  palette := rfl
  print := fun _ _ _ => ⟨rfl, rfl⟩
  log := fun _ _ _ _ => ⟨rfl, rfl⟩
  clock := fun _ _ => ⟨rfl, rfl⟩
  timestamp := fun _ _ => ⟨rfl, rfl⟩
  sleep := fun _ _ _ _ => ⟨rfl, rfl⟩
  draw := fun _ _ => ⟨rfl, rfl⟩
  listen := fun _ _ => ⟨rfl, rfl⟩
  interrupted := fun _ _ => ⟨rfl, rfl⟩
  overflow := fun _ _ _ => ⟨rfl, rfl⟩
  append := fun _ _ _ _ => ⟨rfl, rfl⟩

theorem host_withState_alike (host : Host (StateM σ)) :
    (host.withState : Host (StateT (List Event) (StateM σ))).Alike .unrecorded host where
  palette := rfl
  print := fun _ _ _ => ⟨rfl, rfl⟩
  log := fun _ _ _ _ => ⟨rfl, rfl⟩
  clock := fun _ _ => ⟨rfl, rfl⟩
  timestamp := fun _ _ => ⟨rfl, rfl⟩
  sleep := fun _ _ _ _ => ⟨rfl, rfl⟩
  draw := fun _ _ => ⟨rfl, rfl⟩
  listen := fun _ _ => ⟨rfl, rfl⟩
  interrupted := fun _ _ => ⟨rfl, rfl⟩
  overflow := fun _ _ _ => ⟨rfl, rfl⟩
  append := fun _ _ _ _ => ⟨rfl, rfl⟩

theorem connection_recorded_alike (connection : Connection (StateM σ)) :
    connection.recorded.Alike .unrecorded connection where
  count := fun _ _ _ _ => ⟨rfl, rfl⟩
  openCursor := fun _ _ _ _ => ⟨rfl, rfl⟩
  deleteByIds := fun _ _ _ _ => ⟨rfl, rfl⟩
  updateByIds := fun _ _ _ _ _ => ⟨rfl, rfl⟩

variable (host : Host (StateM σ)) (connection : Connection (StateM σ)) (plan : Plan) (change : Change)
  (settings : RunSettings) (s : σ)

/-- A run of which everything is written down is the run itself. -/
theorem run_recorded :
    let recorded := ((plan.run host.recorded connection.recorded change settings).run []).run s
    (recorded.1.1, recorded.2) = (plan.run host connection change settings).run s := by
  obtain ⟨hresult, hrest⟩ := run_alike (host_recorded_alike host)
    (connection_recorded_alike connection) plan change settings [] s
  exact Prod.ext hresult hrest

/-- So is a run of which only the calls of its connection are written down. -/
theorem run_recorded_calls :
    let recorded := ((plan.run host.withState connection.recorded change settings).run []).run s
    (recorded.1.1, recorded.2) = (plan.run host connection change settings).run s := by
  obtain ⟨hresult, hrest⟩ := run_alike (host_withState_alike host)
    (connection_recorded_alike connection) plan change settings [] s
  exact Prod.ext hresult hrest

end Recorded

end BulkSweep

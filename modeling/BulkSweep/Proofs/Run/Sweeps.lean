import BulkSweep.Proofs.Run.Passes
import BulkSweep.Proofs.Run.Reckoning

/-!
# What sweeps and whole runs lead to

Tries repeat an action as often as a policy allows.  What holds before each of them carries over to
their result (`Reckoning.conditional`), be the action a count (`yields_countMatches`) or a pass
(`leads_sweep`).  A run is a count, what comes before the first cursor, and a sweep (`yields_run`).
-/

set_option autoImplicit false

namespace BulkSweep

variable {σ W : Type}

/-! ## Tries -/

section Hosts

variable {host : Host (StateT W (StateM σ))} {α φ ε : Type}

theorem yields_conditional (hhost : host.Idles) (reason : Wait)
    {act : StateT W (StateM σ) (Retry.Attempt α φ ε)} (policy : Retry.Policy)
    (Inv : Nat → W → Prop) {post : Except (Retry.Failure φ ε) α → W → Prop}
    (hstep : ∀ i w, i < policy.attempts → Inv i w → Yields act w fun answer w' =>
      match answer with
      | .done a => post (.ok a) w'
      | .fatal f => post (.error (.fatal f)) w'
      | .again e =>
          if i + 1 = policy.attempts then post (.error (.exhausted policy.attempts e)) w'
          else Inv (i + 1) w')
    {w : W} (h : Inv 0 w) : Yields (policy.conditional (host.backOff reason) act) w post := by
  have hpauses (i : Nat) : Reckoning.world.Pauses policy (Inv i) (host.backOff reason) :=
    ⟨hhost.draw.keeps _, fun nanos => (hhost.sleep reason nanos).keeps _,
      fun line => (hhost.log .debug line).keeps _,
      fun nanos _ _ => (hhost.overflow (.pause nanos)).keeps _⟩
  exact Reckoning.world.conditional policy Inv hpauses hstep h

theorem leads_conditional (hhost : host.Idles) (reason : Wait)
    {act : StateT Tally (StateT W (StateM σ)) (Retry.Attempt α φ ε)} (policy : Retry.Policy)
    (Inv : Nat → Tally → W → Prop) {post : Except (Retry.Failure φ ε) α → Tally → W → Prop}
    (hstep : ∀ i t w, i < policy.attempts → Inv i t w → Leads act t w fun answer t' w' =>
      match answer with
      | .done a => post (.ok a) t' w'
      | .fatal f => post (.error (.fatal f)) t' w'
      | .again e =>
          if i + 1 = policy.attempts then post (.error (.exhausted policy.attempts e)) t' w'
          else Inv (i + 1) t' w')
    {t : Tally} {w : W} (h : Inv 0 t w) :
    Leads (policy.conditional (host.backOff reason).withState act) t w post := by
  have hpauses (i : Nat) : Reckoning.world.tallied.Pauses policy (fun s => Inv i s.1 s.2)
      (host.backOff reason).withState := by
    refine ⟨?_, fun nanos => ?_, fun line => ?_, fun nanos _ _ => ?_⟩
    · exact Reckoning.keeps_lift fun t => hhost.draw.keeps _
    · exact Reckoning.keeps_lift fun t => (hhost.sleep reason nanos).keeps _
    · exact Reckoning.keeps_lift fun t => (hhost.log .debug line).keeps _
    · exact Reckoning.keeps_lift fun t => (hhost.overflow (.pause nanos)).keeps _
  have htries : Reckoning.world.tallied.Ends
      (policy.conditional (host.backOff reason).withState act) (t, w)
      fun answer s => post answer s.1 s.2 := by
    refine Reckoning.world.tallied.conditional policy (fun i s => Inv i s.1 s.2) hpauses ?_ h
    intro i (t, w) hi hinv
    refine Reckoning.tallied_ends.mpr ((hstep i t w hi hinv).mono fun answer t' w' hanswer => ?_)
    cases answer with
    | done a => exact hanswer
    | fatal f => exact hanswer
    | again e => exact hanswer
  exact htries

/-! ## Counting -/

/-- What has to hold when a count fails: `Inv` of the next try, or else `post` of the result. -/
def CountFails (attempts tries : Nat) (Inv : Nat → W → Prop) (post : Except BulkError Nat → W → Prop)
    (cause : ConnError) (w : W) : Prop :=
  if cause.isRetryable then
    if tries + 1 = attempts then post (.error (.count cause)) w else Inv (tries + 1) w
  else post (.error (.count cause)) w

/-- What holds before every count, `Inv` with the number of counts before it, carries over to the
result of counting. -/
theorem yields_counting (hhost : host.Idles) {plan : Plan}
    {connection : Connection (StateT W (StateM σ))} (policy : Retry.Policy)
    (Inv : Nat → W → Prop) {post : Except BulkError Nat → W → Prop}
    (hcount : ∀ i w, i < policy.attempts → Inv i w →
      Yields (connection.count plan.job.target plan.filter) w fun answer w' =>
        match answer with
        | .ok total => post (.ok total) w'
        | .error cause => CountFails policy.attempts i Inv post cause w')
    {w : W} (h : Inv 0 w) : Yields (plan.countMatches host connection policy) w post := by
  unfold Plan.countMatches
  refine yields_bind (yields_conditional hhost .recount policy Inv ?_ h)
  intro i w hi hinv
  refine yields_bind ((hcount i w hi hinv).mono fun answer w' hanswer => ?_)
  cases answer with
  | ok total => exact yields_pure (yields_pure hanswer)
  | error cause =>
      dsimp only [CountFails] at hanswer ⊢
      split
      · rename_i hretry
        rw [if_pos hretry] at hanswer
        refine yields_bind ((hhost.log _ _).yields fun _ => yields_pure ?_)
        dsimp only
        split
        · rename_i hlast
          rw [if_pos hlast] at hanswer
          exact yields_pure hanswer
        · rename_i hmore
          rw [if_neg hmore] at hanswer
          exact hanswer
      · rename_i hfatal
        rw [if_neg hfatal] at hanswer
        exact yields_pure (yields_pure hanswer)

/-- What holds before every count carries over to the result of counting. -/
theorem yields_countMatches (hhost : host.StandsBy) {plan : Plan}
    {connection : Connection (StateT W (StateM σ))} (policy : Retry.Policy)
    (Inv : W → Prop) {post : Except BulkError Nat → W → Prop}
    (hcount : ∀ w, Inv w → Yields (connection.count plan.job.target plan.filter) w fun answer w' =>
      match answer with
      | .ok total => post (.ok total) w'
      | .error cause => Inv w' ∧ post (.error (.count cause)) w')
    {w : W} (h : Inv w) : Yields (plan.countMatches host connection policy) w post := by
  refine yields_counting hhost.idles policy (fun _ => Inv) (fun i w hi hinv => ?_) h
  refine (hcount w hinv).mono fun answer w' hanswer => ?_
  cases answer with
  | ok total => exact hanswer
  | error cause =>
      obtain ⟨hinv', hpost⟩ := hanswer
      dsimp only [CountFails]
      split
      · split
        · exact hpost
        · exact hinv'
      · exact hpost

end Hosts

/-! ## Sweeps -/

/-- What has to hold when the cursor of a try fails: `Inv` of the next try, or else `post` of the
result. -/
def CursorFails (attempts tries : Nat) (Inv : Nat → Tally → W → Prop)
    (post : Except BulkError Report → W → Prop) (t : Tally) (cause : ConnError) (w : W) : Prop :=
  if cause.isRetryable then
    if tries + 1 = attempts then
      post (.error (.cursorRetriesExhausted attempts t.processed t.settle.total cause)) w
    else Inv (tries + 1) t w
  else post (.error (.cursor t.processed t.settle.total cause)) w

section Sweeps

variable {b : Bench (StateT W (StateM σ))} {t : Tally} {w : W}
  {post : Except BulkError Report → W → Prop}

/-- What the tries of a pass have to lead to, so that a sweep leads to `post`. -/
def SweepEnds (post : Except BulkError Report → W → Prop)
    (answer : Except (Retry.Failure Stop Stop) Unit) (t : Tally) (w : W) : Prop :=
  match answer with
  | .ok _ => ∀ now later, post (.ok (t.finish.report .completed now later)) w
  | .error (.exhausted attempts (.transient last)) =>
      post (.error (.cursorRetriesExhausted attempts t.processed t.settle.total last)) w
  | .error (.exhausted _ stop) | .error (.fatal stop) =>
      ∀ result, stop.Ends t result → post result w

/-- What one try of a pass has to lead to, so that a sweep leads to `post`. -/
def PassEnds (attempts tries : Nat) (Inv : Nat → Tally → W → Prop)
    (post : Except BulkError Report → W → Prop) (answer : Retry.Attempt Unit Stop Stop)
    (t : Tally) (w : W) : Prop :=
  match answer with
  | .done a => SweepEnds post (.ok a) t w
  | .fatal stop => SweepEnds post (.error (.fatal stop)) t w
  | .again stop =>
      if tries + 1 = attempts then SweepEnds post (.error (.exhausted attempts stop)) t w
      else Inv (tries + 1) t w

theorem CursorFails.passEnds {attempts tries : Nat} {Inv : Nat → Tally → W → Prop}
    {cause : ConnError} (h : CursorFails attempts tries Inv post t cause w) :
    PassEnds attempts tries Inv post (t.fault cause).1 (t.fault cause).2 w := by
  unfold CursorFails at h
  unfold Tally.fault
  split at h
  · rename_i hretry
    rw [if_pos hretry]
    exact h
  · rename_i hretry
    rw [if_neg hretry]
    intro result hresult
    rw [show result = _ from hresult]
    exact h

/-- What has to hold when the cursor of a try is opened, or is not: its batches lead on, and then what
its fault makes of it. -/
def CursorLeads (b : Bench (StateT W (StateM σ))) (attempts tries : Nat)
    (Inv : Nat → Tally → W → Prop) (post : Except BulkError Report → W → Prop) (t : Tally)
    (answer : Except ConnError Cursor) (w : W) : Prop :=
  match answer with
  | .error cause => CursorFails attempts tries Inv post t.beginPass cause w
  | .ok cursor =>
      LeadsThrough b t.beginPass.clear w (cursor.batches b.size) fun answer t' w' =>
        match answer, cursor.fault with
        | .error stop, _ => ∀ result, stop.Ends t' result → post result w'
        | .ok _, none => ∀ now later, post (.ok (t'.finish.report .completed now later)) w'
        | .ok _, some cause =>
            CursorFails attempts tries Inv post (t'.fill (cursor.leftover b.size)) cause w'

/-- What holds before every pass carries over to the result of a sweep. -/
theorem leads_sweep (hhost : b.host.StandsBy) (policy : Retry.Policy)
    (Inv : Nat → Tally → W → Prop)
    (hpass : ∀ i t w, i < policy.attempts → Inv i t w →
      Yields (b.connection.openCursor b.target b.plan.filter) w
        (CursorLeads b policy.attempts i Inv post t))
    (h : Inv 0 t w) : Leads (b.sweep policy) t w fun result _ w' => post result w' := by
  have htries : Leads (policy.conditional (b.host.backOff .reopen).withState b.pass) t w
      (SweepEnds post) := by
    refine leads_conditional hhost.idles .reopen policy Inv ?_ h
    intro i t w hi hinv
    have hone : Leads b.pass t w (PassEnds policy.attempts i Inv post) := by
      refine leads_pass hhost ((hpass i t w hi hinv).mono fun answer w' hopen => ?_)
      cases answer with
      | error cause => exact CursorFails.passEnds hopen
      | ok cursor =>
          refine LeadsThrough.mono hopen fun answer t' w' hanswer => ?_
          obtain ⟨ids, fault⟩ := cursor
          cases answer with
          | error stop => exact hanswer
          | ok _ =>
              cases fault with
              | none => exact hanswer
              | some cause => exact CursorFails.passEnds hanswer
    refine hone.mono fun answer t' w' hanswer => ?_
    cases answer with
    | done a => exact hanswer
    | fatal stop => exact hanswer
    | again stop => exact hanswer
  refine leads_bind (htries.mono fun answer t' w' hanswer => ?_)
  cases answer with
  | ok _ =>
      exact leads_bind (leads_complete hhost fun now later => leads_pure (hanswer now later))
  | error failure =>
      cases failure with
      | fatal stop => exact leads_abort hhost hanswer
      | exhausted attempts stop =>
          cases stop with
          | transient last => exact leads_bind (leads_exhausted hhost (leads_pure hanswer))
          | cancelled => exact leads_abort hhost hanswer
          | failed cause => exact leads_abort hhost hanswer

end Sweeps

/-! ## Runs -/

/-- The failures that can keep a run from its first cursor once the matches are counted. -/
def Plan.Refused (plan : Plan) (host : Host (StateT W (StateM σ))) (settings : RunSettings) :
    BulkError → Prop
  | .auditLog path cause =>
      plan.job.auditLog = some path ∧
        ∃ w s, (((host.files.append path "").run w).run s).1.1 = .error cause
  | .signal cause =>
      settings.listens = true ∧ ∃ w s, ((host.listen.run w).run s).1.1 = .error cause
  | _ => False

section Runs

variable {host : Host (StateT W (StateM σ))} (plan : Plan) (settings : RunSettings)

theorem yields_openAt (hhost : host.StandsBy) {w : W} {post : Except BulkError AuditLog → W → Prop}
    (hrefused : ∀ cause, plan.Refused host settings cause → post (.error cause) w)
    (h : ∀ audit, post (.ok audit) w) :
    Yields (AuditLog.openAt host plan.job.auditLog) w post := by
  cases hpath : plan.job.auditLog with
  | none => exact yields_pure (h _)
  | some path =>
      refine yields_bind ((hhost.append path "").yields_answer fun answer hanswer => ?_)
      cases answer with
      | ok _ => exact yields_bind ((hhost.log _ _).yields fun _ => yields_pure (h _))
      | error cause => exact yields_pure (hrefused _ ⟨hpath, w, hanswer⟩)

/-- A run goes on to its sweep when interrupts can be listened for. -/
theorem yields_listen (hhost : host.StandsBy) {w : W} {β : Type} {post : β → W → Prop}
    {next : Except FileError Unit → StateT W (StateM σ) β}
    (hrefused : ∀ cause, plan.Refused host settings (.signal cause) →
      Yields (next (.error cause)) w post)
    (h : Yields (next (.ok ())) w post) :
    Yields (if settings.listens then host.listen >>= next else pure (.ok ()) >>= next) w post := by
  split
  · rename_i hlistens
    refine yields_bind (hhost.listen.yields_answer fun answer hanswer => ?_)
    cases answer with
    | ok _ => exact h
    | error cause => exact hrefused cause ⟨hlistens, w, hanswer⟩
  · exact h

/-- A run is a count and, unless there is nothing to do or nothing to be done, a sweep. -/
theorem yields_run (hhost : host.StandsBy) {connection : Connection (StateT W (StateM σ))}
    {change : Change} {w : W} {post : Except BulkError Report → W → Prop}
    (h : Yields (plan.countMatches host connection settings.countRetry) w fun answer w =>
      match answer with
      | .error cause => post (.error cause) w
      | .ok total =>
          (total = 0 → post (.ok (.idle .nothingToDo 0)) w) ∧
          (plan.job.dryRun = true → post (.ok (.idle .dryRun total)) w) ∧
          (total ≠ 0 → plan.job.dryRun = false →
            (∀ cause, plan.Refused host settings cause → post (.error cause) w) ∧
            ∀ audit now, Leads (Bench.sweep ⟨host, connection, plan, change, audit⟩
              settings.cursorRetry) (.start total now) w fun result _ w' => post result w')) :
    Yields (plan.run host connection change settings) w post := by
  refine yields_bind (h.mono fun answer w hcount => ?_)
  cases answer with
  | error cause => exact yields_pure hcount
  | ok total =>
      obtain ⟨hnothing, hdry, hsweep⟩ := hcount
      refine yields_bind ((hhost.printAll _).yields fun _ => ?_)
      split
      · rename_i hzero
        exact yields_bind ((hhost.printColoured _ _).yields fun _ => yields_pure (hnothing hzero))
      · rename_i hsome
        split
        · rename_i honly
          exact yields_bind ((hhost.printColoured _ _).yields fun _ => yields_pure (hdry honly))
        · rename_i hwet
          obtain ⟨hrefused, hleads⟩ := hsweep hsome (by simpa using hwet)
          refine yields_bind (yields_openAt plan settings hhost (fun cause hcause => ?_) fun audit => ?_)
          · exact yields_pure (hrefused cause hcause)
          · refine yields_listen plan settings hhost (fun cause hcause => ?_) ?_
            · exact yields_pure (hrefused _ hcause)
            · refine yields_bind (hhost.clock.yields fun now => ?_)
              exact (hleads audit now).yields

end Runs

end BulkSweep

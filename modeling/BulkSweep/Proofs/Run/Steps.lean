import BulkSweep.Proofs.Run.Leads

/-!
# What the steps of a run lead to

One lemma for each step of a run, over any host that stands by and any connection.  A step is only
described by what becomes of the tally, and by what it asks of the connection and of the operator;
nothing that it prints, logs or writes down matters here.
-/

set_option autoImplicit false

namespace BulkSweep

variable {σ W : Type} {b : Bench (StateT W (StateM σ))} {t : Tally} {w : W}

/-! ## Tallies -/

namespace Tally

/-- A tally whose buffer holds the given ids. -/
def fill (t : Tally) (ids : List Value) : Tally :=
  { t with buffer := ids.toArray }

/-- What comes of a failure of the cursor, and the tally after it. -/
def fault (t : Tally) (cause : ConnError) : Retry.Attempt Unit Stop Stop × Tally :=
  if cause.isRetryable then (.again (.transient cause), t)
  else (.fatal (.failed (.cursor t.settle.processed t.settle.total cause)), t.settle)

/-- The tally after a batch of the ids that wait. -/
def succeed (t : Tally) (counts : BatchCounts) : Tally :=
  (t.beginBatch.endBatch counts).clear

/-- The failure of a batch of the ids that wait. -/
def failure (t : Tally) (op : Operation) (cause : ConnError) : BulkError :=
  .batch op.name (t.batches + 1) t.processed t.settle.total cause

@[simp] theorem buffer_fill (t : Tally) (ids : List Value) :
    (t.fill ids).buffer.toList = ids :=
  rfl

theorem clear_eq_fill (t : Tally) : t.clear = t.fill [] :=
  rfl

end Tally

/-! ## Writing -/

theorem leads_note {post : Unit → Tally → W → Prop} (hhost : b.host.StandsBy) {event : String}
    (h : post () t w) : Leads (b.note event) t w post :=
  leads_bystander (hhost.record b.audit event) fun _ => h

theorem leads_log {post : Unit → Tally → W → Prop} (hhost : b.host.StandsBy) {level : Level}
    {line : String} (h : post () t w) : Leads (b.log level line) t w post :=
  leads_bystander (hhost.log level line) fun _ => h

theorem leads_draw {post : Unit → Tally → W → Prop} (hhost : b.host.StandsBy)
    (h : post () t w) : Leads b.draw t w post := by
  refine leads_get_bind (leads_bystander_bind hhost.clock fun now => ?_)
  dsimp only
  split
  · exact leads_bystander_bind (hhost.overflow _) fun _ => leads_bystander (hhost.print _) fun _ => h
  · exact leads_bystander (hhost.print _) fun _ => h

theorem leads_settle {post : Unit → Tally → W → Prop} (hhost : b.host.StandsBy)
    (h : post () t.settle w) : Leads b.settle t w post := by
  refine leads_modify_bind (leads_bind (leads_draw hhost ?_))
  exact leads_bystander (hhost.printLine "") fun _ => h

/-! ## Batches -/

theorem leads_cancel {post : Stop → Tally → W → Prop} (hhost : b.host.StandsBy)
    (h : post .cancelled t.settle w) : Leads b.cancel t w post := by
  refine leads_bind (leads_settle hhost (leads_get_bind ?_))
  refine leads_bystander_bind (hhost.printColoured _ _) fun _ => ?_
  exact leads_bind (leads_note hhost (leads_pure h))

theorem leads_failBatch {post : Stop → Tally → W → Prop} (hhost : b.host.StandsBy)
    {cause : ConnError}
    (h : post (.failed (.batch b.operation.name t.settle.batches t.settle.processed t.settle.total
      cause)) t.settle w) : Leads (b.failBatch cause) t w post := by
  refine leads_bind (leads_settle hhost (leads_get_bind ?_))
  refine leads_bind (leads_log hhost (leads_bind (leads_note hhost ?_)))
  exact leads_pure h

/-- A batch asks the operator first.  Unless it is stopped, it hands the ids that wait to the
connection, and the run fails if that fails. -/
theorem leads_batch {post : Except Stop Unit → Tally → W → Prop} (hhost : b.host.StandsBy)
    (h : Yields b.host.interrupted w fun stopped w =>
      if stopped then post (.error .cancelled) t.settle w
      else Yields (b.apply t.buffer.toList) w fun answer w =>
        match answer with
        | .error cause =>
            post (.error (.failed (t.failure b.operation cause))) t.beginBatch.settle w
        | .ok counts => post (.ok ()) (t.succeed counts) w) :
    Leads b.batch t w post := by
  unfold Bench.batch
  refine leads_lift_bind (h.mono fun stopped w hstop => ?_)
  cases stopped with
  | true => exact leads_bind (leads_cancel hhost (leads_pure hstop))
  | false =>
      refine leads_modify_bind (leads_get_bind (leads_lift_bind ?_))
      rw [if_neg Bool.false_ne_true] at hstop
      refine Yields.mono hstop fun answer w hanswer => ?_
      cases answer with
      | error cause => exact leads_bind (leads_failBatch hhost (leads_pure hanswer))
      | ok counts =>
          refine leads_modify_bind (leads_bind (leads_draw hhost (leads_get_bind ?_)))
          refine leads_bystander_bind hhost.clock fun now => ?_
          refine leads_bind (leads_log hhost (leads_bind (leads_note hhost ?_)))
          refine leads_modify_bind ?_
          dsimp only
          split
          · exact leads_bystander_bind (hhost.sleep _ _) fun _ => leads_pure hanswer
          · exact leads_pure hanswer

/-- A batch that is done leaves no id waiting. -/
theorem leads_batch_empties (hhost : b.host.StandsBy) :
    Leads b.batch t w fun answer t' _ => answer = .ok () → t'.buffer = #[] := by
  refine leads_batch hhost fun s => ?_
  dsimp only
  split
  · exact nofun
  · intro s'
    split
    · exact nofun
    · exact fun _ => rfl

/-! ## Passes -/

theorem leads_cursorFailure {post : Retry.Attempt Unit Stop Stop → Tally → W → Prop}
    (hhost : b.host.StandsBy) {cause : ConnError}
    (h : post (t.fault cause).1 (t.fault cause).2 w) :
    Leads (b.cursorFailure cause) t w post := by
  unfold Bench.cursorFailure
  unfold Tally.fault at h
  split
  · rename_i hretry
    rw [if_pos hretry] at h
    refine leads_bind (leads_log hhost (leads_get_bind (leads_bind (leads_note hhost ?_))))
    exact leads_pure h
  · rename_i hretry
    rw [if_neg hretry] at h
    refine leads_bind (leads_settle hhost (leads_get_bind ?_))
    refine leads_bind (leads_log hhost (leads_bind (leads_note hhost ?_)))
    exact leads_pure h

/-! ## Ends -/

theorem leads_complete {post : Report → Tally → W → Prop} (hhost : b.host.StandsBy)
    (h : ∀ now later, post (t.finish.report .completed now later) t.finish w) :
    Leads b.complete t w post := by
  refine leads_modify_bind (leads_bind (leads_draw hhost ?_))
  refine leads_bystander_bind (hhost.printLine "") fun _ => leads_get_bind ?_
  refine leads_bystander_bind hhost.clock fun now => ?_
  refine leads_bystander_bind hhost.clock fun later => ?_
  refine leads_bystander_bind (hhost.printLine _) fun _ => ?_
  exact leads_bind (leads_note hhost (leads_pure (h now later)))

theorem leads_exhausted {post : BulkError → Tally → W → Prop} (hhost : b.host.StandsBy)
    {attempts : Nat} {last : ConnError}
    (h : post (.cursorRetriesExhausted attempts t.settle.processed t.settle.total last)
      t.settle w) : Leads (b.exhausted attempts last) t w post := by
  refine leads_bind (leads_settle hhost (leads_get_bind ?_))
  exact leads_bind (leads_log hhost (leads_pure h))

/-- How a stop shows in the result of a run. -/
def Stop.Ends (t : Tally) : Stop → Except BulkError Report → Prop
  | .cancelled, result => ∃ now later, result = .ok (t.report .cancelled now later)
  | .failed cause, result => result = .error cause
  | .transient cause, result => result = .error (.cursor t.processed t.total cause)

theorem leads_abort {post : Except BulkError Report → Tally → W → Prop}
    (hhost : b.host.StandsBy) {stop : Stop} (h : ∀ result, stop.Ends t result → post result t w) :
    Leads (b.abort stop) t w post := by
  cases stop with
  | cancelled =>
      refine leads_get_bind (leads_bystander_bind hhost.clock fun now => ?_)
      exact leads_bystander_bind hhost.clock fun later => leads_pure (h _ ⟨now, later, rfl⟩)
  | failed cause => exact leads_pure (h _ rfl)
  | transient cause => exact leads_get_bind (leads_get_bind (leads_pure (h _ rfl)))

end BulkSweep

import BulkSweep.Proofs.Run.Breaking
import BulkSweep.Proofs.Run.Sweeps
import BulkSweep.Rehearsal

/-!
# The sequence of batches

Which ids a run hands on, batch by batch, is decided by what its cursors yield, by what becomes of the
batches, and by the word of the operator before each of them.  All of this is given as a script that
knows nothing of documents, and the batches of a run are read off the script: those of its cursors in
order, up to the first one that fails or before which the operator asks to stop (`run_obeys_script`).  A run
that breaks off has handed on the first ones of them.
-/

set_option autoImplicit false

namespace BulkSweep

/-! ## Scripts -/

/-- What the surroundings of a run answer, question by question. -/
structure Script where
  /-- the counts -/
  counts : Nat → Except ConnError Nat
  /-- what comes of each opening of a cursor -/
  cursors : Nat → Except ConnError Cursor
  /-- what comes of each batch -/
  answers : Nat → Except ConnError BatchCounts
  /-- whether the operator has asked to stop -/
  flags : Nat → Bool

/-- How far a script has been read, and the batches that were handed on. -/
structure Stage where
  /-- how often matches were counted -/
  counted : Nat
  /-- how often a cursor was opened -/
  opened : Nat
  /-- how often the operator was asked -/
  asked : Nat
  /-- the batches -/
  handed : List (List Value)

namespace Script

/-- Nothing is read yet. -/
def begin : Stage :=
  ⟨0, 0, 0, []⟩

variable {m : Type → Type} [Monad m]

/-- The answer to a batch, which is handed on. -/
def hand (s : Script) (ids : List Value) : StateT Stage m (Except ConnError BatchCounts) :=
  modifyGet fun w => (s.answers w.handed.length, { w with handed := w.handed ++ [ids] })

/-- A script as a connection. -/
def connection (s : Script) : Connection (StateT Stage m) where
  count := fun _ _ => modifyGet fun w => (s.counts w.counted, { w with counted := w.counted + 1 })
  openCursor := fun _ _ =>
    modifyGet fun w => (s.cursors w.opened, { w with opened := w.opened + 1 })
  deleteByIds := fun _ ids => do
    return (← s.hand ids).map BatchCounts.primary
  updateByIds := fun _ ids _ => do
    return (← s.hand ids).map fun counts => ⟨counts.primary, counts.secondary⟩

/-- A host with the operator of a script. -/
def host (s : Script) (host : Host m) : Host (StateT Stage m) :=
  { host.withState with
    interrupted := modifyGet fun w => (s.flags w.asked, { w with asked := w.asked + 1 }) }

/-! ## The batches of a script -/

/-- What the passes of a run read, from the opening `i` on, if as many openings as the first number
says are allowed. -/
def passes (s : Script) : Nat → Nat → List Cursor
  | 0, _ => []
  | left + 1, i =>
    match s.cursors i with
    | .error cause => if cause.isRetryable then s.passes left (i + 1) else []
    | .ok cursor =>
      match cursor.fault with
      | some cause => cursor :: if cause.isRetryable then s.passes left (i + 1) else []
      | none => [cursor]

/-- The batches of some passes, in order: full ones, and a last one with the rest of a cursor that ends
by itself. -/
def batches (size : Nat) (passes : List Cursor) : List (List Value) :=
  passes.flatMap fun cursor => cursor.batches size

/-- Those of some batches that are done, from the one with the number `i` on: none from the first one
on before which the operator has asked to stop, and none behind the first one that fails. -/
def done (s : Script) : Nat → List (List Value) → List (List Value)
  | _, [] => []
  | i, batch :: rest =>
    if s.flags i then []
    else batch :: if (s.answers i).isOk then s.done (i + 1) rest else []

variable {s : Script} {σ : Type}

theorem done_subset (s : Script) (i : Nat) (batches : List (List Value)) :
    s.done i batches ⊆ batches := by
  induction batches generalizing i with
  | nil => exact List.Subset.refl []
  | cons batch rest ih =>
      unfold done
      split
      · exact List.nil_subset _
      · split
        · exact List.cons_subset_cons batch (ih (i + 1))
        · exact List.cons_subset_cons batch (List.nil_subset rest)

/-! ## What its operations lead to -/

variable {w : Stage} {base : Host (StateM σ)} {plan : Plan} {change : Change} {audit : AuditLog}
  {t : Tally}

/-- What a run over a script works with. -/
def bench (s : Script) (host : Host (StateM σ)) (plan : Plan) (change : Change)
    (audit : AuditLog) : Bench (StateT Stage (StateM σ)) :=
  ⟨s.host host, s.connection, plan, change, audit⟩

theorem standsBy_host (s : Script) (host : Host (StateM σ)) : (s.host host).StandsBy :=
  let plain := Host.standsBy_withState host
  ⟨plain.print, plain.log, plain.clock, plain.timestamp, plain.sleep, plain.draw, plain.listen,
    plain.overflow, plain.append⟩

theorem yields_count {post : Except ConnError Nat → Stage → Prop} {target : Namespace}
    {filter : Document} (hpost : post (s.counts w.counted) { w with counted := w.counted + 1 }) :
    Yields ((s.connection : Connection (StateT Stage (StateM σ))).count target filter) w post :=
  fun _ => hpost

theorem yields_apply {post : Except ConnError BatchCounts → Stage → Prop} {ids : List Value}
    (hpost : ∀ answer : Except ConnError BatchCounts,
      answer.isOk = (s.answers w.handed.length).isOk →
        post answer { w with handed := w.handed ++ [ids] }) :
    Yields ((s.bench base plan change audit).apply ids) w post := by
  cases change with
  | delete =>
      refine fun _ => hpost _ ?_
      change ((((s.answers w.handed.length).map BatchCounts.primary).map _).isOk = _)
      cases s.answers w.handed.length with
      | error cause => rfl
      | ok counts => rfl
  | update operators =>
      refine fun _ => hpost _ ?_
      change ((((s.answers w.handed.length).map _).map _).isOk = _)
      cases s.answers w.handed.length with
      | error cause => rfl
      | ok counts => rfl

/-- A batch asks the operator, and is handed on unless he asks to stop. -/
theorem leads_batch {post : Except Stop Unit → Tally → Stage → Prop}
    (hstop : s.flags w.asked = true →
      post (.error .cancelled) t.settle { w with asked := w.asked + 1 })
    (hfail : s.flags w.asked = false → (s.answers w.handed.length).isOk = false → ∀ cause,
      post (.error (.failed cause)) t.beginBatch.settle
        { w with asked := w.asked + 1, handed := w.handed ++ [t.buffer.toList] })
    (hdone : s.flags w.asked = false → (s.answers w.handed.length).isOk = true → ∀ counts,
      post (.ok ()) (t.succeed counts)
        { w with asked := w.asked + 1, handed := w.handed ++ [t.buffer.toList] }) :
    Leads (s.bench base plan change audit).batch t w post := by
  refine BulkSweep.leads_batch (s.standsBy_host base) fun _ => ?_
  change if s.flags w.asked then _ else _
  split
  · rename_i hflag
    exact hstop hflag
  · rename_i hflag
    refine yields_apply fun answer hanswer => ?_
    cases answer with
    | error cause => exact hfail (Bool.eq_false_iff.mpr hflag) hanswer.symm _
    | ok counts => exact hdone (Bool.eq_false_iff.mpr hflag) hanswer.symm counts

/-! ## What is kept between batches -/

variable {attempts size tries : Nat} {todo : List (List Value)} {later : List Cursor}

/-- All batches of a script, if so many openings are allowed. -/
def planned (s : Script) (attempts size : Nat) : List (List Value) :=
  batches size (s.passes attempts 0)

/-- A run that still has the batches `todo` before it, and then those of the passes `later`. -/
structure Underway (s : Script) (attempts size : Nat) (todo : List (List Value))
    (later : List Cursor) (w : Stage) : Prop where
  /-- what was done and what will be done make up what is to be done -/
  inOrder : s.done 0 (s.planned attempts size) =
    w.handed ++ s.done w.handed.length (todo ++ batches size later)
  /-- the operator was asked before each batch -/
  asked : w.asked = w.handed.length
  /-- and never asked to stop -/
  quiet : ∀ i < w.asked, s.flags i = false

/-- What a run over a script comes to. -/
structure Obeys (s : Script) (attempts size : Nat) (result : Except BulkError Report)
    (w : Stage) : Prop where
  /-- the batches are those of the script -/
  handed : w.handed = s.done 0 (s.planned attempts size)
  /-- each of them is one of a pass that was read, not empty and not too large -/
  source : ∀ batch ∈ w.handed, 0 < batch.length ∧ batch.length ≤ size ∧
    ∃ cursor ∈ s.passes attempts 0, batch ∈ cursor.batches size
  /-- once the operator has asked to stop, no batch is begun and the run is cancelled -/
  stopped : ∀ i < w.asked, s.flags i = true → w.asked = i + 1 ∧ w.handed.length = i ∧
    ∃ report, result = .ok report ∧ report.outcome = .cancelled

theorem source_of_done (hpositive : 0 < size) (hhanded : w.handed = s.done 0 (s.planned attempts size)) :
    ∀ batch ∈ w.handed, 0 < batch.length ∧ batch.length ≤ size ∧
      ∃ cursor ∈ s.passes attempts 0, batch ∈ cursor.batches size := by
  intro batch hbatch
  rw [hhanded] at hbatch
  have hplanned := s.done_subset 0 _ hbatch
  obtain ⟨cursor, hcursor, hmem⟩ := List.mem_flatMap.mp hplanned
  obtain ⟨hlower, hupper⟩ := Cursor.batches_length hpositive batch hmem
  exact ⟨hlower, hupper, cursor, hcursor, hmem⟩

/-- A run may end where nothing is left to be done. -/
theorem Underway.ends (hpositive : 0 < size) (h : Underway s attempts size [] [] w)
    (result : Except BulkError Report) : Obeys s attempts size result w := by
  have hhanded : w.handed = s.done 0 (s.planned attempts size) := by
    rw [h.inOrder]
    exact (List.append_nil _).symm
  refine ⟨hhanded, source_of_done hpositive hhanded, fun i hi hflag => ?_⟩
  rw [h.quiet i hi] at hflag
  cases hflag

/-! ## Steps -/

variable {batch : List Value} {policy : Retry.Policy}

theorem Underway.stop (hpositive : 0 < size)
    (h : Underway s attempts size (batch :: todo) later w) (hflag : s.flags w.asked = true)
    {report : Report} (hreport : report.outcome = .cancelled) :
    Obeys s attempts size (.ok report) { w with asked := w.asked + 1 } := by
  have hhanded : w.handed = s.done 0 (s.planned attempts size) := by
    rw [h.inOrder, List.cons_append]
    unfold done
    rw [← h.asked, if_pos hflag, List.append_nil]
  refine ⟨hhanded, source_of_done hpositive hhanded, fun i hi hi' => ?_⟩
  rcases Nat.lt_succ_iff_lt_or_eq.mp hi with hbefore | hlast
  · rw [h.quiet i hbefore] at hi'
    cases hi'
  · exact ⟨congrArg (· + 1) hlast.symm, h.asked.symm.trans hlast.symm, report, rfl, hreport⟩

theorem Underway.quiet_succ (h : Underway s attempts size todo later w)
    (hflag : s.flags w.asked = false) : ∀ i < w.asked + 1, s.flags i = false := by
  intro i hi
  rcases Nat.lt_succ_iff_lt_or_eq.mp hi with hbefore | hlast
  · exact h.quiet i hbefore
  · rw [hlast]
    exact hflag

theorem Underway.fail (hpositive : 0 < size)
    (h : Underway s attempts size (batch :: todo) later w) (hflag : s.flags w.asked = false)
    (hanswer : (s.answers w.handed.length).isOk = false) (result : Except BulkError Report) :
    Obeys s attempts size result
      { w with asked := w.asked + 1, handed := w.handed ++ [batch] } := by
  have hhanded : w.handed ++ [batch] = s.done 0 (s.planned attempts size) := by
    rw [h.inOrder, List.cons_append]
    unfold done
    rw [← h.asked, hflag, h.asked, hanswer]
    rfl
  refine ⟨hhanded, source_of_done hpositive hhanded, fun i hi hi' => ?_⟩
  rw [h.quiet_succ hflag i hi] at hi'
  cases hi'

theorem Underway.step (h : Underway s attempts size (batch :: todo) later w)
    (hflag : s.flags w.asked = false) (hanswer : (s.answers w.handed.length).isOk = true) :
    Underway s attempts size todo later
      { w with asked := w.asked + 1, handed := w.handed ++ [batch] } := by
  refine ⟨?_, ?_, h.quiet_succ hflag⟩
  · rw [h.inOrder, List.cons_append]
    conv => lhs; unfold done
    rw [← h.asked, hflag, h.asked, hanswer, List.length_append, List.append_assoc]
    rfl
  · rw [h.asked, List.length_append]
    rfl

/-- Batches are handed on one after another until the operator asks to stop or one of them fails. -/
theorem Underway.through (hpositive : 0 < size) (h : Underway s attempts size todo later w) :
    LeadsThrough (s.bench base plan change audit) t w todo fun answer t' w' =>
      match answer with
      | .error stop => ∀ result, stop.Ends t' result → Obeys s attempts size result w'
      | .ok _ => Underway s attempts size [] later w' ∧ w'.opened = w.opened := by
  induction todo generalizing t w with
  | nil => exact ⟨h, rfl⟩
  | cons batch rest ih =>
      refine leads_batch (fun hflag => ?_) (fun hflag hanswer cause => ?_)
        fun hflag hanswer counts => ih (h.step hflag hanswer)
      · rintro result ⟨now, later, rfl⟩
        exact h.stop hpositive hflag rfl
      · exact fun result _ => h.fail hpositive hflag hanswer result

/-! ## Passes -/

/-- What holds before the try with the number `i`. -/
def Before (s : Script) (attempts size i : Nat) (w : Stage) : Prop :=
  w.opened = i ∧ Underway s attempts size [] (s.passes (attempts - i) i) w

theorem Underway.reopened (h : Underway s attempts size todo later w) (n : Nat) :
    Underway s attempts size todo later { w with opened := n } :=
  ⟨h.inOrder, h.asked, h.quiet⟩

/-- The batches of a cursor that is opened are done first. -/
theorem Underway.opens {cursor : Cursor} (h : Underway s attempts size [] (cursor :: later) w) :
    Underway s attempts size (cursor.batches size) later w := by
  have hfirst : batches size (cursor :: later) = cursor.batches size ++ batches size later :=
    List.flatMap_cons
  refine ⟨?_, h.asked, h.quiet⟩
  rw [h.inOrder, List.nil_append, hfirst]

theorem Underway.cursorFails (hpositive : 0 < size) {cause : ConnError} (hopened : w.opened = tries + 1)
    (h : Underway s attempts size []
      (if cause.isRetryable then s.passes (attempts - (tries + 1)) (tries + 1) else []) w) :
    CursorFails attempts tries (fun i _ => Before s attempts size i) (Obeys s attempts size) t
      cause w := by
  unfold CursorFails
  split
  · rename_i hretry
    rw [if_pos hretry] at h
    split
    · rename_i hlast
      rw [hlast, Nat.sub_self] at h
      exact h.ends hpositive _
    · exact ⟨hopened, h⟩
  · rename_i hretry
    rw [if_neg hretry] at h
    exact h.ends hpositive _

/-- The passes that are left begin with the cursor that is opened. -/
theorem passes_of_lt (s : Script) (htries : tries < attempts) :
    s.passes (attempts - tries) tries =
      match s.cursors tries with
      | .error cause =>
        if cause.isRetryable then s.passes (attempts - (tries + 1)) (tries + 1) else []
      | .ok cursor =>
        match cursor.fault with
        | some cause =>
          cursor :: if cause.isRetryable then s.passes (attempts - (tries + 1)) (tries + 1) else []
        | none => [cursor] := by
  have hleft : attempts - tries = attempts - (tries + 1) + 1 := by omega
  rw [hleft]
  rfl

theorem Before.pass (htries : tries < attempts)
    (h : Before s attempts plan.job.batchLength tries w) :
    CursorLeads (s.bench base plan change audit) attempts tries
      (fun i _ => Before s attempts plan.job.batchLength i)
      (Obeys s attempts plan.job.batchLength) t (s.cursors w.opened)
      { w with opened := w.opened + 1 } := by
  obtain ⟨hopened, hunderway⟩ := h
  have hpositive := plan.job.batchLength_pos
  have hnext : w.opened + 1 = tries + 1 := congrArg (· + 1) hopened
  rw [s.passes_of_lt htries, ← hopened] at hunderway
  cases hcursor : s.cursors w.opened with
  | error cause =>
      rw [hcursor] at hunderway
      rw [← hopened] at hnext ⊢
      exact (hunderway.reopened _).cursorFails hpositive hnext
  | ok cursor =>
      rw [hcursor] at hunderway
      rw [← hopened] at hnext ⊢
      cases hfault : cursor.fault with
      | none =>
          dsimp only at hunderway
          rw [hfault] at hunderway
          refine ((hunderway.opens.reopened _).through hpositive).mono fun answer t' w' hend => ?_
          cases answer with
          | error stop => exact hend
          | ok _ =>
              rw [hfault]
              exact fun now later => hend.1.ends hpositive _
      | some cause =>
          dsimp only at hunderway
          rw [hfault] at hunderway
          refine ((hunderway.opens.reopened _).through hpositive).mono fun answer t' w' hend => ?_
          cases answer with
          | error stop => exact hend
          | ok _ =>
              rw [hfault]
              exact hend.1.cursorFails hpositive (hend.2.trans hnext)

/-! ## Runs -/

/-- Nothing was asked for but counts. -/
def Untouched (w : Stage) : Prop :=
  w.opened = 0 ∧ w.asked = 0 ∧ w.handed = []

theorem Untouched.before (h : Untouched w) (attempts size : Nat) :
    Before s attempts size 0 w := by
  obtain ⟨hopened, hasked, hhanded⟩ := h
  refine ⟨hopened, ?_, ?_, ?_⟩
  · rw [hhanded]
    rfl
  · rw [hasked, hhanded]
    rfl
  · intro i hi
    rw [hasked] at hi
    exact absurd hi (Nat.not_lt_zero i)

/-- A run that goes on wherever it would break off hands on the batches of its script and no others, unless it
ends before its first cursor. -/
theorem yields_run_obeys (s : Script) (base : Host (StateM σ)) (plan : Plan) (change : Change)
    (settings : RunSettings) :
    Yields (plan.run (s.host base) s.connection change settings) begin fun result w =>
      w.opened = 0 ∧ w.handed = [] ∨
        Obeys s settings.cursorRetry.attempts plan.job.batchLength result w := by
  have hhost := s.standsBy_host base
  refine yields_run plan settings hhost ?_
  refine yields_countMatches hhost settings.countRetry Untouched ?_ ⟨rfl, rfl, rfl⟩
  intro w hw
  refine yields_count ?_
  cases s.counts w.counted with
  | error cause => exact ⟨hw, .inl ⟨hw.1, hw.2.2⟩⟩
  | ok total =>
      have hcounted : Untouched { w with counted := w.counted + 1 } := hw
      refine ⟨fun _ => .inl ⟨hw.1, hw.2.2⟩, fun _ => .inl ⟨hw.1, hw.2.2⟩, fun _ _ => ?_⟩
      refine ⟨fun _ _ => .inl ⟨hw.1, hw.2.2⟩, fun audit now => ?_⟩
      have hsweep : Leads ((s.bench base plan change audit).sweep settings.cursorRetry)
          (.start total now) { w with counted := w.counted + 1 } fun result _ w' =>
            Obeys s settings.cursorRetry.attempts plan.job.batchLength result w' := by
        refine leads_sweep hhost settings.cursorRetry
          (fun i _ => Before s settings.cursorRetry.attempts plan.job.batchLength i) ?_
          (hcounted.before _ _)
        exact fun i t w hi hbefore _ => hbefore.pass hi
      exact hsweep.mono fun result _ w' hobeys => .inr hobeys

/-! ## Runs that break off -/

/-- Whatever is asked of a script, the batches that were handed on stay so. -/
theorem extends_connection (s : Script) :
    (s.connection : Connection (StateT Stage (StateM σ))).Extends fun w w' =>
      w.handed <+: w'.handed where
  count := fun _ _ w _ => List.prefix_refl w.handed
  openCursor := fun _ _ w _ => List.prefix_refl w.handed
  deleteByIds := fun _ ids w _ => List.prefix_append w.handed [ids]
  updateByIds := fun _ ids _ w _ => List.prefix_append w.handed [ids]

/-- A run hands on the batches of its script and no others, unless it ends before its first cursor.  Only if
a pause or the rest of the job takes too long to be told, the run breaks off, and then it has handed on the
first ones of these batches. -/
theorem run_obeys_script (s : Script) (base : Host (StateM σ)) (plan : Plan) (change : Change)
    (settings : RunSettings) :
    Yields (plan.run (s.host base).breaking s.connection.breaking change settings).run begin
      fun answer w =>
        match answer with
        | .ok result =>
            w.opened = 0 ∧ w.handed = [] ∨
              Obeys s settings.cursorRetry.attempts plan.job.batchLength result w
        | .error cause =>
            w.handed <+: s.done 0 (s.planned settings.cursorRetry.attempts plan.job.batchLength) ∧
              cause.Grounded settings fun total => ∃ i, s.counts i = .ok total := by
  have hrun := yields_breaking (growth_written Stage.handed) (s.standsBy_host base)
    (fun w _ => List.prefix_refl w.handed) s.extends_connection
    (fun total _ => ∃ i, s.counts i = .ok total) (fun _ _ _ _ => id)
    (fun w _ _ htotal => ⟨w.counted, htotal⟩) (s.yields_run_obeys base plan change settings)
  refine hrun.mono fun answer w hanswer => ?_
  cases answer with
  | ok result => exact hanswer
  | error cause =>
      obtain ⟨hcause, result, w', hbegun, ⟨-, hnone⟩ | hobeys⟩ := hanswer
      · rw [hnone, List.prefix_nil] at hbegun
        rw [hbegun]
        exact ⟨List.nil_prefix, hcause⟩
      · exact ⟨hobeys.handed ▸ hbegun, hcause⟩

/-! ## A vast count -/

/-- A script of a vast count, of which three ids are found. -/
def vast : Script where
  counts _ := .ok (2 ^ 63 - 1)
  cursors _ := .ok ⟨[.int32 1, .int32 2, .int32 3], none⟩
  answers _ := .ok ⟨1, 0⟩
  flags _ := false

/-- A run over this script, with batches of one id and five seconds between them. -/
def vastRun : (Except Overflow (Except BulkError Report) × Stage) × Rehearsal :=
  ((Plan.run ⟨{ target := ⟨"shop", "orders"⟩, batchSize := 1, pauseMs := 5000 }, []⟩
    (vast.host (Rehearsal.host false)).breaking vast.connection.breaking .delete {}).run.run begin).run
    { tree := ⟨[], []⟩ }

/-- The run breaks off behind its second batch, when the rest of the job is to be told, though there is a
third one. -/
theorem vastRun_stops_short : vastRun.1.1.isOk = false ∧ vastRun.1.2.opened = 1 ∧
    vastRun.1.2.handed.length = 2 ∧ (vast.done 0 (vast.planned 3 1)).length = 3 := by
  decide +kernel

end Script

end BulkSweep

import BulkSweep.Proofs.Run.Likeness
import BulkSweep.Proofs.Store.Trial

/-!
# What a run hands to its store

A store on trial writes down the ids that it is given, call by call, and does what the store does as long
as no fault is scheduled (`run_untried`).  So it tells whether a run handed anything to its store.  What
a run hands on it counts, since no batch is empty: a run that reports to have handled nothing has handed
nothing on, however it was stopped (`yields_told`).
-/

set_option autoImplicit false

namespace BulkSweep

variable {σ : Type}

/-! ## Runs on trial -/

/-- A store on trial does what the store does, if its cursors do not fail. -/
def Likeness.untried : Likeness (StateT Trial (StateM σ)) (StateT Store (StateM σ)) where
  Like := fun act act' => ∀ w s,
    ((act.run w).run s).1.1 = ((act'.run w.store).run s).1.1 ∧
      ((act.run w).run s).1.2.store = ((act'.run w.store).run s).1.2 ∧
      ((act.run w).run s).2 = ((act'.run w.store).run s).2
  pure := fun _ _ _ => ⟨rfl, rfl, rfl⟩
  map := fun f _ _ hact w s => ⟨congrArg f (hact w s).1, (hact w s).2⟩
  bind := by
    intro α β act act' next next' hact hnext w s
    obtain ⟨hanswer, hstore, hstate⟩ := hact w s
    obtain ⟨hresult, hstore', hrest⟩ := hnext ((act.run w).run s).1.1 ((act.run w).run s).1.2
      ((act.run w).run s).2
    refine ⟨hresult.trans ?_, hstore'.trans ?_, hrest.trans ?_⟩
    all_goals
      rw [hanswer, hstore, hstate]
      rfl

theorem host_untried (host : Host (StateM σ)) :
    (host.withState : Host (StateT Trial (StateM σ))).Alike .untried host.withState where
  palette := rfl
  print := fun _ _ _ => ⟨rfl, rfl, rfl⟩
  log := fun _ _ _ _ => ⟨rfl, rfl, rfl⟩
  clock := fun _ _ => ⟨rfl, rfl, rfl⟩
  timestamp := fun _ _ => ⟨rfl, rfl, rfl⟩
  sleep := fun _ _ _ _ => ⟨rfl, rfl, rfl⟩
  draw := fun _ _ => ⟨rfl, rfl, rfl⟩
  listen := fun _ _ => ⟨rfl, rfl, rfl⟩
  interrupted := fun _ _ => ⟨rfl, rfl, rfl⟩
  overflow := fun _ _ _ => ⟨rfl, rfl, rfl⟩
  append := fun _ _ _ _ => ⟨rfl, rfl, rfl⟩

theorem connection_untried :
    (Trial.connection (fun _ => none) : Connection (StateT Trial (StateM σ))).Alike .untried
      Store.connection where
  count := fun _ _ _ _ => ⟨rfl, rfl, rfl⟩
  openCursor := fun _ _ _ _ => ⟨rfl, rfl, rfl⟩
  deleteByIds := fun _ _ _ _ => ⟨rfl, rfl, rfl⟩
  updateByIds := fun _ _ _ _ _ => ⟨rfl, rfl, rfl⟩

/-- A run over a store is the run over the store on trial. -/
theorem run_untried (host : Host (StateM σ)) (plan : Plan) (change : Change) (settings : RunSettings)
    (store : Store) (s : σ) :
    let tried := ((plan.run host.withState (Trial.connection fun _ => none) change settings).run
      (.start store)).run s
    ((plan.run host.withState Store.connection change settings).run store).run s
      = ((tried.1.1, tried.1.2.store), tried.2) := by
  obtain ⟨hresult, hstore, hrest⟩ := run_alike (host_untried host) connection_untried plan change
    settings (.start store) s
  exact Prod.ext (Prod.ext hresult.symm hstore.symm) hrest.symm

/-! ## What a run hands on is counted -/

/-- While a run goes on, it stays with its folder, and what it handed to its store shows in its
tally. -/
structure Tracked (folder : Option String) (t : Tally) (w : Trial) : Prop where
  /-- the store has its folder -/
  folder : w.store.folder = folder
  /-- nothing is handed to it uncounted -/
  counted : t.processed = 0 → w.handed = []

/-- When a run has ended, what it handed to its store shows in its report. -/
structure Told (folder : Option String) (result : Except BulkError Report) (w : Trial) : Prop where
  /-- the store has its folder -/
  folder : w.store.folder = folder
  /-- a run that reports to have handled nothing has handed nothing on -/
  told : ∀ report, result = .ok report → report.processed = 0 → w.handed = []

section Counting

variable {folder : Option String} {t : Tally} {w : Trial} {host : Host (StateM σ)}
  {faults : Nat → Option Fault} {plan : Plan} {change : Change} {audit : AuditLog}

theorem told_error (hfolder : w.store.folder = folder) (cause : BulkError) :
    Told folder (.error cause) w :=
  ⟨hfolder, nofun⟩

theorem Tracked.hand_folder (h : Tracked folder t w) (ids : List Value) (name : String)
    (docs : Collection) : (w.hand ids name docs).store.folder = folder :=
  h.folder

theorem Tracked.told (h : Tracked folder t w) {report : Report}
    (hreport : report.processed = t.processed) : Told folder (.ok report) w := by
  refine ⟨h.folder, ?_⟩
  rintro report' ⟨⟩ hnone
  exact h.counted (hreport.symm.trans hnone)

/-- What a batch or a row of batches leads to: it goes on, or the run ends. -/
def Tracked.After (folder : Option String) (answer : Except Stop Unit) (t : Tally) (w : Trial) : Prop :=
  match answer with
  | .ok _ => Tracked folder t w
  | .error stop => ∀ result, stop.Ends t result → Told folder result w

/-- A batch that is done counts its ids, of which there is one at least. -/
theorem tracked_done {ids : List Value} (hsome : ids ≠ []) (hfolder : w.store.folder = folder)
    (counts : BatchCounts) : Tracked folder ((t.fill ids).succeed counts) w := by
  refine ⟨hfolder, fun hnone => ?_⟩
  have hlength : t.processed + ids.length = 0 := hnone
  exact absurd (List.length_eq_zero_iff.mp (Nat.eq_zero_of_add_eq_zero_left hlength)) hsome

theorem Tracked.cancelled (h : Tracked folder t w) (ids : List Value) :
    Tracked.After folder (.error .cancelled) (t.fill ids).settle w := by
  rintro result ⟨now, later, rfl⟩
  exact h.told rfl

/-- A batch is stopped before it begins, fails, or is counted. -/
theorem Tracked.batch (h : Tracked folder t w) {ids : List Value} (hsome : ids ≠ []) :
    Leads (Trial.bench host faults plan change audit).batch (t.fill ids) w
      (Tracked.After folder) := by
  cases change with
  | delete =>
      exact Trial.leads_batch_delete (fun _ => h.cancelled ids)
        (tracked_done hsome (h.hand_folder _ _ _) _)
  | update operators =>
      refine Trial.leads_batch_update (fun _ => h.cancelled ids) fun docs answer _ => ?_
      cases answer with
      | error cause =>
          rintro result ⟨⟩
          exact told_error (h.hand_folder _ _ _) _
      | ok counts => exact tracked_done hsome (h.hand_folder _ _ _) _

/-- Batches are counted one after another. -/
theorem Tracked.through (h : Tracked folder t w) {batches : List (List Value)}
    (hsome : ∀ ids ∈ batches, ids ≠ []) :
    LeadsThrough (Trial.bench host faults plan change audit) t w batches (Tracked.After folder) := by
  induction batches generalizing t w with
  | nil => exact h
  | cons ids rest ih =>
      obtain ⟨hids, hrest⟩ := List.forall_mem_cons.mp hsome
      refine (h.batch hids).mono fun answer t' w' hanswer => ?_
      cases answer with
      | error stop => exact hanswer
      | ok _ => exact ih hanswer hrest

theorem Tracked.cursorFails (h : Tracked folder t w) (attempts tries : Nat) (cause : ConnError) :
    CursorFails attempts tries (fun _ => Tracked folder) (Told folder) t cause w := by
  unfold CursorFails
  split
  · split
    · exact told_error h.folder _
    · exact h
  · exact told_error h.folder _

/-- A pass hands on batches that are not empty. -/
theorem Tracked.pass (h : Tracked folder t w) (attempts tries : Nat)
    (answer : Except ConnError Cursor) :
    CursorLeads (Trial.bench host faults plan change audit) attempts tries
      (fun _ => Tracked folder) (Told folder) t answer w.ask := by
  have hbegun : Tracked folder t.beginPass w.ask := ⟨h.folder, h.counted⟩
  have hcleared : Tracked folder t.beginPass.clear w.ask := ⟨h.folder, h.counted⟩
  cases answer with
  | error cause => exact hbegun.cursorFails attempts tries cause
  | ok cursor =>
      have hsome : ∀ ids ∈ cursor.batches plan.job.batchLength, ids ≠ [] := fun ids hids =>
        List.length_pos_iff.mp (Cursor.batches_length plan.job.batchLength_pos ids hids).1
      refine (hcleared.through hsome).mono fun answer t' w' hend => ?_
      cases answer with
      | error stop => exact hend
      | ok _ =>
          have hend : Tracked folder t' w' := hend
          cases cursor.fault with
          | none => exact fun now later => hend.told rfl
          | some cause =>
              have hleft : Tracked folder (t'.fill (cursor.leftover plan.job.batchLength)) w' :=
                ⟨hend.folder, hend.counted⟩
              exact hleft.cursorFails attempts tries cause

/-- A run over a store on trial tells in its report whether it handed anything on. -/
theorem yields_told (host : Host (StateM σ)) (faults : Nat → Option Fault) (plan : Plan)
    (change : Change) (settings : RunSettings) (store : Store) :
    Yields (plan.run host.withState (Trial.connection faults) change settings) (Trial.start store)
      (Told store.folder) := by
  have hhost : (host.withState : Host (StateT Trial (StateM σ))).StandsBy :=
    Host.standsBy_withState host
  have hbegin (total now : Nat) : Tracked store.folder (.start total now) (Trial.start store) :=
    ⟨rfl, fun _ => rfl⟩
  refine yields_run plan settings hhost ?_
  refine yields_countMatches hhost settings.countRetry (fun w => w = Trial.start store) ?_ rfl
  rintro w rfl
  refine Trial.yields_count ⟨fun _ => ?_, fun _ => ?_, fun _ _ => ⟨fun cause _ => ?_, ?_⟩⟩
  · exact (hbegin 0 0).told rfl
  · exact (hbegin 0 0).told rfl
  · exact ⟨rfl, nofun⟩
  · intro audit now
    exact Trial.leads_sweep settings.cursorRetry (fun _ => Tracked store.folder)
      (fun i t w _ h answer _ => h.pass _ i answer) (hbegin _ now)

end Counting

end BulkSweep

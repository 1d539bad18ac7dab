import BulkSweep.Proofs.Command.Journal
import BulkSweep.Proofs.Files.Tree
import BulkSweep.Proofs.Store.Handed
import BulkSweep.Rehearsal

/-!
# Changes are saved

Whether a bulk operation saves its collection is decided by what its run reports, or by its failure, and
not by what became of the documents.  Still no change is lost: once a batch was handed to the store, the
collection is saved as it then stands, and nothing is written after that.  A bulk operation that does
not get to its run, only counts, or finds nothing to do writes no file at all (`runBulk_saves`).
-/

set_option autoImplicit false

namespace BulkSweep

variable {σ : Type}

/-! ## Runs that change nothing -/

section Idle

variable {m : Type → Type} [Monad m] [LawfulMonad m] (host : Host m) (plan : Plan) (store : Store)

theorem conditional_done {S α φ ε : Type} {back : Retry.BackOff (StateT S m)}
    {act : StateT S m (Retry.Attempt α φ ε)} {s : S} {a : α} (h : act.run s = pure (.done a, s))
    (policy : Retry.Policy) : (policy.conditional back act).run s = pure (.ok a, s) := by
  unfold Retry.Policy.conditional
  cases policy.attempts - 1 <;> rw [Retry.conditionalFrom, StateT.run_bind, h, pure_bind] <;> rfl

/-- A store counts at the first try. -/
theorem countMatches_store (policy : Retry.Policy) :
    (plan.countMatches host.withState Store.connection policy).run store
      = pure (.ok ((store.documents plan.job.target.collection).count plan.filter), store) := by
  rw [Plan.countMatches, StateT.run_bind,
    conditional_done (a := (store.documents plan.job.target.collection).count plan.filter), pure_bind]
  · rfl
  · simp [Store.connection]

theorem printAll_withState (lines : List String) :
    (Plan.printAll (host.withState : Host (StateT Store m)) lines).run store
      = Plan.printAll host lines >>= fun _ => pure (PUnit.unit, store) := by
  induction lines with
  | nil => rw [Plan.printAll, Plan.printAll, pure_bind]; rfl
  | cons line rest ih =>
      have hline : (Host.printLine (host.withState : Host (StateT Store m)) line).run store
          = host.printLine line >>= fun _ => pure (PUnit.unit, store) := rfl
      simp only [Plan.printAll, StateT.run_bind, hline, bind_assoc, pure_bind, ih]

theorem printAll_concat (lines : List String) (last : String) :
    Plan.printAll host (lines ++ [last])
      = Plan.printAll host lines >>= fun _ => host.printLine last := by
  induction lines with
  | nil => simp [Plan.printAll]
  | cons line rest ih => simp only [List.cons_append, Plan.printAll, ih, bind_assoc]

/-- A run that changes nothing prints some lines. -/
theorem run_idle (change : Change) (settings : RunSettings)
    (hidle : plan.job.dryRun = true ∨
      (store.documents plan.job.target.collection).count plan.filter = 0) :
    ∃ lines outcome total,
      (plan.run host.withState Store.connection change settings).run store
        = Plan.printAll host lines >>= fun _ => pure (.ok (.idle outcome total), store) := by
  have hcoloured (line : String) :
      (Host.printColoured (host.withState : Host (StateT Store m)) .yellow line).run store
        = host.printLine (host.palette.paint .yellow line) >>= fun _ => pure (PUnit.unit, store) :=
    rfl
  rw [Plan.run, StateT.run_bind, countMatches_store, pure_bind]
  simp only [StateT.run_bind, printAll_withState, bind_assoc, pure_bind]
  generalize (store.documents plan.job.target.collection).count plan.filter = total at hidle ⊢
  have hlast (notice : String) (outcome : Outcome) (total' : Nat) :
      (Plan.printAll host (plan.job.summary change.operation host.palette total) >>= fun _ =>
        (Host.printColoured (host.withState : Host (StateT Store m)) .yellow notice >>= fun _ =>
          pure (.ok (.idle outcome total'))).run store)
      = Plan.printAll host (plan.job.summary change.operation host.palette total
          ++ [host.palette.paint .yellow notice]) >>= fun _ =>
            pure ((.ok (.idle outcome total') : Except BulkError Report), store) := by
    simp only [printAll_concat, StateT.run_bind, hcoloured, bind_assoc, pure_bind, StateT.run_pure]
  by_cases hnone : total = 0
  · exact ⟨_, _, _, by rw [if_pos hnone]; exact hlast _ _ _⟩
  · exact ⟨_, _, _, by rw [if_neg hnone, if_pos (hidle.resolve_right hnone)]; exact hlast _ _ _⟩

end Idle

/-! ## Runs that are saved -/

section Saving

variable {host : Host (StateM σ)} {path name : String} {ready : Ready} {op : Operation}
  {listens : Bool} {store : Store} {writes writes' : List Write} {s s' : σ}

/-- One action after another, each in the state that the one before it left. -/
theorem run_bind_of {S ρ α β : Type} {act : StateT S (StateM ρ) α} {next : α → StateT S (StateM ρ) β}
    {st st' : S} {r r' : ρ} {a : α} (h : (act.run st).run r = ((a, st'), r')) :
    ((act >>= next).run st).run r = ((next a).run st').run r' := by
  have hbind : ((act >>= next).run st).run r
      = ((next ((act.run st).run r).1.1).run ((act.run st).run r).1.2).run ((act.run st).run r).2 :=
    rfl
  rw [hbind, h]

/-- A line of the log is no write. -/
theorem log_journaled (host : Host (StateM σ)) (level : Level) (line : String) (store : Store)
    (writes : List Write) (s : σ) :
    ((liftM (host.journaled.log level line) : StateT Store (StateM (List Write × σ)) Unit).run
      store).run (writes, s) = (((), store), writes, ((host.log level line).run s).2) :=
  rfl

/-- After a failure the collection is saved. -/
theorem saveAfterFailure_journaled (host : Host (StateM σ))
    (hpath : store.path? name = some path) (op : Operation) (cause : BulkError)
    (writes : List Write) (s : σ) :
    ∃ writes' s', ((saveAfterFailure host.journaled op name cause).run store).run (writes, s)
        = (((), store), writes', s') ∧
      SavedLast host path (Store.fileText (store.documents name)) writes' s' := by
  obtain ⟨answer, writes', s', hsave, hlast⟩ := save_journaled host hpath writes
    ((host.log .error (op.name ++ " failed, err: " ++ cause.message)).run s).2
  rw [saveAfterFailure, run_bind_of (log_journaled host _ _ store writes s), run_bind_of hsave]
  cases answer with
  | ok _ => exact ⟨writes', s', rfl, hlast⟩
  | error e => exact ⟨writes', _, rfl, hlast.of_read fun h => h.logged _ _ _⟩

/-- After a run that handled documents the collection is saved. -/
theorem saveAfterRun_journaled (host : Host (StateM σ))
    (hpath : store.path? name = some path) (op : Operation) {report : Report}
    (hsome : report.processed ≠ 0) (writes : List Write) (s : σ) :
    ∃ answer writes' s', ((saveAfterRun host.journaled op name report).run store).run (writes, s)
        = ((answer, store), writes', s') ∧
      SavedLast host path (Store.fileText (store.documents name)) writes' s' := by
  obtain ⟨answer, writes', s', hsave, hlast⟩ := save_journaled host hpath writes s
  rw [saveAfterRun, if_neg hsome, run_bind_of hsave]
  cases answer with
  | error e => exact ⟨_, writes', s', rfl, hlast⟩
  | ok path => exact ⟨_, writes', _, rfl, hlast.of_read fun h => h.logged _ _ _⟩

/-- A run that does not report to have handled nothing is followed by the saving of its collection. -/
theorem execute_saves (op : Operation) {result : Except BulkError Report}
    (hrun : ((ready.plan.run host.journaled.withState Store.connection ready.change
      { listens := listens }).run ready.store).run (writes, s) = ((result, store), writes', s'))
    (hpath : store.path? ready.plan.job.target.collection = some path)
    (hsome : ∀ report, result = .ok report → report.processed ≠ 0) :
    ∃ answer writes'' s'',
      ((ready.execute host.journaled op listens).run ready.store).run (writes, s)
        = ((answer, store), writes'', s'') ∧
      SavedLast host path (Store.fileText (store.documents ready.plan.job.target.collection))
        writes'' s'' := by
  rw [Ready.execute, run_bind_of hrun]
  cases result with
  | error e =>
      obtain ⟨writes'', s'', hsave, hlast⟩ := saveAfterFailure_journaled host hpath op e writes' s'
      rw [run_bind_of hsave]
      exact ⟨_, writes'', s'', rfl, hlast⟩
  | ok report =>
      obtain ⟨answer, writes'', s'', hsave, hlast⟩ :=
        saveAfterRun_journaled host hpath op (hsome report rfl) writes' s'
      dsimp only
      rw [run_bind_of hsave]
      cases answer with
      | error e => exact ⟨_, writes'', s'', rfl, hlast⟩
      | ok _ => exact ⟨_, writes'', s'', rfl, hlast⟩

theorem printAll_journaled (host : Host (StateM σ)) (lines : List String) (writes : List Write)
    (s : σ) : ∃ s', (Plan.printAll host.journaled lines).run (writes, s) = ((), writes, s') := by
  induction lines generalizing s with
  | nil => exact ⟨s, rfl⟩
  | cons line rest ih => exact ih ((host.printLine line).run s).2

/-- A run that changes nothing is not followed by any saving. -/
theorem execute_idle (host : Host (StateM σ)) (ready : Ready) (op : Operation) (listens : Bool)
    (hidle : ready.plan.job.dryRun = true ∨
      (ready.store.documents ready.plan.job.target.collection).count ready.plan.filter = 0)
    (writes : List Write) (s : σ) :
    ∃ answer s', ((ready.execute host.journaled op listens).run ready.store).run (writes, s)
      = ((answer, ready.store), writes, s') := by
  obtain ⟨lines, outcome, total, hrun⟩ := run_idle host.journaled ready.plan ready.store ready.change
    { listens := listens } hidle
  obtain ⟨s', hprinted⟩ := printAll_journaled host lines writes s
  have hran : ((ready.plan.run host.journaled.withState Store.connection ready.change
      { listens := listens }).run ready.store).run (writes, s)
        = ((.ok (.idle outcome total), ready.store), writes, s') := by
    rw [hrun, StateT.run_bind, hprinted]
    rfl
  rw [Ready.execute, run_bind_of hran]
  exact ⟨_, s', rfl⟩

/-- After the run and the saving nothing more is written. -/
theorem carryOut_after {answer : Except CommandError Report}
    (h : ((ready.execute host.journaled op listens).run ready.store).run (writes, s)
      = ((answer, store), writes', s')) :
    ∃ status s'', (ready.carryOut host.journaled op listens).run (writes, s)
        = (status, writes', s'') ∧
      ∀ path, host.Retains path →
        ((host.files.read path).run s'').1 = ((host.files.read path).run s').1 := by
  have hexecuted : ((ready.execute host.journaled op listens).run' ready.store).run (writes, s)
      = (answer, writes', s') := by
    change ((((ready.execute host.journaled op listens).run ready.store).run (writes, s)).1.1,
      (((ready.execute host.journaled op listens).run ready.store).run (writes, s)).2) = _
    rw [h]
  rw [Ready.carryOut, StateT.run_bind, hexecuted]
  cases answer with
  | error e => exact ⟨_, s', rfl, fun _ _ => rfl⟩
  | ok report =>
      exact ⟨_, _, rfl, fun _ hretains => (hretains.printed _ _).trans (hretains.timed _)⟩

/-- With a journal a run over a store is still the run over the store on trial. -/
theorem run_journaled (host : Host (StateM σ)) (plan : Plan) (change : Change) (settings : RunSettings)
    (store : Store) (writes : List Write) (s : σ) :
    let tried := ((plan.run host.withState (Trial.connection fun _ => none) change settings).run
      (.start store)).run s
    ∃ writes', ((plan.run host.journaled.withState Store.connection change settings).run store).run
      (writes, s) = ((tried.1.1, tried.1.2.store), writes', tried.2) := by
  intro tried
  obtain ⟨hresult, hrest⟩ := run_alike (withState_alike Store (host_unjournaled host)) connection_alike
    plan change settings store writes s
  rw [run_untried host] at hresult hrest
  exact ⟨_, Prod.ext hresult (Prod.ext rfl hrest)⟩

/-- A bulk operation that changes nothing writes nothing. -/
theorem carryOut_idle (host : Host (StateM σ)) (ready : Ready) (op : Operation) (listens : Bool)
    (hidle : ready.plan.job.dryRun = true ∨
      (ready.store.documents ready.plan.job.target.collection).count ready.plan.filter = 0)
    (writes : List Write) (s : σ) :
    ((ready.carryOut host.journaled op listens).run (writes, s)).2.1 = writes := by
  obtain ⟨answer, s', hexecuted⟩ := execute_idle host ready op listens hidle writes s
  obtain ⟨status, s'', hcarried, -⟩ := carryOut_after hexecuted
  rw [hcarried]

/-- A bulk operation that hands a batch to its store saves the collection after that. -/
theorem carryOut_saves (host : Host (StateM σ)) (ready : Ready) (op : Operation) (listens : Bool)
    (hpath : ready.store.path? ready.plan.job.target.collection = some path)
    (writes : List Write) (s : σ) :
    let tried := ((ready.plan.run host.withState (Trial.connection fun _ => none) ready.change
      { listens := listens }).run (.start ready.store)).run s
    let ended := (ready.carryOut host.journaled op listens).run (writes, s)
    tried.1.2.handed ≠ [] →
      SavedLast host path (Store.fileText (tried.1.2.documents ready.plan.job.target.collection))
        ended.2.1 ended.2.2 := by
  intro tried ended hhanded
  have htold : Told ready.store.folder tried.1.1 tried.1.2 :=
    yields_told host (fun _ => none) ready.plan ready.change { listens := listens } ready.store s
  have hsame : tried.1.2.store.path? ready.plan.job.target.collection = some path := by
    rw [← hpath, Store.path?, Store.path?, htold.folder]
  obtain ⟨writes', hrun⟩ := run_journaled host ready.plan ready.change { listens := listens }
    ready.store writes s
  obtain ⟨answer, writes'', s', hexecuted, hlast⟩ := execute_saves op hrun hsame
    fun report hreport hnone => hhanded (htold.told report hreport hnone)
  obtain ⟨status, s'', hcarried, hread⟩ := carryOut_after hexecuted
  have hended : ended = (status, writes'', s'') := hcarried
  rw [hended]
  exact hlast.of_read (hread path)

end Saving

/-! ## Commands -/

/-- The files of a rehearsal retain what they are given. -/
theorem Rehearsal.retains (coloured : Bool) (path : String) :
    (Rehearsal.host coloured).Retains path where
  replaced := fun text r h => r.tree.read_replace path (.text text) h
  printed := fun _ _ => rfl
  logged := fun _ _ _ => rfl
  timed := fun _ => rfl

/-- The file of the collection of a bulk operation. -/
def BulkOptions.path (options : BulkOptions) (settings : Settings) : String :=
  Route.join (options.folder settings) (options.collection ++ ".ndjson")

/-- Once a batch was handed to the store, the last thing that a bulk operation does to files is to save the
collection as the run left it, however the run and the operation end.  A bulk operation that does not get
to its run, only counts, or finds nothing to do writes no file.  (The run over the store on trial is the
run itself, and tells besides what was handed to the store.) -/
theorem runBulk_saves (host : Host (StateM σ)) (settings : Settings) (options : BulkOptions)
    (op : Operation) (update : Option String) (listens : Bool) (s : σ) :
    let ended := (runBulk host.journaled settings options op update listens).run ([], s)
    (ended.1, ended.2.2) = (runBulk host settings options op update listens).run s ∧
      match (prepare host settings options op update).run s with
      | (.error e, s') => ended = (.error e, [], s')
      | (.ok ready, s') =>
        let ran := ((ready.plan.run host.withState Store.connection ready.change
          { listens := listens }).run ready.store).run s'
        let tried := ((ready.plan.run host.withState (Trial.connection fun _ => none) ready.change
          { listens := listens }).run (.start ready.store)).run s'
        ran.1 = (tried.1.1, tried.1.2.store) ∧
        (options.dryRun = true ∨
            (ready.store.documents options.collection).count ready.plan.filter = 0 →
          ended.2.1 = []) ∧
        (tried.1.2.handed ≠ [] →
          SavedLast host (options.path settings)
            (Store.fileText (ran.1.2.documents options.collection)) ended.2.1 ended.2.2) := by
  intro ended
  refine ⟨runBulk_journaled host settings options op update listens [] s, ?_⟩
  have hprepared := prepare_journaled host settings options op update [] s
  cases hprepare : (prepare host settings options op update).run s with
  | mk answer s' =>
      rw [hprepare] at hprepared
      cases answer with
      | error e => exact runBulk_of_error listens hprepared
      | ok ready =>
          have hended : ended = (ready.carryOut host.journaled op listens).run ([], s') :=
            runBulk_of_ready listens hprepared
          obtain ⟨⟨database, hjob⟩, hfolder⟩ := prepare_ready hprepare
          have hname : ready.plan.job.target.collection = options.collection := by
            rw [hjob]
            rfl
          have hdry : ready.plan.job.dryRun = options.dryRun := by
            rw [hjob]
            rfl
          have hpath : ready.store.path? ready.plan.job.target.collection
              = some (options.path settings) := by
            rw [Store.path?, hfolder, hname]
            rfl
          have hsaves := carryOut_saves host ready op listens hpath [] s'
          rw [← hended, hname] at hsaves
          have huntried := run_untried host ready.plan ready.change { listens := listens }
            ready.store s'
          dsimp only
          rw [huntried]
          refine ⟨rfl, fun hidle => ?_, hsaves⟩
          rw [← hname, ← hdry] at hidle
          rw [hended]
          exact carryOut_idle host ready op listens hidle [] s'

/-- A collection of one document, which is deleted, in a file that can be written: after that the file
has the text of the documents that the run left. -/
theorem runBulk_saves_of_deletion :
    let start : Rehearsal :=
      { tree := ⟨[("data", .folder [("users.ndjson", .file (.text "\x7b\x7d\n"))])], []⟩ }
    let options : BulkOptions := { dataFolder := some "/data", collection := "users" }
    let ended := (runBulk (Rehearsal.host false).journaled {} options .delete none false).run
      ([], start)
    ∃ ready s', (prepare (Rehearsal.host false) {} options .delete none).run start = (.ok ready, s') ∧
      let ran := ((ready.plan.run (Rehearsal.host false).withState Store.connection ready.change
        { listens := false }).run ready.store).run s'
      ended.2.2.tree.read "/data/users.ndjson"
        = .ok (.text (Store.fileText (ran.1.2.documents "users"))) := by
  intro start options
  have hends := (runBulk_saves (Rehearsal.host false) {} options .delete none false start).2
  have hpath : options.path {} = "/data/users.ndjson" := by decide +kernel
  have hhanded : (let prepared := (prepare (Rehearsal.host false) {} options .delete none).run start
      prepared.1.toOption.any fun ready =>
        let tried := ((ready.plan.run (Rehearsal.host false).withState
          (Trial.connection fun _ => none) ready.change { listens := false }).run
            (.start ready.store)).run prepared.2
        !tried.1.2.handed.isEmpty) = true := by decide +kernel
  have hwritten : ((runBulk (Rehearsal.host false).journaled {} options .delete none false).run
      ([], start)).2.1.getLast?.any Write.succeeded = true := by decide +kernel
  generalize (runBulk (Rehearsal.host false).journaled {} options .delete none false).run
    ([], start) = ended at hends hwritten ⊢
  cases hprepare : (prepare (Rehearsal.host false) {} options .delete none).run start with
  | mk answer s' =>
      rw [hprepare] at hends hhanded
      cases answer with
      | error e => cases hhanded
      | ok ready =>
          obtain ⟨-, -, hsaves⟩ := hends
          have hsaved := hsaves (by simpa [Except.toOption] using hhanded)
          rw [hpath] at hsaved
          exact ⟨ready, s', rfl, hsaved.read_of_success (Rehearsal.retains false _) hwritten⟩

end BulkSweep

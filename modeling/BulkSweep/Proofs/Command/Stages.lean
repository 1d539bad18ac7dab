import BulkSweep.Command.Run
import BulkSweep.Proofs.Run.Likeness

/-!
# The stages of a bulk operation

A bulk operation first checks what it is asked for and reads its collection; then it runs its job on the
collection and writes it back (`runBulk_eq`).
-/

set_option autoImplicit false

namespace BulkSweep

/-- A bulk operation that is checked, with its collection in memory. -/
structure Ready where
  /-- the clock when it began -/
  began : Nat
  /-- the job, with its filter -/
  plan : Plan
  /-- what the job does -/
  change : Change
  /-- the store with the collection -/
  store : Store

variable {m : Type → Type} [Monad m]

/-- What a bulk operation does before its run. -/
def prepare (host : Host m) (settings : Settings) (options : BulkOptions) (op : Operation)
    (update : Option String) : m (Except CommandError Ready) := do
  let began ← host.clock
  let folder := options.folder settings
  let database := (← host.files.ownName? folder).getD "local"
  match unsupportedUpdate? update with
  | some cause => return .error (.unsupported cause)
  | none =>
    match (options.job settings database update).plan with
    | .error e => return .error (.job e)
    | .ok plan =>
      let (answer, store) ← (Store.load host plan.job.target.collection).run (.empty (some folder))
      match answer with
      | .error e => return .error (.store e)
      | .ok _ =>
        match ← plan.job.announceChange host op with
        | .error e => return .error (.job e)
        | .ok change => return .ok ⟨began, plan, change, store⟩

namespace Ready

/-- The run of a job, and the saving of its collection. -/
def execute (ready : Ready) (host : Host m) (op : Operation) (listens : Bool) :
    StateT Store m (Except CommandError Report) := do
  let collection := ready.plan.job.target.collection
  match ← ready.plan.run host.withState Store.connection ready.change { listens := listens } with
  | .error e =>
    saveAfterFailure host op collection e
    return .error (.job e)
  | .ok report =>
    match ← saveAfterRun host op collection report with
    | .error e => return .error (.store e)
    | .ok _ => return .ok report

/-- What a bulk operation does from its run on. -/
def carryOut (ready : Ready) (host : Host m) (op : Operation) (listens : Bool) :
    m (Except CommandError Status) := do
  match ← (ready.execute host op listens).run' ready.store with
  | .error e => return .error e
  | .ok report =>
    let elapsed := elapsedText ((← host.clock) - ready.began)
    host.printLine ("Cost: " ++ host.palette.paint .green elapsed)
    return .ok report.outcome.status

end Ready

/-- A bulk operation is prepared and then carried out. -/
theorem runBulk_eq [LawfulMonad m] (host : Host m) (settings : Settings) (options : BulkOptions)
    (op : Operation) (update : Option String) (listens : Bool) :
    runBulk host settings options op update listens =
      (prepare host settings options op update >>= fun answer =>
        match answer with
        | .error e => pure (.error e)
        | .ok ready => ready.carryOut host op listens) := by
  unfold runBulk prepare
  simp only [bind_assoc]
  refine bind_congr fun began => bind_congr fun own => ?_
  generalize unsupportedUpdate? update = unsupported
  cases unsupported with
  | some cause => simp only [pure_bind]
  | none =>
      generalize (options.job settings (own.getD "local") update).plan = checked
      cases checked with
      | error e => simp only [pure_bind]
      | ok plan =>
          simp only [bind_assoc, runOnStore, StateT.run'_eq, StateT.run_bind, bind_map_left]
          refine bind_congr fun loaded => ?_
          obtain ⟨answer, store⟩ := loaded
          cases answer with
          | error e => simp only [pure_bind, StateT.run_pure]
          | ok count =>
              simp only [bind_assoc, StateT.run_bind, StateT.run_monadLift, monadLift_self, pure_bind]
              refine bind_congr fun announced => ?_
              cases announced with
              | error e => simp only [pure_bind, StateT.run_pure]
              | ok change =>
                  -- both sides run the job, save its collection, and tell how long it all took
                  simp only [pure_bind, StateT.run_bind, bind_assoc]
                  refine Eq.symm ((bind_map_left (m := m) _ _ _).trans ?_)
                  exact bind_assoc (m := m) _ _ _

/-! ## What is ready -/

section Prepared

variable {σ : Type}

theorem Job.plan_job {job : Job} {plan : Plan} (h : job.plan = .ok plan) : plan.job = job := by
  unfold Job.plan at h
  split at h
  · cases h
  · split at h
    · cases h
    · cases h
      rfl

/-- Loading leaves a store its folder. -/
theorem yields_load (host : Host (StateM σ)) (name : String) (store : Store) :
    Yields (Store.load host name) store fun _ store' => store'.folder = store.folder := by
  refine yields_get_bind ?_
  cases store.path? name with
  | none => exact yields_pure rfl
  | some path =>
      refine yields_bind ((bystander_lift (Store.readFile host path)).yields fun answer => ?_)
      cases answer with
      | error e => exact yields_pure rfl
      | ok docs =>
          refine yields_bind ((bystander_lift (Store.withIds host docs)).yields fun docs => ?_)
          refine yields_bind ((bystander_lift (host.log _ _)).yields fun _ => ?_)
          exact yields_modify_bind (yields_pure rfl)

/-- What is ready has the job that was asked for, and its store has the folder. -/
theorem prepare_ready {host : Host (StateM σ)} {settings : Settings} {options : BulkOptions}
    {op : Operation} {update : Option String} {s s' : σ} {ready : Ready}
    (h : (prepare host settings options op update).run s = (.ok ready, s')) :
    (∃ database, ready.plan.job = options.job settings database update) ∧
      ready.store.folder = some (options.folder settings) := by
  have hbind {α β : Type} (act : StateM σ α) (next : α → StateM σ β) (s : σ) :
      (act >>= next).run s = (next (act.run s).1).run (act.run s).2 := rfl
  rw [prepare, hbind, hbind] at h
  cases hunsupported : unsupportedUpdate? update with
  | some cause =>
      rw [hunsupported] at h
      cases h
  | none =>
      rw [hunsupported] at h
      dsimp only at h
      split at h
      · cases h
      · rename_i plan hplan
        have hfolder := yields_load host plan.job.target.collection
          (.empty (some (options.folder settings)))
        rw [hbind] at h
        split at h
        · cases h
        · rw [hbind] at h
          split at h
          · cases h
          · cases h
            exact ⟨⟨_, Job.plan_job hplan⟩, hfolder _⟩

/-- A bulk operation that does not get ready ends as it is. -/
theorem runBulk_of_error {host : Host (StateM σ)} {settings : Settings} {options : BulkOptions}
    {op : Operation} {update : Option String} (listens : Bool) {s s' : σ} {e : CommandError}
    (h : (prepare host settings options op update).run s = (.error e, s')) :
    (runBulk host settings options op update listens).run s = (.error e, s') := by
  rw [runBulk_eq, StateT.run_bind, h]
  rfl

/-- A bulk operation that is ready is carried out. -/
theorem runBulk_of_ready {host : Host (StateM σ)} {settings : Settings} {options : BulkOptions}
    {op : Operation} {update : Option String} (listens : Bool) {s s' : σ} {ready : Ready}
    (h : (prepare host settings options op update).run s = (.ok ready, s')) :
    (runBulk host settings options op update listens).run s
      = (ready.carryOut host op listens).run s' := by
  rw [runBulk_eq, StateT.run_bind, h]
  rfl

end Prepared

/-! ## Likeness -/

section Likeness

variable {m' : Type → Type} [Monad m'] {L : Likeness m m'} {h : Host m} {h' : Host m'}

/-- Hosts that are alike in what loading needs. -/
structure Host.LoadsAlike (L : Likeness m m') (h : Host m) (h' : Host m') : Prop where
  log : ∀ level line, L.Like (h.log level line) (h'.log level line)
  clock : L.Like h.clock h'.clock
  newId : L.Like h.newId h'.newId
  read : ∀ path, L.Like (h.files.read path) (h'.files.read path)
  ownName? : ∀ path, L.Like (h.files.ownName? path) (h'.files.ownName? path)

/-- Hosts that are alike in what saving needs. -/
structure Host.SavesAlike (L : Likeness m m') (h : Host m) (h' : Host m') : Prop where
  makeFolders : ∀ path, L.Like (h.files.makeFolders path) (h'.files.makeFolders path)
  replace : ∀ path text, L.Like (h.files.replace path text) (h'.files.replace path text)

theorem withIds_alike (hhost : h.LoadsAlike L h') (docs : Collection) :
    L.Like (Store.withIds h docs) (Store.withIds h' docs) := by
  induction docs with
  | nil => exact L.pure _
  | cons d rest ih => exact L.bind hhost.newId fun _ => L.bind ih fun _ => L.pure _

theorem readFile_alike (hhost : h.LoadsAlike L h') (path : String) :
    L.Like (Store.readFile h path) (Store.readFile h' path) := by
  refine L.bind (hhost.read path) fun answer => ?_
  cases answer with
  | ok content => exact L.pure _
  | error cause =>
      cases cause with
      | notFound => exact L.bind (hhost.log _ _) fun _ => L.pure _
      | _ => exact L.pure _

theorem load_alike (hhost : h.LoadsAlike L h') (name : String) :
    (L.withState Store).Like (Store.load h name) (Store.load h' name) := by
  refine Likeness.bind _ Likeness.got fun store => ?_
  cases store.path? name with
  | none => exact Likeness.pure _ _
  | some path =>
      refine Likeness.bind _ (Likeness.lifted (readFile_alike hhost path)) fun answer => ?_
      cases answer with
      | error e => exact Likeness.pure _ _
      | ok docs =>
          refine Likeness.bind _ (Likeness.lifted (withIds_alike hhost docs)) fun docs => ?_
          refine Likeness.bind _ (Likeness.lifted (hhost.log _ _)) fun _ => ?_
          exact Likeness.bind _ (Likeness.modified _) fun _ => Likeness.pure _ _

theorem announceChange_alike (hhost : h.LoadsAlike L h') (job : Job) (op : Operation) :
    L.Like (job.announceChange h op) (job.announceChange h' op) := by
  unfold Job.announceChange
  cases job.change op with
  | error cause => exact L.pure _
  | ok change =>
      dsimp only
      cases change.warning? with
      | none => exact L.pure _
      | some line => exact L.bind (hhost.log _ _) fun _ => L.pure _

/-- Bulk operations are prepared alike. -/
theorem prepare_alike (hhost : h.LoadsAlike L h') (settings : Settings) (options : BulkOptions)
    (op : Operation) (update : Option String) :
    L.Like (prepare h settings options op update) (prepare h' settings options op update) := by
  refine L.bind hhost.clock fun began => L.bind (hhost.ownName? _) fun own => ?_
  dsimp only
  cases unsupportedUpdate? update with
  | some cause => exact L.pure _
  | none =>
      cases (options.job settings (own.getD "local") update).plan with
      | error e => exact L.pure _
      | ok plan =>
          refine L.bind (load_alike hhost _ _) fun (answer, store) => ?_
          cases answer with
          | error e => exact L.pure _
          | ok count =>
              refine L.bind (announceChange_alike hhost _ op) fun answer => ?_
              cases answer with
              | error e => exact L.pure _
              | ok change => exact L.pure _

theorem withState_alike (S : Type) (hhost : h.Alike L h') :
    (h.withState : Host (StateT S m)).Alike (L.withState S) h'.withState where
  palette := hhost.palette
  print := fun text => Likeness.lifted (hhost.print text)
  log := fun level line => Likeness.lifted (hhost.log level line)
  clock := Likeness.lifted hhost.clock
  timestamp := Likeness.lifted hhost.timestamp
  sleep := fun reason nanos => Likeness.lifted (hhost.sleep reason nanos)
  draw := Likeness.lifted hhost.draw
  listen := Likeness.lifted hhost.listen
  interrupted := Likeness.lifted hhost.interrupted
  overflow := fun cause => Likeness.lifted (hhost.overflow cause)
  append := fun path text => Likeness.lifted (hhost.append path text)

theorem connection_alike :
    (Store.connection : Connection (StateT Store m)).Alike (L.withState Store) Store.connection where
  count := fun _ _ => Likeness.bind _ Likeness.got fun _ => Likeness.pure _ _
  openCursor := fun _ _ => Likeness.bind _ Likeness.got fun _ => Likeness.pure _ _
  deleteByIds := fun _ _ => Likeness.bind _ Likeness.got fun _ =>
    Likeness.bind _ (Likeness.modified _) fun _ => Likeness.pure _ _
  updateByIds := fun _ _ _ => Likeness.bind _ Likeness.got fun _ =>
    Likeness.bind _ (Likeness.modified _) fun _ => Likeness.pure _ _

theorem save_alike (hhost : h.Alike L h') (hsaves : h.SavesAlike L h') (name : String) :
    (L.withState Store).Like (Store.save h name) (Store.save h' name) := by
  refine Likeness.bind _ Likeness.got fun store => ?_
  cases store.path? name with
  | none => exact Likeness.pure _ _
  | some path =>
      refine Likeness.bind _ (Likeness.lifted (hsaves.makeFolders _)) fun answer => ?_
      cases answer with
      | error cause => exact Likeness.pure _ _
      | ok _ =>
          refine Likeness.bind _ (Likeness.lifted (hsaves.replace _ _)) fun answer => ?_
          cases answer with
          | error cause => exact Likeness.pure _ _
          | ok _ =>
              exact Likeness.bind _ (Likeness.lifted (hhost.log _ _)) fun _ => Likeness.pure _ _

theorem execute_alike (hhost : h.Alike L h') (hsaves : h.SavesAlike L h') (ready : Ready)
    (op : Operation) (listens : Bool) :
    (L.withState Store).Like (ready.execute h op listens) (ready.execute h' op listens) := by
  refine Likeness.bind _ (run_alike (withState_alike Store hhost) connection_alike _ _ _)
    fun answer => ?_
  cases answer with
  | error e =>
      refine Likeness.bind _ ?_ fun _ => Likeness.pure _ _
      refine Likeness.bind _ (Likeness.lifted (hhost.log _ _)) fun _ => ?_
      refine Likeness.bind _ (save_alike hhost hsaves _) fun answer => ?_
      cases answer with
      | ok _ => exact Likeness.pure _ _
      | error e => exact Likeness.lifted (hhost.log _ _)
  | ok report =>
      refine Likeness.bind _ ?_ fun answer => ?_
      · unfold saveAfterRun
        refine Likeness.ite (Likeness.pure _ _) ?_
        refine Likeness.bind _ (save_alike hhost hsaves _) fun answer => ?_
        cases answer with
        | error e => exact Likeness.pure _ _
        | ok path =>
            refine Likeness.bind _ Likeness.got fun store => ?_
            exact Likeness.bind _ (Likeness.lifted (hhost.log _ _)) fun _ => Likeness.pure _ _
      · cases answer with
        | error e => exact Likeness.pure _ _
        | ok _ => exact Likeness.pure _ _

/-- Bulk operations are carried out alike. -/
theorem carryOut_alike (hhost : h.Alike L h') (hsaves : h.SavesAlike L h') (ready : Ready)
    (op : Operation) (listens : Bool) :
    L.Like (ready.carryOut h op listens) (ready.carryOut h' op listens) := by
  refine L.bind (L.map Prod.fst (execute_alike hhost hsaves ready op listens ready.store))
    fun answer => ?_
  cases answer with
  | error e => exact L.pure _
  | ok report =>
      refine L.bind hhost.clock fun now => ?_
      dsimp only
      rw [hhost.palette]
      exact L.bind (hhost.print _) fun _ => L.pure _

/-- Bulk operations are alike. -/
theorem runBulk_alike [LawfulMonad m] [LawfulMonad m'] (hhost : h.Alike L h')
    (hloads : h.LoadsAlike L h') (hsaves : h.SavesAlike L h') (settings : Settings)
    (options : BulkOptions) (op : Operation) (update : Option String) (listens : Bool) :
    L.Like (runBulk h settings options op update listens)
      (runBulk h' settings options op update listens) := by
  rw [runBulk_eq, runBulk_eq]
  refine L.bind (prepare_alike hloads settings options op update) fun answer => ?_
  cases answer with
  | error e => exact L.pure _
  | ok ready => exact carryOut_alike hhost hsaves ready op listens

end Likeness

end BulkSweep

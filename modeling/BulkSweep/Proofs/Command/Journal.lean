import BulkSweep.Proofs.Command.Stages

/-!
# Journals

A journal holds what a program does to files, in order, with what came of it.  Any host can keep one: it
does and answers what it did before.  Preparing a bulk operation writes nothing (`prepare_journaled`);
saving a collection makes its folder and then gives its file the text of its documents, unless one of
the two fails (`save_journaled`).
-/

set_option autoImplicit false

namespace BulkSweep

/-- Something that was done to files, with what came of it. -/
inductive Write where
  /-- a folder was made, with all folders above it -/
  | folders (path : String) (answer : Except FileError Unit)
  /-- a file was given a new text -/
  | replaced (path text : String) (answer : Except FileError Unit)
  /-- a text was added to the end of a file -/
  | appended (path text : String) (answer : Except FileError Unit)
  deriving Repr

/-- Whether it came about. -/
def Write.succeeded : Write → Bool
  | .folders _ answer | .replaced _ _ answer | .appended _ _ answer => answer.isOk

variable {σ α : Type}

/-! ## Hosts that keep a journal -/

/-- Does something that writes no file. -/
def unwritten (act : StateM σ α) : StateM (List Write × σ) α := fun (writes, s) =>
  let (answer, s) := act.run s
  (answer, writes, s)

/-- Does something to a file and writes it down. -/
def written (act : StateM σ α) (write : α → Write) : StateM (List Write × σ) α := fun (writes, s) =>
  let (answer, s) := act.run s
  (answer, writes ++ [write answer], s)

theorem written_run (act : StateM σ α) (write : α → Write) (writes : List Write) (s : σ) :
    (written act write).run (writes, s)
      = pure ((act.run s).1, writes ++ [write (act.run s).1], (act.run s).2) :=
  rfl

/-- The files of a host, with a journal of what is done to them. -/
def FileAccess.journaled (files : FileAccess (StateM σ)) :
    FileAccess (StateM (List Write × σ)) where
  read := fun path => unwritten (files.read path)
  isFile := fun path => unwritten (files.isFile path)
  makeFolders := fun path => written (files.makeFolders path) (.folders path)
  replace := fun path text => written (files.replace path text) (.replaced path text)
  append := fun path text => written (files.append path text) (.appended path text)
  ownName? := fun path => unwritten (files.ownName? path)
  workingFolder := unwritten files.workingFolder

/-- A host with a journal of what is done to its files. -/
def Host.journaled (host : Host (StateM σ)) : Host (StateM (List Write × σ)) where
  palette := host.palette
  print := fun text => unwritten (host.print text)
  log := fun level line => unwritten (host.log level line)
  clock := unwritten host.clock
  timestamp := unwritten host.timestamp
  sleep := fun reason nanos => unwritten (host.sleep reason nanos)
  draw := unwritten host.draw
  newId := unwritten host.newId
  listen := unwritten host.listen
  interrupted := unwritten host.interrupted
  overflow := fun cause => unwritten (host.overflow cause)
  files := host.files.journaled

/-! ## What the journal leaves as it is -/

/-- A program that keeps a journal is like one that does not, if it has the same result and leaves the
rest of the world the same, whatever was written down before. -/
def Likeness.unjournaled : Likeness (StateM (List Write × σ)) (StateM σ) where
  Like := fun act act' => ∀ writes s,
    (act.run (writes, s)).1 = (act'.run s).1 ∧ (act.run (writes, s)).2.2 = (act'.run s).2
  pure := fun _ _ _ => ⟨rfl, rfl⟩
  map := fun f _ _ hact writes s => ⟨congrArg f (hact writes s).1, (hact writes s).2⟩
  bind := by
    intro α β act act' next next' hact hnext writes s
    obtain ⟨hanswer, hstate⟩ := hact writes s
    obtain ⟨hresult, hrest⟩ := hnext (act.run (writes, s)).1 (act.run (writes, s)).2.1
      (act.run (writes, s)).2.2
    refine ⟨hresult.trans ?_, hrest.trans ?_⟩
    · rw [hanswer, hstate]
      rfl
    · rw [hanswer, hstate]
      rfl

/-- It is even the same program if it writes nothing down. -/
def Likeness.unwritten : Likeness (StateM (List Write × σ)) (StateM σ) where
  Like := fun act act' => ∀ writes s,
    act.run (writes, s) = ((act'.run s).1, writes, (act'.run s).2)
  pure := fun _ _ _ => rfl
  map := by
    intro α β f act act' hact writes s
    change (f (act.run (writes, s)).1, (act.run (writes, s)).2) = _
    rw [hact]
    rfl
  bind := by
    intro α β act act' next next' hact hnext writes s
    change (next (act.run (writes, s)).1).run (act.run (writes, s)).2 = _
    rw [hact]
    exact hnext _ _ _

theorem host_unjournaled (host : Host (StateM σ)) : host.journaled.Alike .unjournaled host where
  palette := rfl
  print := fun _ _ _ => ⟨rfl, rfl⟩
  log := fun _ _ _ _ => ⟨rfl, rfl⟩
  clock := fun _ _ => ⟨rfl, rfl⟩
  timestamp := fun _ _ => ⟨rfl, rfl⟩
  sleep := fun _ _ _ _ => ⟨rfl, rfl⟩
  draw := fun _ _ => ⟨rfl, rfl⟩
  listen := fun _ _ => ⟨rfl, rfl⟩
  interrupted := fun _ _ => ⟨rfl, rfl⟩
  overflow := fun _ _ _ => ⟨rfl, rfl⟩
  append := fun _ _ _ _ => ⟨rfl, rfl⟩

theorem saves_unjournaled (host : Host (StateM σ)) : host.journaled.SavesAlike .unjournaled host where
  makeFolders := fun _ _ _ => ⟨rfl, rfl⟩
  replace := fun _ _ _ _ => ⟨rfl, rfl⟩

theorem loads_unjournaled (host : Host (StateM σ)) : host.journaled.LoadsAlike .unjournaled host where
  log := fun _ _ _ _ => ⟨rfl, rfl⟩
  clock := fun _ _ => ⟨rfl, rfl⟩
  newId := fun _ _ => ⟨rfl, rfl⟩
  read := fun _ _ _ => ⟨rfl, rfl⟩
  ownName? := fun _ _ _ => ⟨rfl, rfl⟩

theorem loads_unwritten (host : Host (StateM σ)) : host.journaled.LoadsAlike .unwritten host where
  log := fun _ _ _ _ => rfl
  clock := fun _ _ => rfl
  newId := fun _ _ => rfl
  read := fun _ _ _ => rfl
  ownName? := fun _ _ _ => rfl

section Operations

variable (host : Host (StateM σ)) (settings : Settings) (options : BulkOptions) (op : Operation)
  (update : Option String) (listens : Bool) (writes : List Write) (s : σ)

/-- Nothing is written before the run of a job. -/
theorem prepare_journaled :
    (prepare host.journaled settings options op update).run (writes, s) =
      (((prepare host settings options op update).run s).1, writes,
        ((prepare host settings options op update).run s).2) :=
  prepare_alike (loads_unwritten host) settings options op update writes s

/-- A bulk operation that keeps a journal is the bulk operation itself. -/
theorem runBulk_journaled :
    let ended := (runBulk host.journaled settings options op update listens).run (writes, s)
    (ended.1, ended.2.2) = (runBulk host settings options op update listens).run s := by
  obtain ⟨hresult, hrest⟩ := runBulk_alike (host_unjournaled host) (loads_unjournaled host)
    (saves_unjournaled host) settings options op update listens writes s
  exact Prod.ext hresult hrest

end Operations

/-! ## Saving -/

/-- A host whose file at a path keeps the text that it is given: what is written elsewhere, to the
terminal or to the log, does not get into it. -/
structure Host.Retains (host : Host (StateM σ)) (path : String) : Prop where
  /-- a file that was replaced has the new text -/
  replaced : ∀ text s, ((host.files.replace path text).run s).1 = .ok () →
    ((host.files.read path).run ((host.files.replace path text).run s).2).1 = .ok (.text text)
  /-- a text on the terminal changes nothing in it -/
  printed : ∀ text s,
    ((host.files.read path).run ((host.print text).run s).2).1 = ((host.files.read path).run s).1
  /-- nor does a line of the log -/
  logged : ∀ level line s,
    ((host.files.read path).run ((host.log level line).run s).2).1 = ((host.files.read path).run s).1
  /-- nor does a look at the clock -/
  timed : ∀ s, ((host.files.read path).run (host.clock.run s).2).1 = ((host.files.read path).run s).1

/-- What is written when a file gets a text. -/
def saved (path text : String) : List Write :=
  [.folders (Route.parent path) (.ok ()), .replaced path text (.ok ())]

/-- What is written when a file is to get a text. -/
inductive Attempt (path text : String) : List Write → Prop where
  /-- its folder cannot be made -/
  | noFolder (cause : FileError) : Attempt path text [.folders (Route.parent path) (.error cause)]
  /-- it does not take the text -/
  | refused (cause : FileError) :
      Attempt path text [.folders (Route.parent path) (.ok ()), .replaced path text (.error cause)]
  /-- it has the text -/
  | done : Attempt path text (saved path text)

/-- The last thing that was done to files is the attempt to give the file at a path a text; if that did
not fail, and the host retains what its file is given, the text can be read there. -/
def SavedLast (host : Host (StateM σ)) (path text : String) (writes : List Write) (s : σ) : Prop :=
  ∃ before attempt, writes = before ++ attempt ∧ Attempt path text attempt ∧
    (host.Retains path → attempt = saved path text →
      ((host.files.read path).run s).1 = .ok (.text text))

section Saving

variable {host : Host (StateM σ)} {path name text : String} {store : Store} {writes : List Write}
  {s s' : σ}

/-- What changes nothing in the file can follow. -/
theorem SavedLast.of_read (h : SavedLast host path text writes s)
    (hread : host.Retains path →
      ((host.files.read path).run s').1 = ((host.files.read path).run s).1) :
    SavedLast host path text writes s' := by
  obtain ⟨before, attempt, heq, hattempt, hsaved⟩ := h
  exact ⟨before, attempt, heq, hattempt,
    fun hretains hdone => (hread hretains).trans (hsaved hretains hdone)⟩

/-- If the last write succeeded, the text can be read. -/
theorem SavedLast.read_of_success (h : SavedLast host path text writes s)
    (hretains : host.Retains path) (hlast : writes.getLast?.any Write.succeeded = true) :
    ((host.files.read path).run s).1 = .ok (.text text) := by
  obtain ⟨before, attempt, rfl, hattempt, hread⟩ := h
  cases hattempt with
  | noFolder cause => simp [Write.succeeded, Except.isOk, Except.toBool] at hlast
  | refused cause => simp [Write.succeeded, Except.isOk, Except.toBool] at hlast
  | done => exact hread hretains rfl

/-- A collection is saved by an attempt to give its file the text of its documents. -/
theorem save_journaled (host : Host (StateM σ)) (hpath : store.path? name = some path)
    (writes : List Write) (s : σ) :
    ∃ answer writes' s', ((Store.save host.journaled name).run store).run (writes, s)
        = ((answer, store), writes', s') ∧
      SavedLast host path (Store.fileText (store.documents name)) writes' s' := by
  simp only [Store.save, StateT.run_bind, StateT.run_get, StateT.run_monadLift, monadLift_self, hpath,
    pure_bind, bind_assoc, Host.journaled, FileAccess.journaled, written_run]
  cases hmade : ((host.files.makeFolders (Route.parent path)).run s).1 with
  | error cause =>
      exact ⟨_, _, _, rfl, writes, _, rfl, .noFolder cause, nofun⟩
  | ok _ =>
      simp only [StateT.run_bind, StateT.run_monadLift, monadLift_self, bind_assoc, pure_bind,
        written_run, List.append_assoc]
      cases hreplaced : ((host.files.replace path (Store.fileText (store.documents name))).run
          ((host.files.makeFolders (Route.parent path)).run s).2).1 with
      | error cause =>
          exact ⟨_, _, _, rfl, writes, _, rfl, .refused cause, nofun⟩
      | ok _ =>
          refine ⟨_, _, _, rfl, writes, _, rfl, .done, fun hretains _ => ?_⟩
          exact (hretains.logged _ _ _).trans (hretains.replaced _ _ hreplaced)

end Saving

end BulkSweep

import Mathlib.Data.List.Forall2
import BulkSweep.Command.Run

/-!
# Where settings come from

Each setting is looked for in one source after another: its variable, then the files that are
consulted.  A load succeeds exactly if all of these files hold settings and all variables that are set
hold values, those that are not needed included (`load_eq_ok_iff`), and then it gives each setting as
the first source has it that has it at all (`load_takes_first`).
-/

set_option autoImplicit false

namespace BulkSweep.Settings

open BulkSweep.Numeric

/-! ## One setting -/

/-- What can be set. -/
inductive Key where
  /-- how many documents are changed at once -/
  | batchSize
  /-- how long to wait between batches -/
  | pauseMs
  /-- the folder of the collections -/
  | dataFolder
  /-- the folder of the log -/
  | logFolder
  /-- how much is logged -/
  | logLevel
  /-- how many old logs are kept -/
  | logRetention
  deriving DecidableEq, Repr

namespace Key

/-- The values that a setting can have. -/
abbrev Value : Key → Type
  | batchSize | pauseMs => Int
  | dataFolder | logFolder | logLevel => String
  | logRetention => Nat

/-- The variable for a setting. -/
def name : Key → String
  | batchSize => "DOCBULK_BATCH_SIZE"
  | pauseMs => "DOCBULK_PAUSE_MS"
  | dataFolder => "DOCBULK_DATA_DIR"
  | logFolder => "DOCBULK_LOG_DIR"
  | logLevel => "DOCBULK_LOG_LEVEL"
  | logRetention => "DOCBULK_LOG_RETENTION"

/-- The value that a text stands for in a variable.  Blanks around a number do not matter, and every text
is itself. -/
def read? : (key : Key) → String → Option key.Value
  | batchSize, text | pauseMs, text => readSized 64 (Text.trim text).toList
  | dataFolder, text | logFolder, text | logLevel, text => some text
  | logRetention, text => readWord (Text.trim text).toList

/-- A setting as the environment has it. -/
def inEnvironment (env : Environment) (key : Key) : Option key.Value :=
  (env key.name).bind key.read?

end Key

/-- One of the settings. -/
def get (settings : Settings) : (key : Key) → Option key.Value
  | .batchSize => settings.batchSize
  | .pauseMs => settings.pauseMs
  | .dataFolder => settings.dataFolder
  | .logFolder => settings.logFolder
  | .logLevel => settings.logLevel
  | .logRetention => settings.logRetention

theorem get_orElse (a b : Settings) (key : Key) : (a.orElse b).get key = (a.get key).or (b.get key) := by
  cases key <;> rfl

theorem get_empty (key : Key) : get {} key = none := by
  cases key <;> rfl

theorem eq_of_get {a b : Settings} (h : ∀ key, a.get key = b.get key) : a = b := by
  have hbatch := h .batchSize
  have hpause := h .pauseMs
  have hdata := h .dataFolder
  have hlog := h .logFolder
  have hlevel := h .logLevel
  have hretention := h .logRetention
  cases a
  cases b
  simp_all [get]

/-- The first source that has a setting decides. -/
theorem get_foldl_orElse (layers : List Settings) (start : Settings) (key : Key) :
    (layers.foldl orElse start).get key
      = (start.get key :: layers.map (get · key)).findSome? id := by
  induction layers generalizing start with
  | nil => cases h : start.get key <;> simp [h]
  | cons layer layers ih =>
    rw [List.foldl_cons, ih, get_orElse]
    cases h : start.get key <;> simp

theorem getD_findSome?_cons {α : Type} (given : Option α) (sources : List (Option α)) (last : α) :
    ((given :: sources).findSome? id).getD last = given.getD ((sources.findSome? id).getD last) := by
  cases given <;> rfl

/-! ## The environment -/

/-- Whether every variable that is set holds a value. -/
def Readable (env : Environment) : Prop :=
  ∀ (key : Key) (text : String), env key.name = some text → (key.read? text).isSome

section

variable {α : Type} {read : List Char → Option α} {env : Environment} {name : String}

theorem number_of_readable
    (h : ∀ text, env name = some text → (read (Text.trim text).toList).isSome) :
    number read env name = .ok ((env name).bind fun text => read (Text.trim text).toList) := by
  unfold number
  cases hset : env name with
  | none => rfl
  | some text =>
    obtain ⟨value, hvalue⟩ := Option.isSome_iff_exists.mp (h text hset)
    simp [hvalue]

theorem readable_of_number {n : Option α} (h : number read env name = .ok n) {text : String}
    (hset : env name = some text) : (read (Text.trim text).toList).isSome := by
  unfold number at h
  rw [hset] at h
  cases hread : read (Text.trim text).toList with
  | some value => rfl
  | none => simp [hread] at h

end

/-- The settings in the variables that hold values. -/
def ofVariables (env : Environment) : Settings where
  batchSize := Key.inEnvironment env .batchSize
  pauseMs := Key.inEnvironment env .pauseMs
  dataFolder := Key.inEnvironment env .dataFolder
  logFolder := Key.inEnvironment env .logFolder
  logLevel := Key.inEnvironment env .logLevel
  logRetention := Key.inEnvironment env .logRetention

theorem get_ofVariables (env : Environment) (key : Key) :
    (ofVariables env).get key = Key.inEnvironment env key := by
  cases key <;> rfl

theorem ofEnvironment_of_readable {env : Environment} (h : Readable env) :
    ofEnvironment env = .ok (ofVariables env) := by
  have hbatch : number (readSized 64) env "DOCBULK_BATCH_SIZE"
      = .ok (Key.inEnvironment env .batchSize) := number_of_readable (h .batchSize)
  have hpause : number (readSized 64) env "DOCBULK_PAUSE_MS"
      = .ok (Key.inEnvironment env .pauseMs) := number_of_readable (h .pauseMs)
  have hretention : number readWord env "DOCBULK_LOG_RETENTION"
      = .ok (Key.inEnvironment env .logRetention) := number_of_readable (h .logRetention)
  unfold ofEnvironment
  rw [hbatch, hpause, hretention]
  refine congrArg Except.ok (eq_of_get fun key => ?_)
  cases key with
  | batchSize | pauseMs | logRetention => rfl
  | dataFolder | logFolder | logLevel => exact (Option.bind_fun_some _).symm

theorem readable_of_ofEnvironment {env : Environment} {settings : Settings}
    (h : ofEnvironment env = .ok settings) : Readable env := by
  unfold ofEnvironment at h
  cases hbatch : number (readSized 64) env "DOCBULK_BATCH_SIZE" with
  | error e =>
    rw [hbatch] at h
    cases h
  | ok batchSize =>
    cases hpause : number (readSized 64) env "DOCBULK_PAUSE_MS" with
    | error e =>
      rw [hbatch, hpause] at h
      cases h
    | ok pauseMs =>
      cases hretention : number readWord env "DOCBULK_LOG_RETENTION" with
      | error e =>
        rw [hbatch, hpause, hretention] at h
        cases h
      | ok logRetention =>
        intro key text hset
        cases key with
        | batchSize => exact readable_of_number hbatch hset
        | pauseMs => exact readable_of_number hpause hset
        | logRetention => exact readable_of_number hretention hset
        | dataFolder | logFolder | logLevel => rfl

/-- An environment holds settings exactly if all of its variables that are set hold values, and then it
holds these. -/
theorem ofEnvironment_eq_ok_iff {env : Environment} {settings : Settings} :
    ofEnvironment env = .ok settings ↔ Readable env ∧ settings = ofVariables env := by
  constructor
  · intro h
    have hreadable := readable_of_ofEnvironment h
    have hsame := ofEnvironment_of_readable hreadable
    exact ⟨hreadable, Except.ok.inj (h.symm.trans hsame)⟩
  · rintro ⟨hreadable, rfl⟩
    exact ofEnvironment_of_readable hreadable

/-! ## Files -/

/-- Files as they stand while settings are read. -/
structure Shelf where
  /-- what reading a path answers -/
  read : String → Except FileError Content
  /-- whether a path leads to a file -/
  isFile : String → Bool
  /-- the working folder -/
  working : String

/-- A host whose files stand on a shelf. -/
def onShelf {σ : Type} (host : Host (StateM σ)) (shelf : Shelf) : Host (StateM σ) :=
  { host with
    files := { host.files with
      read := fun path => return shelf.read path
      isFile := fun path => return shelf.isFile path
      workingFolder := return shelf.working } }

namespace Shelf

/-- A path can be read as a text that holds settings. -/
def Holds (shelf : Shelf) (path : String) (settings : Settings) : Prop :=
  ∃ content text fields, shelf.read path = .ok content ∧ content.text? = some text ∧
    Toml.read text = some fields ∧ ofFields fields = some settings

/-- The files that are consulted, in order: the one that the command line names, and those that are
there of the one that the environment names, the one of the user and the one in the working folder. -/
def consulted (shelf : Shelf) (env : Environment) (userFolder named : Option String) : List String :=
  named.toList ++
    ((env "DOCBULK_CONFIG").toList
      ++ (userFolder.map fun folder => Route.join folder "docbulk.toml").toList
      ++ [Route.join shelf.working "docbulk.toml"]).filter shelf.isFile

/-- What is read from a path. -/
def settings (shelf : Shelf) (path : String) : Except SettingsError Settings :=
  match shelf.read path with
  | .error cause => .error (.unreadable path cause)
  | .ok content => ofContent path content

theorem settings_eq_ok_iff {shelf : Shelf} {path : String} {settings : Settings} :
    shelf.settings path = .ok settings ↔ shelf.Holds path settings := by
  unfold Shelf.settings Holds
  cases hread : shelf.read path with
  | error cause => simp
  | ok content =>
    cases htext : content.text? with
    | none => simp [ofContent, htext]
    | some text =>
      cases hfields : Toml.read text with
      | none => simp [ofContent, htext, hfields]
      | some fields =>
        cases hsettings : ofFields fields <;> simp [ofContent, htext, hfields, hsettings]

theorem forall₂_holds_iff {shelf : Shelf} {paths : List String} :
    (∃ layers, List.Forall₂ shelf.Holds paths layers) ↔
      ∀ path ∈ paths, ∃ settings, shelf.Holds path settings := by
  induction paths with
  | nil => exact iff_of_true ⟨[], .nil⟩ (by simp)
  | cons path paths ih =>
    rw [List.forall_mem_cons, ← ih]
    constructor
    · rintro ⟨_, hlayers⟩
      obtain ⟨layer, layers, hlayer, hmore, rfl⟩ := List.forall₂_cons_left_iff.mp hlayers
      exact ⟨⟨layer, hlayer⟩, layers, hmore⟩
    · rintro ⟨⟨layer, hlayer⟩, layers, hmore⟩
      exact ⟨layer :: layers, .cons hlayer hmore⟩

end Shelf

section

variable {σ : Type} (host : Host (StateM σ)) (shelf : Shelf)

theorem readFile_onShelf (path : String) :
    readFile (onShelf host shelf) path = pure (shelf.settings path) := by
  unfold readFile Shelf.settings
  change (pure (shelf.read path) >>= _ : StateM σ _) = _
  rw [pure_bind]
  cases shelf.read path <;> rfl

theorem readCandidates_absent {path : String} (h : shelf.isFile path = false) (paths : List String)
    (start : Settings) :
    readCandidates (onShelf host shelf) (path :: paths) start
      = readCandidates (onShelf host shelf) paths start := by
  rw [readCandidates]
  change (pure (shelf.isFile path) >>= _ : StateM σ _) = _
  rw [pure_bind, h]
  rfl

theorem run_readCandidates_present {path : String} (h : shelf.isFile path = true)
    (paths : List String) (start : Settings) (s : σ) :
    ∃ s', ((readCandidates (onShelf host shelf) (path :: paths) start).run s).1
      = (shelf.settings path).bind fun more =>
          ((readCandidates (onShelf host shelf) paths (start.orElse more)).run s').1 := by
  refine ⟨((host.log .debug ("reading config " ++ path)).run s).2, ?_⟩
  rw [readCandidates, readFile_onShelf]
  change (((pure (shelf.isFile path) >>= _ : StateM σ _)).run s).1 = _
  rw [pure_bind, h]
  cases hread : shelf.settings path <;> rfl

/-- Of the candidates those that are there are read, one after another. -/
theorem readCandidates_eq_ok_iff (paths : List String) (start settings : Settings) (s : σ) :
    ((readCandidates (onShelf host shelf) paths start).run s).1 = .ok settings ↔
      ∃ layers, List.Forall₂ shelf.Holds (paths.filter shelf.isFile) layers ∧
        settings = layers.foldl orElse start := by
  induction paths generalizing start s with
  | nil =>
    constructor
    · intro h
      exact ⟨[], .nil, (Except.ok.inj h).symm⟩
    · rintro ⟨layers, hlayers, rfl⟩
      rw [List.filter_nil, List.forall₂_nil_left_iff] at hlayers
      rw [hlayers]
      rfl
  | cons path paths ih =>
    cases hfile : shelf.isFile path with
    | false =>
      rw [readCandidates_absent host shelf hfile, List.filter_cons_of_neg (by simp [hfile])]
      exact ih start s
    | true =>
      obtain ⟨s', hrun⟩ := run_readCandidates_present host shelf hfile paths start s
      rw [hrun, List.filter_cons_of_pos hfile]
      constructor
      · intro h
        cases hread : shelf.settings path with
        | error e => simp [hread, Except.bind] at h
        | ok layer =>
          rw [hread] at h
          obtain ⟨layers, hlayers, rfl⟩ := (ih (start.orElse layer) s').mp h
          exact ⟨layer :: layers, .cons (Shelf.settings_eq_ok_iff.mp hread) hlayers, rfl⟩
      · rintro ⟨_, hall, rfl⟩
        obtain ⟨layer, layers, hlayer, hlayers, rfl⟩ := List.forall₂_cons_left_iff.mp hall
        rw [Shelf.settings_eq_ok_iff.mpr hlayer]
        exact (ih (start.orElse layer) s').mpr ⟨layers, hlayers, rfl⟩

theorem empty_orElse (settings : Settings) : orElse {} settings = settings :=
  eq_of_get fun key => by rw [get_orElse, get_empty, Option.none_or]

/-- The settings of the file that the command line names. -/
def Shelf.start (shelf : Shelf) (named : Option String) : Except SettingsError Settings :=
  named.elim (.ok {}) shelf.settings

theorem readNamed_onShelf (named : Option String) :
    readNamed (onShelf host shelf) named = pure (shelf.start named) := by
  cases named with
  | none => rfl
  | some path => exact readFile_onShelf host shelf path

theorem run_load (env : Environment) (userFolder named : Option String) (s : σ) :
    ((load (onShelf host shelf) env userFolder named).run s).1
      = (shelf.start named).bind fun start =>
          ((readCandidates (onShelf host shelf)
            (candidates (env "DOCBULK_CONFIG") userFolder shelf.working) start).run s).1.bind
          fun settings => (ofEnvironment env).map fun first => first.orElse settings := by
  rw [load, readNamed_onShelf, pure_bind]
  cases shelf.start named with
  | error e => rfl
  | ok start =>
    change (((pure shelf.working >>= _ : StateM σ _)).run s).1 = _
    rw [pure_bind, StateT.run_bind]
    simp only [Except.bind]
    generalize (readCandidates (onShelf host shelf) (candidates (env "DOCBULK_CONFIG") userFolder
      shelf.working) start).run s = read
    obtain ⟨_ | settings, s'⟩ := read <;> rfl

/-- What is read from the candidates and the environment, on top of what is there. -/
theorem bind_readCandidates_eq_ok_iff (env : Environment) (paths : List String)
    (start settings : Settings) (s : σ) :
    (((readCandidates (onShelf host shelf) paths start).run s).1.bind fun more =>
        (ofEnvironment env).map fun first => first.orElse more) = .ok settings ↔
      ∃ layers, List.Forall₂ shelf.Holds (paths.filter shelf.isFile) layers ∧
        Readable env ∧ settings = (ofVariables env).orElse (layers.foldl orElse start) := by
  constructor
  · intro h
    cases hread : ((readCandidates (onShelf host shelf) paths start).run s).1 with
    | error e =>
      rw [hread] at h
      cases h
    | ok more =>
      obtain ⟨layers, hlayers, rfl⟩ := (readCandidates_eq_ok_iff host shelf paths start more s).mp hread
      cases henv : ofEnvironment env with
      | error e =>
        rw [hread, henv] at h
        cases h
      | ok first =>
        obtain ⟨hreadable, rfl⟩ := ofEnvironment_eq_ok_iff.mp henv
        rw [hread, henv] at h
        exact ⟨layers, hlayers, hreadable, (Except.ok.inj h).symm⟩
  · rintro ⟨layers, hlayers, hreadable, rfl⟩
    have hread := (readCandidates_eq_ok_iff host shelf paths start _ s).mpr ⟨layers, hlayers, rfl⟩
    rw [hread, ofEnvironment_of_readable hreadable]
    rfl

/-- A load succeeds if all files that are consulted hold settings and all variables that are set hold
values, and only then. -/
theorem load_eq_ok_iff (env : Environment) (userFolder named : Option String) (settings : Settings)
    (s : σ) :
    ((load (onShelf host shelf) env userFolder named).run s).1 = .ok settings ↔
      ∃ layers, List.Forall₂ shelf.Holds (shelf.consulted env userFolder named) layers ∧
        Readable env ∧ settings = (ofVariables env).orElse (layers.foldl orElse {}) := by
  have hrest (start : Settings) := bind_readCandidates_eq_ok_iff host shelf env
    (candidates (env "DOCBULK_CONFIG") userFolder shelf.working) start settings s
  rw [run_load]
  cases named with
  | none => exact hrest {}
  | some path =>
    constructor
    · intro h
      cases hnamed : shelf.settings path with
      | error e =>
        rw [Shelf.start, Option.elim, hnamed] at h
        cases h
      | ok layer =>
        rw [Shelf.start, Option.elim, hnamed] at h
        obtain ⟨layers, hlayers, hloaded⟩ := (hrest layer).mp h
        refine ⟨layer :: layers, .cons (Shelf.settings_eq_ok_iff.mp hnamed) hlayers, ?_⟩
        rwa [List.foldl_cons, empty_orElse]
    · rintro ⟨_, hall, hloaded⟩
      obtain ⟨layer, layers, hlayer, hlayers, rfl⟩ := List.forall₂_cons_left_iff.mp hall
      rw [List.foldl_cons, empty_orElse] at hloaded
      rw [Shelf.start, Option.elim, Shelf.settings_eq_ok_iff.mpr hlayer]
      exact (hrest layer).mpr ⟨layers, hlayers, hloaded⟩

/-- Each setting comes from the first source that has it.  A load succeeds exactly if all files that are
consulted hold settings and all variables that are set hold values.  Then each setting for itself is the
one of the environment, else of the first of these files that has it; and for the size of a batch, the
pause and the folder of the collections an option comes before all of them, and the default after
them. -/
theorem load_takes_first (env : Environment) (userFolder named : Option String) (s : σ) :
    let answer := ((load (onShelf host shelf) env userFolder named).run s).1
    let paths := shelf.consulted env userFolder named
    ((∃ settings, answer = .ok settings) ↔
        (∀ path ∈ paths, ∃ settings, shelf.Holds path settings) ∧ Readable env) ∧
      ∀ settings, answer = .ok settings →
        ∃ layers, List.Forall₂ shelf.Holds paths layers ∧
          let sources (key : Key) := Key.inEnvironment env key :: layers.map (get · key)
          (∀ key, settings.get key = (sources key).findSome? id) ∧
          ∀ (options : BulkOptions) (database : String) (update : Option String),
            (options.job settings database update).batchSize
                = ((options.batchSize :: sources .batchSize).findSome? id).getD 1000 ∧
              (options.job settings database update).pauseMs
                = ((options.pauseMs :: sources .pauseMs).findSome? id).getD 100 ∧
              options.folder settings
                = ((options.dataFolder :: sources .dataFolder).findSome? id).getD "." := by
  intro answer paths
  have hload := load_eq_ok_iff host shelf env userFolder named
  constructor
  · constructor
    · rintro ⟨settings, hok⟩
      obtain ⟨layers, hlayers, hreadable, -⟩ := (hload settings s).mp hok
      exact ⟨Shelf.forall₂_holds_iff.mp ⟨layers, hlayers⟩, hreadable⟩
    · rintro ⟨hpaths, hreadable⟩
      obtain ⟨layers, hlayers⟩ := Shelf.forall₂_holds_iff.mpr hpaths
      exact ⟨_, (hload _ s).mpr ⟨layers, hlayers, hreadable, rfl⟩⟩
  · intro settings hok
    obtain ⟨layers, hlayers, -, hsettings⟩ := (hload settings s).mp hok
    refine ⟨layers, hlayers, ?_⟩
    intro sources
    have hfirst (key : Key) : settings.get key = (sources key).findSome? id := by
      rw [hsettings, get_orElse, get_ofVariables, get_foldl_orElse, get_empty]
      cases hset : Key.inEnvironment env key <;> simp [sources, hset]
    refine ⟨hfirst, fun options database update => ⟨?_, ?_, ?_⟩⟩
    · rw [getD_findSome?_cons]
      exact congrArg (fun given => options.batchSize.getD (given.getD defaultBatchSize))
        (hfirst .batchSize)
    · rw [getD_findSome?_cons]
      exact congrArg (fun given => options.pauseMs.getD (given.getD defaultPauseMs)) (hfirst .pauseMs)
    · rw [getD_findSome?_cons, BulkOptions.folder, Option.getD_or]
      exact congrArg (fun given => options.dataFolder.getD (given.getD ".")) (hfirst .dataFolder)

end

end BulkSweep.Settings

import BulkSweep.Files.Tree

/-!
# Files that are read as they were written

A file that is put somewhere takes no folder away.  The names of a path therefore lead where they led
before, and what is read there is what was put (`read_replace`).
-/

set_option autoImplicit false

namespace BulkSweep

namespace Node

/-! ## Places -/

/-- What stands at a place inside something. -/
def at? (node : Node) : Place → Option Node
  | [] => some node
  | name :: rest =>
    match node with
    | .file _ => none
    | .folder entries => (entries.lookup name).bind (at? · rest)

theorem at?_append (node : Node) (place more : Place) :
    node.at? (place ++ more) = (node.at? place).bind (at? · more) := by
  induction place generalizing node with
  | nil => rfl
  | cons name place ih =>
      cases node with
      | file content => rfl
      | folder entries => simp only [List.cons_append, at?, Option.bind_assoc, ih]

/-! ## Entries -/

theorem lookup_setEntry_self (entries : Entries) (name : String) (node : Node) :
    (setEntry entries name node).lookup name = some node := by
  induction entries with
  | nil => exact List.lookup_cons_self
  | cons entry rest ih =>
      obtain ⟨key, old⟩ := entry
      rw [setEntry]
      by_cases h : key = name
      · rw [if_pos h, h, List.lookup_cons_self]
      · have hne : (name == key) = false := beq_eq_false_iff_ne.mpr (Ne.symm h)
        rw [if_neg h, List.lookup_cons, hne]
        exact ih

theorem lookup_setEntry_of_ne (entries : Entries) {name other : String} (node : Node)
    (h : other ≠ name) : (setEntry entries name node).lookup other = entries.lookup other := by
  induction entries with
  | nil =>
      have hne : (other == name) = false := beq_eq_false_iff_ne.mpr h
      rw [setEntry, List.lookup_cons, hne]
  | cons entry rest ih =>
      obtain ⟨key, old⟩ := entry
      rw [setEntry]
      by_cases hkey : key = name
      · have hne : (other == key) = false := beq_eq_false_iff_ne.mpr (hkey ▸ h)
        rw [if_pos hkey, List.lookup_cons, List.lookup_cons, hne]
      · rw [if_neg hkey, List.lookup_cons, List.lookup_cons, ih]

/-! ## Putting something at a place -/

variable {entries inner : Entries} {node : Node} {place rest : Place} {name : String}

theorem at?_cons : (folder entries).at? (name :: rest) = (entries.lookup name).bind (at? · rest) :=
  rfl

/-- The way to a folder leads through folders. -/
theorem exists_folder (h : (folder entries).at? (name :: rest) = some (.folder inner)) :
    ∃ nested, entries.lookup name = some (.folder nested) ∧
      (folder nested).at? rest = some (.folder inner) := by
  obtain ⟨next, hnext, hinner⟩ := Option.bind_eq_some_iff.mp h
  cases next with
  | folder nested => exact ⟨nested, hnext, hinner⟩
  | file content =>
      cases rest with
      | nil => cases hinner
      | cons => cases hinner

theorem putIn_cons {nested : Entries} (h : entries.lookup name = some (.folder nested))
    (hrest : rest ≠ []) :
    putIn entries (name :: rest) node = setEntry entries name (.folder (putIn nested rest node)) := by
  rw [putIn, h]
  exact fun hnil => hrest hnil

/-- Nothing changes under another name. -/
theorem lookup_putIn_of_ne {other : String} (h : other ≠ name) :
    (putIn entries (name :: rest) node).lookup other = entries.lookup other := by
  cases rest with
  | nil => exact lookup_setEntry_of_ne entries node h
  | cons next rest =>
      unfold putIn
      cases entries.lookup name with
      | none => exact lookup_setEntry_of_ne entries _ h
      | some found =>
          cases found with
          | file content => rfl
          | folder nested => exact lookup_setEntry_of_ne entries _ h

/-- What is put into a folder stands there. -/
theorem at?_putIn_self (h : (folder entries).at? place = some (.folder inner)) :
    (folder (putIn entries (place ++ [name]) node)).at? (place ++ [name]) = some node := by
  induction place generalizing entries with
  | nil =>
      rw [List.nil_append, putIn, at?_cons, lookup_setEntry_self]
      rfl
  | cons first rest ih =>
      obtain ⟨nested, hnested, hinner⟩ := exists_folder h
      have hrest : rest ++ [name] ≠ [] := List.append_ne_nil_of_right_ne_nil rest (List.cons_ne_nil _ _)
      rw [List.cons_append, putIn_cons hnested hrest, at?_cons, lookup_setEntry_self]
      exact ih hinner

/-- A folder stays one when something is put where no folder is. -/
theorem at?_putIn_folder {other : Place}
    (hfolder : (folder entries).at? other = some (.folder inner))
    (hfree : ∀ gone, (folder entries).at? place ≠ some (.folder gone)) :
    ∃ left, (folder (putIn entries place node)).at? other = some (.folder left) := by
  induction place generalizing entries other with
  | nil => exact absurd rfl (hfree entries)
  | cons first rest ih =>
      cases other with
      | nil => exact ⟨_, rfl⟩
      | cons key more =>
          obtain ⟨nested, hnested, hinner⟩ := exists_folder hfolder
          by_cases hkey : key = first
          · subst hkey
            have hfree : ∀ gone, (folder nested).at? rest ≠ some (.folder gone) := by
              intro gone hgone
              refine hfree gone ?_
              rw [at?_cons, hnested]
              exact hgone
            have hrest : rest ≠ [] := by
              rintro rfl
              exact hfree nested rfl
            rw [putIn_cons hnested hrest, at?_cons, lookup_setEntry_self]
            exact ih hinner hfree
          · refine ⟨inner, ?_⟩
            rw [at?_cons, lookup_putIn_of_ne hkey, hnested]
            exact hinner

end Node

namespace FileTree

variable {t t' : FileTree} {trail next : Trail} {name : String}

/-! ## Trails -/

/-- A trail leads through folders of the tree, and what it notes of them stands there. -/
def Traces (t : FileTree) : Trail → Prop
  | [] => True
  | (name, node) :: rest =>
    Traces t rest ∧ ∃ entries, t.nodeAt rest = some (.folder entries) ∧ node = entries.lookup name

theorem place_cons (name : String) (node : Option Node) (rest : Trail) :
    Trail.place ((name, node) :: rest) = Trail.place rest ++ [name] := by
  simp [Trail.place]

/-- What stands at the end of a trail stands at its place. -/
theorem nodeAt_eq (h : Traces t trail) : t.nodeAt trail = (Node.folder t.entries).at? trail.place := by
  induction trail with
  | nil => rfl
  | cons part rest ih =>
      obtain ⟨name, node⟩ := part
      obtain ⟨hrest, entries, hfolder, rfl⟩ := h
      rw [place_cons, Node.at?_append, ← ih hrest, hfolder]
      exact (Option.bind_fun_some (entries.lookup name)).symm

/-- Only a folder can be left by a name, and what the name does then has nothing to do with what else
stands in the tree. -/
theorem step_eq_ok (h : t.step trail name = .ok next) :
    ∃ entries, t.nodeAt trail = some (.folder entries) ∧
      (next = trail ∧ Route.isIdle name = true ∨
        next = trail.tail ∧ Route.isIdle name = false ∧ (name == "..") = true ∨
        next = (name, entries.lookup name) :: trail ∧ Route.isIdle name = false ∧
          (name == "..") = false ∧ ¬maxName < name.utf8ByteSize) := by
  unfold step at h
  split at h
  · cases h
  · cases h
  · rename_i entries hfolder
    refine ⟨entries, hfolder, ?_⟩
    split at h
    · cases h
      exact .inl ⟨rfl, ‹_›⟩
    · rename_i hidle
      have hidle := Bool.eq_false_iff.mpr hidle
      split at h
      · cases h
        exact .inr (.inl ⟨rfl, hidle, ‹_›⟩)
      · rename_i hup
        split at h
        · cases h
        · cases h
          exact .inr (.inr ⟨rfl, hidle, Bool.eq_false_iff.mpr hup, ‹_›⟩)

theorem traces_step (h : Traces t trail) (hstep : t.step trail name = .ok next) : Traces t next := by
  obtain ⟨entries, hfolder, ⟨rfl, -⟩ | ⟨rfl, -⟩ | ⟨rfl, -⟩⟩ := step_eq_ok hstep
  · exact h
  · cases trail with
    | nil => exact h
    | cons part rest => exact h.1
  · exact ⟨h, entries, hfolder, rfl⟩

theorem follow_cons_eq_ok {names : List String} (h : t.follow trail (name :: names) = .ok next) :
    ∃ mid, t.step trail name = .ok mid ∧ t.follow mid names = .ok next := by
  rw [follow] at h
  cases hstep : t.step trail name with
  | error e =>
      rw [hstep] at h
      cases h
  | ok mid =>
      rw [hstep] at h
      exact ⟨mid, rfl, h⟩

theorem traces_follow {names : List String} (h : Traces t trail)
    (hfollow : t.follow trail names = .ok next) : Traces t next := by
  induction names generalizing trail with
  | nil =>
      cases hfollow
      exact h
  | cons name names ih =>
      obtain ⟨mid, hstep, hrest⟩ := follow_cons_eq_ok hfollow
      exact ih (traces_step h hstep) hrest

/-! ## Trees with the same folders -/

/-- The folders of a tree are folders of another, too. -/
def KeepsFolders (t t' : FileTree) : Prop :=
  ∀ place entries, (Node.folder t.entries).at? place = some (.folder entries) →
    ∃ entries', (Node.folder t'.entries).at? place = some (.folder entries')

/-- Where folders are kept, a name leads to the same place. -/
theorem step_kept (hkeeps : KeepsFolders t t') {trail' : Trail} (h : Traces t trail)
    (h' : Traces t' trail') (hplace : trail'.place = trail.place)
    (hstep : t.step trail name = .ok next) :
    ∃ next', t'.step trail' name = .ok next' ∧ next'.place = next.place := by
  obtain ⟨entries, hfolder, hnext⟩ := step_eq_ok hstep
  rw [nodeAt_eq h] at hfolder
  obtain ⟨entries', hfolder'⟩ := hkeeps _ _ hfolder
  rw [← hplace, ← nodeAt_eq h'] at hfolder'
  have hnames : trail'.map Prod.fst = trail.map Prod.fst := List.reverse_inj.mp hplace
  unfold step
  rw [hfolder']
  rcases hnext with ⟨rfl, hidle⟩ | ⟨rfl, hidle, hup⟩ | ⟨rfl, hidle, hup, hshort⟩
  · exact ⟨trail', by simp only [hidle, if_true], hplace⟩
  · refine ⟨trail'.tail, by simp only [hidle, hup, Bool.false_eq_true, if_false, if_true], ?_⟩
    simp only [Trail.place, List.map_tail, hnames]
  · refine ⟨(name, entries'.lookup name) :: trail',
      by simp only [hidle, hup, Bool.false_eq_true, if_false, if_neg hshort], ?_⟩
    simp only [Trail.place, List.map_cons, hnames]

theorem follow_kept (hkeeps : KeepsFolders t t') {names : List String} {trail' : Trail}
    (h : Traces t trail) (h' : Traces t' trail') (hplace : trail'.place = trail.place)
    (hfollow : t.follow trail names = .ok next) :
    ∃ next', t'.follow trail' names = .ok next' ∧ Traces t' next' ∧ next'.place = next.place := by
  induction names generalizing trail trail' with
  | nil =>
      cases hfollow
      exact ⟨trail', rfl, h', hplace⟩
  | cons name names ih =>
      obtain ⟨mid, hstep, hrest⟩ := follow_cons_eq_ok hfollow
      obtain ⟨mid', hstep', hmid⟩ := step_kept hkeeps h h' hplace hstep
      obtain ⟨next', hfollow', hnext⟩ :=
        ih (traces_step h hstep) (traces_step h' hstep') hmid hrest
      refine ⟨next', ?_, hnext⟩
      rw [follow, hstep']
      exact hfollow'

/-- What is put at the end of a trail stands there, if no folder does. -/
theorem at?_put_self {node : Node} (h : Traces t trail)
    (hfree : ∀ entries, (Node.folder t.entries).at? trail.place ≠ some (.folder entries)) :
    (Node.folder (t.put trail.place node).entries).at? trail.place = some node := by
  cases trail with
  | nil => exact absurd rfl (hfree t.entries)
  | cons part rest =>
      obtain ⟨name, noted⟩ := part
      obtain ⟨hrest, entries, hfolder, -⟩ := h
      rw [nodeAt_eq hrest] at hfolder
      rw [place_cons]
      exact Node.at?_putIn_self hfolder

/-! ## Paths -/

variable {path : String}

theorem locate_eq_ok (h : t.locate path = .ok trail) :
    checkPath path = .ok () ∧
      t.follow [] ((if Route.isAbsolute path then [] else t.working) ++ Route.parts path)
        = .ok trail := by
  unfold locate followFor at h
  cases hcheck : checkPath path with
  | error e =>
      rw [hcheck] at h
      cases h
  | ok =>
      rw [hcheck] at h
      exact ⟨rfl, h⟩

theorem replace_eq_ok {content : Content} (h : (t.replace path content).2 = .ok ()) :
    ∃ trail, t.locate path = .ok trail ∧ (∀ entries, t.nodeAt trail ≠ some (.folder entries)) ∧
      (t.replace path content).1 = t.put trail.place (.file content) := by
  unfold replace at h ⊢
  split at h
  · cases h
  · cases h
  · rename_i trail hlocate
    split at h
    · cases h
    · rename_i hfree
      exact ⟨trail, hlocate, hfree, rfl⟩

/-- A file that is put where a path leads is read there. -/
theorem read_put (hlocate : t.locate path = .ok trail)
    (hfree : ∀ entries, t.nodeAt trail ≠ some (.folder entries)) (content : Content) :
    (t.put trail.place (.file content)).read path = .ok content := by
  obtain ⟨hcheck, hfollow⟩ := locate_eq_ok hlocate
  have hbegins (t : FileTree) : Traces t [] := trivial
  have htraces : Traces t trail := traces_follow (hbegins t) hfollow
  rw [nodeAt_eq htraces] at hfree
  have hkeeps : KeepsFolders t (t.put trail.place (.file content)) :=
    fun place entries hfolder => Node.at?_putIn_folder hfolder hfree
  obtain ⟨trail', hfollow', htraces', hplace⟩ :=
    follow_kept hkeeps (hbegins _) (hbegins _) rfl hfollow
  have hlocate' : (t.put trail.place (.file content)).locate path = .ok trail' := by
    rw [locate, followFor, hcheck]
    exact hfollow'
  have hnode := nodeAt_eq htraces'
  rw [hplace, at?_put_self htraces hfree] at hnode
  rw [read, find, hlocate']
  simp only [hnode]

/-- A file that was replaced is read as its new content. -/
theorem read_replace (t : FileTree) (path : String) (content : Content)
    (h : (t.replace path content).2 = .ok ()) :
    (t.replace path content).1.read path = .ok content := by
  obtain ⟨trail, hlocate, hfree, hput⟩ := replace_eq_ok h
  rw [hput]
  exact read_put hlocate hfree content

end FileTree

end BulkSweep

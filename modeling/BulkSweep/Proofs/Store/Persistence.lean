import BulkSweep.Proofs.Extended.Stored
import BulkSweep.Proofs.Files.Lines
import BulkSweep.Proofs.Files.Tree
import BulkSweep.Proofs.Json.Rereading
import BulkSweep.Proofs.Shell.Strict
import BulkSweep.Rehearsal
import BulkSweep.Store

/-!
# Collections that are saved and loaded

A document that is stored without a loss is one line of its own, which is read as the document
(`parseDocument_storedLine`), however much its texts look like shell syntax.  A file of such lines is
taken apart where it was put together (`linesOf_fileText`), so that a collection is loaded as it was
saved (`load_saved`).
-/

set_option autoImplicit false

namespace BulkSweep

open BulkSweep.Text
open BulkSweep.Json (Form Printed)

/-! ## Stored documents -/

/-- A document that a store can keep in a file: it has an id, all of its values are stored without a
loss, and its line nests no deeper than lines are read. -/
structure Document.Storable (d : Document) : Prop where
  /-- it has an id -/
  named : (Document.id? d).isSome = true
  /-- no value loses anything -/
  kept : (Value.document d).storable = true
  /-- its line can be read -/
  shallow : (Extended.stored (.document d)).depth < Json.maxDepth

namespace Document.Storable

variable {d : Document}

theorem fields (h : Storable d) : Document.fieldsStorable d = true :=
  (Bool.and_eq_true_iff.mp h.kept).2

/-- The line of a document is the text of a form that denotes the stored document. -/
theorem exists_form (h : Storable d) : ∃ form : Form, form.text = (Extended.storedLine d).toList ∧
    form.value? Json.maxDepth = some (.object (Extended.storedFields d)) :=
  Json.exists_form _ _ (Extended.stored_plain _ h.kept) h.shallow

/-- No line ends inside a line. -/
theorem line_printed (h : Storable d) : Printed (Extended.storedLine d).toList :=
  Json.text_printed _ (Extended.stored_plain _ h.kept)

/-- A line has no blank at either end. -/
theorem trim_line (h : Storable d) : trim (Extended.storedLine d) = Extended.storedLine d := by
  obtain ⟨form, htext, -⟩ := h.exists_form
  have htrim := Shell.trimBlank_text .none .none (Shell.Tree.ofForm form)
  simp only [Form.Space.none, List.nil_append, List.append_nil, Shell.Tree.text_ofForm, htext] at htrim
  rw [trim, htrim, String.ofList_toList]

theorem line_ne_empty : (Extended.storedLine d).isEmpty = false := by
  simp [Extended.storedLine, Extended.stored, Json.text]

/-- The line of a document is read as the document: with the order of its fields, and with its types. -/
theorem parseDocument_storedLine (h : Storable d) :
    parseDocument (Extended.storedLine d) = .ok d := by
  obtain ⟨form, htext, hvalue⟩ := h.exists_form
  have hread := Shell.parseDocument_text .none .none (Shell.Tree.ofForm form)
  simp only [Form.Space.none, List.nil_append, List.append_nil, Shell.Tree.text_ofForm,
    Shell.Tree.form_ofForm, htext, String.ofList_toList] at hread
  rw [← Shell.toOption_eq_some, hread, Shell.document?, hvalue]
  change (Extended.decodeMembers (Extended.storedFields d)).toOption = _
  rw [Extended.decodeMembers_stored d h.fields]
  rfl

end Document.Storable

/-! ## Lines -/

namespace Content

/-- Lines that are written one after another are read one after another. -/
theorem linesOf_join {lines : List String} (h : ∀ line ∈ lines, Printed line.toList) :
    linesOf (String.join (lines.map (· ++ "\n"))) = lines := by
  have hunbroken : ∀ line ∈ lines, Unbroken line := fun line hline hmem =>
    absurd (h line hline _ hmem) (by decide)
  rw [linesOf, pieces_join hunbroken, List.map_map]
  conv_rhs => rw [← List.map_id lines]
  refine List.map_congr_left fun line hline => ?_
  have hlast : (line.toList.getLast? == some '\r') = false := by
    refine beq_eq_false_iff_ne.mpr fun hlast => ?_
    exact absurd (h line hline '\r' (List.mem_of_getLast? hlast)) (by decide)
  simp only [Function.comp_apply, trimmedPiece, hlast, Bool.false_eq_true, if_false,
    String.ofList_toList, id]

end Content

namespace Store

/-- A file of documents has one line for each of them. -/
theorem linesOf_fileText {docs : Collection} (h : ∀ d ∈ docs, Document.Storable d) :
    Content.linesOf (fileText docs) = docs.map Extended.storedLine := by
  have hprinted : ∀ line ∈ docs.map Extended.storedLine, Printed line.toList := by
    intro line hline
    obtain ⟨d, hd, rfl⟩ := List.mem_map.mp hline
    exact (h d hd).line_printed
  have hlines := Content.linesOf_join hprinted
  rwa [List.map_map] at hlines

/-- The lines of documents are read as the documents. -/
theorem readLines_stored {docs : Collection} (h : ∀ d ∈ docs, Document.Storable d) (path : String)
    (number : Nat) :
    readLines path number ((docs.map Extended.storedLine).map some) = .ok docs := by
  induction docs generalizing number with
  | nil => rfl
  | cons d docs ih =>
      obtain ⟨hd, hdocs⟩ := List.forall_mem_cons.mp h
      have hshown : (trim (Extended.storedLine d)).isEmpty = false := by
        rw [hd.trim_line]
        exact Document.Storable.line_ne_empty
      rw [List.map_cons, List.map_cons, readLines, hshown, hd.parseDocument_storedLine]
      simp only [Bool.false_eq_true, if_false, ih hdocs]
      rfl

end Store

/-! ## Hosts -/

variable {σ : Type}

/-- A host whose file at a path keeps what it is given: once replaced, it is read as its new text, and
what is written to the log does not stand in it. -/
structure Host.KeepsFile (host : Host (StateM σ)) (path : String) : Prop where
  /-- once the file was replaced, it has the new text -/
  replaced : ∀ text s, ((host.files.replace path text).run s).1 = .ok () →
    ((host.files.read path).run ((host.files.replace path text).run s).2).1 = .ok (.text text)
  /-- a line of the log does not change it -/
  logged : ∀ level line s,
    ((host.files.read path).run ((host.log level line).run s).2).1 = ((host.files.read path).run s).1

/-- A file can be written: its folder is there or can be made, and takes the text. -/
structure Host.Takes (host : Host (StateM σ)) (path text : String) (s : σ) : Prop where
  /-- the folder is there -/
  folder : ((host.files.makeFolders (Route.parent path)).run s).1 = .ok ()
  /-- the file takes the text -/
  file : ((host.files.replace path text).run
    ((host.files.makeFolders (Route.parent path)).run s).2).1 = .ok ()

/-- The files of a rehearsal keep what they are given. -/
theorem Rehearsal.keepsFile (coloured : Bool) (path : String) :
    (Rehearsal.host coloured).KeepsFile path where
  replaced := fun text r h => r.tree.read_replace path (.text text) h
  logged := fun _ _ _ => rfl

theorem run_eq_pure {α : Type} {act : StateM σ α} {s : σ} {a : α} (h : (act.run s).1 = a) :
    act.run s = pure (a, (act.run s).2) := by
  rw [← h]
  rfl

namespace Store

variable {host : Host (StateM σ)} {store : Store} {path name text : String} {docs : Collection}

/-- A collection is saved if its file can be written, and the file then has its text. -/
theorem save_taken (hkeeps : host.KeepsFile path) (hpath : store.path? name = some path) (s : σ)
    (htakes : host.Takes path (fileText (store.documents name)) s) :
    ∃ s', ((save host name).run store).run s = ((.ok path, store), s') ∧
      ((host.files.read path).run s').1 = .ok (.text (fileText (store.documents name))) := by
  have hread := hkeeps.replaced _ _ htakes.file
  have hmade := run_eq_pure htakes.folder
  have hwritten := run_eq_pure htakes.file
  refine ⟨((host.log .info ("saved " ++ name ++ " to " ++ path)).run _).2, ?_,
    (hkeeps.logged _ _ _).trans hread⟩
  simp only [save, StateT.run_bind, StateT.run_get, StateT.run_monadLift, monadLift_self, hpath,
    pure_bind, bind_assoc]
  rw [hmade]
  simp only [pure_bind, StateT.run_bind, StateT.run_monadLift, monadLift_self, bind_assoc]
  rw [hwritten]
  rfl

/-- Documents with ids stay as they are. -/
theorem withIds_named (host : Host (StateM σ)) (h : ∀ d ∈ docs, (Document.id? d).isSome = true)
    (s : σ) : ((withIds host docs).run s).1 = docs := by
  induction docs generalizing s with
  | nil => rfl
  | cons d docs ih =>
      obtain ⟨hd, hdocs⟩ := List.forall_mem_cons.mp h
      obtain ⟨id, hid⟩ := Option.isSome_iff_exists.mp hd
      have hrest := ih hdocs (host.newId.run s).2
      have hsame (fresh : ObjectId) : Document.withId d fresh = d := by
        rw [Document.withId, hid]
      simp only [withIds, hsame]
      exact congrArg (d :: ·) hrest

/-- What a file holds is loaded, in place of what is in memory. -/
theorem load_lines (hpath : store.path? name = some path) (s : σ)
    (hread : ((host.files.read path).run s).1 = .ok (.text text))
    (hlines : readLines path 1 (Content.text text).lines = .ok docs)
    (hnamed : ∀ d ∈ docs, (Document.id? d).isSome = true) :
    (((load host name).run store).run s).1 = (.ok docs.length, store.setDocuments name docs) := by
  have hfile := run_eq_pure hread
  have hids := run_eq_pure (withIds_named host hnamed ((host.files.read path).run s).2)
  simp only [load, readFile, StateT.run_bind, StateT.run_get, StateT.run_monadLift, monadLift_self,
    hpath, pure_bind, bind_assoc]
  rw [hfile]
  simp only [pure_bind, hlines, StateT.run_pure, StateT.run_bind, StateT.run_monadLift,
    monadLift_self, bind_assoc]
  rw [hids]
  rfl

/-- Documents that can be kept in a file are saved if the file can be written.  The file then has one
line for each document, and a store that has the same folder loads the very same documents from it: in
their order, with the order of their fields, and with the types of their values. -/
theorem load_saved (host : Host (StateM σ)) (store : Store) (name : String)
    (hdocs : ∀ d ∈ store.documents name, Document.Storable d) (path : String)
    (hpath : store.path? name = some path) (hkeeps : host.KeepsFile path) (s : σ)
    (htakes : host.Takes path (fileText (store.documents name)) s) :
    ∃ s', ((save host name).run store).run s = ((.ok path, store), s') ∧
      (∃ content, ((host.files.read path).run s').1 = .ok content ∧
        content.lines = (store.documents name).map fun d => some (Extended.storedLine d)) ∧
      ∀ fresh : Store, fresh.folder = store.folder →
        ∃ loaded : Store, (((load host name).run fresh).run s').1
            = (.ok (store.documents name).length, loaded) ∧
          loaded.documents name = store.documents name := by
  obtain ⟨s', hsaved, hread⟩ := save_taken hkeeps hpath s htakes
  have hlines : (Content.text (fileText (store.documents name))).lines
      = ((store.documents name).map Extended.storedLine).map some := by
    rw [Content.lines, linesOf_fileText hdocs]
  refine ⟨s', hsaved, ⟨_, hread, by rw [hlines, List.map_map]; rfl⟩, fun fresh hfolder => ?_⟩
  have hsame : fresh.path? name = some path := by
    rw [← hpath, path?, path?, hfolder]
  have hdocuments := readLines_stored hdocs path 1
  rw [← hlines] at hdocuments
  exact ⟨_, load_lines hsame s' hread hdocuments fun d hd => (hdocs d hd).named,
    documents_setDocuments_self fresh name _⟩

/-- Texts with a line end and with shell syntax, and integers of either width, come back. -/
theorem load_saved_of_lookalike :
    let docs : Collection := [[("_id", .int32 7), ("n", .int64 7)],
      [("_id", .string "\n"), ("at", .array [.string "ISODate('2024-01-01'),", .timestamp 1 2])]]
    let store := (empty (some "/data")).setDocuments "users" docs
    let start : Rehearsal := { tree := ⟨[("data", .folder [])], []⟩ }
    ∃ s', ((save (Rehearsal.host false) "users").run store).run start
        = ((.ok "/data/users.ndjson", store), s') ∧
      ∃ loaded : Store,
        (((load (Rehearsal.host false) "users").run (empty (some "/data"))).run s').1
          = (.ok 2, loaded) ∧
        loaded.documents "users" = docs := by
  intro docs store start
  have hdocs : ∀ d ∈ store.documents "users", Document.Storable d :=
    List.forall_mem_cons.mpr ⟨⟨by decide, by decide, by decide⟩,
      List.forall_mem_cons.mpr ⟨⟨by decide, by decide, by decide⟩, nofun⟩⟩
  obtain ⟨s', hsaved, -, hloaded⟩ := load_saved (Rehearsal.host false) store "users" hdocs
    "/data/users.ndjson" (by decide) (Rehearsal.keepsFile false _) start ⟨by decide, by decide⟩
  exact ⟨s', hsaved, hloaded _ rfl⟩

end Store

end BulkSweep

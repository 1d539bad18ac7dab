import BulkSweep.Proofs.Run.Leads
import BulkSweep.Proofs.Store.Updates
import BulkSweep.Rehearsal
import BulkSweep.Store

/-!
# Stores that calls lead to

Whatever comes into a store has an id or is given one.  An update treats the field of the id as any
other: it may be set, and `$unset` removes it, after which the document is counted but no cursor yields
it (`unset_id_loses_document`).  Where no update removes this field, every document has an id after
any calls, and cursors yield as many ids as are counted (`reachable_named`).
-/

set_option autoImplicit false

namespace BulkSweep

open BulkSweep.Path (segments splitDots parents leaf Avoids)

/-! ## Ids of updated documents -/

namespace Document

variable {d : Document} {name other : String}

/-- To set a field removes no other. -/
theorem isSome_get?_insert {value : Value} (h : (get? d other).isSome = true) :
    (get? (insert d name value) other).isSome = true := by
  by_cases hsame : other = name
  · rw [hsame, get?_insert_self]
    rfl
  · rwa [get?_insert_of_ne d value hsame]

theorem isSome_id?_withId (d : Document) (id : ObjectId) : (id? (withId d id)).isSome = true := by
  unfold withId
  cases hid : id? d with
  | some own => exact Option.isSome_iff_exists.mpr ⟨own, hid⟩
  | none =>
      rw [id?, get?_insert_self]
      rfl

end Document

namespace Update

variable {d d' : Document} {changed : Bool} {e : Edit} {name : String}

theorem eq_of_splitDots {cs first : List Char} (h : splitDots cs = [first]) : cs = first := by
  induction cs generalizing first with
  | nil =>
      cases h
      rfl
  | cons c cs ih =>
      obtain ⟨rest, hrest⟩ := Path.splitDots_head cs
      unfold splitDots at h
      rw [hrest] at h
      split at h
      · cases h
      · cases h
        exact congrArg (c :: ·) (ih hrest)

/-- A path of one name is this name. -/
theorem eq_of_segments {path : String} (h : segments path = [name]) : path = name := by
  obtain ⟨first, hfirst, rfl⟩ := List.map_eq_singleton_iff.mp h
  rw [← eq_of_splitDots hfirst, String.ofList_toList]

theorem isSome_id?_setAt {leaf : String} {value : Value} {parents : List String}
    (h : setAt leaf value parents d = .ok (d', changed)) (hid : (Document.id? d).isSome = true) :
    (Document.id? d').isSome = true := by
  cases parents with
  | nil =>
      cases h
      exact Document.isSome_get?_insert hid
  | cons name more =>
      obtain ⟨inner, inner', -, -, rfl⟩ := setAt_cons h
      exact Document.isSome_get?_insert hid

/-- An edit leaves a document with an id unless it removes the field of the id itself. -/
theorem Edit.isSome_id? (h : e.op.applyAt d e.path e.argument = .ok (d', changed))
    (hspares : e.op = .unset → e.path ≠ idField) (hid : (Document.id? d).isSome = true) :
    (Document.id? d').isSome = true := by
  obtain ⟨op, path, argument⟩ := e
  cases op with
  | set => exact isSome_id?_setAt h hid
  | inc =>
      change incPath d path argument = _ at h
      unfold incPath at h
      dsimp only at h
      split at h
      · exact isSome_id?_setAt h hid
      · cases h
  | unset =>
      rcases unset_cases h with hremoved | ⟨-, rfl⟩
      · cases hparents : parents path with
        | cons name more =>
            rw [hparents] at hremoved
            obtain ⟨inner, inner', -, -, rfl⟩ := unsetAt_cons hremoved
            exact Document.isSome_get?_insert hid
        | nil =>
            -- the path is its leaf, which is another field
            rw [hparents] at hremoved
            obtain ⟨-, rfl⟩ := unsetAt_nil hremoved
            have hpath := Path.parents_append_leaf path
            rw [hparents, List.nil_append] at hpath
            have hleaf : idField ≠ leaf path := by
              rw [← eq_of_segments hpath.symm]
              exact (hspares rfl).symm
            rw [Document.id?, Document.get?_erase_of_ne hleaf]
            exact hid
      · exact hid

/-- An update can remove a field, the id too. -/
theorem apply_unset {name : String} (argument : Value) (hparents : parents name = [])
    (hleaf : leaf name = name) (hpresent : (d.get? name).isSome = true) :
    apply [("$unset", .document [(name, argument)])] d = .ok (Document.erase d name, true) := by
  have hremoved : unsetPath d name = (Document.erase d name, true) := by
    rw [unsetPath, hparents, hleaf, unsetAt, if_pos hpresent]
  have hedit : Operator.applyAt .unset d name argument
      = .ok (Document.erase d name, true) := congrArg Except.ok hremoved
  have hedits : edits [("$unset", .document [(name, argument)])] = [⟨.unset, name, argument⟩] := rfl
  refine apply_eq_ok.mpr ⟨Document.erase d name, ?_, rfl⟩
  rw [hedits, applyEdits, hedit]
  rfl

/-- An update that does not remove the field of the id itself. -/
def SparesId (operators : Document) : Prop :=
  ∀ e ∈ edits operators, e.op = .unset → e.path ≠ idField

theorem isSome_id?_applyEdits {es : List Edit} (h : applyEdits es d = .ok (d', changed))
    (hspares : ∀ e ∈ es, e.op = .unset → e.path ≠ idField) (hid : (Document.id? d).isSome = true) :
    (Document.id? d').isSome = true := by
  induction es generalizing d changed with
  | nil =>
      cases h
      exact hid
  | cons e rest ih =>
      obtain ⟨next, first, later, hfirst, hrest⟩ := applyEdits_cons h
      obtain ⟨hthis, hothers⟩ := List.forall_mem_cons.mp hspares
      exact ih hrest hothers (e.isSome_id? hfirst hthis hid)

theorem SparesId.isSome_id? {operators : Document} (hspares : SparesId operators)
    (h : apply operators d = .ok (d', changed)) (hid : (Document.id? d).isSome = true) :
    (Document.id? d').isSome = true := by
  obtain ⟨next, hedits, rfl⟩ := apply_eq_ok.mp h
  cases changed with
  | true => exact isSome_id?_applyEdits hedits hspares hid
  | false => exact hid

end Update

/-! ## Collections -/

namespace Collection

variable {docs : Collection} {ids : List Value} {operators : Document}

/-- What is true of every document and of what an update makes of it is true of the documents before
and after a pass, one for one. -/
theorem update_forall₂ (docs : Collection) (ids : List Value) {R : Document → Document → Prop}
    (hrefl : ∀ d, R d d)
    (happly : ∀ d d' changed, Update.apply operators d = .ok (d', changed) → R d d') :
    List.Forall₂ R docs (docs.update ids operators).1 := by
  have hsame : ∀ docs : Collection, List.Forall₂ R docs docs := fun docs =>
    List.forall₂_same.mpr fun d _ => hrefl d
  unfold Collection.update
  cases Update.validate operators with
  | error e => exact hsame docs
  | ok _ =>
      simp only [updateSet_eq]
      generalize (⟨0, 0⟩ : UpdateCounts) = counts
      induction docs using pass_induction (IdSet.ofIds ids).has operators generalizing counts with
      | nil => exact .nil
      | unwanted d rest hwanted ih =>
          rw [updateWhere_of_unwanted hwanted]
          exact .cons (hrefl d) (ih counts)
      | fails d rest e hwanted hfails =>
          rw [updateWhere_of_error hwanted hfails]
          exact hsame (d :: rest)
      | updates d rest result hwanted hresult ih =>
          rw [updateWhere_of_ok hwanted hresult]
          exact .cons (happly _ _ _ hresult) (ih _)

/-- Every document has an id. -/
def Named (docs : Collection) : Prop :=
  ∀ d ∈ docs, (Document.id? d).isSome = true

theorem Named.update (h : docs.Named) (hspares : Update.SparesId operators) :
    Named (docs.update ids operators).1 := by
  have hpass := update_forall₂ docs ids
    (R := fun d d' => (Document.id? d).isSome = true → (Document.id? d').isSome = true)
    (fun _ => id) fun d d' changed happly => hspares.isSome_id? happly
  revert h
  generalize (docs.update ids operators).1 = after at hpass
  intro h
  induction hpass with
  | nil => exact nofun
  | cons hhead _ ih =>
      obtain ⟨hd, hrest⟩ := List.forall_mem_cons.mp h
      exact List.forall_mem_cons.mpr ⟨hhead hd, ih hrest⟩

/-- An update none of whose paths runs through the id leaves the ids as they are. -/
theorem update_ids (hpaths : ∀ path ∈ Update.paths operators, Avoids path idField) :
    (docs.update ids operators).1.map Document.id? = docs.map Document.id? := by
  have hpass := update_forall₂ docs ids
    (R := fun d d' => Document.id? d' = Document.id? d) (fun _ => rfl)
    fun d d' changed happly => Update.id?_apply happly hpaths
  generalize (docs.update ids operators).1 = after at hpass
  induction hpass with
  | nil => rfl
  | cons hhead _ ih => exact congrArg₂ List.cons hhead ih

/-- Where every document has an id, as many ids match as documents. -/
theorem Named.ids_length (h : docs.Named) (filter : Document) :
    (docs.ids filter).length = docs.count filter := by
  rw [Collection.ids, List.length_filterMap_eq_countP]
  exact List.countP_eq_length.mpr fun d hd => h d (List.mem_of_mem_filter hd)

/-- An update of a document that is wanted makes of it what the update makes of a document. -/
theorem update_singleton {d d' : Document} {changed : Bool}
    (hvalid : Update.validate operators = .ok ()) (hwanted : (IdSet.ofIds ids).has d = true)
    (happly : Update.apply operators d = .ok (d', changed)) :
    (Collection.update [d] ids operators).1 = [d'] := by
  unfold Collection.update
  rw [hvalid]
  simp only [updateSet_eq]
  rw [updateWhere_of_ok hwanted happly]
  rfl

end Collection

/-! ## Stores -/

namespace Store

/-- Every document of every collection has an id. -/
def Named (store : Store) : Prop :=
  ∀ name, (store.documents name).Named

variable {store : Store} {σ : Type} {host : Host (StateM σ)}

theorem Named.setDocuments (h : store.Named) {name : String} {docs : Collection}
    (hdocs : docs.Named) : (store.setDocuments name docs).Named := by
  intro other
  by_cases hsame : other = name
  · rw [hsame, documents_setDocuments_self]
    exact hdocs
  · rw [documents_setDocuments_of_ne store hsame docs]
    exact h other

/-! ## Calls -/

/-- A call that may change a store. -/
inductive Call where
  /-- reads a collection from its file -/
  | load (name : String)
  /-- adds a document -/
  | insert (name : String) (d : Document)
  /-- deletes the documents with the given ids -/
  | delete (target : Namespace) (ids : List Value)
  /-- updates the documents with the given ids -/
  | update (target : Namespace) (ids : List Value) (operators : Document)

variable {m : Type → Type} [Monad m]

/-- Makes a call, whatever comes of it. -/
def Call.run (host : Host m) : Call → StateT Store m Unit
  | load name => discard (Store.load host name)
  | insert name d => discard (Store.insert host name d)
  | delete target ids => discard (Store.connection.deleteByIds target ids)
  | update target ids operators => discard (Store.connection.updateByIds target ids operators)

/-- A call that does not remove the field of the id itself. -/
def Call.SparesId : Call → Prop
  | update _ _ operators => Update.SparesId operators
  | _ => True

/-- The stores to which calls of one kind lead from an empty store.  Between two calls the host may
change in any way: files may be written, and time goes by. -/
inductive Reachable (host : Host (StateM σ)) (allowed : Call → Prop) : Store → Prop where
  /-- no call is made -/
  | empty (folder : Option String) : Reachable host allowed (Store.empty folder)
  /-- one more call is made -/
  | call {store : Store} (h : Reachable host allowed store) (c : Call) (hc : allowed c) (s : σ) :
      Reachable host allowed (((c.run host).run store).run s).1.2

/-! ## Ids -/

theorem withIds_all (host : Host (StateM σ)) (docs : Collection) (s : σ) :
    Collection.Named ((withIds host docs).run s).1 := by
  induction docs generalizing s with
  | nil => exact nofun
  | cons d docs ih =>
      exact List.forall_mem_cons.mpr ⟨d.isSome_id?_withId (host.newId.run s).1, ih _⟩

theorem Named.load (h : store.Named) (name : String) :
    Yields (Store.load host name) store fun _ store' => store'.Named := by
  refine yields_get_bind ?_
  cases store.path? name with
  | none => exact yields_pure h
  | some path =>
      refine yields_bind ((bystander_lift _).yields fun answer => ?_)
      cases answer with
      | error e => exact yields_pure h
      | ok docs =>
          refine yields_bind ((bystander_lift _).yields_answer ?_)
          rintro _ ⟨s, rfl⟩
          refine yields_bind ((bystander_lift _).yields fun _ => ?_)
          exact yields_modify_bind (yields_pure (h.setDocuments (withIds_all host docs s)))

theorem Named.insert (h : store.Named) (name : String) (d : Document) :
    Yields (Store.insert host name d) store fun _ store' => store'.Named := by
  refine yields_bind ((bystander_lift _).yields fun fresh => ?_)
  refine yields_modify_bind (yields_pure (h.setDocuments ?_))
  exact List.forall_mem_append.mpr
    ⟨h name, List.forall_mem_singleton.mpr (d.isSome_id?_withId fresh)⟩

theorem Named.delete (h : store.Named) (target : Namespace) (ids : List Value) :
    Yields (Store.connection.deleteByIds target ids : StateT Store (StateM σ) _) store
      fun _ store' => store'.Named := by
  refine yields_get_bind (yields_modify_bind (yields_pure (h.setDocuments ?_)))
  exact fun d hd => h target.collection d (List.mem_of_mem_filter hd)

theorem Named.update (h : store.Named) (target : Namespace) (ids : List Value) {operators : Document}
    (hspares : Update.SparesId operators) :
    Yields (Store.connection.updateByIds target ids operators : StateT Store (StateM σ) _) store
      fun _ store' => store'.Named := by
  refine yields_get_bind (yields_modify_bind (yields_pure (h.setDocuments ?_)))
  exact (h target.collection).update hspares

/-- After a call that does not remove the id itself, every document has an id if every one had. -/
theorem Named.call (h : store.Named) {c : Call} (hc : c.SparesId) :
    Yields (c.run host) store fun _ store' => store'.Named := by
  cases c with
  | load name => exact yields_bind ((h.load name).mono fun _ _ h' => yields_pure h')
  | insert name d => exact yields_bind ((h.insert name d).mono fun _ _ h' => yields_pure h')
  | delete target ids => exact yields_bind ((h.delete target ids).mono fun _ _ h' => yields_pure h')
  | update target ids operators =>
      exact yields_bind ((h.update target ids hc).mono fun _ _ h' => yields_pure h')

theorem Reachable.named (h : Reachable host Call.SparesId store) : store.Named := by
  induction h with
  | empty folder => exact fun _ => nofun
  | call _ c hc s ih => exact ih.call hc s

/-- After any calls none of which removes the field of the id itself, every document has an id.  An
update none of whose paths runs through the id changes no id, and a cursor for any filter yields as
many ids as are counted for it. -/
theorem reachable_named (host : Host (StateM σ)) (store : Store)
    (h : Reachable host Call.SparesId store) :
    store.Named ∧
      (∀ target ids operators, (∀ path ∈ Update.paths operators, Avoids path idField) →
        Yields (Store.connection.updateByIds target ids operators : StateT Store (StateM σ) _) store
          fun _ after => ∀ name,
            (after.documents name).map Document.id? = (store.documents name).map Document.id?) ∧
      ∀ target filter, ∃ n cursor,
        Yields (Store.connection.count target filter : StateT Store (StateM σ) _) store
          (fun answer _ => answer = .ok n) ∧
        Yields (Store.connection.openCursor target filter : StateT Store (StateM σ) _) store
          (fun answer _ => answer = .ok cursor) ∧
        cursor.ids.length = n ∧ cursor.fault = none := by
  refine ⟨h.named, fun target ids operators hpaths => ?_, fun target filter => ?_⟩
  · refine yields_get_bind (yields_modify_bind (yields_pure fun name => ?_))
    by_cases hname : name = target.collection
    · rw [hname, documents_setDocuments_self]
      exact Collection.update_ids hpaths
    · rw [documents_setDocuments_of_ne store hname _]
  · exact ⟨_, _, fun _ => rfl, fun _ => rfl, (h.named target.collection).ids_length filter, rfl⟩

/-- A document with the id one is among those with this id. -/
theorem has_one (fields : Document) :
    (IdSet.ofIds [.int32 1]).has ((idField, .int32 1) :: fields) = true :=
  IdSet.has_ofIds.mpr ⟨.int32 1, List.mem_singleton_self _, rfl⟩

/-- Loading without a folder and an update that is no valid one fail, another update takes a field away from
the document that was inserted, and all the same that has its id. -/
theorem reachable_named_of_failures :
    ∃ store : Store, Reachable (Rehearsal.host false) Call.SparesId store ∧
      store.documents "users" = [[(idField, .int32 1)]] ∧ store.Named := by
  let users : Namespace := ⟨"local", "users"⟩
  let removal : Document := [("$unset", .document [("a", .null)])]
  have hempty : Reachable (Rehearsal.host false) Call.SparesId (Store.empty none) := .empty none
  have hloaded := hempty.call (.load "users") trivial default
  have hinserted := hloaded.call (.insert "users" [(idField, .int32 1), ("a", .null)]) trivial default
  have hrefused : Call.SparesId (.update users [.int32 1] [("$push", .null)]) :=
    fun _ he => nomatch he
  have hspares : Call.SparesId (.update users [.int32 1] removal) := by
    intro e he _
    obtain rfl := List.mem_singleton.mp he
    decide
  have hupdated := (hinserted.call _ hrefused default).call _ hspares default
  have hremoved : (Collection.update [[(idField, .int32 1), ("a", .null)]] [.int32 1] removal).1
      = [[(idField, .int32 1)]] :=
    Collection.update_singleton rfl (has_one _) (Update.apply_unset .null (by decide) (by decide) rfl)
  exact ⟨_, hupdated, hremoved, (reachable_named _ _ hupdated).1⟩

/-- An update that removes the id takes a document from all cursors, though it is still counted. -/
theorem unset_id_loses_document :
    ∃ store : Store, Reachable (Rehearsal.host false) (fun _ => True) store ∧ ¬store.Named ∧
      (store.documents "users").count [] = 1 ∧ (store.documents "users").ids [] = [] := by
  let users : Namespace := ⟨"local", "users"⟩
  let removal : Document := [("$unset", .document [(idField, .string "")])]
  have hempty : Reachable (Rehearsal.host false) (fun _ => True) (Store.empty none) := .empty none
  have hinserted := hempty.call (.insert "users" [(idField, .int32 1)]) trivial default
  have hupdated := hinserted.call (.update users [.int32 1] removal) trivial default
  refine ⟨_, hupdated, ?_⟩
  generalize hstore : Prod.snd _ = store
  have hremoved : (Collection.update [[(idField, .int32 1)]] [.int32 1] removal).1 = [[]] :=
    Collection.update_singleton rfl (has_one _)
      (Update.apply_unset (.string "") (by decide) (by decide) rfl)
  have hdocs : store.documents "users" = [[]] := by
    rw [← hstore]
    exact hremoved
  rw [hdocs]
  refine ⟨fun hnamed => ?_, rfl, rfl⟩
  have hid := hnamed "users" [] (hdocs ▸ List.mem_singleton_self [])
  cases hid

end Store

end BulkSweep

import BulkSweep.Collection
import BulkSweep.Proofs.Update.Paths

/-!
# Edits of an update

An update is a list of edits, each of one operator at one path.  Edits at paths that are apart do not
see each other, so what one of them has done is still done after the others.  An update of such edits
that only set and remove fields changes nothing when it is applied again.
-/

set_option autoImplicit false

namespace BulkSweep.Update

open BulkSweep.Path

/-! ## Edits -/

/-- One operator at one path. -/
structure Edit where
  /-- the operator -/
  op : Operator
  /-- the path -/
  path : String
  /-- the argument -/
  argument : Value

/-- The edits of one operator, in order. -/
def operatorEdits (name : String) (argument : Value) : List Edit :=
  match Operator.ofName? name, argument with
  | some op, .document fields => fields.map fun field => ⟨op, field.1, field.2⟩
  | _, _ => []

/-- The edits of an update, in order. -/
def edits (update : Document) : List Edit :=
  update.flatMap fun entry => operatorEdits entry.1 entry.2

/-- Makes edits one after another. -/
def applyEdits : List Edit → Document → Except Error Changed
  | [], d => .ok (d, false)
  | e :: rest, d => do
    let (d, changed) ← e.op.applyAt d e.path e.argument
    let (d, later) ← applyEdits rest d
    return (d, changed || later)

theorem applyEdits_append (before after : List Edit) (d : Document) :
    applyEdits (before ++ after) d = (do
      let (d, changed) ← applyEdits before d
      let (d, later) ← applyEdits after d
      return (d, changed || later)) := by
  induction before generalizing d with
  | nil =>
      change applyEdits after d =
        (applyEdits after d >>= fun result => pure (result.1, false || result.2))
      cases applyEdits after d with
      | error e => rfl
      | ok result => rfl
  | cons e rest ih =>
      simp only [List.cons_append, applyEdits, ih, bind_assoc, pure_bind, Bool.or_assoc]

theorem applyFields_eq (op : Operator) (fields : List (String × Value)) (d : Document) :
    applyFields op fields d = applyEdits (fields.map fun field => ⟨op, field.1, field.2⟩) d := by
  induction fields generalizing d with
  | nil => rfl
  | cons field rest ih => simp only [applyFields, List.map_cons, applyEdits, ih]

/-- The changes of an update are its edits, one after another. -/
theorem applyOperators_eq (update d : Document) :
    applyOperators update d = applyEdits (edits update) d := by
  induction update generalizing d with
  | nil => rfl
  | cons entry rest ih =>
      obtain ⟨name, argument⟩ := entry
      have hedits : edits ((name, argument) :: rest) =
          operatorEdits name argument ++ edits rest := List.flatMap_cons
      rw [hedits, applyEdits_append]
      unfold applyOperators operatorEdits
      simp only [ih]
      cases Operator.ofName? name with
      | none => rfl
      | some op =>
          cases argument with
          | document fields => simp only [applyFields_eq]
          | _ => rfl

variable {update d d' : Document} {changed : Bool}

theorem applyEdits_cons {e : Edit} {rest : List Edit}
    (h : applyEdits (e :: rest) d = .ok (d', changed)) :
    ∃ next first later, e.op.applyAt d e.path e.argument = .ok (next, first) ∧
      applyEdits rest next = .ok (d', later) := by
  unfold applyEdits at h
  cases hfirst : e.op.applyAt d e.path e.argument with
  | error cause =>
      rw [hfirst] at h
      cases h
  | ok result =>
      rw [hfirst] at h
      cases hrest : applyEdits rest result.1 with
      | error cause =>
          dsimp only [bind, Except.bind] at h
          rw [hrest] at h
          cases h
      | ok last =>
          dsimp only [bind, Except.bind] at h
          rw [hrest] at h
          cases h
          exact ⟨result.1, result.2, last.2, rfl, hrest⟩

/-- The first of some edits is made, and then the others; either may be a change. -/
theorem applyEdits_cons_eq_ok {e : Edit} {rest : List Edit} :
    applyEdits (e :: rest) d = .ok (d', changed) ↔
      ∃ next first later, e.op.applyAt d e.path e.argument = .ok (next, first) ∧
        applyEdits rest next = .ok (d', later) ∧ changed = (first || later) := by
  rw [applyEdits]
  cases hfirst : e.op.applyAt d e.path e.argument with
  | error cause =>
      constructor
      · intro h
        cases h
      · rintro ⟨next, first, later, h, -⟩
        cases h
  | ok result =>
      cases hrest : applyEdits rest result.1 with
      | error cause =>
          dsimp only [bind, Except.bind]
          rw [hrest]
          constructor
          · intro h
            cases h
          · rintro ⟨next, first, later, h, hlater, -⟩
            cases h
            rw [hrest] at hlater
            cases hlater
      | ok last =>
          dsimp only [bind, Except.bind]
          rw [hrest]
          constructor
          · intro h
            cases h
            exact ⟨result.1, result.2, last.2, rfl, hrest, rfl⟩
          · rintro ⟨next, first, later, h, hlater, rfl⟩
            cases h
            rw [hrest] at hlater
            cases hlater
            rfl

/-- What an update comes to: what its edits make of a document, if they change a value. -/
theorem apply_eq_ok : apply update d = .ok (d', changed) ↔
    ∃ next, applyEdits (edits update) d = .ok (next, changed) ∧
      d' = if changed then next else d := by
  unfold apply
  rw [applyOperators_eq]
  cases applyEdits (edits update) d with
  | error cause =>
      constructor
      · intro h
        cases h
      · rintro ⟨next, h, _⟩
        cases h
  | ok result =>
      obtain ⟨next, after⟩ := result
      constructor
      · intro h
        cases h
        exact ⟨next, rfl, rfl⟩
      · rintro ⟨next, h, rfl⟩
        cases h
        rfl

/-- A field is removed, or there is none at the path. -/
theorem unset_cases {path : String} {argument : Value}
    (h : Operator.applyAt .unset d path argument = .ok (d', changed)) :
    unsetAt (leaf path) (parents path) d = some d' ∨
      unsetAt (leaf path) (parents path) d = none ∧ d' = d := by
  change Except.ok (unsetPath d path) = _ at h
  unfold unsetPath at h
  cases hnext : unsetAt (leaf path) (parents path) d with
  | none =>
      rw [hnext] at h
      cases h
      exact .inr ⟨rfl, rfl⟩
  | some next =>
      rw [hnext] at h
      cases h
      exact .inl rfl

/-! ## Other paths -/

variable {e : Edit} {q : List String}

/-- A path that is apart from an edit leads where it led before. -/
theorem follow_edit_of_apart (h : e.op.applyAt d e.path e.argument = .ok (d', changed))
    (hapart : Apart (segments e.path) q) : follow q d' = follow q d := by
  rw [← parents_append_leaf] at hapart
  obtain ⟨op, path, argument⟩ := e
  cases op with
  | set => exact follow_setAt_of_apart h hapart
  | unset =>
      rcases unset_cases h with hnext | ⟨_, rfl⟩
      · exact follow_unsetAt_of_apart hnext hapart
      · rfl
  | inc =>
      change incPath d path argument = _ at h
      unfold incPath at h
      dsimp only at h
      split at h
      · exact follow_setAt_of_apart h hapart
      · cases h

/-- A path that is apart from all edits leads where it led before. -/
theorem follow_edits_of_apart {es : List Edit} (h : applyEdits es d = .ok (d', changed))
    (hapart : ∀ e ∈ es, Apart (segments e.path) q) : follow q d' = follow q d := by
  induction es generalizing d changed with
  | nil =>
      cases h
      rfl
  | cons e rest ih =>
      obtain ⟨next, first, later, hfirst, hrest⟩ := applyEdits_cons h
      rw [ih hrest fun e he => hapart e (List.mem_cons_of_mem _ he)]
      exact follow_edit_of_apart hfirst (hapart e List.mem_cons_self)

/-- The paths of an update, in order. -/
def paths (update : Document) : List String :=
  (edits update).map Edit.path

/-- An update that avoids the id of a document does not change it. -/
theorem id?_apply (h : apply update d = .ok (d', changed))
    (hid : ∀ path ∈ paths update, Avoids path idField) : Document.id? d' = Document.id? d := by
  obtain ⟨next, hedits, rfl⟩ := apply_eq_ok.mp h
  have hnext : follow [idField] next = follow [idField] d :=
    follow_edits_of_apart hedits fun e he => (hid e.path (List.mem_map_of_mem he)).apart
  cases changed with
  | true => exact hnext
  | false => rfl

/-! ## Edits that are done -/

/-- What an edit wants is there already.  What adds to a number is never done. -/
def Edit.Done (e : Edit) (d : Document) : Prop :=
  match e.op with
  | .set => follow (segments e.path) d = some e.argument
  | .unset => follow (segments e.path) d = none
  | .inc => False

theorem Edit.Done.of_follow (h : e.Done d)
    (hsame : follow (segments e.path) d' = follow (segments e.path) d) : e.Done d' := by
  obtain ⟨op, path, argument⟩ := e
  cases op with
  | set => exact hsame.trans h
  | unset => exact hsame.trans h
  | inc => exact h

/-- An edit that sets or removes a field is done after it. -/
theorem Edit.done (hproper : d.Proper) (hop : e.op ≠ .inc)
    (h : e.op.applyAt d e.path e.argument = .ok (d', changed)) : e.Done d' := by
  obtain ⟨op, path, argument⟩ := e
  cases op with
  | set =>
      change follow (segments path) d' = some argument
      rw [← parents_append_leaf]
      exact follow_setAt h
  | unset =>
      change follow (segments path) d' = none
      rw [← parents_append_leaf]
      rcases unset_cases h with hnext | ⟨hnone, rfl⟩
      · exact follow_unsetAt hproper hnext
      · exact unsetAt_eq_none.mp hnone
  | inc => exact absurd rfl hop

/-- An edit that is done changes nothing. -/
theorem Edit.Done.applyAt (h : e.Done d) :
    ∃ changed, e.op.applyAt d e.path e.argument = .ok (d, changed) := by
  obtain ⟨op, path, argument⟩ := e
  cases op with
  | set =>
      change follow (segments path) d = some argument at h
      rw [← parents_append_leaf] at h
      exact setAt_of_follow h
  | unset =>
      change follow (segments path) d = none at h
      rw [← parents_append_leaf] at h
      refine ⟨false, ?_⟩
      change Except.ok (unsetPath d path) = _
      unfold unsetPath
      rw [unsetAt_eq_none.mpr h]
  | inc => exact h.elim

theorem Edit.proper (hproper : d.Proper) (hargument : e.argument.Proper) (hop : e.op ≠ .inc)
    (h : e.op.applyAt d e.path e.argument = .ok (d', changed)) : d'.Proper := by
  obtain ⟨op, path, argument⟩ := e
  cases op with
  | set => exact setAt_proper hproper hargument h
  | unset =>
      rcases unset_cases h with hnext | ⟨_, rfl⟩
      · exact unsetAt_proper hproper hnext
      · exact hproper
  | inc => exact absurd rfl hop

/-! ## Updates that are done -/

/-- An update that only sets and removes fields, at paths none of which runs through another. -/
structure ConflictFree (update : Document) : Prop where
  /-- it has no other operators, and their arguments are documents -/
  plain : ∀ entry ∈ update, (entry.1 = "$set" ∨ entry.1 = "$unset") ∧
    ∃ fields, entry.2 = .document fields
  /-- no path is another one or runs through it -/
  apart : (paths update).Pairwise fun p q => Apart (segments p) (segments q)

/-- An edit is one of the fields of one of the operators. -/
theorem mem_edits {e : Edit} (h : e ∈ edits update) :
    ∃ name fields, (name, .document fields) ∈ update ∧ Operator.ofName? name = some e.op ∧
      (e.path, e.argument) ∈ fields := by
  obtain ⟨⟨name, argument⟩, hentry, he⟩ := List.mem_flatMap.mp h
  unfold operatorEdits at he
  split at he
  · rename_i op fields hop hargument
    obtain ⟨field, hfield, rfl⟩ := List.mem_map.mp he
    cases hargument
    exact ⟨name, fields, hentry, hop, hfield⟩
  · cases he

theorem ConflictFree.op_ne_inc (h : ConflictFree update) :
    ∀ e ∈ edits update, e.op ≠ .inc := by
  intro e he hinc
  obtain ⟨name, fields, hentry, hop, _⟩ := mem_edits he
  rw [hinc] at hop
  rcases (h.plain _ hentry).1 with rfl | rfl
  · cases hop
  · cases hop

theorem argument_proper (hproper : Document.Proper update) :
    ∀ e ∈ edits update, e.argument.Proper := by
  intro e he
  obtain ⟨name, fields, hentry, _, hfield⟩ := mem_edits he
  have hfields : Document.Proper fields := hproper.fields.mem hentry
  exact hfields.fields.mem hfield

/-- Edits at paths that are apart are all done after the last one. -/
theorem done_of_applyEdits {es : List Edit} (hproper : d.Proper) (hop : ∀ e ∈ es, e.op ≠ .inc)
    (hargument : ∀ e ∈ es, e.argument.Proper)
    (hapart : es.Pairwise fun e f => Apart (segments e.path) (segments f.path))
    (h : applyEdits es d = .ok (d', changed)) : ∀ e ∈ es, e.Done d' := by
  induction es generalizing d changed with
  | nil => exact nofun
  | cons e rest ih =>
      obtain ⟨next, first, later, hfirst, hrest⟩ := applyEdits_cons h
      obtain ⟨hothers, hapart⟩ := List.pairwise_cons.mp hapart
      have hnext : next.Proper :=
        Edit.proper hproper (hargument e List.mem_cons_self) (hop e List.mem_cons_self) hfirst
      intro f hf
      rcases List.mem_cons.mp hf with rfl | hf
      -- the edits behind it are apart from it and leave what it has done
      · have hdone : f.Done next := Edit.done hproper (hop f List.mem_cons_self) hfirst
        exact hdone.of_follow (follow_edits_of_apart hrest fun g hg => (hothers g hg).symm)
      · exact ih hnext (fun g hg => hop g (List.mem_cons_of_mem e hg))
          (fun g hg => hargument g (List.mem_cons_of_mem e hg)) hapart hrest f hf

/-- Edits that are all done change nothing. -/
theorem applyEdits_of_done {es : List Edit} (h : ∀ e ∈ es, e.Done d) :
    ∃ changed, applyEdits es d = .ok (d, changed) := by
  induction es with
  | nil => exact ⟨false, rfl⟩
  | cons e rest ih =>
      obtain ⟨first, hfirst⟩ := (h e List.mem_cons_self).applyAt
      obtain ⟨later, hrest⟩ := ih fun f hf => h f (List.mem_cons_of_mem e hf)
      refine ⟨first || later, ?_⟩
      unfold applyEdits
      rw [hfirst]
      dsimp only [bind, Except.bind]
      rw [hrest]
      rfl

/-- A conflict-free update changes nothing when it is applied again. -/
theorem ConflictFree.apply_again (h : ConflictFree update) (hupdate : Document.Proper update)
    (hproper : d.Proper) (happly : apply update d = .ok (d', changed)) :
    ∃ again, apply update d' = .ok (d', again) := by
  obtain ⟨next, hedits, rfl⟩ := apply_eq_ok.mp happly
  cases changed with
  | false => exact ⟨false, happly⟩
  | true =>
      have hapart := h.apart
      unfold paths at hapart
      rw [List.pairwise_map] at hapart
      have hdone := done_of_applyEdits hproper h.op_ne_inc (argument_proper hupdate) hapart hedits
      obtain ⟨again, hagain⟩ := applyEdits_of_done hdone
      refine ⟨again, apply_eq_ok.mpr ⟨next, hagain, ?_⟩⟩
      cases again with
      | true => rfl
      | false => rfl

end BulkSweep.Update

import BulkSweep.Proofs.Store.Reachable
import BulkSweep.Proofs.Update.Increments
import BulkSweep.Proofs.Value.Sameness

/-!
# Effects of an update

Edits at paths that are apart do what each of them does alone (`edits_apart`), and every edit reports a
change if its path leads elsewhere afterwards (`changed_applyAt`).  So an update does what it says, leaves
all other paths alone and reports a change exactly if the document is another one (`apply_effects`).
-/

set_option autoImplicit false

namespace BulkSweep.Update

open BulkSweep.Path

variable {d d' : Document} {changed : Bool} {e : Edit} {update : Document}

/-! ## Single edits -/

/-- What is removed was there, and what was not there is not removed. -/
theorem changed_unset {path : String} (hproper : d.Proper)
    (h : unsetPath d path = (d', changed)) :
    follow (segments path) d' = none ∧
      changed = !Value.alike (follow (segments path) d) (follow (segments path) d') := by
  rw [← parents_append_leaf]
  unfold unsetPath at h
  cases hnext : unsetAt (leaf path) (parents path) d with
  | none =>
      rw [hnext] at h
      cases h
      rw [unsetAt_eq_none.mp hnext]
      exact ⟨rfl, rfl⟩
  | some next =>
      rw [hnext] at h
      cases h
      rw [follow_unsetAt hproper hnext]
      cases hvalue : follow (parents path ++ [leaf path]) d with
      | none =>
          rw [unsetAt_eq_none.mpr hvalue] at hnext
          cases hnext
      | some value => exact ⟨rfl, rfl⟩

theorem incPath_eq_ok {path : String} {argument : Value}
    (h : incPath d path argument = .ok (d', changed)) :
    ∃ total, sum ((lookup d path).getD (.int32 0)) argument = some total ∧
      setPath d path total = .ok (d', changed) := by
  unfold incPath at h
  dsimp only at h
  split at h
  · rename_i total hsum
    exact ⟨total, hsum, h⟩
  · cases h

/-- An edit reports a change if its path leads elsewhere afterwards. -/
theorem changed_applyAt (hproper : d.Proper)
    (h : e.op.applyAt d e.path e.argument = .ok (d', changed)) :
    changed = !Value.alike (follow (segments e.path) d) (follow (segments e.path) d') := by
  obtain ⟨op, path, argument⟩ := e
  have hset : ∀ value, setPath d path value = .ok (d', changed) →
      changed = !Value.alike (follow (segments path) d) (follow (segments path) d') := by
    intro value hvalue
    rw [← parents_append_leaf, follow_setAt hvalue]
    exact changed_setAt hvalue
  cases op with
  | set => exact hset argument h
  | unset => exact (changed_unset hproper (Except.ok.inj h)).2
  | inc =>
      obtain ⟨total, -, htotal⟩ := incPath_eq_ok h
      exact hset total htotal

theorem sum_proper {a b total : Value} (h : sum a b = some total) : total.Proper := by
  unfold sum at h
  split at h
  · cases h
    split <;> simp [Value.Proper]
  · cases h
    simp [Value.Proper]
  · cases h
    simp [Value.Proper]
  · cases h
    simp [Value.Proper]
  · obtain ⟨x, -, rfl⟩ := Option.map_eq_some_iff.mp h
    simp [Value.Proper]

/-- An edit keeps a document proper. -/
theorem applyAt_proper (hproper : d.Proper) (hargument : e.argument.Proper)
    (h : e.op.applyAt d e.path e.argument = .ok (d', changed)) : d'.Proper := by
  by_cases hinc : e.op = .inc
  · rw [hinc] at h
    obtain ⟨total, hsum, hset⟩ := incPath_eq_ok h
    exact setAt_proper hproper (sum_proper hsum) hset
  · exact Edit.proper hproper hargument hinc h

/-! ## Edits that are apart -/

/-- Each of some edits that are apart is made as if it was alone: before it its path leads where it led at
the beginning, and after it where it leads at the end.  They are a change if one of the paths leads
elsewhere at the end. -/
theorem edits_apart {es : List Edit} (hproper : d.Proper) (harguments : ∀ e ∈ es, e.argument.Proper)
    (hapart : es.Pairwise fun e f => Apart (segments e.path) (segments f.path))
    (h : applyEdits es d = .ok (d', changed)) :
    d'.Proper ∧
      (∀ e ∈ es, ∃ before after own, e.op.applyAt before e.path e.argument = .ok (after, own) ∧
        before.Proper ∧ follow (segments e.path) before = follow (segments e.path) d ∧
        follow (segments e.path) after = follow (segments e.path) d') ∧
      (changed = true ↔ ∃ e ∈ es,
        Value.alike (follow (segments e.path) d) (follow (segments e.path) d') = false) := by
  induction es generalizing d changed with
  | nil =>
      cases h
      refine ⟨hproper, nofun, ?_⟩
      simp
  | cons e rest ih =>
      obtain ⟨next, first, later, hfirst, hrest, rfl⟩ := applyEdits_cons_eq_ok.mp h
      obtain ⟨hargument, harguments⟩ := List.forall_mem_cons.mp harguments
      obtain ⟨hothers, hapart⟩ := List.pairwise_cons.mp hapart
      have hnext : next.Proper := applyAt_proper hproper hargument hfirst
      obtain ⟨hlast, halone, hlater⟩ := ih hnext harguments hapart hrest
      have hbehind : follow (segments e.path) d' = follow (segments e.path) next :=
        follow_edits_of_apart hrest fun f hf => (hothers f hf).symm
      have hahead : ∀ f ∈ rest, follow (segments f.path) next = follow (segments f.path) d :=
        fun f hf => follow_edit_of_apart hfirst (hothers f hf)
      refine ⟨hlast, ?_, ?_⟩
      · intro f hf
        rcases List.mem_cons.mp hf with rfl | hf
        · exact ⟨d, next, first, hfirst, hproper, rfl, hbehind.symm⟩
        · obtain ⟨before, after, own, hown, hbefore, hsame, hafter⟩ := halone f hf
          exact ⟨before, after, own, hown, hbefore, hsame.trans (hahead f hf), hafter⟩
      · rw [Bool.or_eq_true, hlater, changed_applyAt hproper hfirst, ← hbehind, Bool.not_eq_true',
          List.exists_mem_cons_iff]
        refine or_congr_right (exists_congr fun f => and_congr_right fun hf => ?_)
        rw [hahead f hf]

/-! ## Whole updates -/

theorem mem_edits_of {name path : String} {fields : Document} {op : Operator} {value : Value}
    (hentry : (name, .document fields) ∈ update) (hop : Operator.ofName? name = some op)
    (hfield : (path, value) ∈ fields) : (⟨op, path, value⟩ : Edit) ∈ edits update := by
  refine List.mem_flatMap.mpr ⟨_, hentry, ?_⟩
  unfold operatorEdits
  rw [hop]
  exact List.mem_map.mpr ⟨(path, value), hfield, rfl⟩

/-- What an update with paths that are apart does to a document. -/
structure Effect (update d d' : Document) (changed : Bool) : Prop where
  /-- a path that is set leads to a value equal to the given one -/
  sets : ∀ fields path value, ("$set", .document fields) ∈ update → (path, value) ∈ fields →
    ∃ found, follow (segments path) d' = some found ∧ (found == value) = true
  /-- a path that is unset leads nowhere -/
  unsets : ∀ fields path value, ("$unset", .document fields) ∈ update → (path, value) ∈ fields →
    follow (segments path) d' = none
  /-- a path that is apart from all paths of the update leads where it led before -/
  frame : ∀ q, (∀ path ∈ paths update, Apart (segments path) q) → follow q d' = follow q d
  /-- a change is reported exactly if the document is another one -/
  reports : changed = true ↔ Document.same d d' = false
  /-- without a change the document is the very same -/
  keeps : changed = false → d' = d

/-- A path of an update leads afterwards where its edits have made it lead, or to an equal value that was
there before: the document is given up for its old self if nothing is a change. -/
theorem follow_of_apply {next : Document} (hd' : d' = if changed then next else d)
    (hchanged : changed = true ↔ ∃ e ∈ edits update,
      Value.alike (follow (segments e.path) d) (follow (segments e.path) next) = false)
    (he : e ∈ edits update) :
    follow (segments e.path) d' = follow (segments e.path) next ∨
      Value.alike (follow (segments e.path) d') (follow (segments e.path) next) = true := by
  cases changed with
  | true =>
      rw [hd', if_pos rfl]
      exact .inl rfl
  | false =>
      rw [hd', if_neg Bool.false_ne_true]
      refine .inr ?_
      by_contra halike
      exact Bool.false_ne_true (hchanged.mpr ⟨e, he, Bool.eq_false_iff.mpr halike⟩)

/-- An update whose paths are apart has its effect where it succeeds. -/
theorem effect_of_apply (hupdate : Document.Regular update) (hregular : Document.Regular d)
    (hapart : (paths update).Pairwise fun p q => Apart (segments p) (segments q))
    (happly : apply update d = .ok (d', changed)) : Effect update d d' changed := by
  obtain ⟨next, hedits, hd'⟩ := apply_eq_ok.mp happly
  have harguments : ∀ e ∈ edits update, e.argument.Regular := by
    intro e he
    obtain ⟨name, fields, hentry, -, hfield⟩ := mem_edits he
    exact Document.FieldsRegular.mem (Document.Regular.fields (hupdate.fields.mem hentry)) hfield
  rw [paths, List.pairwise_map] at hapart
  obtain ⟨-, halone, hchanged⟩ :=
    edits_apart hregular.proper (fun e he => (harguments e he).proper) hapart hedits
  refine ⟨?_, ?_, ?_, ?_, ?_⟩
  · intro fields path value hentry hfield
    have hmem : (⟨.set, path, value⟩ : Edit) ∈ edits update := mem_edits_of hentry rfl hfield
    obtain ⟨before, after, own, hown, -, -, hafter⟩ := halone _ hmem
    have hvalue : follow (segments path) next = some value := by
      rw [← hafter, ← parents_append_leaf]
      exact follow_setAt hown
    rcases follow_of_apply hd' hchanged hmem with hleads | halike
    · exact ⟨value, hleads.trans hvalue, Value.beq_self (harguments _ hmem)⟩
    · rw [hvalue] at halike
      cases hfound : follow (segments path) d' with
      | none =>
          rw [hfound] at halike
          cases halike
      | some found =>
          rw [hfound] at halike
          exact ⟨found, rfl, halike⟩
  · intro fields path value hentry hfield
    have hmem : (⟨.unset, path, value⟩ : Edit) ∈ edits update := mem_edits_of hentry rfl hfield
    obtain ⟨before, after, own, hown, hbefore, -, hafter⟩ := halone _ hmem
    have hnone : follow (segments path) next = none := by
      rw [← hafter]
      exact (changed_unset hbefore (Except.ok.inj hown)).1
    rcases follow_of_apply hd' hchanged hmem with hleads | halike
    · exact hleads.trans hnone
    · rw [hnone] at halike
      cases hfound : follow (segments path) d' with
      | none => rfl
      | some found =>
          rw [hfound] at halike
          cases halike
  · intro q hq
    rw [hd']
    cases changed with
    | true => exact follow_edits_of_apart hedits fun e he => hq e.path (List.mem_map_of_mem he)
    | false => rfl
  · rw [hd']
    cases changed with
    | true =>
        obtain ⟨e, -, helsewhere⟩ := hchanged.mp rfl
        rw [if_pos rfl]
        refine ⟨fun _ => ?_, fun _ => rfl⟩
        by_contra hsame
        rw [alike_follow hregular.proper (Bool.not_eq_false _ ▸ hsame)] at helsewhere
        cases helsewhere
    | false =>
        rw [if_neg Bool.false_ne_true, Document.same_self hregular]
        simp
  · intro hno
    rw [hd', hno]
    rfl

/-- A document to which an update cannot be applied stays as it is in its collection. -/
theorem getElem?_update_of_error {cause : Error} (hfails : apply update d = .error cause)
    {docs : Collection} (ids : List Value) {i : Nat} (hd : docs[i]? = some d) :
    (docs.update ids update).1[i]? = some d := by
  have hpass : List.Forall₂ (fun before after =>
      apply update before = .error cause → after = before) docs (docs.update ids update).1 := by
    refine Collection.update_forall₂ docs ids (fun _ _ => rfl) ?_
    intro before after changed happly hfailed
    rw [happly] at hfailed
    cases hfailed
  obtain ⟨hlength, hpairs⟩ := List.forall₂_iff_get.mp hpass
  obtain ⟨hi, hget⟩ := List.getElem?_eq_some_iff.mp hd
  have hsame := hpairs i hi (hlength ▸ hi)
  simp only [List.get_eq_getElem, hget] at hsame
  rw [List.getElem?_eq_some_iff]
  exact ⟨hlength ▸ hi, hsame hfails⟩

/-- An update whose paths are apart does what it says and nothing else, if it succeeds on a document, and
reports whether the document is another one.  Where it fails the document stays as it is in its
collection, whatever was done before the edit that fails. -/
theorem apply_effects (hupdate : Document.Regular update) (hregular : Document.Regular d)
    (hapart : (paths update).Pairwise fun p q => Apart (segments p) (segments q)) :
    (∀ d' changed, apply update d = .ok (d', changed) → Effect update d d' changed) ∧
      ∀ cause, apply update d = .error cause →
        ∀ (docs : Collection) (ids : List Value) (i : Nat), docs[i]? = some d →
          (docs.update ids update).1[i]? = some d := by
  constructor
  · intro d' changed happly
    exact effect_of_apply hupdate hregular hapart happly
  · intro cause hfails docs ids i hd
    exact getElem?_update_of_error hfails ids hd

/-- A path is set, one is unset and one is added to. -/
theorem apply_effects_of_mixture :
    let d : Document := [("a", .document [("n", .int32 1)]), ("old", .boolean true)]
    let d' : Document := [("a", .document [("n", .int32 3), ("b", .string "x")])]
    let update : Document := [("$set", .document [("a.b", .string "x")]),
      ("$unset", .document [("old", .string "")]), ("$inc", .document [("a.n", .int32 2)])]
    Document.Regular update ∧ Document.Regular d ∧
      ((paths update).Pairwise fun p q => Apart (segments p) (segments q)) ∧
      apply update d = .ok (d', true) ∧ Effect update d d' true := by
  intro d d' update
  have hupdate : Document.Regular update := by
    simp [update, Document.Regular, Value.Regular, Document.FieldsRegular, Document.keys]
  have hregular : Document.Regular d := by
    simp [d, Document.Regular, Value.Regular, Document.FieldsRegular, Document.keys]
  have hapart : (paths update).Pairwise fun p q => Apart (segments p) (segments q) := by
    change List.Pairwise (fun p q => ¬segments p <+: segments q ∧ ¬segments q <+: segments p)
      ["a.b", "old", "a.n"]
    decide
  have happly : apply update d = .ok (d', true) := rfl
  exact ⟨hupdate, hregular, hapart, happly, (apply_effects hupdate hregular hapart).1 d' true happly⟩

end BulkSweep.Update

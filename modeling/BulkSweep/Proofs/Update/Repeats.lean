import Mathlib.Algebra.Order.BigOperators.Group.List
import Mathlib.Algebra.Order.Group.Nat
import BulkSweep.Proofs.Update.FieldOrder

/-!
# Updates that are applied again

An update that only sets and removes fields leaves the document as it is when it is applied again, unless
its edits get in each other's way: a value that is set may stop an edit before it, and a field that is
removed and set anew may go behind another one (`apply_twice`).  For changes this is by induction on the depth
of the fields: what does not depend on the value of a field comes out the same, and what is changed within
the field is changed by fewer names (`makeAll_again`).
-/

set_option autoImplicit false

namespace BulkSweep.Update

open BulkSweep.Path

/-! ## Changes within one field -/

/-- The change in the document under a field. -/
def Change.under (name : String) (c : Change) : Change :=
  ⟨name :: c.parents, c.leaf, c.value⟩

variable {cs ws : List Change} {d d' d'' : Document} {name : String}

theorem Change.eq_under {c w : Change} (h : c.fieldChange = .within w) : c = w.under c.head := by
  obtain ⟨parents, leaf, value⟩ := c
  cases parents with
  | nil =>
      cases value with
      | none => cases h
      | some value => cases h
  | cons first more =>
      cases h
      rfl

/-- Changes that are all made within one field are those of its document, one name shorter. -/
theorem filter_eq_under (h : changesOf name cs = ws.map .within) :
    (cs.filter fun c => c.head = name) = ws.map (Change.under name) := by
  have hheads : ∀ c ∈ (cs.filter fun c => c.head = name), c.head = name := fun c hc =>
    of_decide_eq_true (List.mem_filter.mp hc).2
  rw [changesOf] at h
  generalize (cs.filter fun c => c.head = name) = own at h hheads
  induction own generalizing ws with
  | nil =>
      rw [List.map_eq_nil_iff.mp h.symm]
      rfl
  | cons c rest ih =>
      cases ws with
      | nil => cases h
      | cons w others =>
          obtain ⟨hfirst, hrest⟩ := List.cons.inj h
          have hc : c = w.under name := by
            rw [← hheads c List.mem_cons_self]
            exact Change.eq_under hfirst
          rw [List.map_cons, hc, ih hrest fun f hf => hheads f (List.mem_cons_of_mem c hf)]

theorem under_mem (h : changesOf name cs = ws.map .within) {w : Change} (hw : w ∈ ws) :
    w.under name ∈ cs := by
  have hmem : w.under name ∈ cs.filter fun c => c.head = name := by
    rw [filter_eq_under h]
    exact List.mem_map_of_mem hw
  exact List.mem_of_mem_filter hmem

theorem ValuesProper.within (hvalues : ValuesProper cs) (h : changesOf name cs = ws.map .within) :
    ValuesProper ws :=
  fun w hw => hvalues (w.under name) (under_mem h hw)

theorem KeepsOrder.within (horder : KeepsOrder cs) (h : changesOf name cs = ws.map .within) :
    KeepsOrder ws := by
  intro e f g hsublist hdisplaces
  have hunder : List.Sublist [e.under name, f.under name, g.under name] cs := by
    have hmap := hsublist.map (Change.under name)
    rw [← filter_eq_under h] at hmap
    exact hmap.trans List.filter_sublist
  obtain ⟨he, hf, hg, hthrough, hparents, hbeside⟩ := hdisplaces
  refine horder _ _ _ hunder ⟨he, hf, hg, ?_, ?_, ?_⟩
  · exact List.cons_prefix_cons.mpr ⟨rfl, hthrough⟩
  · exact List.cons_prefix_cons.mpr ⟨rfl, hparents⟩
  · exact fun hagain => hbeside (List.cons_prefix_cons.mp hagain).2

/-! ## Changes that are made again -/

/-- A document that was changed is not changed again by the same changes, if they keep the order of the
fields.  The induction is on the number of names that lead to a field. -/
theorem makeAll_again_of_depth (depth : Nat) (hdepth : ∀ c ∈ cs, c.parents.length < depth) (hproper : d.Proper)
    (hvalues : ValuesProper cs) (horder : KeepsOrder cs) (h : makeAll cs d = some d')
    (hagain : makeAll cs d' = some d'') : d'' = d' := by
  induction depth generalizing cs d d' d'' with
  | zero =>
      have hnil : cs = [] := List.eq_nil_iff_forall_not_mem.mpr fun c hc => Nat.not_lt_zero _ (hdepth c hc)
      rw [hnil] at hagain
      cases hagain
      rfl
  | succ depth ih =>
      have hproper' := makeAll_proper hproper hvalues h
      have hfields : ∀ name, d''.get? name = d'.get? name := by
        intro name
        refine makeFields_again ?_ (makeFields_changesOf hproper hvalues h)
          (makeFields_changesOf hproper' hvalues hagain)
        intro ws hws inner inner' inner'' hinner hfirst hsecond
        have hinnerProper : Document.Proper inner := by
          rcases hinner with hinner | rfl
          · exact hproper.inner hinner
          · exact Document.proper_mk List.nodup_nil trivial
        refine ih (fun w hw => ?_) hinnerProper (hvalues.within hws) (horder.within hws) hfirst hsecond
        exact Nat.lt_of_succ_lt_succ (hdepth (w.under name) (under_mem hws hw))
      have hkeys : Document.keys d'' = Document.keys d' := by
        refine keys_again hproper hvalues horder h hagain fun name => ?_
        rw [← not_iff_not, ← Document.get?_eq_none_iff, ← Document.get?_eq_none_iff, hfields name]
      exact Document.eq_of_keys hkeys (makeAll_proper hproper' hvalues hagain).keys hfields

theorem makeAll_again (hproper : d.Proper) (hvalues : ValuesProper cs) (horder : KeepsOrder cs)
    (h : makeAll cs d = some d') (hagain : makeAll cs d' = some d'') : d'' = d' := by
  refine makeAll_again_of_depth ((cs.map fun c => c.parents.length).sum + 1) (fun c hc => ?_)
    hproper hvalues horder h hagain
  exact Nat.lt_succ_of_le (List.single_le_sum (fun _ _ => Nat.zero_le _) _ (List.mem_map_of_mem hc))

/-! ## Edits that are made again -/

namespace Edit

/-- The change of an edit that sets or removes a field. -/
def change (e : Edit) : Change :=
  ⟨parents e.path, leaf e.path, match e.op with
    | .unset => none
    | _ => some e.argument⟩

/-- After the one edit, in a document that it alone has made, the other one cannot be made. -/
def Stops (f e : Edit) : Prop :=
  ∃ made changed cause, f.op.applyAt [] f.path f.argument = .ok (made, changed) ∧
    e.op.applyAt made e.path e.argument = .error cause

/-- A field is removed and it or a field within it is set, and then another field of the document around it
is set. -/
def Displaces (e f g : Edit) : Prop :=
  e.op = .unset ∧ f.op = .set ∧ g.op = .set ∧ segments e.path <+: segments f.path ∧
    parents e.path <+: parents g.path ∧ ¬segments e.path <+: segments g.path

variable {e f g : Edit} {changed : Bool}

theorem change_names (e : Edit) : e.change.names = segments e.path :=
  parents_append_leaf e.path

theorem make_change (hop : e.op ≠ .inc) :
    e.change.make d = some d' ↔ ∃ changed, e.op.applyAt d e.path e.argument = .ok (d', changed) := by
  obtain ⟨op, path, argument⟩ := e
  cases op with
  | set => exact Change.make_of_set rfl
  | unset =>
      rw [Change.make_of_unset rfl]
      constructor
      · intro h
        change ∃ changed, Except.ok (unsetPath d path) = .ok (d', changed)
        unfold unsetPath
        rcases h with hremoved | ⟨hnone, rfl⟩
        · change unsetAt (leaf path) (parents path) d = some d' at hremoved
          rw [hremoved]
          exact ⟨true, rfl⟩
        · change unsetAt (leaf path) (parents path) d' = none at hnone
          rw [hnone]
          exact ⟨false, rfl⟩
      · rintro ⟨changed, h⟩
        exact unset_cases h
  | inc => exact absurd rfl hop

/-- An edit that stops another one does so by a value that it sets. -/
theorem Stops.of_change (hop : f.op ≠ .inc) (hop' : e.op ≠ .inc) (h : f.change.Stops e.change) :
    f.Stops e := by
  obtain ⟨hvalue, p, hparents, made, hmade, hblocks⟩ := h
  obtain ⟨changed, hedit⟩ := (make_change hop).mp hmade
  refine ⟨made, changed, ?_⟩
  cases hresult : e.op.applyAt made e.path e.argument with
  | error cause => exact ⟨cause, hedit, rfl⟩
  | ok result =>
      have hpassed : e.change.make made = some result.1 := (make_change hop').mpr ⟨result.2, hresult⟩
      exact absurd hblocks (Change.passable_of_make hvalue hpassed p hparents)

theorem change_value (hop : e.op ≠ .inc) : e.change.value = none ↔ e.op = .unset := by
  obtain ⟨op, path, argument⟩ := e
  cases op with
  | set => simp [change]
  | unset => simp [change]
  | inc => exact absurd rfl hop

theorem Displaces.of_change (he : e.op ≠ .inc) (hf : f.op ≠ .inc) (hg : g.op ≠ .inc)
    (h : e.change.Displaces f.change g.change) : e.Displaces f g := by
  have hset : ∀ {e : Edit}, e.op ≠ .inc → e.change.value ≠ none → e.op = .set := by
    intro e hop hvalue
    rw [Ne, change_value hop] at hvalue
    cases hkind : e.op with
    | set => rfl
    | unset => exact absurd hkind hvalue
    | inc => exact absurd hkind hop
  obtain ⟨hremoved, hfset, hgset, hthrough, hparents, hbeside⟩ := h
  rw [change_names, change_names] at hthrough hbeside
  exact ⟨(change_value he).mp hremoved, hset hf hfset, hset hg hgset, hthrough, hparents, hbeside⟩

end Edit

theorem makeAll_changes {es : List Edit} (hop : ∀ e ∈ es, e.op ≠ .inc) :
    makeAll (es.map Edit.change) d = some d' ↔ ∃ changed, applyEdits es d = .ok (d', changed) := by
  induction es generalizing d with
  | nil =>
      constructor
      · intro h
        cases h
        exact ⟨false, rfl⟩
      · rintro ⟨changed, h⟩
        cases h
        rfl
  | cons e rest ih =>
      rw [List.map_cons, makeAll_cons]
      simp only [Edit.make_change (hop e List.mem_cons_self),
        ih fun f hf => hop f (List.mem_cons_of_mem e hf), applyEdits_cons_eq_ok]
      constructor
      · rintro ⟨next, ⟨first, hfirst⟩, later, hrest⟩
        exact ⟨first || later, next, first, later, hfirst, hrest, rfl⟩
      · rintro ⟨changed, next, first, later, hfirst, hrest, -⟩
        exact ⟨next, ⟨first, hfirst⟩, later, hrest⟩

/-! ## Updates that are applied again -/

variable {update : Document} {changed : Bool}

/-- What adds to a number is not safe to apply again. -/
theorem op_ne_inc_of_compounding (h : compounding update = []) : ∀ e ∈ edits update, e.op ≠ .inc := by
  intro e he hinc
  obtain ⟨name, fields, hentry, hop, -⟩ := mem_edits he
  have hname : name = "$inc" := by
    rw [hinc] at hop
    unfold Operator.ofName? at hop
    split at hop
    · cases hop
    · cases hop
    · rfl
    · cases hop
  have hmem : name ∈ compounding update := by
    refine List.mem_filter.mpr ⟨List.mem_map_of_mem hentry, ?_⟩
    rw [hname]
    decide
  rw [h] at hmem
  cases hmem

/-- An update that only sets and removes fields can be applied again and then leaves the document as it is,
if no value that is set stops an edit before it and no field is set behind one of the same document that is
removed and set anew. -/
theorem apply_twice (hplain : compounding update = [])
    (hstops : (edits update).Pairwise fun e f => ¬f.Stops e)
    (horder : ∀ e f g, List.Sublist [e, f, g] (edits update) → ¬e.Displaces f g)
    (hupdate : Document.Proper update) (hproper : d.Proper)
    (happly : apply update d = .ok (d', changed)) : ∃ again, apply update d' = .ok (d', again) := by
  obtain ⟨next, hedits, rfl⟩ := apply_eq_ok.mp happly
  cases changed with
  | false => exact ⟨false, happly⟩
  | true =>
      have hop := op_ne_inc_of_compounding hplain
      have hvalues : ValuesProper ((edits update).map Edit.change) := by
        intro c hc value hvalue
        obtain ⟨e, he, rfl⟩ := List.mem_map.mp hc
        have hargument := argument_proper hupdate e he
        obtain ⟨op, path, argument⟩ := e
        cases op with
        | unset => cases hvalue
        | set | inc =>
            cases hvalue
            exact hargument
      have hway : ((edits update).map Edit.change).Pairwise fun e f => ¬f.Stops e := by
        rw [List.pairwise_map]
        refine hstops.imp_of_mem fun he hf hfree hstops => hfree ?_
        exact Edit.Stops.of_change (hop _ hf) (hop _ he) hstops
      have hkeeps : KeepsOrder ((edits update).map Edit.change) := by
        intro c₁ c₂ c₃ hsublist hdisplaces
        obtain ⟨es, hes, hmap⟩ := List.sublist_map_iff.mp hsublist
        obtain ⟨e, rest₁, rfl, rfl, hmap₁⟩ := List.map_eq_cons_iff.mp hmap.symm
        obtain ⟨f, rest₂, rfl, rfl, hmap₂⟩ := List.map_eq_cons_iff.mp hmap₁
        obtain ⟨g, rest₃, rfl, rfl, hmap₃⟩ := List.map_eq_cons_iff.mp hmap₂
        rw [List.map_eq_nil_iff.mp hmap₃] at hes
        have hops : ∀ h ∈ [e, f, g], h.op ≠ .inc := fun h hh => hop h (hes.subset hh)
        refine horder e f g hes (Edit.Displaces.of_change (hops e ?_) (hops f ?_) (hops g ?_) hdisplaces)
        · simp
        · simp
        · simp
      have hfirst := (makeAll_changes hop).mpr ⟨true, hedits⟩
      obtain ⟨last, hlast⟩ := exists_makeAll_again hproper hvalues hway hfirst
      obtain ⟨again, hagain⟩ := (makeAll_changes hop).mp hlast
      rw [makeAll_again hproper hvalues hkeeps hfirst hlast] at hagain
      exact ⟨again, apply_eq_ok.mpr ⟨next, hagain, by rw [if_pos rfl, ite_self]⟩⟩

/-- A field is removed and set anew behind all others, and one is set along a document. -/
theorem apply_twice_of_fields :
    let update : Document := [("$unset", .document [("a", .string "")]),
      ("$set", .document [("b.c", .int32 1), ("b", .document [("c", .int32 2)]), ("a.c", .int32 3)])]
    let d : Document := [("a", .int32 5), ("x", .int32 0)]
    let d' : Document := [("x", .int32 0), ("b", .document [("c", .int32 2)]),
      ("a", .document [("c", .int32 3)])]
    validate update = .ok () ∧ compounding update = [] ∧
      (edits update).Pairwise (fun e f => ¬f.Stops e) ∧
      (∀ e f g, List.Sublist [e, f, g] (edits update) → ¬e.Displaces f g) ∧
      Document.Proper update ∧ Document.Proper d ∧ apply update d = .ok (d', true) ∧
      ∃ again, apply update d' = .ok (d', again) := by
  intro update d d'
  have hplain : compounding update = [] := by decide
  have hedits : edits update = [⟨.unset, "a", .string ""⟩, ⟨.set, "b.c", .int32 1⟩,
      ⟨.set, "b", .document [("c", .int32 2)]⟩, ⟨.set, "a.c", .int32 3⟩] := rfl
  have hb : segments "b.c" = ["b", "c"] := by decide
  have ha : segments "a.c" = ["a", "c"] := by decide
  have hb' : segments "b" = ["b"] := by decide
  have ha' : segments "a" = ["a"] := by decide
  have hstops : (edits update).Pairwise fun e f => ¬f.Stops e := by
    rw [hedits]
    simp [Edit.Stops, Operator.applyAt, setPath, parents, leaf, hb, ha, hb', setAt, Document.get?,
      Document.insert, List.lookup_cons, bind, Except.bind, pure, Except.pure]
  have horder : ∀ e f g, List.Sublist [e, f, g] (edits update) → ¬e.Displaces f g := by
    rintro e f g hsublist ⟨hunset, -, -, hthrough, -⟩
    rw [hedits] at hsublist
    -- only the last edit sets anew what is removed, and none comes behind it
    have hbehind : e.op = .set ∨ e.path = "a" ∧ (f.path = "b" ∨ f.path = "b.c") := by
      simp only [List.sublist_cons_iff, List.sublist_nil, List.cons.injEq, reduceCtorEq] at hsublist
      grind
    rcases hbehind with hset | ⟨hremoved, hset | hset⟩
    · rw [hset] at hunset
      cases hunset
    · rw [hremoved, hset, ha', hb'] at hthrough
      exact absurd hthrough (by decide)
    · rw [hremoved, hset, ha', hb] at hthrough
      exact absurd hthrough (by decide)
  have hupdate : Document.Proper update := by
    simp [update, Document.Proper, Value.Proper, Document.FieldsProper, Document.keys]
  have hproper : Document.Proper d := by
    simp [d, Document.Proper, Value.Proper, Document.FieldsProper, Document.keys]
  have happly : apply update d = .ok (d', true) := rfl
  exact ⟨rfl, hplain, hstops, horder, hupdate, hproper, happly,
    apply_twice hplain hstops horder hupdate hproper happly⟩

/-- Without these conditions an update that is valid and without risky operators may fail when it is applied
again, or change the order of the fields. -/
theorem second_application_differs :
    (∃ update d d' : Document, validate update = .ok () ∧ compounding update = [] ∧
      Document.Proper update ∧ Document.Proper d ∧ apply update d = .ok (d', true) ∧
      apply update d' = .error (.pathNotViable "b" "a" "a non-numeric value")) ∧
    ∃ update d d' : Document, validate update = .ok () ∧ compounding update = [] ∧
      Document.Proper update ∧ Document.Proper d ∧ apply update d = .ok (d', true) ∧
      apply update d' = .ok (d'.reverse, true) ∧ d'.reverse ≠ d' := by
  constructor
  · refine ⟨[("$set", .document [("a.b", .int32 1), ("a", .int32 5)])], [], [("a", .int32 5)],
      rfl, by decide, ?_, ?_, rfl, rfl⟩
    · simp [Document.Proper, Value.Proper, Document.FieldsProper, Document.keys]
    · simp [Document.Proper, Value.Proper, Document.FieldsProper, Document.keys]
  · refine ⟨[("$unset", .document [("a", .string "")]),
      ("$set", .document [("a", .int32 1), ("b", .int32 2)])], [], [("a", .int32 1), ("b", .int32 2)],
      rfl, by decide, ?_, ?_, rfl, rfl, by simp⟩
    · simp [Document.Proper, Value.Proper, Document.FieldsProper, Document.keys]
    · simp [Document.Proper, Value.Proper, Document.FieldsProper, Document.keys]

end BulkSweep.Update

import Mathlib.Data.List.Forall2
import BulkSweep.Path
import BulkSweep.Proofs.Update.Fields
import BulkSweep.Value.Equality
import BulkSweep.Value.Order

/-!
# Values with fields in other places

The fields of a document, and of the documents within it, can stand in any order.  Reordering them keeps
what is found under a name and at a path (`get?_rel`, `lookup_rel`), and it changes neither which values
are equal (`beq_reordering`) nor how they are ordered (`order_reordering`).
-/

set_option autoImplicit false

namespace BulkSweep

/-! ## Values without parts -/

namespace Value

/-- Whether a value has no values within it. -/
def isAtom : Value → Bool
  | array _ | document _ | codeWithScope _ _ => false
  | _ => true

/-- No document within a value has two fields of one name. -/
inductive Distinct : Value → Prop where
  /-- nothing is within it -/
  | atom {v : Value} (hatom : v.isAtom = true) : Distinct v
  /-- a list of such values -/
  | array {items : List Value} (hitems : ∀ item ∈ items, Distinct item) : Distinct (.array items)
  /-- a document of such values under different names -/
  | document {d : Document} (hkeys : (Document.keys d).Nodup)
      (hfields : ∀ field ∈ d, Distinct field.2) : Distinct (.document d)
  /-- program text with such variables -/
  | codeWithScope {text : String} {scope : Document} (hkeys : (Document.keys scope).Nodup)
      (hfields : ∀ field ∈ scope, Distinct field.2) : Distinct (.codeWithScope text scope)

end Value

/-! ## Reordered values -/

/-- Two documents have the same names in the same order, and the values under each name are related. -/
inductive Document.Fieldwise (R : Value → Value → Prop) : Document → Document → Prop where
  /-- both are empty -/
  | nil : Fieldwise R [] []
  /-- a field of each, and the others -/
  | cons {name : String} {v w : Value} {d e : Document} (hvalue : R v w) (hrest : Fieldwise R d e) :
      Fieldwise R ((name, v) :: d) ((name, w) :: e)

/-- The second value is the first one with the fields of documents within it in other places. -/
inductive Value.Reordered : Value → Value → Prop where
  /-- all stays in its place -/
  | refl (v : Value) : Reordered v v
  /-- within the items of a list, which stay in their places -/
  | array {items items' : List Value} (hitems : List.Forall₂ Reordered items items') :
      Reordered (.array items) (.array items')
  /-- within the fields of a document, and then these fields themselves -/
  | document {d middle d' : Document} (hfields : Document.Fieldwise Reordered d middle)
      (hperm : middle.Perm d') : Reordered (.document d) (.document d')
  /-- likewise for the variables of a program text -/
  | codeWithScope {text : String} {scope middle scope' : Document}
      (hfields : Document.Fieldwise Reordered scope middle) (hperm : middle.Perm scope') :
      Reordered (.codeWithScope text scope) (.codeWithScope text scope')

/-- A value in which no name comes twice, and the same value in another order. -/
structure Value.Reordering (v w : Value) : Prop where
  /-- no document has two fields of one name -/
  distinct : v.Distinct
  /-- the second value is the first one reordered -/
  reordered : v.Reordered w

/-- A document in which no name comes twice, and the same document in another order. -/
def Document.Reordering (d e : Document) : Prop :=
  Value.Reordering (.document d) (.document e)

/-! ## Items and fields -/

section Items

variable {R : Value → Value → Prop} {items items' : List Value} {p q : Value → Bool}
  (h : List.Forall₂ R items items') (hpq : ∀ v w, R v w → p v = q w)

include h hpq

/-- What holds of one item of a list does so of one item of a related list. -/
theorem Value.any_eq_of_forall₂ : items.any p = items'.any q := by
  induction h with
  | nil => rfl
  | cons hitem _ ih => rw [List.any_cons, List.any_cons, hpq _ _ hitem, ih]

theorem Value.all_eq_of_forall₂ : items.all p = items'.all q := by
  induction h with
  | nil => rfl
  | cons hitem _ ih => rw [List.all_cons, List.all_cons, hpq _ _ hitem, ih]

end Items

namespace Document

variable {R S : Value → Value → Prop} {d e middle : Document} {name : String} {v : Value}

theorem Fieldwise.refl (hrefl : ∀ v, R v v) : ∀ d, Fieldwise R d d
  | [] => .nil
  | (_, v) :: rest => .cons (hrefl v) (Fieldwise.refl hrefl rest)

theorem Fieldwise.imp (h : Fieldwise R d e)
    (himp : ∀ field ∈ d, ∀ w, R field.2 w → S field.2 w) : Fieldwise S d e := by
  induction h with
  | nil => exact .nil
  | cons hvalue _ ih =>
      obtain ⟨hthis, hothers⟩ := List.forall_mem_cons.mp himp
      exact .cons (hthis _ hvalue) (ih hothers)

theorem Fieldwise.keys_eq (h : Fieldwise R d e) : keys d = keys e := by
  induction h with
  | nil => rfl
  | cons _ _ ih => exact congrArg (List.cons _) ih

theorem Fieldwise.get?_rel (h : Fieldwise R d e) (name : String) :
    Option.Rel R (get? d name) (get? e name) := by
  induction h with
  | nil => exact .none
  | @cons key _ _ _ _ hvalue _ ih =>
      unfold get? at ih ⊢
      rw [List.lookup_cons, List.lookup_cons]
      cases name == key with
      | true => exact .some hvalue
      | false => exact ih

/-- What holds of all fields does so in both documents. -/
theorem Fieldwise.all_eq (h : Fieldwise R d e) {p q : String × Value → Bool}
    (hpq : ∀ name v w, (name, v) ∈ d → R v w → p (name, v) = q (name, w)) : d.all p = e.all q := by
  induction h with
  | nil => rfl
  | cons hvalue _ ih =>
      rw [List.all_cons, List.all_cons, hpq _ _ _ List.mem_cons_self hvalue,
        ih fun name v w hfield => hpq name v w (List.mem_cons_of_mem _ hfield)]

/-- Where no name comes twice the place of a field does not matter. -/
theorem get?_perm (hkeys : (keys d).Nodup) (hperm : d.Perm e) (name : String) :
    get? d name = get? e name := by
  have hother : (keys e).Nodup := (hperm.map Prod.fst).nodup_iff.mp hkeys
  refine Option.ext fun v => ?_
  rw [get?_eq_some_iff hkeys, get?_eq_some_iff hother]
  exact hperm.mem_iff

end Document

/-! ## Parts of reordered values -/

namespace Value

variable {v w : Value} {items : List Value} {d scope : Document} {text : String}

theorem distinct_array_iff : Distinct (.array items) ↔ ∀ item ∈ items, Distinct item := by
  refine ⟨fun h => ?_, .array⟩
  cases h with
  | atom hatom => cases hatom
  | array hitems => exact hitems

theorem distinct_document_iff :
    Distinct (.document d) ↔ (Document.keys d).Nodup ∧ ∀ field ∈ d, Distinct field.2 := by
  refine ⟨fun h => ?_, fun h => .document h.1 h.2⟩
  cases h with
  | atom hatom => cases hatom
  | document hkeys hfields => exact ⟨hkeys, hfields⟩

theorem distinct_codeWithScope_iff :
    Distinct (.codeWithScope text scope) ↔ Distinct (.document scope) := by
  rw [distinct_document_iff]
  refine ⟨fun h => ?_, fun h => .codeWithScope h.1 h.2⟩
  cases h with
  | atom hatom => cases hatom
  | codeWithScope hkeys hfields => exact ⟨hkeys, hfields⟩

theorem Reordering.eq_of_isAtom (h : Reordering v w) (hatom : v.isAtom = true) : w = v := by
  cases h.reordered with
  | refl => rfl
  | array | document | codeWithScope => cases hatom

theorem Reordering.isAtom_eq (h : Reordering v w) : v.isAtom = w.isAtom := by
  cases h.reordered <;> rfl

theorem Reordering.array_left (h : Reordering (.array items) w) :
    ∃ items', w = .array items' ∧ List.Forall₂ Reordering items items' := by
  have hdistinct : ∀ item ∈ items, Distinct item := distinct_array_iff.mp h.distinct
  have hitems : ∃ items', w = .array items' ∧ List.Forall₂ Reordered items items' := by
    cases h.reordered with
    | refl => exact ⟨items, rfl, List.forall₂_same.mpr fun item _ => .refl item⟩
    | array hitems => exact ⟨_, rfl, hitems⟩
  obtain ⟨items', rfl, hitems⟩ := hitems
  refine ⟨items', rfl, ?_⟩
  exact ((List.forall₂_and_left items items').mpr ⟨hdistinct, hitems⟩).imp fun _ _ h => ⟨h.1, h.2⟩

theorem Reordering.document_left (h : Reordering (.document d) w) :
    ∃ e, w = .document e ∧ d.Reordering e := by
  cases h.reordered with
  | refl => exact ⟨d, rfl, h⟩
  | document => exact ⟨_, rfl, h⟩

theorem Reordering.codeWithScope_left (h : Reordering (.codeWithScope text scope) w) :
    ∃ scope', w = .codeWithScope text scope' ∧ scope.Reordering scope' := by
  have hdistinct : Distinct (.document scope) := distinct_codeWithScope_iff.mp h.distinct
  cases h.reordered with
  | refl => exact ⟨scope, rfl, hdistinct, .refl _⟩
  | codeWithScope hfields hperm => exact ⟨_, rfl, hdistinct, .document hfields hperm⟩

end Value

namespace Document.Reordering

variable {d e : Document}

theorem keys_nodup (h : d.Reordering e) : (keys d).Nodup :=
  (Value.distinct_document_iff.mp h.distinct).1

/-- The fields keep their places while the values are reordered, and then change them. -/
theorem exists_fieldwise (h : d.Reordering e) :
    ∃ middle, Fieldwise Value.Reordering d middle ∧ middle.Perm e := by
  have hdistinct : ∀ field ∈ d, field.2.Distinct := (Value.distinct_document_iff.mp h.distinct).2
  cases h.reordered with
  | refl =>
      have hsame : Fieldwise Value.Reordered d d := .refl .refl d
      exact ⟨d, hsame.imp fun field hfield w hw => ⟨hdistinct field hfield, hw⟩, .refl d⟩
  | @document _ middle _ hfields hperm =>
      exact ⟨middle, hfields.imp fun field hfield w hw => ⟨hdistinct field hfield, hw⟩, hperm⟩

theorem keys_perm (h : d.Reordering e) : (keys d).Perm (keys e) := by
  obtain ⟨middle, hfields, hperm⟩ := h.exists_fieldwise
  rw [hfields.keys_eq]
  exact hperm.map Prod.fst

theorem length_eq (h : d.Reordering e) : d.length = e.length := by
  simpa [keys] using h.keys_perm.length_eq

/-- Under each name are a value and its reordering, or nothing twice. -/
theorem get?_rel (h : d.Reordering e) (name : String) :
    Option.Rel Value.Reordering (d.get? name) (e.get? name) := by
  obtain ⟨middle, hfields, hperm⟩ := h.exists_fieldwise
  have hkeys : (keys middle).Nodup := hfields.keys_eq ▸ h.keys_nodup
  rw [← get?_perm hkeys hperm]
  exact hfields.get?_rel name

theorem all_eq (h : d.Reordering e) {p q : String × Value → Bool}
    (hpq : ∀ name v w, (name, v) ∈ d → v.Reordering w → p (name, v) = q (name, w)) :
    d.all p = e.all q := by
  obtain ⟨middle, hfields, hperm⟩ := h.exists_fieldwise
  rw [hfields.all_eq hpq, hperm.all_eq]

end Document.Reordering

/-! ## Paths -/

namespace Document.Reordering

variable {d e : Document}

/-- At each path are a value and its reordering, or nothing twice. -/
theorem follow_rel (h : d.Reordering e) (names : List String) :
    Option.Rel Value.Reordering (Path.follow names d) (Path.follow names e) := by
  induction names generalizing d e with
  | nil => exact .none
  | cons name more ih =>
      have hfield := h.get?_rel name
      cases more with
      | nil => exact hfield
      | cons =>
          rw [Path.follow, Path.follow]
          · generalize d.get? name = found, e.get? name = found' at hfield
            cases hfield with
            | none => exact .none
            | @some v w hvalue =>
                cases v with
                | document inner =>
                    obtain ⟨inner', rfl, hinner⟩ := hvalue.document_left
                    exact ih hinner
                | _ => cases hvalue.reordered <;> exact .none
          · exact List.cons_ne_nil _ _
          · exact List.cons_ne_nil _ _

theorem lookup_rel (h : d.Reordering e) (path : String) :
    Option.Rel Value.Reordering (Path.lookup d path) (Path.lookup e path) := by
  unfold Path.lookup
  split
  · exact .none
  · exact h.follow_rel _

end Document.Reordering

namespace Value

variable {v v' w w' : Value} {d d' e e' : Document}

/-- What holds of a value that may be absent does so of its reordering. -/
theorem any_eq_of_rel {found found' : Option Value} {p q : Value → Bool}
    (h : Option.Rel Reordering found found') (hpq : ∀ v w, v.Reordering w → p v = q w) :
    found.any p = found'.any q := by
  cases h with
  | none => rfl
  | some hvalue => exact hpq _ _ hvalue

/-! ## Equality -/

theorem beqFields_eq_all (d e : Document) :
    beqFields d e = d.all fun field => (e.get? field.1).any (beq field.2 ·) := by
  induction d with
  | nil => simp [beqFields]
  | cons field rest ih =>
      obtain ⟨name, v⟩ := field
      rw [beqFields, ih, List.all_cons, Document.get?]
      cases List.lookup name e <;> rfl

/-- A value without parts equals no value with parts. -/
theorem beq_eq_false_of_isAtom (hv : v.isAtom = true) (hw : w.isAtom = false) : beq v w = false := by
  cases w with
  | array | document | codeWithScope =>
      cases v with
      | array | document | codeWithScope => cases hv
      | _ => simp [beq]
  | _ => cases hw

theorem beqItems_congr {R S : Value → Value → Prop} {items items' others others' : List Value}
    (hitems : List.Forall₂ R items items') (hothers : List.Forall₂ S others others')
    (hbeq : ∀ v ∈ items, ∀ v' w w', R v v' → S w w' → beq v w = beq v' w') :
    beqItems items others = beqItems items' others' := by
  induction hitems generalizing others others' with
  | nil => cases hothers <;> simp [beqItems]
  | cons hitem _ ih =>
      cases hothers with
      | nil => simp [beqItems]
      | cons hother hrest =>
          obtain ⟨hthis, hall⟩ := List.forall_mem_cons.mp hbeq
          rw [beqItems, beqItems, hthis _ _ _ hitem hother, ih hrest hall]

theorem beqFields_congr (hd : d.Reordering d') (he : e.Reordering e')
    (hbeq : ∀ field ∈ d, ∀ v' w w', field.2.Reordering v' → w.Reordering w' →
      beq field.2 w = beq v' w') : beqFields d e = beqFields d' e' := by
  rw [beqFields_eq_all, beqFields_eq_all]
  refine hd.all_eq fun name v v' hfield hv => ?_
  exact any_eq_of_rel (he.get?_rel name) fun w w' hw => hbeq _ hfield _ _ _ hv hw

/-- Equality does not depend on the order of fields. -/
theorem beq_reordering (hv : v.Reordering v') (hw : w.Reordering w') : beq v w = beq v' w' := by
  have hdistinct := hv.distinct
  induction hdistinct generalizing v' w w' with
  | atom hatom =>
      rw [hv.eq_of_isAtom hatom]
      cases hw.reordered with
      | refl => rfl
      | array | document | codeWithScope =>
          rw [beq_eq_false_of_isAtom hatom rfl, beq_eq_false_of_isAtom hatom rfl]
  | array _ ih =>
      obtain ⟨items', rfl, hitems⟩ := hv.array_left
      cases w with
      | array others =>
          obtain ⟨others', rfl, hothers⟩ := hw.array_left
          rw [beq, beq]
          exact beqItems_congr hitems hothers fun item hitem _ _ _ hv hw => ih item hitem hv hw
      | _ => cases hw.reordered <;> simp [beq]
  | document _ _ ih =>
      obtain ⟨d', rfl, hd⟩ := hv.document_left
      cases w with
      | document e =>
          obtain ⟨e', rfl, he⟩ := hw.document_left
          rw [beq, beq, hd.length_eq, he.length_eq]
          rw [beqFields_congr hd he fun field hfield _ _ _ hv hw => ih field hfield hv hw]
      | _ => cases hw.reordered <;> simp [beq]
  | codeWithScope _ _ ih =>
      obtain ⟨d', rfl, hd⟩ := hv.codeWithScope_left
      cases w with
      | codeWithScope text e =>
          obtain ⟨e', rfl, he⟩ := hw.codeWithScope_left
          rw [beq, beq, hd.length_eq, he.length_eq]
          rw [beqFields_congr hd he fun field hfield _ _ _ hv hw => ih field hfield hv hw]
      | _ => cases hw.reordered <;> simp [beq]

/-! ## Order -/

theorem Reordering.isNumber_eq (h : v.Reordering w) : v.isNumber = w.isNumber := by
  cases h.reordered <;> rfl

theorem Reordering.typeRank_eq (h : v.Reordering w) : v.typeRank = w.typeRank := by
  cases h.reordered <;> rfl

/-- A value with parts is ordered by its type alone. -/
theorem order_of_parts (h : v.isAtom = false ∨ w.isAtom = false) :
    v.order w = compare v.typeRank w.typeRank := by
  rcases h with hv | hw
  · cases v with
    | array | document | codeWithScope => rfl
    | _ => cases hv
  · cases w with
    | array | document | codeWithScope => cases v <;> rfl
    | _ => cases hw

/-- The order of two values does not depend on the order of fields. -/
theorem order_reordering (hv : v.Reordering v') (hw : w.Reordering w') :
    v.order w = v'.order w' := by
  cases hatom : v.isAtom && w.isAtom with
  | true =>
      obtain ⟨hvatom, hwatom⟩ := Bool.and_eq_true_iff.mp hatom
      rw [hv.eq_of_isAtom hvatom, hw.eq_of_isAtom hwatom]
  | false =>
      have hparts : v.isAtom = false ∨ w.isAtom = false := Bool.and_eq_false_iff.mp hatom
      have hparts' : v'.isAtom = false ∨ w'.isAtom = false := by
        rwa [← hv.isAtom_eq, ← hw.isAtom_eq]
      rw [order_of_parts hparts, order_of_parts hparts', hv.typeRank_eq, hw.typeRank_eq]

end Value

end BulkSweep

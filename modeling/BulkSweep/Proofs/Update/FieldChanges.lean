import BulkSweep.Proofs.Update.Changes

/-!
# Changes of fields

For a document a change is one of the field that it begins with: the value of this field is set, dropped, or
changed within, and all other fields stay (`Change.fieldChange_make`).  What some changes make of a field is
what those make of it that begin with its name (`makeFields_changesOf`).  Where one of them sets or drops the
field, what comes out does not depend on what was there (`makeFields_of_resets`); where none does, they are
changes of the document in the field.
-/

set_option autoImplicit false

namespace BulkSweep.Update

open BulkSweep.Path

/-! ## Changes of a field -/

/-- What a change is for the field that it begins with. -/
inductive FieldChange where
  /-- the field gets a value -/
  | put (value : Value)
  /-- the field is removed -/
  | drop
  /-- the document in the field is changed -/
  | within (c : Change)

/-- What a change makes of the value of a field, which may be absent. -/
def FieldChange.make : FieldChange → Option Value → Option (Option Value)
  | put value, _ => some (some value)
  | drop, _ => some none
  | within c, none =>
    match c.value with
    | some _ => (c.make []).map fun inner => some (.document inner)
    | none => some none
  | within c, some (.document inner) => (c.make inner).map fun inner => some (.document inner)
  | within c, some other =>
    match c.value with
    | some _ => none
    | none => some (some other)

/-- What some changes make of the value of a field, one after another. -/
def makeFields : List FieldChange → Option Value → Option (Option Value)
  | [], x => some x
  | f :: rest, x => (f.make x).bind (makeFields rest)

namespace Change

variable {c : Change} {d d' : Document} {name : String}

/-- The name of the field that a change begins with. -/
def head (c : Change) : String :=
  c.parents.headD c.leaf

/-- What a change is for the field that it begins with. -/
def fieldChange (c : Change) : FieldChange :=
  match c.parents, c.value with
  | [], some value => .put value
  | [], none => .drop
  | _ :: more, value => .within ⟨more, c.leaf, value⟩

theorem names_eq (c : Change) : ∃ rest, c.names = c.head :: rest := by
  obtain ⟨parents, leaf, value⟩ := c
  cases parents with
  | nil => exact ⟨[], rfl⟩
  | cons name more => exact ⟨more ++ [leaf], rfl⟩

/-- A field that a removal within it does not reach stays as it is. -/
theorem within_of_absent {more : List String} {leaf : String}
    (h : unsetAt leaf (name :: more) d = none) :
    FieldChange.make (.within ⟨more, leaf, none⟩) (d.get? name) = some (d.get? name) := by
  cases hfield : d.get? name with
  | none => rfl
  | some old =>
      by_cases hdocument : ∃ inner, old = .document inner
      · obtain ⟨inner, rfl⟩ := hdocument
        have hnone : unsetAt leaf more inner = none := by
          rw [unsetAt_eq_none, ← follow_inner hfield (List.concat_ne_nil leaf more)]
          exact unsetAt_eq_none.mp h
        have hmade : make ⟨more, leaf, none⟩ inner = some inner :=
          (make_of_unset rfl).mpr (.inr ⟨hnone, rfl⟩)
        rw [FieldChange.make, hmade]
        rfl
      · rw [FieldChange.make]
        intro inner hinner
        exact hdocument ⟨inner, hinner⟩

/-- A change changes the field that it begins with, and no other. -/
theorem fieldChange_make (hkeys : (Document.keys d).Nodup) (h : c.make d = some d') :
    c.fieldChange.make (d.get? c.head) = some (d'.get? c.head) ∧
      ∀ other, other ≠ c.head → d'.get? other = d.get? other := by
  obtain ⟨parents, leaf, value⟩ := c
  cases parents with
  | nil =>
      cases value with
      | some value =>
          obtain ⟨changed, hset⟩ := (make_of_set rfl).mp h
          cases hset
          refine ⟨congrArg some (Document.get?_insert_self d leaf value).symm, ?_⟩
          intro other hother
          exact Document.get?_insert_of_ne d value hother
      | none =>
          rcases (make_of_unset rfl).mp h with hremoved | ⟨hnone, rfl⟩
          · obtain ⟨-, rfl⟩ := unsetAt_nil hremoved
            refine ⟨congrArg some (Document.get?_erase_self hkeys).symm, ?_⟩
            intro other hother
            exact Document.get?_erase_of_ne hother
          · have habsent : d'.get? leaf = none := unsetAt_eq_none.mp hnone
            exact ⟨congrArg some habsent.symm, fun _ _ => rfl⟩
  | cons name more =>
      cases value with
      | some value =>
          obtain ⟨changed, hset⟩ := (make_of_set rfl).mp h
          obtain ⟨inner, inner', hwithin, hinner, rfl⟩ := setAt_cons hset
          have hmade : make ⟨more, leaf, some value⟩ inner = some inner' :=
            (make_of_set rfl).mpr ⟨changed, hinner⟩
          refine ⟨?_, fun other hother => Document.get?_insert_of_ne d _ hother⟩
          change FieldChange.make (.within ⟨more, leaf, some value⟩) (d.get? name)
            = some ((d.insert name (.document inner')).get? name)
          rw [Document.get?_insert_self]
          rcases hwithin with hpresent | ⟨habsent, rfl⟩
          · rw [hpresent, FieldChange.make, hmade]
            rfl
          · rw [habsent, FieldChange.make, hmade]
            rfl
      | none =>
          rcases (make_of_unset rfl).mp h with hremoved | ⟨hnone, rfl⟩
          · obtain ⟨inner, inner', hpresent, hinner, rfl⟩ := unsetAt_cons hremoved
            have hmade : make ⟨more, leaf, none⟩ inner = some inner' :=
              (make_of_unset rfl).mpr (.inl hinner)
            refine ⟨?_, fun other hother => Document.get?_insert_of_ne d _ hother⟩
            change FieldChange.make (.within ⟨more, leaf, none⟩) (d.get? name)
              = some ((d.insert name (.document inner')).get? name)
            rw [Document.get?_insert_self, hpresent, FieldChange.make, hmade]
            rfl
          · refine ⟨?_, fun _ _ => rfl⟩
            exact within_of_absent hnone

end Change

/-! ## Changes that begin with one field -/

/-- What the changes that begin with a field are for it. -/
def changesOf (name : String) (cs : List Change) : List FieldChange :=
  (cs.filter fun c => c.head = name).map Change.fieldChange

/-- Some changes make of a field what those make of it that begin with its name. -/
theorem makeFields_changesOf {cs : List Change} {d d' : Document} {name : String}
    (hproper : d.Proper) (hvalues : ValuesProper cs) (h : makeAll cs d = some d') :
    makeFields (changesOf name cs) (d.get? name) = some (d'.get? name) := by
  induction cs generalizing d with
  | nil =>
      cases h
      rfl
  | cons c rest ih =>
      obtain ⟨next, hnext, hrest⟩ := makeAll_cons.mp h
      have hlast := ih (Change.make_proper hproper (hvalues c List.mem_cons_self) hnext)
        (fun f hf => hvalues f (List.mem_cons_of_mem c hf)) hrest
      obtain ⟨hfield, hothers⟩ := Change.fieldChange_make hproper.keys hnext
      by_cases hhead : c.head = name
      · have hchanges : changesOf name (c :: rest) = c.fieldChange :: changesOf name rest := by
          simp [changesOf, hhead]
        rw [hhead] at hfield
        rw [hchanges, makeFields, hfield]
        exact hlast
      · have hchanges : changesOf name (c :: rest) = changesOf name rest := by
          simp [changesOf, hhead]
        rw [hchanges, ← hothers name (Ne.symm hhead)]
        exact hlast

/-! ## Changes that do not look at the field -/

/-- A change after which the value of the field does not depend on what it was. -/
def FieldChange.Resets : FieldChange → Prop
  | put _ => True
  | drop => True
  | within _ => False

/-- What comes out of changes that set or drop the field does not depend on what was there. -/
theorem makeFields_of_resets {fs : List FieldChange} {x x' y y' : Option Value}
    (hresets : ∃ f ∈ fs, f.Resets) (h : makeFields fs x = some y) (h' : makeFields fs x' = some y') :
    y = y' := by
  induction fs generalizing x x' with
  | nil =>
      obtain ⟨f, hf, -⟩ := hresets
      cases hf
  | cons f rest ih =>
      obtain ⟨next, hnext, hrest⟩ := Option.bind_eq_some_iff.mp h
      obtain ⟨next', hnext', hrest'⟩ := Option.bind_eq_some_iff.mp h'
      by_cases hlater : ∃ g ∈ rest, g.Resets
      · exact ih hlater hrest hrest'
      · have hfirst : f.Resets := by
          obtain ⟨g, hg, hreset⟩ := hresets
          rcases List.mem_cons.mp hg with rfl | hg
          · exact hreset
          · exact absurd ⟨g, hg, hreset⟩ hlater
        have hsame : next = next' := by
          cases f with
          | put value =>
              cases hnext
              cases hnext'
              rfl
          | drop =>
              cases hnext
              cases hnext'
              rfl
          | within c => exact hfirst.elim
        rw [hsame, hrest'] at hrest
        exact (Option.some.inj hrest).symm

/-- Changes that do not reset the field are all made within it. -/
theorem exists_within_of_not_resets {fs : List FieldChange} (h : ¬∃ f ∈ fs, f.Resets) :
    ∃ ws : List Change, fs = ws.map .within := by
  induction fs with
  | nil => exact ⟨[], rfl⟩
  | cons f rest ih =>
      obtain ⟨ws, hws⟩ := ih fun ⟨g, hg, hreset⟩ => h ⟨g, List.mem_cons_of_mem f hg, hreset⟩
      cases f with
      | put value => exact absurd ⟨_, List.mem_cons_self, trivial⟩ h
      | drop => exact absurd ⟨_, List.mem_cons_self, trivial⟩ h
      | within c => exact ⟨c :: ws, by rw [hws, List.map_cons]⟩

/-! ## Changes within the field -/

section Within

variable {ws : List Change} {y : Option Value}

theorem makeFields_within_document {inner : Document}
    (h : makeFields (ws.map .within) (some (.document inner)) = some y) :
    ∃ inner', y = some (.document inner') ∧ makeAll ws inner = some inner' := by
  induction ws generalizing inner with
  | nil =>
      cases h
      exact ⟨inner, rfl, rfl⟩
  | cons w rest ih =>
      obtain ⟨next, hnext, hrest⟩ := Option.bind_eq_some_iff.mp h
      obtain ⟨inner₁, hmade, rfl⟩ := Option.map_eq_some_iff.mp hnext
      obtain ⟨inner', rfl, hinner'⟩ := ih hrest
      exact ⟨inner', rfl, makeAll_cons.mpr ⟨inner₁, hmade, hinner'⟩⟩

/-- Within an absent field nothing is changed, or all is as if an empty document were there. -/
theorem makeFields_within_none (h : makeFields (ws.map .within) none = some y) :
    y = none ∨ ∃ inner', y = some (.document inner') ∧ makeAll ws [] = some inner' := by
  induction ws with
  | nil =>
      cases h
      exact .inl rfl
  | cons w rest ih =>
      obtain ⟨next, hnext, hrest⟩ := Option.bind_eq_some_iff.mp h
      cases hvalue : w.value with
      | none =>
          rw [FieldChange.make, hvalue] at hnext
          cases hnext
          rcases ih hrest with hnone | ⟨inner', hy, hinner'⟩
          · exact .inl hnone
          · refine .inr ⟨inner', hy, makeAll_cons.mpr ⟨[], ?_, hinner'⟩⟩
            exact (Change.make_of_unset hvalue).mpr
              (.inr ⟨unsetAt_eq_none.mpr (follow_nil_document _), rfl⟩)
      | some value =>
          rw [FieldChange.make, hvalue] at hnext
          obtain ⟨inner₁, hmade, rfl⟩ := Option.map_eq_some_iff.mp hnext
          obtain ⟨inner', hy, hinner'⟩ := makeFields_within_document hrest
          exact .inr ⟨inner', hy, makeAll_cons.mpr ⟨inner₁, hmade, hinner'⟩⟩

/-- Within a value that is no document nothing is changed. -/
theorem makeFields_within_scalar {old : Value} (hscalar : ∀ inner, old ≠ .document inner)
    (h : makeFields (ws.map .within) (some old) = some y) : y = some old := by
  induction ws with
  | nil =>
      cases h
      rfl
  | cons w rest ih =>
      obtain ⟨next, hnext, hrest⟩ := Option.bind_eq_some_iff.mp h
      rw [FieldChange.make] at hnext
      · cases hvalue : w.value with
        | none =>
            rw [hvalue] at hnext
            cases hnext
            exact ih hrest
        | some value =>
            rw [hvalue] at hnext
            cases hnext
      · exact hscalar

end Within

/-- A field that was changed is not changed again by the same changes, if those within it do not change a
document again. -/
theorem makeFields_again {fs : List FieldChange} {x y z : Option Value}
    (hinner : ∀ ws : List Change, fs = ws.map .within → ∀ inner inner' inner'',
      (x = some (.document inner) ∨ inner = []) →
      makeAll ws inner = some inner' → makeAll ws inner' = some inner'' → inner'' = inner')
    (hx : makeFields fs x = some y) (hy : makeFields fs y = some z) : z = y := by
  by_cases hresets : ∃ f ∈ fs, f.Resets
  · exact makeFields_of_resets hresets hy hx
  · obtain ⟨ws, hws⟩ := exists_within_of_not_resets hresets
    have hagain : ∀ inner inner', (x = some (.document inner) ∨ inner = []) →
        y = some (.document inner') → makeAll ws inner = some inner' → z = y := by
      rintro inner inner' hthere rfl hfirst
      rw [hws] at hy
      obtain ⟨inner'', rfl, hsecond⟩ := makeFields_within_document hy
      rw [hinner ws hws inner inner' inner'' hthere hfirst hsecond]
    -- what was not changed before is not changed now, either
    have hsame : y = x → z = y := by
      rintro rfl
      exact Option.some.inj (hy.symm.trans hx)
    rw [hws] at hx
    cases x with
    | none =>
        rcases makeFields_within_none hx with hnone | ⟨inner', hdocument, hfirst⟩
        · exact hsame hnone
        · exact hagain [] inner' (.inr rfl) hdocument hfirst
    | some old =>
        by_cases hdocument : ∃ inner, old = .document inner
        · obtain ⟨inner, rfl⟩ := hdocument
          obtain ⟨inner', hinner', hfirst⟩ := makeFields_within_document hx
          exact hagain inner inner' (.inl rfl) hinner' hfirst
        · refine hsame (makeFields_within_scalar (fun inner hold => ?_) hx)
          exact hdocument ⟨inner, hold⟩

end BulkSweep.Update

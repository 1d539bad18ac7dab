import BulkSweep.Proofs.Update.Paths

/-!
# Paths that can be set

A value can be set at a path unless something on the way blocks it: a value that is there and is no
document (`exists_setAt`, `passable_of_setAt`).  What a path leads to also decides where all longer paths lead
(`follow_of_prefix`), and what it led to whether setting it is a change (`changed_setAt`).
-/

set_option autoImplicit false

namespace BulkSweep

/-! ## Values that are found -/

/-- Whether two searches have found the same: nothing twice, or equal values. -/
def Value.alike : Option Value → Option Value → Bool
  | none, none => true
  | some a, some b => a == b
  | _, _ => false

/-! ## Paths through values -/

namespace Path

variable {d d' : Document} {p q : List String}

/-- A path goes on where its beginning leads, if that is a document. -/
theorem follow_append (hp : p ≠ []) (hq : q ≠ []) :
    follow (p ++ q) d = match follow p d with
      | some (.document inner) => follow q inner
      | _ => none := by
  induction p generalizing d with
  | nil => exact absurd rfl hp
  | cons name more ih =>
      rw [List.cons_append]
      by_cases hmore : more = []
      · subst hmore
        rw [List.nil_append]
        change _ = match d.get? name with
          | some (.document inner) => follow q inner
          | _ => none
        split
        · rename_i inner hinner
          exact follow_inner hinner hq
        · rename_i hno
          exact follow_none hno hq
      · have hrest : more ++ q ≠ [] := List.append_ne_nil_of_left_ne_nil hmore q
        by_cases hfield : ∃ inner, d.get? name = some (.document inner)
        · obtain ⟨inner, hinner⟩ := hfield
          rw [follow_inner hinner hrest, follow_inner hinner hmore]
          exact ih hmore
        · have hno : ∀ inner, d.get? name ≠ some (.document inner) := fun inner hinner =>
            hfield ⟨inner, hinner⟩
          rw [follow_none hno hrest, follow_none hno hmore]

/-- Where a path leads to the same in two documents, longer ones do, too. -/
theorem follow_of_prefix (hp : p ≠ []) (h : follow p d = follow p d') (hbegins : p <+: q) :
    follow q d = follow q d' := by
  obtain ⟨rest, rfl⟩ := hbegins
  by_cases hrest : rest = []
  · rw [hrest, List.append_nil]
    exact h
  · rw [follow_append hp hrest, follow_append hp hrest, h]

/-- A path that leads nowhere leads nowhere further on. -/
theorem follow_none_of_prefix (hp : p ≠ []) (h : follow p d = none) (hbegins : p <+: q) :
    follow q d = none := by
  rw [← follow_nil_document q]
  refine follow_of_prefix hp ?_ hbegins
  rw [h, follow_nil_document]

/-- A path through an absent field leads nowhere. -/
theorem follow_of_absent {name : String} {more : List String} (h : d.get? name = none) :
    follow (name :: more) d = none :=
  follow_none_of_prefix (p := [name]) (List.cons_ne_nil _ _) h
    (List.cons_prefix_cons.mpr ⟨rfl, List.nil_prefix⟩)

/-- Of two paths one runs through the other, or they are apart. -/
theorem prefix_or_apart (p q : List String) : p <+: q ∨ q <+: p ∨ Apart p q := by
  by_cases hp : p <+: q
  · exact .inl hp
  · by_cases hq : q <+: p
    · exact .inr (.inl hq)
    · exact .inr (.inr ⟨hp, hq⟩)

/-- At this path is a value that is no document. -/
def Blocks (p : List String) (d : Document) : Prop :=
  ∃ value, follow p d = some value ∧ ∀ inner, value ≠ .document inner

/-- Nothing blocks the way along these names. -/
def Passable (names : List String) (d : Document) : Prop :=
  ∀ p, p <+: names → ¬Blocks p d

theorem Blocks.congr (hblocks : Blocks p d) (h : follow p d = follow q d') : Blocks q d' := by
  obtain ⟨value, hvalue, hscalar⟩ := hblocks
  exact ⟨value, h ▸ hvalue, hscalar⟩

theorem not_blocks_of_none (h : follow p d = none) : ¬Blocks p d := by
  rintro ⟨value, hvalue, -⟩
  rw [h] at hvalue
  cases hvalue

theorem not_blocks_of_document {inner : Document} (h : follow p d = some (.document inner)) :
    ¬Blocks p d := by
  rintro ⟨value, hvalue, hscalar⟩
  rw [h] at hvalue
  exact hscalar inner (Option.some.inj hvalue).symm

theorem passable_nil (d : Document) : Passable [] d := by
  intro p hp
  rw [List.prefix_nil.mp hp]
  exact not_blocks_of_none rfl

/-- Nothing blocks the way in the empty document. -/
theorem passable_of_empty (names : List String) : Passable names [] := fun p _ =>
  not_blocks_of_none (follow_nil_document p)

/-- What a path leads to lies behind nothing that blocks. -/
theorem passable_of_follow {parents : List String} {leaf : String} {value : Value}
    (h : follow (parents ++ [leaf]) d = some value) : Passable parents d := by
  rintro p ⟨rest, rfl⟩ ⟨scalar, hscalar, hno⟩
  have hp : p ≠ [] := by
    rintro rfl
    cases hscalar
  rw [List.append_assoc, follow_append hp (List.concat_ne_nil leaf rest), hscalar] at h
  split at h
  · rename_i inner hinner
    exact hno inner (Option.some.inj hinner)
  · cases h

/-- Behind an absent field nothing blocks. -/
theorem passable_of_absent {name : String} {more : List String} (h : d.get? name = none) :
    Passable (name :: more) d := by
  intro p hp
  cases p with
  | nil => exact not_blocks_of_none rfl
  | cons first rest =>
      obtain ⟨rfl, -⟩ := List.cons_prefix_cons.mp hp
      exact not_blocks_of_none (follow_of_absent h)

theorem passable_cons {name : String} {more : List String} {inner : Document}
    (h : d.get? name = some (.document inner)) :
    Passable (name :: more) d ↔ Passable more inner := by
  constructor
  · intro hpassable p hp hblocks
    by_cases hnil : p = []
    · rw [hnil] at hblocks
      exact not_blocks_of_none rfl hblocks
    · refine hpassable (name :: p) (List.cons_prefix_cons.mpr ⟨rfl, hp⟩) ?_
      exact hblocks.congr (follow_inner h hnil).symm
  · intro hpassable p hp hblocks
    cases p with
    | nil => exact not_blocks_of_none rfl hblocks
    | cons first rest =>
        obtain ⟨rfl, hrest⟩ := List.cons_prefix_cons.mp hp
        by_cases hnil : rest = []
        · rw [hnil] at hblocks
          exact not_blocks_of_document (p := [first]) h hblocks
        · exact hpassable rest hrest (hblocks.congr (follow_inner h hnil))

end Path

namespace Update

open BulkSweep.Path

variable {leaf : String} {value : Value} {parents : List String} {d d' : Document} {changed : Bool}

/-! ## Setting -/

theorem setAt_of_absent {name : String} {more : List String} (h : d.get? name = none) :
    setAt leaf value (name :: more) d = (setAt leaf value more []).map fun result =>
      (d.insert name (.document result.1), result.2) := by
  rw [setAt, h]
  cases setAt leaf value more [] with
  | error cause => rfl
  | ok result => rfl

theorem setAt_of_document {name : String} {more : List String} {inner : Document}
    (h : d.get? name = some (.document inner)) :
    setAt leaf value (name :: more) d = (setAt leaf value more inner).map fun result =>
      (d.insert name (.document result.1), result.2) := by
  rw [setAt, h]
  dsimp only
  cases setAt leaf value more inner with
  | error cause => rfl
  | ok result => rfl

/-- A value can be set where nothing blocks the way. -/
theorem exists_setAt (h : Passable parents d) : ∃ result, setAt leaf value parents d = .ok result := by
  induction parents generalizing d with
  | nil => exact ⟨_, rfl⟩
  | cons name more ih =>
      cases hfield : d.get? name with
      | none =>
          obtain ⟨result, hresult⟩ := ih (passable_of_empty more)
          rw [setAt_of_absent hfield, hresult]
          exact ⟨_, rfl⟩
      | some old =>
          by_cases hdocument : ∃ inner, old = .document inner
          · obtain ⟨inner, rfl⟩ := hdocument
            obtain ⟨result, hresult⟩ := ih ((passable_cons hfield).mp h)
            rw [setAt_of_document hfield, hresult]
            exact ⟨_, rfl⟩
          · refine absurd ⟨old, hfield, fun inner hinner => hdocument ⟨inner, hinner⟩⟩ (h [name] ?_)
            exact List.cons_prefix_cons.mpr ⟨rfl, List.nil_prefix⟩

/-- A value that is set is a change unless an equal one was there. -/
theorem changed_setAt (h : setAt leaf value parents d = .ok (d', changed)) :
    changed = !Value.alike (follow (parents ++ [leaf]) d) (some value) := by
  induction parents generalizing d d' with
  | nil =>
      change _ = !Value.alike (d.get? leaf) (some value)
      rw [setAt] at h
      cases hold : d.get? leaf with
      | none =>
          rw [hold] at h
          cases h
          rfl
      | some old =>
          rw [hold] at h
          cases h
          rfl
  | cons name more ih =>
      obtain ⟨inner, inner', hwithin, hinner, rfl⟩ := setAt_cons h
      rw [List.cons_append, hwithin.follow (List.concat_ne_nil leaf more)]
      exact ih hinner

/-- Where a value was set nothing blocked the way. -/
theorem passable_of_setAt (h : setAt leaf value parents d = .ok (d', changed)) :
    Passable parents d := by
  induction parents generalizing d d' with
  | nil => exact passable_nil d
  | cons name more ih =>
      obtain ⟨inner, inner', hwithin, hinner, rfl⟩ := setAt_cons h
      rcases hwithin with hpresent | ⟨habsent, -⟩
      · exact (passable_cons hpresent).mpr (ih hinner)
      · exact passable_of_absent habsent

/-! ## Removing -/

/-- Where a field was removed nothing blocks the way. -/
theorem passable_of_unsetAt (h : unsetAt leaf parents d = some d') : Passable parents d' := by
  induction parents generalizing d d' with
  | nil => exact passable_nil d'
  | cons name more ih =>
      obtain ⟨inner, inner', -, hinner, rfl⟩ := unsetAt_cons h
      exact (passable_cons (Document.get?_insert_self d name (.document inner'))).mpr (ih hinner)

end Update

end BulkSweep

import BulkSweep.Proofs.Update.Edits
import BulkSweep.Proofs.Update.Passage

/-!
# Changes

To set or to remove a field is a change along the names that lead to it.  It can only fail where something
blocks the way: what was there before, or what another change has put there (`blocks_make`).  So changes
that can be made once can be made again, if none of them puts something in the way of one before it
(`exists_makeAll_again`).
-/

set_option autoImplicit false

namespace BulkSweep.Update

open BulkSweep.Path

/-! ## Changes of a document -/

/-- To set a field, or to remove it. -/
structure Change where
  /-- the names of the documents around the field -/
  parents : List String
  /-- the name of the field -/
  leaf : String
  /-- the value that the field gets; none if it is removed -/
  value : Option Value

namespace Change

/-- The names that lead to the field. -/
def names (c : Change) : List String :=
  c.parents ++ [c.leaf]

/-- What a change makes of a document; nothing if a value cannot be set. -/
def make (c : Change) (d : Document) : Option Document :=
  match c.value with
  | some value => (setAt c.leaf value c.parents d).toOption.map Prod.fst
  | none => some ((unsetAt c.leaf c.parents d).getD d)

variable {c : Change} {d d' : Document} {value : Value}

theorem names_ne_nil (c : Change) : c.names ≠ [] :=
  List.concat_ne_nil c.leaf c.parents

theorem make_of_set (hvalue : c.value = some value) :
    c.make d = some d' ↔ ∃ changed, setAt c.leaf value c.parents d = .ok (d', changed) := by
  unfold make
  rw [hvalue]
  dsimp only
  cases hresult : setAt c.leaf value c.parents d with
  | error cause => simp [Except.toOption]
  | ok result =>
      obtain ⟨next, changed⟩ := result
      simp [Except.toOption]

theorem make_of_unset (hvalue : c.value = none) :
    c.make d = some d' ↔ unsetAt c.leaf c.parents d = some d' ∨
      unsetAt c.leaf c.parents d = none ∧ d' = d := by
  unfold make
  rw [hvalue]
  cases unsetAt c.leaf c.parents d with
  | none => simp [eq_comm]
  | some next => simp

/-- A change keeps a document proper. -/
theorem make_proper (hproper : d.Proper) (hvalue : ∀ value, c.value = some value → value.Proper)
    (h : c.make d = some d') : d'.Proper := by
  cases hset : c.value with
  | some value =>
      obtain ⟨changed, hchanged⟩ := (make_of_set hset).mp h
      exact setAt_proper hproper (hvalue value hset) hchanged
  | none =>
      rcases (make_of_unset hset).mp h with hremoved | ⟨-, rfl⟩
      · exact unsetAt_proper hproper hremoved
      · exact hproper

end Change

/-- What some changes make of a document, one after another. -/
def makeAll : List Change → Document → Option Document
  | [], d => some d
  | c :: rest, d => (c.make d).bind (makeAll rest)

theorem makeAll_cons {c : Change} {rest : List Change} {d d' : Document} :
    makeAll (c :: rest) d = some d' ↔ ∃ next, c.make d = some next ∧ makeAll rest next = some d' :=
  Option.bind_eq_some_iff

/-! ## What blocks the way -/

namespace Change

variable {c : Change} {d d' : Document} {value : Value} {p : List String}

/-- Made in a document of its own the change puts something there that blocks the way at these names. -/
def Bars (c : Change) (p : List String) : Prop :=
  ∃ made, c.make [] = some made ∧ Blocks p made

/-- A change can be made unless it sets a value and something blocks the way. -/
theorem exists_make (h : c.value ≠ none → Passable c.parents d) : ∃ d', c.make d = some d' := by
  cases hvalue : c.value with
  | some value =>
      have hpassable : Passable c.parents d := h (hvalue ▸ Option.some_ne_none value)
      have hresult : ∃ result, setAt c.leaf value c.parents d = .ok result := exists_setAt hpassable
      obtain ⟨⟨next, changed⟩, hset⟩ := hresult
      exact ⟨next, (make_of_set hvalue).mpr ⟨changed, hset⟩⟩
  | none =>
      unfold make
      rw [hvalue]
      exact ⟨_, rfl⟩

theorem exists_make_nil (c : Change) : ∃ made, c.make [] = some made :=
  exists_make fun _ => passable_of_empty c.parents

/-- A path that does not run through a field ends before it or is apart from it. -/
theorem prefix_or_apart_of_not_through (h : ¬c.names <+: p) : p <+: c.parents ∨ Apart c.names p := by
  rcases prefix_or_apart c.names p with hthrough | hbefore | hapart
  · exact absurd hthrough h
  · rcases List.prefix_concat_iff.mp hbefore with hsame | hparents
    · exact absurd (hsame ▸ List.prefix_refl _) h
    · exact .inl hparents
  · exact .inr hapart

/-- A removal puts nothing there. -/
theorem not_bars_of_unset (hvalue : c.value = none) : ¬c.Bars p := by
  rintro ⟨made, hmade, hblocks⟩
  have hempty : made = [] := by
    rcases (make_of_unset hvalue).mp hmade with hremoved | ⟨-, hsame⟩
    · rw [unsetAt_eq_none.mpr (follow_nil_document _)] at hremoved
      cases hremoved
    · exact hsame
  rw [hempty] at hblocks
  exact not_blocks_of_none (follow_nil_document p) hblocks

/-- A change puts nothing elsewhere. -/
theorem Bars.through (h : c.Bars p) : c.names <+: p := by
  by_contra hthrough
  obtain ⟨made, hmade, hblocks⟩ := h
  cases hvalue : c.value with
  | none => exact not_bars_of_unset hvalue ⟨made, hmade, hblocks⟩
  | some value =>
      obtain ⟨changed, hset⟩ := (make_of_set hvalue).mp hmade
      rcases prefix_or_apart_of_not_through hthrough with hparents | hapart
      · exact passable_of_follow (follow_setAt hset) p hparents hblocks
      · have hnone : follow p made = none := by
          rw [follow_setAt_of_apart hset hapart, follow_nil_document]
        exact not_blocks_of_none hnone hblocks

/-- After a value was set it is what blocks the way in its field. -/
theorem blocks_iff_bars (hvalue : c.value = some value) (h : c.make d = some d')
    (hthrough : c.names <+: p) : Blocks p d' ↔ c.Bars p := by
  obtain ⟨changed, hset⟩ := (make_of_set hvalue).mp h
  obtain ⟨made, hmade⟩ := c.exists_make_nil
  obtain ⟨own, halone⟩ := (make_of_set hvalue).mp hmade
  have hsame : follow p d' = follow p made :=
    follow_of_prefix c.names_ne_nil ((follow_setAt hset).trans (follow_setAt halone).symm) hthrough
  constructor
  · intro hblocks
    exact ⟨made, hmade, hblocks.congr hsame⟩
  · rintro ⟨other, hother, hblocks⟩
    rw [hmade] at hother
    cases hother
    exact hblocks.congr hsame.symm

/-- What blocks the way after a change is what it has put there, or it was there before and the change is
not in front of it. -/
theorem blocks_make (hproper : d.Proper) (h : c.make d = some d') :
    Blocks p d' ↔ c.Bars p ∨ Blocks p d ∧ ¬c.names <+: p := by
  by_cases hthrough : c.names <+: p
  · simp only [hthrough, not_true_eq_false, and_false, or_false]
    cases hvalue : c.value with
    | some value => exact blocks_iff_bars hvalue h hthrough
    | none =>
        have hnone : follow c.names d' = none := by
          rcases (make_of_unset hvalue).mp h with hremoved | ⟨hnone, rfl⟩
          · exact follow_unsetAt hproper hremoved
          · exact unsetAt_eq_none.mp hnone
        have hbehind : follow p d' = none := follow_none_of_prefix c.names_ne_nil hnone hthrough
        exact iff_of_false (not_blocks_of_none hbehind) (not_bars_of_unset hvalue)
  · have hbars : ¬c.Bars p := fun hbars => hthrough hbars.through
    simp only [hbars, hthrough, not_false_eq_true, and_true, false_or]
    cases hvalue : c.value with
    | some value =>
        obtain ⟨changed, hset⟩ := (make_of_set hvalue).mp h
        rcases prefix_or_apart_of_not_through hthrough with hparents | hapart
        · exact iff_of_false (passable_of_follow (follow_setAt hset) p hparents)
            (passable_of_setAt hset p hparents)
        · have hsame : follow p d' = follow p d := follow_setAt_of_apart hset hapart
          exact ⟨fun hblocks => hblocks.congr hsame, fun hblocks => hblocks.congr hsame.symm⟩
    | none =>
        rcases (make_of_unset hvalue).mp h with hremoved | ⟨-, rfl⟩
        · rcases prefix_or_apart_of_not_through hthrough with hparents | hapart
          · have hthere : follow c.names d ≠ none := by
              intro hnone
              rw [unsetAt_eq_none.mpr hnone] at hremoved
              cases hremoved
            obtain ⟨old, hold⟩ := Option.ne_none_iff_exists'.mp hthere
            exact iff_of_false (passable_of_unsetAt hremoved p hparents)
              (passable_of_follow hold p hparents)
          · have hsame : follow p d' = follow p d := follow_unsetAt_of_apart hremoved hapart
            exact ⟨fun hblocks => hblocks.congr hsame, fun hblocks => hblocks.congr hsame.symm⟩
        · exact Iff.rfl

theorem passable_of_make (hvalue : c.value ≠ none) (h : c.make d = some d') : Passable c.parents d := by
  obtain ⟨value, hsome⟩ := Option.ne_none_iff_exists'.mp hvalue
  obtain ⟨changed, hset⟩ := (make_of_set hsome).mp h
  exact passable_of_setAt hset

/-- What a change puts there bars the way to where another one sets a value. -/
def Stops (c other : Change) : Prop :=
  other.value ≠ none ∧ ∃ p, p <+: other.parents ∧ c.Bars p

theorem not_stops_self (c : Change) : ¬c.Stops c := by
  rintro ⟨-, p, hparents, hbars⟩
  have hlength := (hbars.through.trans hparents).length_le
  simp only [names, List.length_append, List.length_singleton] at hlength
  omega

end Change

/-- The values that are set are proper. -/
def ValuesProper (cs : List Change) : Prop :=
  ∀ c ∈ cs, ∀ value, c.value = some value → value.Proper

section Runs

variable {cs : List Change} {d d' s t t' : Document} {p : List String}

theorem makeAll_proper (hproper : d.Proper) (hvalues : ValuesProper cs)
    (h : makeAll cs d = some d') : d'.Proper := by
  induction cs generalizing d with
  | nil =>
      cases h
      exact hproper
  | cons c rest ih =>
      obtain ⟨next, hnext, hrest⟩ := makeAll_cons.mp h
      exact ih (Change.make_proper hproper (hvalues c List.mem_cons_self) hnext)
        (fun f hf => hvalues f (List.mem_cons_of_mem c hf)) hrest

/-- What blocks the way after some changes was there before them, or one of them has put it there. -/
theorem blocks_of_makeAll (hproper : d.Proper) (hvalues : ValuesProper cs)
    (h : makeAll cs d = some d') (hblocks : Blocks p d') : Blocks p d ∨ ∃ c ∈ cs, c.Bars p := by
  induction cs generalizing d with
  | nil =>
      cases h
      exact .inl hblocks
  | cons c rest ih =>
      obtain ⟨next, hnext, hrest⟩ := makeAll_cons.mp h
      have hnextProper := Change.make_proper hproper (hvalues c List.mem_cons_self) hnext
      rcases ih hnextProper (fun f hf => hvalues f (List.mem_cons_of_mem c hf)) hrest with
        hbefore | ⟨f, hf, hbars⟩
      · rcases (Change.blocks_make hproper hnext).mp hbefore with hbars | ⟨hthere, -⟩
        · exact .inr ⟨c, List.mem_cons_self, hbars⟩
        · exact .inl hthere
      · exact .inr ⟨f, List.mem_cons_of_mem c hf, hbars⟩

/-- Changes that can be made of one document can be made of another one, if only what is in the way there,
too, or what a later change puts there blocks the way in it, and no change stops one before it. -/
theorem exists_makeAll (ht : t.Proper) (hs : s.Proper) (hvalues : ValuesProper cs)
    (hway : cs.Pairwise fun e f => ¬f.Stops e)
    (hblocks : ∀ p, Blocks p s → Blocks p t ∨ ∃ f ∈ cs, f.Bars p)
    (h : makeAll cs t = some t') : ∃ s', makeAll cs s = some s' := by
  induction cs generalizing s t with
  | nil => exact ⟨s, rfl⟩
  | cons c rest ih =>
      obtain ⟨next, hnext, hrest⟩ := makeAll_cons.mp h
      obtain ⟨hahead, hway⟩ := List.pairwise_cons.mp hway
      have hmake : ∃ s', c.make s = some s' := by
        refine Change.exists_make fun hvalue p hparents hthere => ?_
        rcases hblocks p hthere with hbefore | ⟨f, hf, hbars⟩
        · exact Change.passable_of_make hvalue hnext p hparents hbefore
        · rcases List.mem_cons.mp hf with rfl | hf
          · exact f.not_stops_self ⟨hvalue, p, hparents, hbars⟩
          · exact hahead f hf ⟨hvalue, p, hparents, hbars⟩
      obtain ⟨s', hs'⟩ := hmake
      have hvalue := hvalues c List.mem_cons_self
      -- what blocks the way now was put there by this change in both documents, or was there before
      have hblocks' : ∀ p, Blocks p s' → Blocks p next ∨ ∃ f ∈ rest, f.Bars p := by
        intro p hthere
        have hput : c.Bars p → Blocks p next := fun hbars =>
          (Change.blocks_make ht hnext).mpr (.inl hbars)
        rcases (Change.blocks_make hs hs').mp hthere with hbars | ⟨hold, hthrough⟩
        · exact .inl (hput hbars)
        · rcases hblocks p hold with hbefore | ⟨f, hf, hbars⟩
          · exact .inl ((Change.blocks_make ht hnext).mpr (.inr ⟨hbefore, hthrough⟩))
          · rcases List.mem_cons.mp hf with rfl | hf
            · exact .inl (hput hbars)
            · exact .inr ⟨f, hf, hbars⟩
      obtain ⟨s'', hs''⟩ := ih (Change.make_proper ht hvalue hnext) (Change.make_proper hs hvalue hs')
        (fun f hf => hvalues f (List.mem_cons_of_mem c hf)) hway hblocks' hrest
      exact ⟨s'', makeAll_cons.mpr ⟨s', hs', hs''⟩⟩

/-- Changes that can be made once can be made again, if none stops one before it. -/
theorem exists_makeAll_again (hproper : d.Proper) (hvalues : ValuesProper cs)
    (hway : cs.Pairwise fun e f => ¬f.Stops e) (h : makeAll cs d = some d') :
    ∃ d'', makeAll cs d' = some d'' :=
  exists_makeAll hproper (makeAll_proper hproper hvalues h) hvalues hway
    (fun _ hblocks => blocks_of_makeAll hproper hvalues h hblocks) h

end Runs

end BulkSweep.Update

import BulkSweep.Proofs.Update.Fields
import BulkSweep.Update

/-!
# Changes at paths

What setting or removing the field at a path does to the fields at all paths.  The path itself then
leads to the value, or to nothing; a path that is apart from it, so that neither runs through the
other, leads where it led before.
-/

set_option autoImplicit false

namespace BulkSweep

/-! ## Paths -/

namespace Path

/-- Two paths, given by their names, neither of which runs through the other. -/
def Apart (p q : List String) : Prop :=
  ¬p <+: q ∧ ¬q <+: p

theorem Apart.symm {p q : List String} (h : Apart p q) : Apart q p :=
  ⟨h.2, h.1⟩

/-- Paths that begin alike are apart behind that. -/
theorem Apart.of_cons {name : String} {p q : List String} (h : Apart (name :: p) (name :: q)) :
    Apart p q :=
  ⟨fun hp => h.1 (List.cons_prefix_cons.mpr ⟨rfl, hp⟩),
    fun hq => h.2 (List.cons_prefix_cons.mpr ⟨rfl, hq⟩)⟩

/-- Paths with different first names are apart. -/
theorem apart_of_head_ne {name other : String} {p q : List String} (h : name ≠ other) :
    Apart (name :: p) (other :: q) :=
  ⟨fun hp => h (List.cons_prefix_cons.mp hp).1,
    fun hq => h (List.cons_prefix_cons.mp hq).1.symm⟩

/-- A path that is apart from another one has a name. -/
theorem Apart.exists_cons {p q : List String} (h : Apart p q) : ∃ name more, q = name :: more := by
  cases q with
  | nil => exact absurd List.nil_prefix h.2
  | cons name more => exact ⟨name, more, rfl⟩

theorem Apart.head_ne {name other : String} {more : List String}
    (h : Apart [name] (other :: more)) : other ≠ name := by
  intro hsame
  exact h.1 (List.cons_prefix_cons.mpr ⟨hsame.symm, List.nil_prefix⟩)

/-- A path leads where its first name lets it. -/
theorem follow_congr {d d' : Document} {name : String} {more : List String}
    (h : d.get? name = d'.get? name) : follow (name :: more) d = follow (name :: more) d' := by
  cases more with
  | nil => exact h
  | cons next more => simp only [follow, h]

theorem follow_inner {d inner : Document} {name : String} {more : List String}
    (h : d.get? name = some (.document inner)) (hmore : more ≠ []) :
    follow (name :: more) d = follow more inner := by
  cases more with
  | nil => exact absurd rfl hmore
  | cons next more => simp only [follow, h]

/-- A path through a field that is no document leads nowhere. -/
theorem follow_none {d : Document} {name : String} {more : List String}
    (h : ∀ inner, d.get? name ≠ some (.document inner)) (hmore : more ≠ []) :
    follow (name :: more) d = none := by
  cases more with
  | nil => exact absurd rfl hmore
  | cons next more =>
      unfold follow
      split
      · rename_i inner hinner
        exact absurd hinner (h inner)
      · rfl

theorem follow_nil_document (p : List String) : follow p [] = none := by
  cases p with
  | nil => rfl
  | cons name more =>
      cases more with
      | nil => rfl
      | cons next more => rfl

/-- A change below one field leaves the paths alone that are apart from where it is made. -/
theorem follow_insert_of_apart {d inner inner' : Document} {name : String} {p q : List String}
    (hold : ∀ {more : List String}, more ≠ [] → follow (name :: more) d = follow more inner)
    (hchange : ∀ {rest : List String}, Apart p rest → follow rest inner' = follow rest inner)
    (hapart : Apart (name :: p) q) :
    follow q (d.insert name (.document inner')) = follow q d := by
  obtain ⟨other, rest, rfl⟩ := hapart.exists_cons
  by_cases hsame : other = name
  · rw [hsame] at hapart
    have hrest : rest ≠ [] := by
      intro hnil
      exact hapart.of_cons.2 (hnil ▸ List.nil_prefix)
    have hfield := Document.get?_insert_self d name (.document inner')
    rw [hsame, follow_inner hfield hrest, hold hrest]
    exact hchange hapart.of_cons
  · exact follow_congr (Document.get?_insert_of_ne d (.document inner') hsame)

theorem segments_ne_nil (path : String) : segments path ≠ [] := by
  have hsplit : ∀ cs : List Char, splitDots cs ≠ [] := by
    intro cs
    induction cs with
    | nil => exact List.cons_ne_nil _ _
    | cons c cs ih =>
        unfold splitDots
        split
        · exact List.cons_ne_nil _ _
        · split
          · exact List.cons_ne_nil _ _
          · exact List.cons_ne_nil _ _
  unfold segments
  exact fun hnil => hsplit _ (List.map_eq_nil_iff.mp hnil)

/-- A path is its parents and its leaf. -/
theorem parents_append_leaf (path : String) : parents path ++ [leaf path] = segments path := by
  unfold parents leaf
  rw [List.getLast?_eq_getLast_of_ne_nil (segments_ne_nil path), Option.getD_some]
  exact List.dropLast_append_getLast (segments_ne_nil path)

/-- The first name of a path reaches up to the first point. -/
theorem splitDots_head (cs : List Char) :
    ∃ rest, splitDots cs = cs.takeWhile (· ≠ '.') :: rest := by
  induction cs with
  | nil => exact ⟨[], rfl⟩
  | cons c cs ih =>
      obtain ⟨rest, hrest⟩ := ih
      unfold splitDots
      by_cases hpoint : c = '.'
      · rw [if_pos hpoint, List.takeWhile_cons_of_neg (by simp [hpoint])]
        exact ⟨_, rfl⟩
      · rw [if_neg hpoint, hrest, List.takeWhile_cons_of_pos (by simp [hpoint])]
        exact ⟨rest, rfl⟩

/-- A path does not run through the field of a name: it is not the name, nor does it begin with the
name and a point. -/
def Avoids (path name : String) : Prop :=
  path ≠ name ∧ ¬name.toList ++ ['.'] <+: path.toList

/-- A path that avoids a field is apart from it. -/
theorem Avoids.apart {path name : String} (h : Avoids path name) :
    Apart (segments path) [name] := by
  obtain ⟨rest, hsplit⟩ := splitDots_head path.toList
  have hsegments : segments path =
      String.ofList (path.toList.takeWhile (· ≠ '.')) :: rest.map String.ofList := by
    unfold segments
    rw [hsplit, List.map_cons]
  rw [hsegments]
  refine apart_of_head_ne fun hname => ?_
  have hbefore : path.toList.takeWhile (· ≠ '.') = name.toList := by
    rw [← hname, String.toList_ofList]
  have hwhole := List.takeWhile_append_dropWhile (p := (· ≠ '.')) (l := path.toList)
  rw [hbefore] at hwhole
  cases hbehind : path.toList.dropWhile (· ≠ '.') with
  | nil =>
      rw [hbehind, List.append_nil] at hwhole
      exact h.1 (String.toList_inj.mp hwhole.symm)
  | cons c behind =>
      have hpoint : c = '.' := by
        have hne : path.toList.dropWhile (· ≠ '.') ≠ [] := by
          rw [hbehind]
          exact List.cons_ne_nil c behind
        have hhead := List.head_dropWhile_not (· ≠ '.') hne
        simp only [hbehind, List.head_cons] at hhead
        simpa using hhead
      refine h.2 ⟨behind, ?_⟩
      rw [hbehind, hpoint] at hwhole
      rw [List.append_assoc]
      exact hwhole

end Path

namespace Update

open BulkSweep.Path

variable {leaf : String} {value : Value} {parents : List String} {d d' : Document} {changed : Bool}

/-! ## Setting -/

/-- The document under a field into which a value is set; an absent one is made. -/
def Within (d : Document) (name : String) (inner : Document) : Prop :=
  d.get? name = some (.document inner) ∨ d.get? name = none ∧ inner = []

/-- A value is set below a field by setting it in the document under this field. -/
theorem setAt_cons {name : String} {more : List String}
    (h : setAt leaf value (name :: more) d = .ok (d', changed)) :
    ∃ inner inner', Within d name inner ∧ setAt leaf value more inner = .ok (inner', changed) ∧
      d' = d.insert name (.document inner') := by
  unfold setAt at h
  split at h
  · rename_i habsent
    cases hinner : setAt leaf value more [] with
    | error e =>
        rw [hinner] at h
        cases h
    | ok result =>
        rw [hinner] at h
        cases h
        exact ⟨[], result.1, .inr ⟨habsent, rfl⟩, hinner, rfl⟩
  · rename_i inner hpresent
    cases hinner : setAt leaf value more inner with
    | error e =>
        rw [hinner] at h
        cases h
    | ok result =>
        rw [hinner] at h
        cases h
        exact ⟨inner, result.1, .inl hpresent, hinner, rfl⟩
  · cases h

theorem Within.follow {name : String} {inner : Document} (h : Within d name inner)
    {more : List String} (hmore : more ≠ []) : follow (name :: more) d = follow more inner := by
  rcases h with hpresent | ⟨habsent, rfl⟩
  · exact follow_inner hpresent hmore
  · rw [follow_nil_document]
    refine follow_none (fun inner hinner => ?_) hmore
    rw [habsent] at hinner
    cases hinner

/-- The path of a value that is set leads to the value. -/
theorem follow_setAt (h : setAt leaf value parents d = .ok (d', changed)) :
    follow (parents ++ [leaf]) d' = some value := by
  induction parents generalizing d d' with
  | nil =>
      cases h
      exact Document.get?_insert_self d leaf value
  | cons name more ih =>
      obtain ⟨inner, inner', _, hinner, rfl⟩ := setAt_cons h
      have hfield := Document.get?_insert_self d name (.document inner')
      rw [List.cons_append, follow_inner hfield (List.concat_ne_nil leaf more)]
      exact ih hinner

/-- A path that is apart from it leads where it led before. -/
theorem follow_setAt_of_apart {q : List String}
    (h : setAt leaf value parents d = .ok (d', changed)) (hapart : Apart (parents ++ [leaf]) q) :
    follow q d' = follow q d := by
  induction parents generalizing d d' q with
  | nil =>
      cases h
      obtain ⟨other, rest, rfl⟩ := hapart.exists_cons
      exact follow_congr (Document.get?_insert_of_ne d value hapart.head_ne)
  | cons name more ih =>
      obtain ⟨inner, inner', hwithin, hinner, rfl⟩ := setAt_cons h
      exact follow_insert_of_apart (fun hmore => hwithin.follow hmore)
        (fun hrest => ih hinner hrest) hapart

/-- A value that is there already is set without any change. -/
theorem setAt_of_follow (h : follow (parents ++ [leaf]) d = some value) :
    ∃ changed, setAt leaf value parents d = .ok (d, changed) := by
  induction parents generalizing d with
  | nil =>
      unfold setAt
      rw [Document.insert_of_get? h]
      exact ⟨_, rfl⟩
  | cons name more ih =>
      have hmore : more ++ [leaf] ≠ [] := List.concat_ne_nil leaf more
      cases hfield : d.get? name with
      | none =>
          rw [List.cons_append, follow_none (by rw [hfield]; exact nofun) hmore] at h
          cases h
      | some old =>
          by_cases hdocument : ∃ inner, old = .document inner
          · obtain ⟨inner, rfl⟩ := hdocument
            rw [List.cons_append, follow_inner hfield hmore] at h
            obtain ⟨changed, hinner⟩ := ih h
            refine ⟨changed, ?_⟩
            unfold setAt
            rw [hfield]
            dsimp only
            rw [hinner]
            dsimp only [bind, Except.bind, pure, Except.pure]
            rw [Document.insert_of_get? hfield]
          · have hno : ∀ inner, d.get? name ≠ some (.document inner) := by
              intro inner hinner
              rw [hfield] at hinner
              exact hdocument ⟨inner, Option.some.inj hinner⟩
            rw [List.cons_append, follow_none hno hmore] at h
            cases h

theorem Within.proper {name : String} {inner : Document} (h : Within d name inner)
    (hproper : d.Proper) : inner.Proper := by
  rcases h with hpresent | ⟨_, rfl⟩
  · exact hproper.inner hpresent
  · exact Document.proper_mk List.nodup_nil trivial

theorem setAt_proper (hproper : d.Proper) (hvalue : value.Proper)
    (h : setAt leaf value parents d = .ok (d', changed)) : d'.Proper := by
  induction parents generalizing d d' with
  | nil =>
      cases h
      exact hproper.insert hvalue
  | cons name more ih =>
      obtain ⟨inner, inner', hwithin, hinner, rfl⟩ := setAt_cons h
      exact hproper.insert (ih (hwithin.proper hproper) hinner)

/-! ## Removing -/

theorem unsetAt_cons {name : String} {more : List String}
    (h : unsetAt leaf (name :: more) d = some d') :
    ∃ inner inner', d.get? name = some (.document inner) ∧ unsetAt leaf more inner = some inner' ∧
      d' = d.insert name (.document inner') := by
  unfold unsetAt at h
  split at h
  · rename_i inner hpresent
    obtain ⟨inner', hinner, rfl⟩ := Option.map_eq_some_iff.mp h
    exact ⟨inner, inner', hpresent, hinner, rfl⟩
  · cases h

theorem unsetAt_nil (h : unsetAt leaf [] d = some d') :
    (d.get? leaf).isSome = true ∧ d' = d.erase leaf := by
  unfold unsetAt at h
  split at h
  · rename_i hpresent
    cases h
    exact ⟨hpresent, rfl⟩
  · cases h

/-- Something is removed where a path leads to something. -/
theorem unsetAt_eq_none : unsetAt leaf parents d = none ↔ follow (parents ++ [leaf]) d = none := by
  induction parents generalizing d with
  | nil =>
      change _ ↔ d.get? leaf = none
      unfold unsetAt
      cases d.get? leaf with
      | none => simp
      | some old => simp
  | cons name more ih =>
      have hmore : more ++ [leaf] ≠ [] := List.concat_ne_nil leaf more
      unfold unsetAt
      split
      · rename_i inner hpresent
        rw [Option.map_eq_none_iff, List.cons_append, follow_inner hpresent hmore]
        exact ih
      · rename_i hno
        rw [List.cons_append, follow_none hno hmore]
        exact ⟨fun _ => rfl, fun _ => rfl⟩

/-- The path of a field that is removed leads nowhere. -/
theorem follow_unsetAt (hproper : d.Proper) (h : unsetAt leaf parents d = some d') :
    follow (parents ++ [leaf]) d' = none := by
  induction parents generalizing d d' with
  | nil =>
      obtain ⟨_, rfl⟩ := unsetAt_nil h
      exact Document.get?_erase_self hproper.keys
  | cons name more ih =>
      obtain ⟨inner, inner', hpresent, hinner, rfl⟩ := unsetAt_cons h
      have hfield := Document.get?_insert_self d name (.document inner')
      rw [List.cons_append, follow_inner hfield (List.concat_ne_nil leaf more)]
      exact ih (hproper.inner hpresent) hinner

/-- A path that is apart from it leads where it led before. -/
theorem follow_unsetAt_of_apart {q : List String} (h : unsetAt leaf parents d = some d')
    (hapart : Apart (parents ++ [leaf]) q) : follow q d' = follow q d := by
  induction parents generalizing d d' q with
  | nil =>
      obtain ⟨_, rfl⟩ := unsetAt_nil h
      obtain ⟨other, rest, rfl⟩ := hapart.exists_cons
      exact follow_congr (Document.get?_erase_of_ne hapart.head_ne)
  | cons name more ih =>
      obtain ⟨inner, inner', hpresent, hinner, rfl⟩ := unsetAt_cons h
      exact follow_insert_of_apart (fun hmore => follow_inner hpresent hmore)
        (fun hrest => ih hinner hrest) hapart

theorem unsetAt_proper (hproper : d.Proper) (h : unsetAt leaf parents d = some d') :
    d'.Proper := by
  induction parents generalizing d d' with
  | nil =>
      obtain ⟨_, rfl⟩ := unsetAt_nil h
      exact hproper.erase
  | cons name more ih =>
      obtain ⟨inner, inner', hpresent, hinner, rfl⟩ := unsetAt_cons h
      exact hproper.insert (ih (hproper.inner hpresent) hinner)

end Update

end BulkSweep

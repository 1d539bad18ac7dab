import BulkSweep.Proofs.Update.FieldChanges
import BulkSweep.Proofs.Value.Sameness

/-!
# The order of fields

A field that is set keeps its place, and a new one goes behind all others.  So the order of the fields can
only change when a field is removed and set anew.  It comes out the same again, if behind a field that is
set anew no other field of the document is set (`keys_again`).
-/

set_option autoImplicit false

namespace BulkSweep

/-! ## Names of fields -/

namespace Document

variable {d e : Document} {name : String} {value : Value}

theorem get?_eq_none_iff : get? d name = none ↔ name ∉ keys d := by
  constructor
  · intro hnone hmem
    obtain ⟨⟨key, value⟩, hfield, rfl⟩ := List.mem_map.mp hmem
    have hne : ¬(key == key) = true := by
      simpa using List.lookup_eq_none_iff.mp hnone _ hfield
    exact hne (beq_self_eq_true key)
  · exact get?_eq_none

theorem keys_insert : keys (insert d name value) = if name ∈ keys d then keys d else keys d ++ [name] := by
  induction d with
  | nil => rfl
  | cons field rest ih =>
      obtain ⟨key, old⟩ := field
      unfold insert
      by_cases hkey : key = name
      · have hmem : name ∈ keys ((key, old) :: rest) := List.mem_cons.mpr (.inl hkey.symm)
        rw [if_pos hkey, if_pos hmem]
        rfl
      · rw [if_neg hkey]
        change key :: keys (insert rest name value) = _
        have hmem : name ∈ keys ((key, old) :: rest) ↔ name ∈ keys rest := by
          change name ∈ key :: keys rest ↔ _
          simp [Ne.symm hkey]
        rw [ih, if_congr hmem rfl rfl]
        split
        · rfl
        · rfl

theorem keys_erase : keys (erase d name) = (keys d).erase name := by
  induction d with
  | nil => rfl
  | cons field rest ih =>
      obtain ⟨key, old⟩ := field
      change keys (if key = name then rest else (key, old) :: erase rest name) = (key :: keys rest).erase name
      by_cases hkey : key = name
      · rw [if_pos hkey, hkey, List.erase_cons_head]
      · have hne : ¬(key == name) = true := by simpa using hkey
        rw [if_neg hkey, List.erase_cons_tail hne, ← ih]
        rfl

/-- Documents with the same names in the same order and the same values are the same. -/
theorem eq_of_keys (hkeys : keys d = keys e) (hnodup : (keys d).Nodup)
    (h : ∀ name, get? d name = get? e name) : d = e := by
  induction d generalizing e with
  | nil => exact (List.map_eq_nil_iff.mp hkeys.symm).symm
  | cons field rest ih =>
      obtain ⟨key, value⟩ := field
      obtain ⟨⟨key', value'⟩, rest', rfl⟩ : ∃ field' rest', e = field' :: rest' := by
        cases e with
        | nil => cases hkeys
        | cons field' rest' => exact ⟨field', rest', rfl⟩
      obtain ⟨hkey, hrest⟩ := List.cons.inj hkeys
      change key = key' at hkey
      subst hkey
      obtain ⟨hfresh, hnodup⟩ := List.nodup_cons.mp hnodup
      have hvalue : value = value' := by
        have hget := h key
        rw [get?, get?, List.lookup_cons_self, List.lookup_cons_self] at hget
        exact Option.some.inj hget
      have hrests : rest = rest' := by
        refine ih hrest hnodup fun name => ?_
        by_cases hname : name = key
        · have hfresh' : key ∉ keys rest' := by
            rw [keys, ← hrest]
            exact hfresh
          rw [hname, get?_eq_none hfresh, get?_eq_none hfresh']
        · have hne : (name == key) = false := by simpa using hname
          have hget := h name
          rw [get?, get?, List.lookup_cons, List.lookup_cons, hne] at hget
          exact hget
      rw [hvalue, hrests]

end Document

namespace Update

open BulkSweep.Path

/-! ## Names after a change -/

namespace Change

variable {c : Change} {d d' : Document} {name : String}

/-- The change removes the field of this name. -/
def Drops (c : Change) (name : String) : Prop :=
  c.names = [name] ∧ c.value = none

theorem through_iff_head : [name] <+: c.names ↔ c.head = name := by
  obtain ⟨rest, hnames⟩ := c.names_eq
  rw [hnames, List.cons_prefix_cons]
  exact ⟨fun h => h.1.symm, fun h => ⟨h.symm, List.nil_prefix⟩⟩

/-- A change gives the field that it begins with a value, removes it, or does nothing. -/
theorem make_cases (h : c.make d = some d') :
    (∃ put, d' = d.insert c.head put ∧ ¬c.Drops c.head ∧ (c.value = none → c.head ∈ Document.keys d)) ∨
    (c.Drops c.head ∧ d' = d.erase c.head) ∨
    (c.value = none ∧ d' = d ∧ (c.Drops c.head → c.head ∉ Document.keys d)) := by
  obtain ⟨parents, leaf, value⟩ := c
  cases value with
  | some value =>
      obtain ⟨changed, hset⟩ := (make_of_set rfl).mp h
      refine .inl ?_
      cases parents with
      | nil =>
          cases hset
          exact ⟨value, rfl, fun hdrops => Option.some_ne_none value hdrops.2, nofun⟩
      | cons name more =>
          obtain ⟨inner, inner', -, -, rfl⟩ := setAt_cons hset
          exact ⟨.document inner', rfl, fun hdrops => Option.some_ne_none value hdrops.2, nofun⟩
  | none =>
      rcases (make_of_unset rfl).mp h with hremoved | ⟨hnone, rfl⟩
      · cases parents with
        | nil =>
            obtain ⟨-, rfl⟩ := unsetAt_nil hremoved
            exact .inr (.inl ⟨⟨rfl, rfl⟩, rfl⟩)
        | cons name more =>
            obtain ⟨inner, inner', hpresent, -, rfl⟩ := unsetAt_cons hremoved
            refine .inl ⟨.document inner', rfl, ?_, fun _ => Document.mem_keys_of_get? hpresent⟩
            rintro ⟨hnames, -⟩
            exact List.concat_ne_nil leaf more (List.cons.inj hnames).2
      · refine .inr (.inr ⟨rfl, rfl, ?_⟩)
        rintro ⟨hnames, -⟩
        have habsent := unsetAt_eq_none.mp hnone
        change parents ++ [leaf] = [_] at hnames
        rw [hnames] at habsent
        exact Document.get?_eq_none_iff.mp habsent

/-- A change puts a new name behind all others, takes one away, or leaves the names as they are. -/
theorem keys_make (h : c.make d = some d') :
    (c.value ≠ none ∧ c.head ∉ Document.keys d ∧ Document.keys d' = Document.keys d ++ [c.head]) ∨
    (c.Drops c.head ∧ Document.keys d' = (Document.keys d).erase c.head) ∨
    (¬c.Drops c.head ∧ Document.keys d' = Document.keys d) := by
  rcases make_cases h with ⟨put, rfl, hkeeps, hthere⟩ | ⟨hdrops, rfl⟩ | ⟨-, rfl, habsent⟩
  · rw [Document.keys_insert]
    by_cases hmem : c.head ∈ Document.keys d
    · rw [if_pos hmem]
      exact .inr (.inr ⟨hkeeps, rfl⟩)
    · rw [if_neg hmem]
      exact .inl ⟨fun hvalue => hmem (hthere hvalue), hmem, rfl⟩
  · rw [Document.keys_erase]
    exact .inr (.inl ⟨hdrops, rfl⟩)
  · by_cases hdrops : c.Drops c.head
    · exact .inr (.inl ⟨hdrops, (List.erase_of_not_mem (habsent hdrops)).symm⟩)
    · exact .inr (.inr ⟨hdrops, rfl⟩)

end Change

/-! ## Fields that are set anew -/

/-- A field is removed and set anew, and then another field of the same document is set. -/
def Change.Displaces (e f g : Change) : Prop :=
  e.value = none ∧ f.value ≠ none ∧ g.value ≠ none ∧
    e.names <+: f.names ∧ e.parents <+: g.parents ∧ ¬e.names <+: g.names

/-- No field is set behind one that is removed and set anew. -/
def KeepsOrder (cs : List Change) : Prop :=
  ∀ e f g, List.Sublist [e, f, g] cs → ¬e.Displaces f g

section Runs

variable {cs : List Change} {d d' : Document} {name : String}

theorem makeAll_append {before after : List Change} :
    makeAll (before ++ after) d = (makeAll before d).bind (makeAll after) := by
  induction before generalizing d with
  | nil => rfl
  | cons c before ih =>
      change ((c.make d).bind fun next => makeAll (before ++ after) next) = _
      simp only [ih]
      exact (Option.bind_assoc (c.make d) (makeAll before) (makeAll after)).symm

/-- The name is the last one. -/
def Last (name : String) (names : List String) : Prop :=
  ∃ front, names = front ++ [name]

/-- A field that is not there, or is the last one with nothing else being set, is the last one if it is there
after changes that set nothing else behind it. -/
theorem last_of_makeAll (hproper : d.Proper) (hvalues : ValuesProper cs)
    (hstart : name ∉ Document.keys d ∨
      Last name (Document.keys d) ∧ ∀ g ∈ cs, g.value ≠ none → g.head = name)
    (horder : cs.Pairwise fun f g => f.value ≠ none → f.head = name → g.value ≠ none → g.head = name)
    (h : makeAll cs d = some d') (hmem : name ∈ Document.keys d') : Last name (Document.keys d') := by
  induction cs generalizing d with
  | nil =>
      cases h
      rcases hstart with habsent | ⟨hlast, -⟩
      · exact absurd hmem habsent
      · exact hlast
  | cons c rest ih =>
      obtain ⟨next, hnext, hrest⟩ := makeAll_cons.mp h
      obtain ⟨hbehind, horder⟩ := List.pairwise_cons.mp horder
      have hnextProper := Change.make_proper hproper (hvalues c List.mem_cons_self) hnext
      refine ih hnextProper (fun f hf => hvalues f (List.mem_cons_of_mem c hf)) ?_ horder hrest
      rcases Change.keys_make hnext with ⟨hvalue, hnew, hkeys⟩ | ⟨hdrops, hkeys⟩ | ⟨-, hkeys⟩
      · rw [hkeys]
        by_cases hhead : c.head = name
        · exact .inr ⟨⟨Document.keys d, by rw [hhead]⟩, fun g hg => hbehind g hg hvalue hhead⟩
        · rcases hstart with habsent | ⟨-, hothers⟩
          · refine .inl fun hmem => ?_
            rcases List.mem_append.mp hmem with hmem | hmem
            · exact habsent hmem
            · exact hhead (List.mem_singleton.mp hmem).symm
          · exact absurd (hothers c List.mem_cons_self hvalue) hhead
      · rw [hkeys]
        by_cases hhead : c.head = name
        · rw [hhead]
          exact .inl hproper.keys.not_mem_erase
        · rcases hstart with habsent | ⟨⟨front, hfront⟩, hothers⟩
          · exact .inl fun hmem => habsent (List.mem_of_mem_erase hmem)
          · refine .inr ⟨⟨front.erase c.head, ?_⟩, fun g hg => hothers g (List.mem_cons_of_mem c hg)⟩
            rw [hfront]
            by_cases hin : c.head ∈ front
            · exact List.erase_append_left _ hin
            · rw [List.erase_append_right _ hin, List.erase_of_not_mem hin,
                List.erase_of_not_mem fun hmem => hhead (List.mem_singleton.mp hmem)]
      · rw [hkeys]
        exact hstart.imp_right fun ⟨hlast, hothers⟩ =>
          ⟨hlast, fun g hg => hothers g (List.mem_cons_of_mem c hg)⟩

/-- A field that is removed by some changes is the last one if it is there after all of them. -/
theorem last_of_drops (hproper : d.Proper) (hvalues : ValuesProper cs) (horder : KeepsOrder cs)
    (h : makeAll cs d = some d') {e : Change} (he : e ∈ cs) (hdrops : e.Drops name)
    (hmem : name ∈ Document.keys d') : Last name (Document.keys d') := by
  obtain ⟨before, after, rfl⟩ := List.append_of_mem he
  rw [makeAll_append] at h
  obtain ⟨middle, hmiddle, hrest⟩ := Option.bind_eq_some_iff.mp h
  obtain ⟨next, hnext, hafter⟩ := makeAll_cons.mp hrest
  have hbeforeValues : ValuesProper before := fun f hf => hvalues f (List.mem_append_left _ hf)
  have hafterValues : ValuesProper after := fun f hf =>
    hvalues f (List.mem_append_right _ (List.mem_cons_of_mem e hf))
  have hmiddleProper := makeAll_proper hproper hbeforeValues hmiddle
  have hnextProper := Change.make_proper hmiddleProper (hvalues e he) hnext
  have hhead : e.head = name := Change.through_iff_head.mp (hdrops.1 ▸ List.prefix_refl _)
  have habsent : name ∉ Document.keys next := by
    rcases Change.keys_make hnext with ⟨hvalue, -⟩ | ⟨-, hkeys⟩ | ⟨hno, -⟩
    · exact absurd hdrops.2 hvalue
    · rw [hkeys, hhead]
      exact hmiddleProper.keys.not_mem_erase
    · exact absurd (hhead.symm ▸ hdrops) hno
  refine last_of_makeAll hnextProper hafterValues (.inl habsent) ?_ hafter hmem
  rw [List.pairwise_iff_forall_sublist]
  intro f g hsublist hf hfhead hg
  have hthree : List.Sublist [e, f, g] (before ++ e :: after) :=
    (hsublist.cons_cons e).trans (List.sublist_append_right before _)
  by_contra hghead
  refine horder e f g hthree ⟨hdrops.2, hf, hg, ?_, ?_, ?_⟩
  · rw [hdrops.1]
    exact Change.through_iff_head.mpr hfhead
  · have hparents : e.parents = [] := by
      have hlength := congrArg List.length hdrops.1
      simp only [Change.names, List.length_append, List.length_singleton] at hlength
      exact List.length_eq_zero_iff.mp (by omega)
    rw [hparents]
    exact List.nil_prefix
  · rw [hdrops.1]
    exact fun hthrough => hghead (Change.through_iff_head.mp hthrough)

/-- The names that a document has after some changes keep their order, but for the last one, which may be
away, when the changes are made again: of these names only the last one is removed. -/
theorem keys_makeAll_again {names : List String} {s s' : Document} (hproper : s.Proper)
    (hvalues : ValuesProper cs) (hnodup : names.Nodup)
    (hlast : ∀ e ∈ cs, ∀ name, e.Drops name → name ∈ names → Last name names)
    (hstart : (Document.keys s).filter (· ∈ names) = names ∨
      (Document.keys s).filter (· ∈ names) = names.dropLast)
    (h : makeAll cs s = some s') :
    (Document.keys s').filter (· ∈ names) = names ∨
      (Document.keys s').filter (· ∈ names) = names.dropLast := by
  induction cs generalizing s with
  | nil =>
      cases h
      exact hstart
  | cons c rest ih =>
      obtain ⟨next, hnext, hrest⟩ := makeAll_cons.mp h
      have hnextProper := Change.make_proper hproper (hvalues c List.mem_cons_self) hnext
      refine ih hnextProper (fun f hf => hvalues f (List.mem_cons_of_mem c hf))
        (fun e he => hlast e (List.mem_cons_of_mem c he)) ?_ hrest
      rcases Change.keys_make hnext with ⟨hvalue, hnew, hkeys⟩ | ⟨hdrops, hkeys⟩ | ⟨-, hkeys⟩
      · rw [hkeys, List.filter_append]
        by_cases hin : c.head ∈ names
        · have hback : [c.head].filter (· ∈ names) = [c.head] := by simp [hin]
          have haway : c.head ∉ (Document.keys s).filter (· ∈ names) := fun hmem =>
            hnew (List.mem_of_mem_filter hmem)
          rcases hstart with hall | hfront
          · rw [hall] at haway
            exact absurd hin haway
          · have hsplit := List.dropLast_append_getLast (List.ne_nil_of_mem hin)
            rw [hfront] at haway
            have hhead : c.head = names.getLast (List.ne_nil_of_mem hin) := by
              rw [← hsplit] at hin
              rcases List.mem_append.mp hin with hmem | hmem
              · exact absurd hmem haway
              · exact List.mem_singleton.mp hmem
            rw [hfront, hback, hhead]
            exact .inl hsplit
        · have hnone : [c.head].filter (· ∈ names) = [] := by simp [hin]
          rw [hnone, List.append_nil]
          exact hstart
      · rw [hkeys, ← List.erase_filter]
        by_cases hin : c.head ∈ names
        · obtain ⟨front, hnames⟩ := hlast c List.mem_cons_self c.head hdrops hin
          have hfresh : c.head ∉ front := by
            rw [hnames] at hnodup
            exact fun hmem => (List.nodup_append.mp hnodup).2.2 _ hmem _ List.mem_cons_self rfl
          have hdropLast : names.dropLast = front := by rw [hnames, List.dropLast_concat]
          rw [hdropLast] at hstart ⊢
          rcases hstart with hall | hfront
          · rw [hall, hnames, List.erase_append_right _ hfresh, List.erase_cons_head, List.append_nil]
            exact .inr rfl
          · rw [hfront, List.erase_of_not_mem hfresh]
            exact .inr rfl
        · rw [List.erase_of_not_mem fun hmem => hin (by simpa using List.of_mem_filter hmem)]
          exact hstart
      · rw [hkeys]
        exact hstart

/-- A document that was changed has its fields in the same order after the same changes, if it has the same
fields and no field is set behind one that is removed and set anew. -/
theorem keys_again {d'' : Document} (hproper : d.Proper) (hvalues : ValuesProper cs)
    (horder : KeepsOrder cs) (h : makeAll cs d = some d') (hagain : makeAll cs d' = some d'')
    (hsame : ∀ name, name ∈ Document.keys d'' ↔ name ∈ Document.keys d') :
    Document.keys d'' = Document.keys d' := by
  have hproper' := makeAll_proper hproper hvalues h
  have hall : ∀ {names : List String}, (∀ name ∈ names, name ∈ Document.keys d') →
      names.filter (· ∈ Document.keys d') = names := by
    intro names hnames
    rw [List.filter_eq_self]
    exact fun name hmem => decide_eq_true (hnames name hmem)
  have hkeys := keys_makeAll_again hproper' hvalues hproper'.keys
    (fun e he name hdrops hmem => last_of_drops hproper hvalues horder h he hdrops hmem)
    (.inl (hall fun _ hmem => hmem)) hagain
  rw [hall fun name hmem => (hsame name).mp hmem] at hkeys
  rcases hkeys with hkeys | hfront
  · exact hkeys
  · by_cases hnil : Document.keys d' = []
    · rw [hfront, hnil, List.dropLast_nil]
    · -- the last name is there, so it is not the one that is away
      have hnodup := hproper'.keys
      have hmem := (hsame _).mpr (List.getLast_mem hnil)
      rw [← List.dropLast_append_getLast hnil] at hnodup
      rw [hfront] at hmem
      exact absurd rfl ((List.nodup_append.mp hnodup).2.2 _ hmem _ List.mem_cons_self)

end Runs

end Update

end BulkSweep

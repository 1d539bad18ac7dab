import Mathlib.Data.List.Nodup
import Mathlib.Data.List.Perm.Subperm
import BulkSweep.Collection

/-!
# Documents by their ids

A store finds documents by the labels of their ids.  This is a sound way to name documents when each
of them has an id and no two ids have one label: the ids that a filter accepts then stand for the
documents that it accepts, one for one.
-/

set_option autoImplicit false

namespace BulkSweep

/-- The label under which a document is found; a document without id has none. -/
def Document.label? (d : Document) : Option String :=
  (Document.id? d).map Value.label

/-- A set of ids has a document when one of the ids has its label. -/
theorem IdSet.has_ofIds {ids : List Value} {d : Document} :
    (IdSet.ofIds ids).has d = true ↔ ∃ id ∈ ids, d.label? = some id.label := by
  unfold IdSet.has Document.label?
  cases Document.id? d with
  | none => simp
  | some own =>
      dsimp only [IdSet.ofIds]
      rw [Std.HashSet.contains_ofList, List.contains_iff_mem, List.mem_map]
      simp only [Option.map_some, Option.some.injEq, eq_comm]

theorem IdSet.has_ofIds_append {ids more : List Value} {d : Document} :
    (IdSet.ofIds (ids ++ more)).has d = true ↔
      (IdSet.ofIds ids).has d = true ∨ (IdSet.ofIds more).has d = true := by
  simp only [IdSet.has_ofIds, List.mem_append, or_and_right, exists_or]

namespace Collection

variable {docs : Collection} {filter : Document} {ids : List Value}

/-! ## Ids of matches -/

theorem mem_ids {id : Value} :
    id ∈ docs.ids filter ↔
      ∃ d ∈ docs, Filter.accepts d filter = true ∧ Document.id? d = some id := by
  simp only [Collection.ids, Collection.find, List.mem_filterMap, List.mem_filter, and_assoc]

@[simp] theorem ids_append {before after : Collection} :
    (before ++ after).ids filter = before.ids filter ++ after.ids filter := by
  simp only [Collection.ids, Collection.find, List.filter_append, List.filterMap_append]

/-- The ids of matches are cut where the collection is cut. -/
theorem ids_eq_append {before after : List Value} (h : docs.ids filter = before ++ after) :
    ∃ first last, docs = first ++ last ∧ first.ids filter = before ∧
      last.ids filter = after := by
  obtain ⟨found, others, hfind, hbefore, hafter⟩ := List.filterMap_eq_append_iff.mp h
  obtain ⟨first, last, hdocs, hfirst, hlast⟩ := List.filter_eq_append_iff.mp hfind
  refine ⟨first, last, hdocs, ?_, ?_⟩
  · rw [Collection.ids, Collection.find, hfirst, hbefore]
  · rw [Collection.ids, Collection.find, hlast, hafter]

/-- Every document has an id, and no two ids have one label. -/
structure Identified (docs : Collection) : Prop where
  /-- every document has an id -/
  named : ∀ d ∈ docs, (Document.id? d).isSome = true
  /-- no two documents have one label -/
  distinct : (docs.map Document.label?).Nodup

theorem Identified.sublist {part : Collection} (h : docs.Identified)
    (hpart : List.Sublist part docs) : part.Identified where
  named := fun d hd => h.named d (hpart.subset hd)
  distinct := h.distinct.sublist (hpart.map _)

theorem Identified.eq_of_label (h : docs.Identified) {d e : Document} (hd : d ∈ docs)
    (he : e ∈ docs) (hlabel : d.label? = e.label?) : d = e :=
  List.inj_on_of_nodup_map h.distinct hd he hlabel

theorem Identified.label (h : docs.Identified) {d : Document} (hd : d ∈ docs) :
    ∃ id, Document.id? d = some id ∧ d.label? = some id.label := by
  obtain ⟨id, hid⟩ := Option.isSome_iff_exists.mp (h.named d hd)
  refine ⟨id, hid, ?_⟩
  rw [Document.label?, hid]
  rfl

/-- The ids of matches have the labels of the matches. -/
theorem Identified.ids_labels (h : docs.Identified) :
    (docs.ids filter).map (fun id => some id.label) = (docs.find filter).map Document.label? := by
  have hfind : (docs.find filter).Identified := h.sublist List.filter_sublist
  unfold Collection.ids
  revert hfind
  generalize docs.find filter = found
  intro hfind
  induction found with
  | nil => rfl
  | cons d rest ih =>
      obtain ⟨id, hid, hlabel⟩ := hfind.label List.mem_cons_self
      rw [List.filterMap_cons_some hid, List.map_cons, List.map_cons, hlabel]
      rw [ih (hfind.sublist (List.sublist_cons_self d rest))]

/-- As many ids match as documents. -/
theorem Identified.ids_length (h : docs.Identified) :
    (docs.ids filter).length = docs.count filter := by
  have hlabels : (docs.ids filter).map _ = (docs.find filter).map _ := h.ids_labels
  have hlength := congrArg List.length hlabels
  rwa [List.length_map, List.length_map] at hlength

/-- Where no id matches, no document does. -/
theorem Identified.not_accepts_of_ids (h : docs.Identified) (hnone : docs.ids filter = []) :
    ∀ d ∈ docs, Filter.accepts d filter = false := by
  have hcount : docs.find filter = [] := by
    rw [← List.length_eq_zero_iff]
    change docs.count filter = 0
    rw [← h.ids_length, hnone]
    rfl
  intro d hd
  exact Bool.eq_false_iff.mpr (List.filter_eq_nil_iff.mp hcount d hd)

/-- No label is read twice. -/
theorem Identified.ids_nodup (h : docs.Identified) :
    ((docs.ids filter).map Value.label).Nodup := by
  have hfind : ((docs.find filter).map Document.label?).Nodup :=
    (h.sublist List.filter_sublist).distinct
  rw [← h.ids_labels] at hfind
  refine List.Nodup.of_map some ?_
  rw [List.map_map]
  exact hfind

/-- Different ids of matches are no more than the matches. -/
theorem Identified.length_le_count (h : docs.Identified) (hnodup : (ids.map Value.label).Nodup)
    (hids : ∀ id ∈ ids, id ∈ docs.ids filter) : ids.length ≤ docs.count filter := by
  have hsubset : ids.map Value.label ⊆ (docs.ids filter).map Value.label :=
    List.map_subset _ fun id hid => hids id hid
  have hlength := (List.subperm_of_subset hnodup hsubset).length_le
  rw [List.length_map, List.length_map, h.ids_length] at hlength
  exact hlength

/-- A match that has the label of an id that matches is the document with this id. -/
theorem Identified.accepts_of_label (h : docs.Identified) {d : Document} (hd : d ∈ docs)
    {id : Value} (hid : id ∈ docs.ids filter) (hlabel : d.label? = some id.label) :
    Filter.accepts d filter = true := by
  obtain ⟨e, he, haccepts, heid⟩ := mem_ids.mp hid
  have hsame : d = e := by
    refine h.eq_of_label hd he ?_
    rw [hlabel, Document.label?, heid]
    rfl
  rw [hsame]
  exact haccepts

/-! ## Documents of ids -/

/-- The ids of matches have no documents but those with their labels. -/
theorem label_of_has_ids {d : Document} (h : (IdSet.ofIds (docs.ids filter)).has d = true) :
    d.label? ∈ docs.map Document.label? := by
  obtain ⟨id, hid, hlabel⟩ := IdSet.has_ofIds.mp h
  obtain ⟨e, he, _, hown⟩ := mem_ids.mp hid
  refine List.mem_map.mpr ⟨e, he, ?_⟩
  rw [hlabel, Document.label?, hown]
  rfl

/-- The ids of matches have the matches. -/
theorem Identified.has_ids (h : docs.Identified) {d : Document} (hd : d ∈ docs) :
    (IdSet.ofIds (docs.ids filter)).has d = Filter.accepts d filter := by
  rw [Bool.eq_iff_iff, IdSet.has_ofIds]
  constructor
  · rintro ⟨id, hid, hlabel⟩
    exact h.accepts_of_label hd hid hlabel
  · intro haccepts
    obtain ⟨own, hown, hlabel⟩ := h.label hd
    exact ⟨own, mem_ids.mpr ⟨d, hd, haccepts, hown⟩, hlabel⟩

/-! ## Removal -/

/-- The documents that have none of the given ids. -/
def without (docs : Collection) (ids : List Value) : Collection :=
  docs.filter fun d => !ids.any fun id => d.label? == some id.label

theorem mem_without {d : Document} :
    d ∈ docs.without ids ↔ d ∈ docs ∧ ∀ id ∈ ids, d.label? ≠ some id.label := by
  simp [without]

@[simp] theorem without_nil : docs.without [] = docs := by
  simp [without]

theorem without_append {more : List Value} :
    docs.without (ids ++ more) = (docs.without ids).without more := by
  simp only [without, List.filter_filter, List.any_append, Bool.not_or, Bool.and_comm]

theorem without_sublist : List.Sublist (docs.without ids) docs :=
  List.filter_sublist

/-- What a store deletes is gone, and nothing else. -/
theorem delete_eq_without : docs.delete ids = docs.without ids := by
  unfold Collection.delete without
  refine List.filter_congr fun d _ => ?_
  congr 1
  rw [Bool.eq_iff_iff, IdSet.has_ofIds]
  simp

/-- As many documents go as ids are given, if all of them are ids of matches. -/
theorem Identified.without_length (h : docs.Identified) (hnodup : (ids.map Value.label).Nodup)
    (hids : ∀ id ∈ ids, id ∈ docs.ids filter) :
    (docs.without ids).length + ids.length = docs.length := by
  let gone (d : Document) : Bool := ids.any fun id => d.label? == some id.label
  have hsplit : (docs.filter gone).length + (docs.without ids).length = docs.length :=
    (List.length_eq_length_filter_add gone).symm
  have hgone : ((docs.filter gone).map Document.label?).Nodup :=
    (h.sublist List.filter_sublist).distinct
  have hgiven : (ids.map fun id => some id.label).Nodup := by
    have := hnodup.map (f := some) fun _ _ => Option.some.inj
    rwa [List.map_map] at this
  -- the labels of the documents that go are those of the given ids, one for one
  have hsame : ((docs.filter gone).map Document.label?).Perm (ids.map fun id => some id.label) := by
    refine (List.perm_ext_iff_of_nodup hgone hgiven).mpr fun label => ?_
    simp only [List.mem_map, List.mem_filter, gone, List.any_eq_true, beq_iff_eq]
    constructor
    · rintro ⟨d, ⟨_, id, hid, hlabel⟩, rfl⟩
      exact ⟨id, hid, hlabel.symm⟩
    · rintro ⟨id, hid, rfl⟩
      obtain ⟨d, hd, _, hown⟩ := mem_ids.mp (hids id hid)
      have hlabel : d.label? = some id.label := by rw [Document.label?, hown]; rfl
      exact ⟨d, ⟨hd, id, hid, hlabel⟩, hlabel⟩
  have hlength := hsame.length_eq
  rw [List.length_map, List.length_map] at hlength
  omega

end Collection

end BulkSweep

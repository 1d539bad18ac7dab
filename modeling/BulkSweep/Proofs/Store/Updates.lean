import BulkSweep.Proofs.Store.Identity
import BulkSweep.Proofs.Update.Edits

/-!
# One pass of updates

A store updates the documents of a set of ids in one pass over its collection.  The same pass, over the
documents that a filter accepts, is what a whole run comes to; its result is spelled out here, up to
the first document to which the update cannot be applied.
-/

set_option autoImplicit false

namespace BulkSweep.Collection

/-- Updates the documents that are wanted, one after another.  The first failure ends it. -/
def updateWhere (wanted : Document → Bool) (operators : Document) :
    Collection → UpdateCounts → Collection × Except ConnError UpdateCounts
  | [], counts => ([], .ok counts)
  | d :: rest, counts =>
    if wanted d then
      match Update.apply operators d with
      | .error e => (d :: rest, .error (updateError e))
      | .ok (updated, changed) =>
        let (others, result) := updateWhere wanted operators rest
          ⟨counts.matched + 1, counts.modified + changed.toNat⟩
        (updated :: others, result)
    else
      let (others, result) := updateWhere wanted operators rest counts
      (d :: others, result)

variable {wanted : Document → Bool} {operators : Document} {docs before after : Collection}
  {counts : UpdateCounts}

/-- A set of ids is updated as the documents that it has. -/
theorem updateSet_eq (set : IdSet) :
    updateSet set operators docs counts = updateWhere set.has operators docs counts := by
  induction docs generalizing counts with
  | nil => rfl
  | cons d rest ih =>
      unfold updateSet updateWhere
      cases Update.apply operators d with
      | error e => simp only [ih]
      | ok result => simp only [ih]

/-! ## Documents one by one -/

section Head

variable {d : Document} {rest : Collection}

theorem updateWhere_of_unwanted (h : wanted d = false) :
    updateWhere wanted operators (d :: rest) counts =
      (d :: (updateWhere wanted operators rest counts).1,
        (updateWhere wanted operators rest counts).2) := by
  conv => lhs; unfold updateWhere
  rw [h]
  rfl

theorem updateWhere_of_error (h : wanted d = true) {e : Update.Error}
    (happly : Update.apply operators d = .error e) :
    updateWhere wanted operators (d :: rest) counts = (d :: rest, .error (updateError e)) := by
  conv => lhs; unfold updateWhere
  rw [h, happly]
  rfl

theorem updateWhere_of_ok (h : wanted d = true) {updated : Document} {changed : Bool}
    (happly : Update.apply operators d = .ok (updated, changed)) :
    updateWhere wanted operators (d :: rest) counts =
      (updated :: (updateWhere wanted operators rest
        ⟨counts.matched + 1, counts.modified + changed.toNat⟩).1,
        (updateWhere wanted operators rest
          ⟨counts.matched + 1, counts.modified + changed.toNat⟩).2) := by
  conv => lhs; unfold updateWhere
  rw [h, happly]
  rfl

end Head

/-- Induction over a pass: a document is not wanted, or the update cannot be applied to it and the pass
ends there, or it is updated. -/
theorem pass_induction (wanted : Document → Bool) (operators : Document)
    {motive : Collection → Prop} (nil : motive [])
    (unwanted : ∀ d rest, wanted d = false → motive rest → motive (d :: rest))
    (fails : ∀ d rest e, wanted d = true → Update.apply operators d = .error e →
      motive (d :: rest))
    (updates : ∀ d rest result, wanted d = true → Update.apply operators d = .ok result →
      motive rest → motive (d :: rest))
    (docs : Collection) : motive docs := by
  induction docs with
  | nil => exact nil
  | cons d rest ih =>
      cases hwanted : wanted d with
      | false => exact unwanted d rest hwanted ih
      | true =>
          cases happly : Update.apply operators d with
          | error e => exact fails d rest e hwanted happly
          | ok result => exact updates d rest result hwanted happly ih

/-! ## Parts of a collection -/

theorem updateWhere_congr {wanted' : Document → Bool} (h : ∀ d ∈ docs, wanted d = wanted' d) :
    updateWhere wanted operators docs counts = updateWhere wanted' operators docs counts := by
  induction docs generalizing counts with
  | nil => rfl
  | cons d rest ih =>
      have hrest : ∀ d ∈ rest, wanted d = wanted' d := fun e he => h e (List.mem_cons_of_mem d he)
      unfold updateWhere
      rw [h d List.mem_cons_self]
      simp only [ih hrest]

/-- Documents that are not wanted stay as they are. -/
theorem updateWhere_of_none (h : ∀ d ∈ docs, wanted d = false) :
    updateWhere wanted operators docs counts = (docs, .ok counts) := by
  induction docs with
  | nil => rfl
  | cons d rest ih =>
      rw [updateWhere_of_unwanted (h d List.mem_cons_self)]
      rw [ih fun e he => h e (List.mem_cons_of_mem d he)]

theorem updateWhere_append_of_ok {docs' : Collection} {counts' : UpdateCounts}
    (h : updateWhere wanted operators before counts = (docs', .ok counts')) :
    updateWhere wanted operators (before ++ after) counts =
      (docs' ++ (updateWhere wanted operators after counts').1,
        (updateWhere wanted operators after counts').2) := by
  induction before using pass_induction wanted operators generalizing counts docs' with
  | nil =>
      cases h
      rfl
  | unwanted d rest hwanted ih =>
      rw [List.cons_append]
      rw [updateWhere_of_unwanted hwanted] at h ⊢
      obtain ⟨rfl, hrest⟩ := Prod.mk.inj h
      rw [ih (Prod.ext rfl hrest)]
      rfl
  | fails d rest e hwanted happly =>
      rw [updateWhere_of_error hwanted happly] at h
      cases h
  | updates d rest result hwanted happly ih =>
      rw [List.cons_append]
      rw [updateWhere_of_ok hwanted happly] at h ⊢
      obtain ⟨rfl, hrest⟩ := Prod.mk.inj h
      rw [ih (Prod.ext rfl hrest)]
      rfl

theorem updateWhere_append_of_error {docs' : Collection} {cause : ConnError}
    (h : updateWhere wanted operators before counts = (docs', .error cause)) :
    updateWhere wanted operators (before ++ after) counts = (docs' ++ after, .error cause) := by
  induction before using pass_induction wanted operators generalizing counts docs' with
  | nil => cases h
  | unwanted d rest hwanted ih =>
      rw [List.cons_append]
      rw [updateWhere_of_unwanted hwanted] at h ⊢
      obtain ⟨rfl, hrest⟩ := Prod.mk.inj h
      rw [ih (Prod.ext rfl hrest)]
      rfl
  | fails d rest e hwanted happly =>
      rw [List.cons_append]
      rw [updateWhere_of_error hwanted happly] at h ⊢
      obtain ⟨rfl, hcause⟩ := Prod.mk.inj h
      rw [hcause]
      rfl
  | updates d rest result hwanted happly ih =>
      rw [List.cons_append]
      rw [updateWhere_of_ok hwanted happly] at h ⊢
      obtain ⟨rfl, hrest⟩ := Prod.mk.inj h
      rw [ih (Prod.ext rfl hrest)]
      rfl

/-- Documents behind the last one that is wanted stay as they are. -/
theorem updateWhere_append_of_none (h : ∀ d ∈ after, wanted d = false) :
    updateWhere wanted operators (before ++ after) counts =
      ((updateWhere wanted operators before counts).1 ++ after,
        (updateWhere wanted operators before counts).2) := by
  cases hbefore : updateWhere wanted operators before counts with
  | mk docs' result =>
      cases result with
      | error cause => exact updateWhere_append_of_error hbefore
      | ok counts' =>
          rw [updateWhere_append_of_ok hbefore, updateWhere_of_none h]

/-- A pass that goes through has updated the documents that are wanted, each on its own. -/
theorem updateWhere_pointwise {docs' : Collection} {counts' : UpdateCounts}
    (h : updateWhere wanted operators docs counts = (docs', .ok counts')) :
    List.Forall₂ (fun d d' =>
      if wanted d then ∃ changed, Update.apply operators d = .ok (d', changed) else d' = d)
      docs docs' := by
  induction docs using pass_induction wanted operators generalizing counts docs' with
  | nil =>
      cases h
      exact List.Forall₂.nil
  | unwanted d rest hwanted ih =>
      rw [updateWhere_of_unwanted hwanted] at h
      obtain ⟨rfl, hrest⟩ := Prod.mk.inj h
      refine List.Forall₂.cons ?_ (ih (Prod.ext rfl hrest))
      rw [hwanted, if_neg Bool.false_ne_true]
  | fails d rest e hwanted happly =>
      rw [updateWhere_of_error hwanted happly] at h
      cases h
  | updates d rest result hwanted happly ih =>
      rw [updateWhere_of_ok hwanted happly] at h
      obtain ⟨rfl, hrest⟩ := Prod.mk.inj h
      refine List.Forall₂.cons ?_ (ih (Prod.ext rfl hrest))
      rw [if_pos hwanted]
      exact ⟨result.2, happly⟩

/-- What updates the documents that are wanted, each on its own, is a pass. -/
theorem updateWhere_of_pointwise {docs' : Collection}
    (h : List.Forall₂ (fun d d' =>
      if wanted d then ∃ changed, Update.apply operators d = .ok (d', changed) else d' = d)
      docs docs') :
    ∃ counts', updateWhere wanted operators docs counts = (docs', .ok counts') := by
  induction h generalizing counts with
  | nil => exact ⟨counts, rfl⟩
  | @cons d d' rest rest' hhead htail ih =>
      cases hwanted : wanted d with
      | false =>
          rw [hwanted, if_neg Bool.false_ne_true] at hhead
          obtain ⟨counts', hrest⟩ := @ih counts
          exact ⟨counts', by rw [updateWhere_of_unwanted hwanted, hrest, hhead]⟩
      | true =>
          rw [if_pos hwanted] at hhead
          obtain ⟨changed, happly⟩ := hhead
          obtain ⟨counts', hrest⟩ := @ih ⟨counts.matched + 1, counts.modified + changed.toNat⟩
          exact ⟨counts', by rw [updateWhere_of_ok hwanted happly, hrest]⟩

/-- What was counted before is added to what is counted. -/
theorem updateWhere_counts (counts : UpdateCounts) :
    updateWhere wanted operators docs counts =
      ((updateWhere wanted operators docs ⟨0, 0⟩).1,
        (updateWhere wanted operators docs ⟨0, 0⟩).2.map fun done =>
          ⟨counts.matched + done.matched, counts.modified + done.modified⟩) := by
  suffices hshift : ∀ from' : UpdateCounts,
      updateWhere wanted operators docs
        ⟨counts.matched + from'.matched, counts.modified + from'.modified⟩ =
      ((updateWhere wanted operators docs from').1,
        (updateWhere wanted operators docs from').2.map fun done =>
          ⟨counts.matched + done.matched, counts.modified + done.modified⟩) from hshift ⟨0, 0⟩
  induction docs using pass_induction wanted operators with
  | nil => exact fun from' => rfl
  | unwanted d rest hwanted ih =>
      intro from'
      rw [updateWhere_of_unwanted hwanted, updateWhere_of_unwanted hwanted, ih]
  | fails d rest e hwanted happly =>
      intro from'
      rw [updateWhere_of_error hwanted happly, updateWhere_of_error hwanted happly]
      rfl
  | updates d rest result hwanted happly ih =>
      intro from'
      rw [updateWhere_of_ok hwanted happly, updateWhere_of_ok hwanted happly]
      rw [Nat.add_assoc, Nat.add_assoc]
      rw [ih ⟨from'.matched + 1, from'.modified + result.2.toNat⟩]

end BulkSweep.Collection

/-! ## What a pass comes to -/

namespace BulkSweep.Update

/-- A document after an update; it stays as it was if the update cannot be applied to it. -/
def updated (operators d : Document) : Document :=
  match apply operators d with
  | .ok (d, _) => d
  | .error _ => d

/-- Whether an update changes a document. -/
def changes (operators d : Document) : Bool :=
  match apply operators d with
  | .ok (_, changed) => changed
  | .error _ => false

end BulkSweep.Update

namespace BulkSweep.Collection

/-- Replaces as many documents that are wanted as the number says by what an update makes of them. -/
def updateFirst (wanted : Document → Bool) (operators : Document) : Nat → Collection → Collection
  | 0, docs => docs
  | _ + 1, [] => []
  | k + 1, d :: rest =>
    if wanted d then Update.updated operators d :: updateFirst wanted operators k rest
    else d :: updateFirst wanted operators (k + 1) rest

/-- How many documents that are wanted come before the first one to which an update cannot be applied;
if there is none, all of them. -/
def viable (wanted : Document → Bool) (operators : Document) (docs : Collection) : Nat :=
  (docs.filter wanted).findIdx fun d => !(Update.apply operators d).isOk

variable {wanted : Document → Bool} {operators : Document} {docs : Collection}
  {counts : UpdateCounts}

section Head

variable {d : Document} {rest : Collection}

theorem updateFirst_zero : updateFirst wanted operators 0 docs = docs := by
  unfold updateFirst
  rfl

theorem updateFirst_of_unwanted (h : wanted d = false) (k : Nat) :
    updateFirst wanted operators k (d :: rest) = d :: updateFirst wanted operators k rest := by
  cases k with
  | zero => rw [updateFirst_zero, updateFirst_zero]
  | succ k =>
      conv => lhs; unfold updateFirst
      rw [h]
      rfl

theorem updateFirst_of_wanted (h : wanted d = true) (k : Nat) :
    updateFirst wanted operators (k + 1) (d :: rest) =
      Update.updated operators d :: updateFirst wanted operators k rest := by
  conv => lhs; unfold updateFirst
  rw [if_pos h]

theorem viable_of_unwanted (h : wanted d = false) :
    viable wanted operators (d :: rest) = viable wanted operators rest := by
  unfold viable
  rw [List.filter_cons_of_neg (by simp [h])]

theorem viable_of_error (h : wanted d = true) {e : Update.Error}
    (happly : Update.apply operators d = .error e) : viable wanted operators (d :: rest) = 0 := by
  unfold viable
  rw [List.filter_cons_of_pos h, List.findIdx_cons, happly]
  rfl

theorem viable_of_ok (h : wanted d = true) {result : Update.Changed}
    (happly : Update.apply operators d = .ok result) :
    viable wanted operators (d :: rest) = viable wanted operators rest + 1 := by
  unfold viable
  rw [List.filter_cons_of_pos h, List.findIdx_cons, happly]
  rfl

end Head

/-- A pass replaces the documents before the first one to which the update cannot be applied. -/
theorem updateWhere_documents :
    (updateWhere wanted operators docs counts).1 =
      updateFirst wanted operators (viable wanted operators docs) docs := by
  induction docs using pass_induction wanted operators generalizing counts with
  | nil => rfl
  | unwanted d rest hwanted ih =>
      rw [updateWhere_of_unwanted hwanted, viable_of_unwanted hwanted,
        updateFirst_of_unwanted hwanted, ih]
  | fails d rest e hwanted happly =>
      rw [updateWhere_of_error hwanted happly, viable_of_error hwanted happly, updateFirst_zero]
  | updates d rest result hwanted happly ih =>
      have hupdated : Update.updated operators d = result.1 := by
        unfold Update.updated
        rw [happly]
      rw [updateWhere_of_ok hwanted happly, viable_of_ok hwanted happly,
        updateFirst_of_wanted hwanted, ih, hupdated]

/-- A pass that goes through has counted all documents that are wanted. -/
theorem updateWhere_counted {counts' : UpdateCounts}
    (h : (updateWhere wanted operators docs counts).2 = .ok counts') :
    viable wanted operators docs = (docs.filter wanted).length ∧
      counts' = ⟨counts.matched + (docs.filter wanted).length,
        counts.modified + (docs.filter wanted).countP (Update.changes operators)⟩ := by
  induction docs using pass_induction wanted operators generalizing counts with
  | nil =>
      cases h
      exact ⟨rfl, rfl⟩
  | unwanted d rest hwanted ih =>
      rw [updateWhere_of_unwanted hwanted] at h
      rw [viable_of_unwanted hwanted, List.filter_cons_of_neg (by simp [hwanted])]
      exact ih h
  | fails d rest e hwanted happly =>
      rw [updateWhere_of_error hwanted happly] at h
      cases h
  | updates d rest result hwanted happly ih =>
      rw [updateWhere_of_ok hwanted happly] at h
      obtain ⟨hviable, hcounts⟩ := ih h
      have hchanges : Update.changes operators d = result.2 := by
        unfold Update.changes
        rw [happly]
      rw [viable_of_ok hwanted happly, hviable, List.filter_cons_of_pos hwanted,
        List.length_cons, List.countP_cons, hcounts, hchanges]
      refine ⟨rfl, ?_⟩
      cases result.2 with
      | true => simp only [Bool.toNat_true, if_true, Nat.add_assoc, Nat.add_comm 1]
      | false => simp [Nat.add_assoc, Nat.add_comm 1]

/-- A pass that fails does so at the first document to which the update cannot be applied. -/
theorem updateWhere_failed {cause : ConnError}
    (h : (updateWhere wanted operators docs counts).2 = .error cause) :
    ∃ d e, (docs.filter wanted)[viable wanted operators docs]? = some d ∧
      Update.apply operators d = .error e ∧ cause = updateError e := by
  induction docs using pass_induction wanted operators generalizing counts with
  | nil => cases h
  | unwanted d rest hwanted ih =>
      rw [updateWhere_of_unwanted hwanted] at h
      rw [viable_of_unwanted hwanted, List.filter_cons_of_neg (by simp [hwanted])]
      exact ih h
  | fails d rest e hwanted happly =>
      rw [updateWhere_of_error hwanted happly] at h
      rw [List.filter_cons_of_pos hwanted, viable_of_error hwanted happly]
      cases h
      exact ⟨d, e, rfl, happly, rfl⟩
  | updates d rest result hwanted happly ih =>
      rw [updateWhere_of_ok hwanted happly] at h
      rw [List.filter_cons_of_pos hwanted, viable_of_ok hwanted happly, List.getElem?_cons_succ]
      exact ih h

theorem viable_lt {cause : ConnError}
    (h : (updateWhere wanted operators docs counts).2 = .error cause) :
    viable wanted operators docs < (docs.filter wanted).length := by
  obtain ⟨d, _, hd, _⟩ := updateWhere_failed h
  exact (List.getElem?_eq_some_iff.mp hd).1

theorem viable_append_of_ok {before after : Collection} {counts' : UpdateCounts}
    (h : (updateWhere wanted operators before counts).2 = .ok counts') :
    viable wanted operators (before ++ after) =
      (before.filter wanted).length + viable wanted operators after := by
  have hbefore := (updateWhere_counted h).1
  unfold viable at hbefore ⊢
  rw [List.filter_append, List.findIdx_append, hbefore, if_neg (Nat.lt_irrefl _), Nat.add_comm]

theorem viable_append_of_error {before after : Collection} {cause : ConnError}
    (h : (updateWhere wanted operators before counts).2 = .error cause) :
    viable wanted operators (before ++ after) = viable wanted operators before := by
  have hbefore := viable_lt h
  unfold viable at hbefore ⊢
  rw [List.filter_append, List.findIdx_append, if_pos hbefore]

/-! ## Passes over sets of ids -/

/-- An update that avoids ids does not change under which labels documents are found. -/
theorem updateWhere_labels (hid : ∀ path ∈ Update.paths operators, Path.Avoids path idField) :
    (updateWhere wanted operators docs counts).1.map Document.label? =
      docs.map Document.label? := by
  induction docs using pass_induction wanted operators generalizing counts with
  | nil => rfl
  | unwanted d rest hwanted ih =>
      rw [updateWhere_of_unwanted hwanted, List.map_cons, List.map_cons, ih]
  | fails d rest e hwanted happly => rw [updateWhere_of_error hwanted happly]
  | updates d rest result hwanted happly ih =>
      have hlabel : result.1.label? = d.label? := by
        unfold Document.label?
        rw [Update.id?_apply happly hid]
      rw [updateWhere_of_ok hwanted happly, List.map_cons, List.map_cons, ih, hlabel]

/-- A set of ids of matches updates the matches among the documents from which the ids were read, also
when the documents before them have been updated. -/
theorem Identified.updateSet_ids {filter : Document} {before now part after : Collection}
    (h : (before ++ (part ++ after)).Identified)
    (hnow : now.map Document.label? = before.map Document.label?) :
    updateSet (.ofIds (part.ids filter)) operators (now ++ (part ++ after)) counts =
      (now ++ ((updateWhere (Filter.accepts · filter) operators part counts).1 ++ after),
        (updateWhere (Filter.accepts · filter) operators part counts).2) := by
  -- labels are distinct, so no document before the part or behind it has one of its ids
  have hlabels := h.distinct
  rw [List.map_append, List.map_append, List.nodup_append] at hlabels
  obtain ⟨_, hbehind, hbefore⟩ := hlabels
  have hnone : ∀ d ∈ now, (IdSet.ofIds (part.ids filter)).has d = false := by
    intro d hd
    refine Bool.eq_false_iff.mpr fun hhas => ?_
    have hlabel : d.label? ∈ before.map Document.label? := hnow ▸ List.mem_map_of_mem hd
    exact hbefore _ hlabel _ (List.mem_append_left _ (label_of_has_ids hhas)) rfl
  have hrest : ∀ d ∈ after, (IdSet.ofIds (part.ids filter)).has d = false := by
    intro d hd
    refine Bool.eq_false_iff.mpr fun hhas => ?_
    exact (List.nodup_append.mp hbehind).2.2 _ (label_of_has_ids hhas) _ (List.mem_map_of_mem hd) rfl
  have hpart : part.Identified := by
    refine h.sublist ?_
    exact (List.sublist_append_left part after).trans (List.sublist_append_right before _)
  rw [updateSet_eq, updateWhere_append_of_ok (updateWhere_of_none hnone),
    updateWhere_append_of_none hrest, updateWhere_congr fun d hd => hpart.has_ids hd]

end BulkSweep.Collection

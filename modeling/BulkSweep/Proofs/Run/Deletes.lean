import BulkSweep.Proofs.Store.Trial
import BulkSweep.Rehearsal

/-!
# Deletions

A run that deletes reads ids from a collection that it is changing, and may read it many times.  Still
no id is given to the store twice: what was deleted is in no later cursor, and ids that were read but
not deleted are forgotten before the next cursor is read.
-/

set_option autoImplicit false

namespace BulkSweep

/-- The number of ids that were handled, as far as the result of a run tells it. -/
def processed? : Except BulkError Report → Option Nat
  | .ok report => some report.processed
  | .error (.cursor processed _ _) => some processed
  | .error (.cursorRetriesExhausted _ processed _ _) => some processed
  | .error (.batch _ _ processed _ _) => some processed
  | .error _ => none

namespace Deletion

variable {σ : Type} {docs : Collection} {plan : Plan} {t : Tally} {w : Trial}
  {todo : List Value}

/-! ## What is kept while ids are deleted -/

/-- A run over `docs` that still may delete the ids `todo`: they are ids of matches, as are the ones
that it deleted, and none of all of them comes twice. -/
structure Underway (docs : Collection) (plan : Plan) (todo : List Value) (t : Tally) (w : Trial) :
    Prop where
  /-- no id comes twice -/
  once : ((w.touched ++ todo).map Value.label).Nodup
  /-- all ids are those of matches -/
  matching : ∀ id ∈ w.touched ++ todo, id ∈ docs.ids plan.filter
  /-- what was deleted is gone, and nothing else -/
  remaining : w.documents plan.job.target.collection = docs.without w.touched
  /-- what was deleted is counted -/
  processed : t.processed = w.touched.length
  /-- and it is what the batches say that they did -/
  primary : t.counts.primary = t.processed
  /-- the total is the number of matches -/
  total : t.total = docs.count plan.filter

theorem Underway.sublist {todo' : List Value} (h : Underway docs plan todo t w)
    (htodo : List.Sublist todo' todo) : Underway docs plan todo' t w where
  once := h.once.sublist ((htodo.append_left w.touched).map Value.label)
  matching := fun id hid => h.matching id ((htodo.append_left w.touched).subset hid)
  remaining := h.remaining
  processed := h.processed
  primary := h.primary
  total := h.total

/-- What is kept depends on the counts of a tally alone. -/
theorem Underway.of_counts {t' : Tally} (h : Underway docs plan todo t w)
    (hprocessed : t'.processed = t.processed) (hcounts : t'.counts = t.counts)
    (htotal : t'.total = t.total) : Underway docs plan todo t' w where
  once := h.once
  matching := h.matching
  remaining := h.remaining
  processed := hprocessed.trans h.processed
  primary := by rw [hcounts, hprocessed, h.primary]
  total := htotal.trans h.total

theorem Underway.ask (h : Underway docs plan todo t w) : Underway docs plan todo t w.ask :=
  ⟨h.once, h.matching, h.remaining, h.processed, h.primary, h.total⟩

theorem Underway.touched_labels (h : Underway docs plan todo t w) :
    (w.touched.map Value.label).Nodup :=
  h.once.sublist ((List.sublist_append_left _ _).map Value.label)

/-- No more ids are handled than match. -/
theorem Underway.length_le (hdocs : docs.Identified) (h : Underway docs plan todo t w) :
    t.processed + todo.length ≤ t.total := by
  have hle := hdocs.length_le_count h.once h.matching
  rw [List.length_append] at hle
  rw [h.processed, h.total]
  exact hle

/-- The progress line does not change the total. -/
theorem Underway.settle (hdocs : docs.Identified) (h : Underway docs plan todo t w) :
    Underway docs plan todo t.settle w := by
  have hle := h.length_le hdocs
  refine h.of_counts rfl rfl ?_
  exact Nat.max_eq_left (Nat.le_trans (Nat.le_add_right _ _) hle)

/-- As many documents will be gone as ids were and will be handled. -/
theorem Underway.length_without (hdocs : docs.Identified) (h : Underway docs plan todo t w) :
    (docs.without (w.touched ++ todo)).length + (t.processed + todo.length) = docs.length := by
  have hlength := hdocs.without_length h.once h.matching
  rw [List.length_append] at hlength
  rw [h.processed]
  exact hlength

/-- As many documents are gone as ids are handled. -/
theorem Underway.removed (hdocs : docs.Identified) (h : Underway docs plan todo t w) :
    (w.documents plan.job.target.collection).length + t.processed = docs.length := by
  have hnow := (h.sublist (List.nil_sublist todo)).length_without hdocs
  rw [List.append_nil] at hnow
  rw [h.remaining]
  exact hnow

/-! ## Steps -/

variable {host : Host (StateM σ)} {faults : Nat → Option Fault} {audit : AuditLog}
  {batch : List Value}

/-- A batch that is deleted was still to be deleted, and is not any more. -/
theorem Underway.step (hdocs : docs.Identified) (h : Underway docs plan (batch ++ todo) t w) :
    Underway docs plan todo
      ((t.fill batch).succeed ⟨(w.documents plan.job.target.collection).length -
        ((w.documents plan.job.target.collection).delete batch).length, 0⟩)
      (w.hand batch plan.job.target.collection
        ((w.documents plan.job.target.collection).delete batch)) := by
  have hremaining : (w.documents plan.job.target.collection).delete batch =
      docs.without (w.touched ++ batch) := by
    rw [Collection.delete_eq_without, h.remaining, Collection.without_append]
  have hfirst : Underway docs plan batch t w := h.sublist (List.sublist_append_left _ _)
  have hdeleted : (w.documents plan.job.target.collection).length -
      ((w.documents plan.job.target.collection).delete batch).length = batch.length := by
    have hbefore := hfirst.removed hdocs
    have hafter := hfirst.length_without hdocs
    rw [hremaining]
    omega
  have hle := hfirst.length_le hdocs
  constructor
  · rw [Trial.touched_hand, List.append_assoc]
    exact h.once
  · rw [Trial.touched_hand, List.append_assoc]
    exact h.matching
  · rw [Trial.documents_hand, Trial.touched_hand]
    exact hremaining
  · rw [Trial.touched_hand, List.length_append, ← h.processed]
    rfl
  · rw [hdeleted]
    change t.counts.primary + batch.length = t.processed + batch.length
    rw [h.primary]
  · change max t.total (t.processed + batch.length) = docs.count plan.filter
    rw [Nat.max_eq_left hle, h.total]

/-- Batches are deleted one after another until the operator stops the run. -/
theorem Underway.through (hdocs : docs.Identified) {batches : List (List Value)}
    (h : Underway docs plan (batches.flatten ++ todo) t w) :
    LeadsThrough (Trial.bench host faults plan .delete audit) t w batches fun answer t' w' =>
      Underway docs plan todo t' w' ∧
        match answer with
        | .error stop => stop = .cancelled
        | .ok _ => w'.touched = w.touched ++ batches.flatten := by
  induction batches generalizing t w with
  | nil => exact ⟨h, (List.append_nil _).symm⟩
  | cons batch rest ih =>
      rw [List.flatten_cons, List.append_assoc] at h
      refine Trial.leads_batch_delete ?_ ?_
      · refine fun _ => ⟨?_, rfl⟩
        have hend : Underway docs plan todo t w :=
          h.sublist ((List.sublist_append_right _ _).trans (List.sublist_append_right _ _))
        have hfilled : Underway docs plan todo (t.fill batch) w := hend.of_counts rfl rfl rfl
        exact hfilled.settle hdocs
      · refine (ih (h.step hdocs)).mono fun answer t' w' hanswer => ⟨hanswer.1, ?_⟩
        cases answer with
        | error stop => exact hanswer.2
        | ok _ =>
            have htouched := hanswer.2
            rw [Trial.touched_hand, List.append_assoc] at htouched
            exact htouched

/-! ## Passes -/

/-- When a cursor is opened, its ids may be deleted: none of them was deleted before. -/
theorem Underway.opens (hdocs : docs.Identified) (h : Underway docs plan [] t w) :
    Underway docs plan ((w.documents plan.job.target.collection).ids plan.filter) t w := by
  have hpart : List.Sublist (w.documents plan.job.target.collection) docs := by
    rw [h.remaining]
    exact Collection.without_sublist
  refine ⟨?_, ?_, h.remaining, h.processed, h.primary, h.total⟩
  · rw [List.map_append, List.nodup_append]
    refine ⟨h.touched_labels, (hdocs.sublist hpart).ids_nodup, ?_⟩
    -- a document that the cursor still sees has none of the ids that were deleted
    intro label hgone label' hread hsame
    obtain ⟨id, hid, rfl⟩ := List.mem_map.mp hgone
    obtain ⟨own, hown, rfl⟩ := List.mem_map.mp hread
    obtain ⟨d, hd, _, hid'⟩ := Collection.mem_ids.mp hown
    rw [h.remaining] at hd
    refine (Collection.mem_without.mp hd).2 id hid ?_
    rw [Document.label?, hid', hsame]
    rfl
  · intro id hid
    rcases List.mem_append.mp hid with hgone | hread
    · exact h.matching id (List.mem_append_left _ hgone)
    · obtain ⟨d, hd, haccepts, hown⟩ := Collection.mem_ids.mp hread
      exact Collection.mem_ids.mpr ⟨d, hpart.subset hd, haccepts, hown⟩

/-- When all ids of a cursor are deleted, no match is left. -/
theorem Underway.closes (hdocs : docs.Identified) (h : Underway docs plan [] t w)
    {before : Trial} (hbefore : before.documents plan.job.target.collection =
      docs.without before.touched)
    (htouched : w.touched = before.touched ++
      (before.documents plan.job.target.collection).ids plan.filter) :
    w.documents plan.job.target.collection =
      docs.filter fun d => !Filter.accepts d plan.filter := by
  rw [h.remaining]
  refine List.filter_congr fun d hd => ?_
  congr 1
  rw [Bool.eq_iff_iff, List.any_eq_true]
  constructor
  · rintro ⟨id, hid, hlabel⟩
    have hmatch := h.matching id (List.mem_append_left _ hid)
    exact hdocs.accepts_of_label hd hmatch (beq_iff_eq.mp hlabel)
  · intro haccepts
    obtain ⟨own, hown, hlabel⟩ := hdocs.label hd
    rw [htouched]
    -- a match was still there when the cursor was opened, or it was deleted before
    by_cases hleft : d ∈ before.documents plan.job.target.collection
    · have hread := Collection.mem_ids.mpr ⟨d, hleft, haccepts, hown⟩
      exact ⟨own, List.mem_append_right _ hread, beq_iff_eq.mpr hlabel⟩
    · rw [hbefore, Collection.mem_without] at hleft
      push Not at hleft
      obtain ⟨id, hid, hgone⟩ := hleft hd
      exact ⟨id, List.mem_append_left _ hid, beq_iff_eq.mpr hgone⟩

/-! ## Runs -/

/-- The ways in which a run that deletes may end: once ids are given to the store, only a cursor can
make it fail. -/
def MayEnd (w : Trial) : Except BulkError Report → Prop
  | .ok _ | .error (.cursor _ _ _) | .error (.cursorRetriesExhausted _ _ _ _) => True
  | .error (.auditLog _ _) | .error (.signal _) => w.handed = []
  | .error _ => False

/-- What a run that deletes comes to, over a collection that held `docs`. -/
structure Exact (docs : Collection) (plan : Plan) (result : Except BulkError Report) (w : Trial) :
    Prop where
  /-- no id is given to the store twice -/
  once : (w.touched.map Value.label).Nodup
  /-- all of them are ids of documents that matched in the beginning -/
  matching : ∀ id ∈ w.touched, id ∈ docs.ids plan.filter
  /-- their documents are gone, and the others stand as they did -/
  remaining : w.documents plan.job.target.collection = docs.without w.touched
  /-- the result tells how many are gone -/
  removed : ∀ n, processed? result = some n →
    (w.documents plan.job.target.collection).length + n = docs.length
  /-- a complete run leaves no match and has counted all of them -/
  completed : ∀ report, result = .ok report → report.outcome = .completed →
    w.documents plan.job.target.collection = (docs.filter fun d => !Filter.accepts d plan.filter) ∧
      report.total = docs.count plan.filter ∧ report.processed = docs.count plan.filter ∧
      report.counts.primary = docs.count plan.filter
  /-- no batch fails -/
  failed : MayEnd w result

/-- A run may end between two batches, if it tells how many ids were handled. -/
theorem Underway.ends (hdocs : docs.Identified) (h : Underway docs plan [] t w)
    {result : Except BulkError Report}
    (hprocessed : ∀ n, processed? result = some n → n = t.processed)
    (hopen : ∀ report, result = .ok report → report.outcome ≠ .completed)
    (hfailed : MayEnd w result) : Exact docs plan result w where
  once := h.touched_labels
  matching := fun id hid => h.matching id (List.mem_append_left _ hid)
  remaining := h.remaining
  removed := by
    intro n hn
    rw [hprocessed n hn]
    exact h.removed hdocs
  completed := fun report hreport hcompleted => absurd hcompleted (hopen report hreport)
  failed := hfailed

theorem Underway.stops (hdocs : docs.Identified) (h : Underway docs plan [] t w)
    {outcome : Outcome} (hopen : outcome ≠ .completed) (now later : Nat) :
    Exact docs plan (.ok (t.report outcome now later)) w := by
  refine h.ends hdocs (fun n hn => (Option.some.inj hn).symm) (fun report hreport => ?_) trivial
  rw [← Except.ok.inj hreport]
  exact hopen

theorem Underway.cursorFails (hdocs : docs.Identified) (h : Underway docs plan [] t w)
    (attempts tries : Nat) (cause : ConnError) :
    CursorFails attempts tries (fun _ => Underway docs plan []) (Exact docs plan) t cause w := by
  unfold CursorFails
  split
  · split
    · exact h.ends hdocs (fun n hn => (Option.some.inj hn).symm) nofun trivial
    · exact h
  · exact h.ends hdocs (fun n hn => (Option.some.inj hn).symm) nofun trivial

theorem Underway.completed (hdocs : docs.Identified) (h : Underway docs plan [] t w) (now later : Nat)
    (hclosed : w.documents plan.job.target.collection =
      docs.filter fun d => !Filter.accepts d plan.filter) :
    Exact docs plan (.ok (t.finish.report .completed now later)) w := by
  have hall : t.processed = docs.count plan.filter := by
    have hleft := h.removed hdocs
    rw [hclosed] at hleft
    have hsplit : docs.length = docs.count plan.filter + _ :=
      List.length_eq_length_filter_add fun d => Filter.accepts d plan.filter
    omega
  refine ⟨h.touched_labels, fun id hid => h.matching id (List.mem_append_left _ hid),
    h.remaining, ?_, ?_, trivial⟩
  · intro n hn
    have hremoved := h.removed hdocs
    rwa [show t.processed = n from Option.some.inj hn] at hremoved
  · intro report hreport _
    rw [← Except.ok.inj hreport]
    exact ⟨hclosed, (Nat.max_self _).trans h.total, hall, h.primary.trans hall⟩

/-- What one cursor leads to. -/
theorem Underway.pass (hdocs : docs.Identified) (h : Underway docs plan [] t w)
    (attempts tries : Nat) {answer : Except ConnError Cursor}
    (hanswer : Fault.spoil (faults w.opened)
      ⟨(w.documents plan.job.target.collection).ids plan.filter, none⟩ = answer) :
    CursorLeads (Trial.bench host faults plan .delete audit) attempts tries
      (fun _ => Underway docs plan []) (Exact docs plan) t answer w.ask := by
  have hpositive := plan.job.batchLength_pos
  cases answer with
  | error cause =>
      have hasked : Underway docs plan [] t.beginPass w.ask := h.ask.of_counts rfl rfl rfl
      exact hasked.cursorFails hdocs _ _ cause
  | ok cursor =>
      obtain ⟨hids, hall⟩ := Fault.spoil_ids hanswer
      have hread : Underway docs plan cursor.ids t.beginPass.clear w.ask :=
        ((h.opens hdocs).sublist hids).ask.of_counts rfl rfl rfl
      have hopened : Underway docs plan ((cursor.batches plan.job.batchLength).flatten ++ [])
          t.beginPass.clear w.ask := by
        rw [List.append_nil]
        exact hread.sublist (Cursor.batches_sublist hpositive)
      refine (hopened.through hdocs).mono fun answer t' w' hend => ?_
      obtain ⟨hunderway, hend⟩ := hend
      cases answer with
      | error stop =>
          rw [show stop = .cancelled from hend]
          rintro result ⟨now, later, rfl⟩
          exact hunderway.stops hdocs (by decide) now later
      | ok _ =>
          cases hfault : cursor.fault with
          | none =>
              have htouched := hend
              rw [Cursor.batches_flatten hpositive hfault, hall hfault] at htouched
              exact fun now later => hunderway.completed hdocs now later
                (hunderway.closes hdocs h.ask.remaining htouched)
          | some cause =>
              have hleft : Underway docs plan [] (t'.fill (cursor.leftover plan.job.batchLength))
                  w' := hunderway.of_counts rfl rfl rfl
              exact hleft.cursorFails hdocs _ _ cause

/-- A run that deletes gives no id to the store twice, whatever its cursors do and whenever the
operator stops it. -/
theorem run_deletes_once (host : Host (StateM σ)) (faults : Nat → Option Fault) (plan : Plan)
    (settings : RunSettings) (store : Store) (hwet : plan.job.dryRun = false)
    (hdocs : (store.documents plan.job.target.collection).Identified) :
    Yields (plan.run host.withState (Trial.connection faults) .delete settings)
      (Trial.start store) (Exact (store.documents plan.job.target.collection) plan) := by
  have hbegin : ∀ now, Underway (store.documents plan.job.target.collection) plan []
      (.start ((store.documents plan.job.target.collection).count plan.filter) now)
      (Trial.start store) :=
    fun now => ⟨List.nodup_nil, nofun, Collection.without_nil.symm, rfl, rfl, rfl⟩
  refine Trial.yields_run settings hwet (fun hnone => ?_) (fun cause hcause => ?_)
    fun _ audit now => ?_
  · refine (hbegin 0).ends hdocs (fun n hn => (Option.some.inj hn).symm) ?_ trivial
    intro report hreport
    rw [← Except.ok.inj hreport]
    exact nofun
  · cases cause with
    | auditLog path cause => exact (hbegin 0).ends hdocs nofun nofun rfl
    | signal cause => exact (hbegin 0).ends hdocs nofun nofun rfl
    | _ => exact hcause.elim
  · refine Trial.leads_sweep settings.cursorRetry (fun _ => Underway _ plan []) ?_ (hbegin now)
    exact fun i t w _ hunderway answer hanswer => hunderway.pass hdocs _ i hanswer

/-- The first cursor over two documents breaks off after the first id. -/
theorem run_deletes_once_after_break :
    Yields
      (Plan.run ⟨{ target := ⟨"db", "c"⟩, batchSize := 1 }, []⟩ (Rehearsal.host false).withState
        (Trial.connection fun i => if i = 0 then some (.breaks 1 (.network "EOF")) else none)
        .delete {})
      (Trial.start ⟨none, [("c", [[("_id", .null)], [("_id", .minKey)]])]⟩)
      (Exact [[("_id", .null)], [("_id", .minKey)]]
        ⟨{ target := ⟨"db", "c"⟩, batchSize := 1 }, []⟩) :=
  run_deletes_once _ _ _ _ ⟨none, [("c", [[("_id", .null)], [("_id", .minKey)]])]⟩ rfl
    ⟨by decide, by decide⟩

end Deletion

end BulkSweep

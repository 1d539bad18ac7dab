import BulkSweep.Proofs.Store.Trial
import BulkSweep.Proofs.Store.Updates
import BulkSweep.Rehearsal

/-!
# Updates in one pass

A run that updates reads the ids of all matches at once and hands them to the store in batches, and for
each of them the store goes over the whole collection.  If no cursor fails and nobody stops the run,
all this comes to one pass over the collection that updates the matches, whatever the size of a batch.
-/

set_option autoImplicit false

namespace BulkSweep

/-- One pass over a collection that updates the matches of a filter. -/
def Collection.onePass (docs : Collection) (filter operators : Document) :
    Collection × Except ConnError UpdateCounts :=
  docs.updateWhere (Filter.accepts · filter) operators ⟨0, 0⟩

namespace Collection

variable {before after : Collection} {filter operators : Document}

theorem onePass_append_of_ok {counts : UpdateCounts}
    (h : (before.onePass filter operators).2 = .ok counts) :
    (before ++ after).onePass filter operators =
      ((before.onePass filter operators).1 ++ (after.onePass filter operators).1,
        (after.onePass filter operators).2.map fun done =>
          ⟨counts.matched + done.matched, counts.modified + done.modified⟩) := by
  unfold onePass at h ⊢
  rw [updateWhere_append_of_ok (Prod.ext rfl h), updateWhere_counts counts]

theorem onePass_append_of_error {cause : ConnError}
    (h : (before.onePass filter operators).2 = .error cause) :
    (before ++ after).onePass filter operators =
      ((before.onePass filter operators).1 ++ after, .error cause) := by
  unfold onePass at h ⊢
  rw [updateWhere_append_of_error (Prod.ext rfl h)]

end Collection

namespace OnePass

variable {σ : Type} {docs before after : Collection} {plan : Plan} {operators : Document}
  {t : Tally} {w : Trial} {todo : List (List Value)}

/-- The batches of the matches of a collection. -/
def chunks (docs : Collection) (plan : Plan) : List (List Value) :=
  Cursor.batches ⟨docs.ids plan.filter, none⟩ plan.job.batchLength

theorem chunks_flatten : (chunks docs plan).flatten = docs.ids plan.filter :=
  Cursor.batches_flatten plan.job.batchLength_pos rfl

/-! ## What is kept between batches -/

/-- A run over `docs` that has updated the matches in the part `before`, and still has to do the
batches `todo` with those in the part `after`. -/
structure Underway (docs : Collection) (plan : Plan) (operators : Document)
    (before after : Collection) (todo : List (List Value)) (t : Tally) (w : Trial) : Prop where
  /-- the parts make up the collection -/
  whole : docs = before ++ after
  /-- the first part is as one pass leaves it, the second one is untouched -/
  current : w.documents plan.job.target.collection =
    (before.onePass plan.filter operators).1 ++ after
  /-- the pass over the first part goes through, and the counts are its own -/
  counted : (before.onePass plan.filter operators).2 =
    .ok ⟨t.counts.primary, t.counts.secondary⟩
  /-- the ids of the second part are waiting -/
  waiting : after.ids plan.filter = todo.flatten
  /-- batches are done in order -/
  inOrder : chunks docs plan = w.handed ++ todo
  /-- ids are counted -/
  processed : t.processed = w.touched.length
  /-- batches are counted -/
  batches : t.batches = w.handed.length
  /-- the total is the number of matches -/
  total : t.total = docs.count plan.filter
  /-- one cursor was opened -/
  passes : t.passes = 1

/-- The ids of the first part are those that the store was given. -/
theorem Underway.touched (h : Underway docs plan operators before after todo t w) :
    before.ids plan.filter = w.touched := by
  have hids : before.ids plan.filter ++ after.ids plan.filter = w.touched ++ todo.flatten := by
    rw [← Collection.ids_append, ← h.whole, ← chunks_flatten, h.inOrder, List.flatten_append]
    rfl
  rw [h.waiting] at hids
  exact List.append_cancel_right hids

theorem Underway.identified (hdocs : docs.Identified)
    (h : Underway docs plan operators before after todo t w) :
    before.Identified ∧ after.Identified := by
  rw [h.whole] at hdocs
  exact ⟨hdocs.sublist (List.sublist_append_left before after),
    hdocs.sublist (List.sublist_append_right before after)⟩

/-- As many matches are in the first part as ids are counted. -/
theorem Underway.count (hdocs : docs.Identified)
    (h : Underway docs plan operators before after todo t w) :
    before.count plan.filter = t.processed := by
  obtain ⟨hbefore, _⟩ := h.identified hdocs
  rw [h.processed, ← h.touched, hbefore.ids_length]

theorem Underway.length_le (hdocs : docs.Identified)
    (h : Underway docs plan operators before after todo t w) :
    t.processed + todo.flatten.length ≤ t.total := by
  have hall : (chunks docs plan).flatten.length = (docs.ids plan.filter).length :=
    congrArg List.length chunks_flatten
  rw [h.inOrder, List.flatten_append, List.length_append, hdocs.ids_length] at hall
  rw [h.processed, h.total, ← hall]
  exact Nat.le_refl _

/-! ## Steps -/

variable {batch : List Value} {rest : List (List Value)}

/-- The store updates the matches of one batch, in the part of the collection from which their ids
come. -/
theorem Underway.update (hdocs : docs.Identified) (hvalid : Update.validate operators = .ok ())
    (hid : ∀ path ∈ Update.paths operators, Path.Avoids path idField)
    (h : Underway docs plan operators before after (batch :: rest) t w) :
    ∃ part last, after = part ++ last ∧ part.ids plan.filter = batch ∧
      last.ids plan.filter = rest.flatten ∧
      (w.documents plan.job.target.collection).update batch operators =
        ((before.onePass plan.filter operators).1 ++
          ((part.onePass plan.filter operators).1 ++ last),
          (part.onePass plan.filter operators).2) := by
  obtain ⟨part, last, hafter, hpart, hlast⟩ := Collection.ids_eq_append h.waiting
  refine ⟨part, last, hafter, hpart, hlast, ?_⟩
  have hwhole : (before ++ (part ++ last)).Identified := by
    rw [← hafter, ← h.whole]
    exact hdocs
  unfold Collection.update
  rw [hvalid, h.current, hafter, ← hpart]
  exact hwhole.updateSet_ids (Collection.updateWhere_labels hid)

/-- A batch that is done adds its part of the collection to the first one. -/
theorem Underway.step (hdocs : docs.Identified)
    (h : Underway docs plan operators before after (batch :: rest) t w)
    {part last : Collection} (hafter : after = part ++ last) (hlast : last.ids plan.filter = rest.flatten)
    {counts : UpdateCounts} (hcounts : (part.onePass plan.filter operators).2 = .ok counts) :
    Underway docs plan operators (before ++ part) last rest
      ((t.fill batch).succeed ⟨counts.matched, counts.modified⟩)
      (w.hand batch plan.job.target.collection
        ((before.onePass plan.filter operators).1 ++
          ((part.onePass plan.filter operators).1 ++ last))) := by
  have hle := h.length_le hdocs
  rw [List.flatten_cons, List.length_append] at hle
  have hpass : (before ++ part).onePass plan.filter operators = _ :=
    Collection.onePass_append_of_ok h.counted
  constructor
  · rw [h.whole, hafter, List.append_assoc]
  · rw [Trial.documents_hand, hpass, List.append_assoc]
  · rw [hpass, hcounts]
    rfl
  · exact hlast
  · rw [h.inOrder]
    exact (List.append_assoc w.handed [batch] rest).symm
  · rw [Trial.touched_hand, List.length_append, ← h.processed]
    rfl
  · change t.batches + 1 = (w.handed ++ [batch]).length
    rw [List.length_append, h.batches]
    rfl
  · change max t.total (t.processed + batch.length) = docs.count plan.filter
    rw [Nat.max_eq_left (by omega), h.total]
  · exact h.passes

/-- A batch that fails is the one with the first document to which the update cannot be applied. -/
theorem Underway.breaks (hdocs : docs.Identified)
    (h : Underway docs plan operators before after (batch :: rest) t w)
    {part last : Collection} (hafter : after = part ++ last)
    (hpart : part.ids plan.filter = batch) {cause : ConnError}
    (hcause : (part.onePass plan.filter operators).2 = .error cause) :
    docs.onePass plan.filter operators =
        ((before.onePass plan.filter operators).1 ++
          ((part.onePass plan.filter operators).1 ++ last), .error cause) ∧
      docs.viable (Filter.accepts · plan.filter) operators / plan.job.batchLength =
        w.handed.length ∧
      t.processed = w.handed.length * plan.job.batchLength := by
  have hrest : (part ++ last).onePass plan.filter operators = _ :=
    Collection.onePass_append_of_error hcause
  have hfull : t.processed = w.handed.length * plan.job.batchLength := by
    have hbatches := Cursor.batches_full plan.job.batchLength_pos h.inOrder
    rw [h.processed, ← length_flatten_of_full hbatches]
    rfl
  refine ⟨?_, ?_, hfull⟩
  · rw [h.whole, hafter, Collection.onePass_append_of_ok h.counted, hrest]
    rfl
  · have hshort : batch.length ≤ plan.job.batchLength := by
      have hmem : batch ∈ chunks docs plan := by
        rw [h.inOrder]
        exact List.mem_append_right _ List.mem_cons_self
      exact (Cursor.batches_length plan.job.batchLength_pos batch hmem).2
    have hpartial : part.Identified := by
      refine (h.identified hdocs).2.sublist ?_
      rw [hafter]
      exact List.sublist_append_left part last
    have hbroken := Collection.viable_lt hcause
    have hcount : (part.filter (Filter.accepts · plan.filter)).length = batch.length := by
      rw [← hpart, hpartial.ids_length]
      rfl
    have hwhole : docs.viable (Filter.accepts · plan.filter) operators =
        t.processed + part.viable (Filter.accepts · plan.filter) operators := by
      rw [h.whole, hafter, Collection.viable_append_of_ok h.counted,
        Collection.viable_append_of_error hcause, ← h.count hdocs]
      rfl
    -- the failure is in this batch, behind full ones only
    rw [hwhole, hfull]
    refine Nat.div_eq_of_lt_le (Nat.le_add_right _ _) ?_
    rw [Nat.succ_mul]
    omega

/-! ## Runs -/

/-- What a run that updates comes to, over a collection that held `docs`, with `viable` matches before
the first one to which the update cannot be applied. -/
structure Refines (docs : Collection) (plan : Plan) (operators : Document) (viable : Nat)
    (result : Except BulkError Report) (w : Trial) : Prop where
  /-- the matches before the first failure are updated, and nothing else -/
  documents : w.documents plan.job.target.collection =
    docs.updateFirst (Filter.accepts · plan.filter) operators viable
  /-- no batch is done behind the one that fails -/
  handed : w.handed = (chunks docs plan).take (viable / plan.job.batchLength + 1)
  /-- without a failure the run is complete, and its report counts all matches -/
  complete : viable = docs.count plan.filter → ∃ elapsed speed, result = .ok {
    outcome := .completed
    total := docs.count plan.filter
    processed := docs.count plan.filter
    counts := ⟨docs.count plan.filter,
      (docs.find plan.filter).countP (Update.changes operators)⟩
    batches := (docs.count plan.filter + plan.job.batchLength - 1) / plan.job.batchLength
    passes := 1
    elapsed := elapsed
    speed := speed }
  /-- a failure is that of its batch, and counts what the batches before it did -/
  broken : viable < docs.count plan.filter → ∃ d e,
    (docs.find plan.filter)[viable]? = some d ∧ Update.apply operators d = .error e ∧
      result = .error (.batch "bulk-update" (viable / plan.job.batchLength + 1)
        (viable / plan.job.batchLength * plan.job.batchLength) (docs.count plan.filter)
        (Collection.updateError e))

/-- The number of matches before the first one to which the update cannot be applied. -/
def viable (docs : Collection) (plan : Plan) (operators : Document) : Nat :=
  docs.viable (Filter.accepts · plan.filter) operators

theorem Underway.completes (hdocs : docs.Identified)
    (h : Underway docs plan operators before after [] t w) (now later : Nat) :
    Refines docs plan operators (viable docs plan operators)
      (.ok (t.finish.report .completed now later)) w := by
  have hlast : ∀ d ∈ after, Filter.accepts d plan.filter = false :=
    (h.identified hdocs).2.not_accepts_of_ids h.waiting
  have hafter : after.onePass plan.filter operators = (after, .ok ⟨0, 0⟩) :=
    Collection.updateWhere_of_none hlast
  have hpass : docs.onePass plan.filter operators = (w.documents plan.job.target.collection,
      .ok ⟨t.counts.primary, t.counts.secondary⟩) := by
    rw [h.whole, Collection.onePass_append_of_ok h.counted, hafter, h.current]
    rfl
  obtain ⟨hviable, hcounts⟩ := Collection.updateWhere_counted (congrArg Prod.snd hpass)
  rw [Nat.zero_add, Nat.zero_add] at hcounts
  have hall : viable docs plan operators = docs.count plan.filter := hviable
  have hhanded : w.handed = chunks docs plan := by rw [h.inOrder, List.append_nil]
  have hbatches : w.handed.length =
      (docs.count plan.filter + plan.job.batchLength - 1) / plan.job.batchLength := by
    rw [hhanded, ← hdocs.ids_length]
    exact Cursor.batches_count plan.job.batchLength_pos rfl
  have hprocessed : t.processed = docs.count plan.filter := by
    rw [h.processed, Trial.touched, hhanded, chunks_flatten, hdocs.ids_length]
  have hdone : t.counts = ⟨docs.count plan.filter,
      (docs.find plan.filter).countP (Update.changes operators)⟩ := by
    obtain ⟨hprimary, hsecondary⟩ := UpdateCounts.mk.inj hcounts
    exact congrArg₂ BatchCounts.mk hprimary hsecondary
  refine ⟨?_, ?_, fun _ => ?_, fun hlt => ?_⟩
  · exact (congrArg Prod.fst hpass).symm.trans Collection.updateWhere_documents
  · symm
    rw [hhanded, hall]
    refine List.take_of_length_le ?_
    rw [← hhanded, hbatches, ← Nat.add_div_right _ plan.job.batchLength_pos]
    exact Nat.div_le_div_right (Nat.sub_le _ 1)
  · refine ⟨t.finish.tracker.elapsed now, t.finish.tracker.speed later, ?_⟩
    change Except.ok (Report.mk .completed (max t.total t.total) t.processed t.counts t.batches
      t.passes _ _) = _
    rw [Nat.max_self, h.total, hprocessed, hdone, h.batches, hbatches, h.passes]
  · rw [hall] at hlt
    exact absurd hlt (Nat.lt_irrefl _)

theorem Underway.fails (hdocs : docs.Identified)
    (h : Underway docs plan operators before after (batch :: rest) t w)
    {part last : Collection} (hafter : after = part ++ last)
    (hpart : part.ids plan.filter = batch) {cause : ConnError}
    (hcause : (part.onePass plan.filter operators).2 = .error cause) :
    Refines docs plan operators (viable docs plan operators)
      (.error ((t.fill batch).failure .update cause))
      (w.hand batch plan.job.target.collection
        ((before.onePass plan.filter operators).1 ++
          ((part.onePass plan.filter operators).1 ++ last))) := by
  obtain ⟨hpass, hbatch, hfull⟩ := h.breaks hdocs hafter hpart hcause
  have hle := h.length_le hdocs
  have hlt := Collection.viable_lt (congrArg Prod.snd hpass)
  obtain ⟨d, e, hd, happly, herror⟩ := Collection.updateWhere_failed (congrArg Prod.snd hpass)
  have hviable : viable docs plan operators / plan.job.batchLength = w.handed.length := hbatch
  refine ⟨?_, ?_, fun hall => ?_, fun _ => ⟨d, e, hd, happly, ?_⟩⟩
  · rw [Trial.documents_hand]
    exact (congrArg Prod.fst hpass).symm.trans Collection.updateWhere_documents
  · rw [hviable, h.inOrder, List.take_length_add_append]
    rfl
  · exact absurd hlt (by rw [show docs.viable _ _ = _ from hall]; exact Nat.lt_irrefl _)
  · have htotal : max t.total t.processed = t.total := Nat.max_eq_left (by omega)
    rw [hviable, ← hfull, ← herror, ← h.batches, ← h.total, ← htotal]
    rfl

variable {host : Host (StateM σ)} {faults : Nat → Option Fault} {audit : AuditLog}

/-- Batches are updated one after another until one of them fails. -/
theorem Underway.through (hdocs : docs.Identified) (hvalid : Update.validate operators = .ok ())
    (hid : ∀ path ∈ Update.paths operators, Path.Avoids path idField)
    (hquiet : ¬∃ s, (host.interrupted.run s).1 = true)
    (h : Underway docs plan operators before after todo t w) :
    LeadsThrough (Trial.bench host faults plan (.update operators) audit) t w todo
      fun answer t' w' =>
        match answer with
        | .error stop => ∀ result, stop.Ends t' result →
            Refines docs plan operators (viable docs plan operators) result w'
        | .ok _ => ∃ before after, Underway docs plan operators before after [] t' w' := by
  induction todo generalizing before after t w with
  | nil => exact ⟨before, after, h⟩
  | cons batch rest ih =>
      obtain ⟨part, last, hafter, hpart, hlast, hupdate⟩ := h.update hdocs hvalid hid
      refine Trial.leads_batch_update (fun hstop => absurd hstop hquiet) ?_
      intro docs' answer hanswer
      rw [Tally.buffer_fill, hupdate] at hanswer
      obtain ⟨rfl, hpass⟩ := Prod.mk.inj hanswer
      cases answer with
      | error cause =>
          rintro result rfl
          exact h.fails hdocs hafter hpart hpass
      | ok counts => exact ih (h.step hdocs hafter hlast hpass)

/-- A sweep that nothing disturbs comes to one pass. -/
theorem leads_sweep_undisturbed (store : Store) (policy : Retry.Policy) (now : Nat)
    (hdocs : (store.documents plan.job.target.collection).Identified)
    (hvalid : Update.validate operators = .ok ())
    (hid : ∀ path ∈ Update.paths operators, Path.Avoids path idField)
    (hquiet : ¬∃ s, (host.interrupted.run s).1 = true) :
    Leads ((Trial.bench host (fun _ => none) plan (.update operators) audit).sweep policy)
      (.start ((store.documents plan.job.target.collection).count plan.filter) now)
      (Trial.start store) fun result _ w =>
        Refines (store.documents plan.job.target.collection) plan operators
          (viable (store.documents plan.job.target.collection) plan operators) result w := by
  refine Trial.leads_sweep policy
    (fun _ t w => t = .start ((store.documents plan.job.target.collection).count plan.filter) now ∧
      w = Trial.start store) ?_ ⟨rfl, rfl⟩
  rintro i t w hi ⟨rfl, rfl⟩ answer rfl
  have hbegin : Underway (store.documents plan.job.target.collection) plan operators []
      (store.documents plan.job.target.collection)
      (chunks (store.documents plan.job.target.collection) plan)
      (Tally.start ((store.documents plan.job.target.collection).count plan.filter)
        now).beginPass.clear (Trial.start store).ask :=
    ⟨rfl, rfl, rfl, chunks_flatten.symm, rfl, rfl, rfl, rfl, rfl⟩
  refine (hbegin.through hdocs hvalid hid hquiet).mono fun answer t' w' hend => ?_
  cases answer with
  | error stop => exact hend
  | ok _ =>
      obtain ⟨before, after, hunderway⟩ := hend
      exact hunderway.completes hdocs

/-- A run that updates, that nothing disturbs and that finds matches comes to one pass over the
collection, whatever the size of its batches. -/
theorem run_updates_in_one_pass (host : Host (StateM σ)) (plan : Plan) (settings : RunSettings)
    (operators : Document) (store : Store) (hwet : plan.job.dryRun = false)
    (hhost : host.Undisturbed plan settings)
    (hdocs : (store.documents plan.job.target.collection).Identified)
    (hsome : 0 < (store.documents plan.job.target.collection).count plan.filter)
    (hvalid : Update.validate operators = .ok ())
    (hid : ∀ path ∈ Update.paths operators, Path.Avoids path idField) :
    Yields
      (plan.run host.withState (Trial.connection fun _ => none) (.update operators) settings)
      (Trial.start store)
      (Refines (store.documents plan.job.target.collection) plan operators
        (viable (store.documents plan.job.target.collection) plan operators)) := by
  refine Trial.yields_run settings hwet (fun hnone => ?_) (fun cause hcause => ?_) ?_
  · exact absurd hnone (Nat.ne_of_gt hsome)
  · exact absurd hcause (hhost.not_refused cause)
  · intro _ audit now
    exact leads_sweep_undisturbed store settings.cursorRetry now hdocs hvalid hid
      hhost.not_interrupted

/-- Two documents get a field, one document a batch. -/
theorem run_updates_in_one_pass_of_two :
    Yields
      (Plan.run ⟨{ target := ⟨"db", "c"⟩, batchSize := 1 }, []⟩
        ({ Rehearsal.host false with interrupted := return false } :
          Host (StateM Rehearsal)).withState
        (Trial.connection fun _ => none)
        (.update [("$set", .document [("n", .boolean true)])]) {})
      (Trial.start ⟨none, [("c", [[("_id", .null)], [("_id", .minKey)]])]⟩)
      (Refines [[("_id", .null)], [("_id", .minKey)]]
        ⟨{ target := ⟨"db", "c"⟩, batchSize := 1 }, []⟩
        [("$set", .document [("n", .boolean true)])] 2) := by
  refine run_updates_in_one_pass _ ⟨{ target := ⟨"db", "c"⟩, batchSize := 1 }, []⟩ {} _
    ⟨none, [("c", [[("_id", .null)], [("_id", .minKey)]])]⟩ rfl ⟨fun _ => rfl, nofun, ?_⟩
    ⟨by decide, by decide⟩ (by decide) rfl ?_
  · exact fun _ _ => rfl
  · intro path hpath
    rw [List.mem_singleton.mp hpath]
    exact ⟨by decide, by decide⟩

end OnePass

end BulkSweep

import BulkSweep.Proofs.Run.OnePass

/-!
# Updates over cursors that fail

When a cursor fails and is opened again, documents may be updated twice, and documents that were
updated may match the filter no more.  A conflict-free update hides all this: whatever faults a complete
run has met, each document that matched in the beginning is updated as if once, and no other is touched.
-/

set_option autoImplicit false

namespace BulkSweep

/-! ## Related lists -/

section Related

variable {α β γ : Type} {R : α → β → Prop} {S : β → γ → Prop} {T : α → γ → Prop}

theorem forall₂_comp {xs : List α} {ys : List β} {zs : List γ} (hxy : List.Forall₂ R xs ys)
    (hyz : List.Forall₂ S ys zs)
    (h : ∀ x ∈ xs, ∀ y ∈ ys, ∀ z, R x y → S y z → T x z) : List.Forall₂ T xs zs := by
  induction hxy generalizing zs with
  | nil =>
      cases hyz
      exact List.Forall₂.nil
  | @cons x y xs ys hhead htail ih =>
      cases hyz with
      | @cons _ z _ zs hnext hrest =>
          refine List.Forall₂.cons ?_ (ih hrest fun x' hx y' hy => ?_)
          · exact h x List.mem_cons_self y List.mem_cons_self z hhead hnext
          · exact h x' (List.mem_cons_of_mem x hx) y' (List.mem_cons_of_mem y hy)

theorem exists_of_mem_right {xs : List α} {ys : List β} (h : List.Forall₂ R xs ys) {y : β}
    (hy : y ∈ ys) : ∃ x ∈ xs, R x y := by
  induction h with
  | nil => cases hy
  | @cons x y' xs ys hhead htail ih =>
      rcases List.mem_cons.mp hy with rfl | hy
      · exact ⟨x, List.mem_cons_self, hhead⟩
      · obtain ⟨x', hx', hrelated⟩ := ih hy
        exact ⟨x', List.mem_cons_of_mem x hx', hrelated⟩

end Related

namespace Repetition

variable {σ : Type} {docs : Collection} {filter operators : Document} {w : Trial}
  {waits later : Document → Prop}

/-! ## Documents -/

/-- What may have become of a document: it matched and is updated, or it is as it was, and then it must
be waiting if it matched. -/
inductive Becomes (filter operators : Document) (waits : Document → Prop) :
    Document → Document → Prop where
  | updated {d d' : Document} {changed : Bool} (haccepts : Filter.accepts d filter = true)
      (hvalid : Update.validate operators = .ok ())
      (happly : Update.apply operators d = .ok (d', changed)) : Becomes filter operators waits d d'
  | untouched {d : Document} (hwaits : Filter.accepts d filter = true → waits d) :
      Becomes filter operators waits d d

/-- One more update of documents that matched. -/
theorem Becomes.step {d now next : Document} {wanted : Document → Bool}
    (hfree : Update.ConflictFree operators) (hoperators : Document.Proper operators)
    (hproper : d.Proper) (hvalid : Update.validate operators = .ok ())
    (hwanted : wanted d = true → Filter.accepts d filter = true)
    (hlater : waits d → wanted d = true ∨ later d)
    (h : Becomes filter operators waits d now)
    (hstep : if wanted now then ∃ changed, Update.apply operators now = .ok (next, changed)
      else next = now) :
    Becomes filter operators later d next := by
  cases h with
  | updated haccepts _ happly =>
      -- what is updated already is as it was, be it updated again or not
      have hsame : next = now := by
        split at hstep
        · obtain ⟨again, hagain⟩ := hfree.apply_again hoperators hproper happly
          obtain ⟨changed', hnext⟩ := hstep
          rw [hagain] at hnext
          exact (congrArg Prod.fst (Except.ok.inj hnext)).symm
        · exact hstep
      rw [hsame]
      exact .updated haccepts hvalid happly
  | untouched hwaits =>
      split at hstep
      · rename_i hnow
        obtain ⟨changed, happly⟩ := hstep
        exact .updated (hwanted hnow) hvalid happly
      · rename_i hnow
        rw [hstep]
        exact .untouched fun haccepts => (hlater (hwaits haccepts)).resolve_left hnow

/-! ## Collections -/

variable {now next : Collection}

/-- A collection whose documents have become those of another one. -/
def Become (docs : Collection) (filter operators : Document) (waits : Document → Prop)
    (now : Collection) : Prop :=
  List.Forall₂ (Becomes filter operators waits) docs now

theorem become_refl : Become docs filter operators (fun _ => True) docs := by
  induction docs with
  | nil => exact List.Forall₂.nil
  | cons d rest ih => exact List.Forall₂.cons (.untouched fun _ => trivial) ih

theorem Become.mono (h : Become docs filter operators waits now)
    (himp : ∀ d ∈ docs, d ∈ now → Filter.accepts d filter = true → waits d → later d) :
    Become docs filter operators later now := by
  have hnow : List.Forall₂ (fun d d' => d = d') now now := List.forall₂_refl now
  refine forall₂_comp h hnow fun d hd d' hd' same hbecomes hsame => ?_
  rw [← hsame]
  cases hbecomes with
  | updated haccepts hvalid happly => exact .updated haccepts hvalid happly
  | untouched hwaits =>
      exact .untouched fun haccepts => himp d hd hd' haccepts (hwaits haccepts)

/-- The ids of matches are those of documents that matched in the beginning. -/
theorem Become.mem_ids (h : Become docs filter operators waits now)
    (hid : ∀ path ∈ Update.paths operators, Path.Avoids path idField) {id : Value}
    (hmatch : id ∈ now.ids filter) : id ∈ docs.ids filter := by
  obtain ⟨d', hd', haccepts, hown⟩ := Collection.mem_ids.mp hmatch
  obtain ⟨d, hd, hbecomes⟩ := exists_of_mem_right h hd'
  cases hbecomes with
  | updated hbefore _ happly =>
      rw [Update.id?_apply happly hid] at hown
      exact Collection.mem_ids.mpr ⟨d, hd, hbefore, hown⟩
  | untouched _ => exact Collection.mem_ids.mpr ⟨d', hd, haccepts, hown⟩

/-- A batch updates some of the documents that matched, which then do not wait any more. -/
theorem Become.update (hdocs : docs.Identified) (hproper : ∀ d ∈ docs, d.Proper)
    (hfree : Update.ConflictFree operators) (hoperators : Document.Proper operators)
    {batch : List Value} (hbatch : ∀ id ∈ batch, id ∈ docs.ids filter)
    (hlater : ∀ d, waits d → (IdSet.ofIds batch).has d = true ∨ later d)
    (h : Become docs filter operators waits now) {counts : UpdateCounts}
    (hupdate : now.update batch operators = (next, .ok counts)) :
    Become docs filter operators later next := by
  unfold Collection.update at hupdate
  cases hvalid : Update.validate operators with
  | error e =>
      rw [hvalid] at hupdate
      cases hupdate
  | ok _ =>
      rw [hvalid] at hupdate
      rw [Collection.updateSet_eq] at hupdate
      refine forall₂_comp h (Collection.updateWhere_pointwise hupdate) ?_
      intro d hd d' _ d'' hbecomes hstep
      refine hbecomes.step hfree hoperators (hproper d hd) hvalid (fun hhas => ?_) (hlater d) hstep
      obtain ⟨id, hid, hlabel⟩ := IdSet.has_ofIds.mp hhas
      exact hdocs.accepts_of_label hd (hbatch id hid) hlabel

/-- Where no document waits, all is as one pass leaves it. -/
theorem Become.onePass (h : Become docs filter operators (fun _ => False) now) :
    ∃ counts, docs.onePass filter operators = (now, .ok counts) := by
  refine Collection.updateWhere_of_pointwise (List.Forall₂.imp (fun d d' hbecomes => ?_) h)
  cases hbecomes with
  | updated haccepts _ happly =>
      rw [if_pos haccepts]
      exact ⟨_, happly⟩
  | untouched hwaits => rw [if_neg hwaits]

/-- Where no document waits but some matched, the update is a valid one. -/
theorem Become.valid (h : Become docs filter operators (fun _ => False) now)
    (hsome : 0 < docs.count filter) : Update.validate operators = .ok () := by
  obtain ⟨d, hd⟩ := List.exists_mem_of_length_pos hsome
  obtain ⟨hdocs, haccepts⟩ := List.mem_filter.mp hd
  have hflip : List.Forall₂ (fun d' d => Becomes filter operators (fun _ => False) d d') now docs :=
    h.flip
  obtain ⟨d', _, hbecomes⟩ := exists_of_mem_right hflip hdocs
  cases hbecomes with
  | updated _ hvalid _ => exact hvalid
  | untouched hwaits => exact (hwaits haccepts).elim

/-! ## Runs -/

/-- The collections and the updates for which passes can be repeated: documents with ids of their own
and no repeated names, and an update that is conflict-free and leaves ids alone. -/
structure Repeatable (docs : Collection) (operators : Document) : Prop where
  identified : docs.Identified
  proper : ∀ d ∈ docs, d.Proper
  operators_proper : Document.Proper operators
  conflictFree : Update.ConflictFree operators
  avoidsIds : ∀ path ∈ Update.paths operators, Path.Avoids path idField

/-- What is said of the end of a run: if it is complete, no document waits. -/
def Settled (docs : Collection) (plan : Plan) (operators : Document)
    (result : Except BulkError Report) (w : Trial) : Prop :=
  ∀ report, result = .ok report → report.outcome = .completed →
    Become docs plan.filter operators (fun _ => False)
      (w.documents plan.job.target.collection)

variable {plan : Plan} {host : Host (StateM σ)} {faults : Nat → Option Fault} {audit : AuditLog}
  {t : Tally} {todo : List (List Value)}

theorem settled_of_error {cause : BulkError} : Settled docs plan operators (.error cause) w :=
  nofun

theorem settled_of_stopped {report : Report}
    (hopen : report.outcome ≠ .completed) : Settled docs plan operators (.ok report) w := by
  intro report' hreport hcompleted
  rw [← Except.ok.inj hreport] at hcompleted
  exact absurd hcompleted hopen

/-- Batches are updated one after another; what waits at the end, `late`, waited all the time. -/
theorem Become.through (hdocs : Repeatable docs operators) {late : Prop}
    (htodo : ∀ id ∈ todo.flatten, id ∈ docs.ids plan.filter)
    (h : Become docs plan.filter operators
      (fun d => (IdSet.ofIds todo.flatten).has d = true ∨ late)
      (w.documents plan.job.target.collection)) :
    LeadsThrough (Trial.bench host faults plan (.update operators) audit) t w todo
      fun answer t' w' =>
        match answer with
        | .error stop => ∀ result, stop.Ends t' result → Settled docs plan operators result w'
        | .ok _ => Become docs plan.filter operators (fun _ => late)
            (w'.documents plan.job.target.collection) := by
  induction todo generalizing t w with
  | nil =>
      refine h.mono fun d _ _ _ hwaits => ?_
      rcases hwaits with hhas | hlate
      · obtain ⟨id, hnone, _⟩ := IdSet.has_ofIds.mp hhas
        cases hnone
      · exact hlate
  | cons batch rest ih =>
      rw [List.flatten_cons] at htodo h
      refine Trial.leads_batch_update (fun _ => ?_) fun docs' answer hupdate => ?_
      · rintro result ⟨now, later, rfl⟩
        exact settled_of_stopped (show Outcome.cancelled ≠ .completed by decide)
      · cases answer with
        | error cause =>
            rintro result rfl
            exact settled_of_error
        | ok counts =>
            refine ih (fun id hid => htodo id (List.mem_append_right batch hid)) ?_
            rw [Trial.documents_hand]
            refine h.update hdocs.identified hdocs.proper hdocs.conflictFree
              hdocs.operators_proper (fun id hid => htodo id (List.mem_append_left _ hid))
              (fun d hwaits => ?_) hupdate
            rw [IdSet.has_ofIds_append, or_assoc] at hwaits
            exact hwaits

/-- A cursor that ends by itself yields the ids of all documents that wait. -/
theorem Become.opens (hdocs : Repeatable docs operators) {late : Prop} {ids : List Value}
    (hids : late ∨ ids = (w.documents plan.job.target.collection).ids plan.filter)
    (h : Become docs plan.filter operators (fun _ => True)
      (w.documents plan.job.target.collection)) :
    Become docs plan.filter operators (fun d => (IdSet.ofIds ids).has d = true ∨ late)
      (w.documents plan.job.target.collection) := by
  refine h.mono fun d hd hnow haccepts _ => ?_
  rcases hids with hlate | rfl
  · exact .inr hlate
  · obtain ⟨own, hown, hlabel⟩ := hdocs.identified.label hd
    have hmatch := Collection.mem_ids.mpr ⟨d, hnow, haccepts, hown⟩
    exact .inl (IdSet.has_ofIds.mpr ⟨own, hmatch, hlabel⟩)

/-- When a cursor fails, any document may be waiting for the next one. -/
theorem Become.cursorFails (h : Become docs plan.filter operators (fun _ => True)
      (w.documents plan.job.target.collection)) (attempts tries : Nat) (t : Tally)
    (cause : ConnError) :
    CursorFails attempts tries (fun _ _ w => Become docs plan.filter operators (fun _ => True)
      (w.documents plan.job.target.collection)) (Settled docs plan operators) t cause w := by
  unfold CursorFails
  split
  · split
    · exact settled_of_error
    · exact h
  · exact settled_of_error

/-- What one cursor leads to. -/
theorem Become.pass (hdocs : Repeatable docs operators) (attempts tries : Nat)
    (h : Become docs plan.filter operators (fun _ => True)
      (w.documents plan.job.target.collection)) {answer : Except ConnError Cursor}
    (hanswer : Fault.spoil (faults w.opened)
      ⟨(w.documents plan.job.target.collection).ids plan.filter, none⟩ = answer) :
    CursorLeads (Trial.bench host faults plan (.update operators) audit) attempts tries
      (fun _ _ w => Become docs plan.filter operators (fun _ => True)
        (w.documents plan.job.target.collection))
      (Settled docs plan operators) t answer w.ask := by
  have hpositive := plan.job.batchLength_pos
  cases answer with
  | error cause => exact h.cursorFails _ _ _ cause
  | ok cursor =>
      obtain ⟨hids, hall⟩ := Fault.spoil_ids hanswer
      have htodo : ∀ id ∈ (cursor.batches plan.job.batchLength).flatten,
          id ∈ docs.ids plan.filter := fun id hid =>
        h.mem_ids hdocs.avoidsIds (hids.subset ((Cursor.batches_sublist hpositive).subset hid))
      -- after a fault any document may wait, so it does not matter which ids were not read
      have hread : cursor.fault.isSome = true ∨
          (cursor.batches plan.job.batchLength).flatten =
            (w.documents plan.job.target.collection).ids plan.filter := by
        cases hfault : cursor.fault with
        | none => exact .inr ((Cursor.batches_flatten hpositive hfault).trans (hall hfault))
        | some cause => exact .inl rfl
      have hopened : Become docs plan.filter operators _
          (w.ask.documents plan.job.target.collection) := h.opens hdocs hread
      refine (hopened.through hdocs htodo).mono fun answer t' w' hend => ?_
      cases answer with
      | error stop => exact hend
      | ok _ =>
          dsimp only at hend
          cases hfault : cursor.fault with
          | none =>
              intro now later report _ _
              rw [hfault] at hend
              exact hend.mono fun _ _ _ _ hlate => Bool.false_ne_true hlate
          | some cause =>
              have hagain : Become docs plan.filter operators (fun _ => True)
                  (w'.documents plan.job.target.collection) := hend.mono fun _ _ _ _ _ => trivial
              exact hagain.cursorFails _ _ _ cause

theorem leads_sweep_settled (hdocs : Repeatable docs operators) (policy : Retry.Policy)
    (h : Become docs plan.filter operators (fun _ => True)
      (w.documents plan.job.target.collection)) :
    Leads ((Trial.bench host faults plan (.update operators) audit).sweep policy) t w
      fun result _ w' => Settled docs plan operators result w' := by
  refine Trial.leads_sweep policy
    (fun _ _ w => Become docs plan.filter operators (fun _ => True)
      (w.documents plan.job.target.collection)) ?_ h
  intro i t w _ hbecome answer hanswer
  exact hbecome.pass hdocs _ i hanswer

/-- A run that was not stopped and did not fail. -/
def Completed (result : Except BulkError Report) : Prop :=
  ∃ report, result = .ok report ∧ report.outcome = .completed

/-- A run whose documents do not wait any more leaves what an undisturbed run leaves. -/
theorem Become.same_as_undisturbed {σ' : Type} {host' : Host (StateM σ')}
    {settings : RunSettings} {store : Store} (hwet : plan.job.dryRun = false)
    (hhost : host'.Undisturbed plan settings)
    (hdocs : Repeatable (store.documents plan.job.target.collection) operators)
    (hsome : (store.documents plan.job.target.collection).count plan.filter ≠ 0)
    (h : Become (store.documents plan.job.target.collection) plan.filter operators
      (fun _ => False) now) :
    Yields
      (plan.run host'.withState (Trial.connection fun _ => none) (.update operators) settings)
      (Trial.start store) fun result w =>
        Completed result ∧ w.documents plan.job.target.collection = now := by
  have hvalid := h.valid (Nat.pos_of_ne_zero hsome)
  obtain ⟨counts, hpass⟩ := h.onePass
  have hviable := (Collection.updateWhere_counted (congrArg Prod.snd hpass)).1
  refine Trial.yields_run settings hwet (fun hnone => absurd hnone hsome)
    (fun cause hcause => absurd hcause (hhost.not_refused cause)) fun _ audit clock => ?_
  refine (OnePass.leads_sweep_undisturbed store settings.cursorRetry clock hdocs.identified hvalid
    hdocs.avoidsIds hhost.not_interrupted).mono fun result _ w' hrefines => ?_
  refine ⟨?_, ?_⟩
  · obtain ⟨elapsed, speed, rfl⟩ := hrefines.complete hviable
    exact ⟨_, rfl, rfl⟩
  · rw [hrefines.documents]
    exact Collection.updateWhere_documents.symm.trans (congrArg Prod.fst hpass)

/-- A complete run leaves the same documents whatever faults its cursors had. -/
theorem run_despite_faults {σ' : Type} (host : Host (StateM σ)) (host' : Host (StateM σ'))
    (faults : Nat → Option Fault) (plan : Plan) (settings settings' : RunSettings)
    (operators : Document) (store : Store) (hwet : plan.job.dryRun = false)
    (hhost : host'.Undisturbed plan settings')
    (hdocs : Repeatable (store.documents plan.job.target.collection) operators) :
    Yields (plan.run host.withState (Trial.connection faults) (.update operators) settings)
      (Trial.start store) fun result w => Completed result →
        Yields
          (plan.run host'.withState (Trial.connection fun _ => none) (.update operators) settings')
          (Trial.start store) fun result' w' => Completed result' ∧
            w'.documents plan.job.target.collection =
              w.documents plan.job.target.collection := by
  refine Trial.yields_run settings hwet (fun _ => ?_) (fun cause _ => ?_) ?_
  · rintro ⟨report, hreport, hcompleted⟩
    rw [← Except.ok.inj hreport] at hcompleted
    cases hcompleted
  · rintro ⟨report, hreport, _⟩
    cases hreport
  · intro hsome audit now
    refine (leads_sweep_settled hdocs settings.cursorRetry become_refl).mono ?_
    rintro result _ w hsettled ⟨report, hreport, hcompleted⟩
    exact (hsettled report hreport hcompleted).same_as_undisturbed hwet hhost hdocs hsome

/-- A cursor over one document breaks off behind it; the update makes the document match no more. -/
theorem run_despite_faults_of_break :
    Yields
      (Plan.run ⟨{ target := ⟨"db", "c"⟩, batchSize := 1 },
          [("n", .document [("$exists", .boolean false)])]⟩
        (Rehearsal.host false).withState
        (Trial.connection fun i => if i = 0 then some (.breaks 1 (.network "EOF")) else none)
        (.update [("$set", .document [("n", .boolean true)])]) {})
      (Trial.start ⟨none, [("c", [[("_id", .null)]])]⟩) fun result w => Completed result →
        Yields
          (Plan.run ⟨{ target := ⟨"db", "c"⟩, batchSize := 1 },
              [("n", .document [("$exists", .boolean false)])]⟩
            ({ Rehearsal.host false with interrupted := return false } :
              Host (StateM Rehearsal)).withState
            (Trial.connection fun _ => none)
            (.update [("$set", .document [("n", .boolean true)])]) {})
          (Trial.start ⟨none, [("c", [[("_id", .null)]])]⟩) fun result' w' =>
            Completed result' ∧ w'.documents "c" = w.documents "c" := by
  refine run_despite_faults (Rehearsal.host false)
    { Rehearsal.host false with interrupted := return false } _
    ⟨{ target := ⟨"db", "c"⟩, batchSize := 1 },
      [("n", .document [("$exists", .boolean false)])]⟩ {} {} _
    ⟨none, [("c", [[("_id", .null)]])]⟩ rfl ⟨fun _ => rfl, nofun, fun _ _ => rfl⟩
    ⟨⟨by decide, by decide⟩, ?_, ?_, ⟨?_, ?_⟩, ?_⟩
  · intro d hd
    rw [List.mem_singleton.mp hd]
    exact Document.proper_mk (by decide) ⟨trivial, trivial⟩
  · exact Document.proper_mk (by decide)
      ⟨Document.proper_mk (by decide) ⟨trivial, trivial⟩, trivial⟩
  · intro entry hentry
    rw [List.mem_singleton.mp hentry]
    exact ⟨.inl rfl, _, rfl⟩
  · exact List.pairwise_singleton _ _
  · intro path hpath
    rw [List.mem_singleton.mp hpath]
    exact ⟨by decide, by decide⟩

end Repetition

end BulkSweep

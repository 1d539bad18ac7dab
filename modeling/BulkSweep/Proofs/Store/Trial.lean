import BulkSweep.Proofs.Run.Sweeps
import BulkSweep.Proofs.Store.Identity
import BulkSweep.Store

/-!
# Stores on trial

A store never fails by itself.  On trial it is one whose cursors fail as a schedule has it: the opening
of a cursor may be refused, and a cursor may break off after any number of ids.  All else a store on
trial does as the store does, and the ids that it is given are written down, call by call.
-/

set_option autoImplicit false

namespace BulkSweep

/-! ## Faults -/

/-- How a cursor fails. -/
inductive Fault where
  /-- it is not opened -/
  | refuses (cause : ConnError)
  /-- it breaks off after some ids -/
  | breaks (after : Nat) (cause : ConnError)
  deriving DecidableEq, Repr

/-- What becomes of a cursor. -/
def Fault.spoil (fault : Option Fault) (cursor : Cursor) : Except ConnError Cursor :=
  match fault with
  | none => .ok cursor
  | some (.refuses cause) => .error cause
  | some (.breaks after cause) => .ok ⟨cursor.ids.take after, some cause⟩

/-! ## Stores -/

/-- A store on trial. -/
structure Trial where
  /-- the store -/
  store : Store
  /-- how many cursors it was asked for -/
  opened : Nat
  /-- the ids that it was given to delete or to update, call by call -/
  handed : List (List Value)

/-! ## Hosts -/

/-- A host that does not keep a run from its end: the operator never asks to stop, and the file for
events and the word of interrupts are there if they are wanted. -/
structure Host.Undisturbed {σ : Type} (host : Host (StateM σ)) (plan : Plan)
    (settings : RunSettings) : Prop where
  /-- the operator never asks to stop -/
  quiet : ∀ s, (host.interrupted.run s).1 = false
  /-- the file for events can be opened -/
  opens : ∀ path, plan.job.auditLog = some path →
    ∀ s, ((host.files.append path "").run s).1 = .ok ()
  /-- interrupts can be listened for -/
  hears : settings.listens = true → ∀ s, (host.listen.run s).1 = .ok ()

theorem Host.Undisturbed.not_interrupted {σ : Type} {host : Host (StateM σ)} {plan : Plan}
    {settings : RunSettings} (h : host.Undisturbed plan settings) :
    ¬∃ s, (host.interrupted.run s).1 = true := by
  rintro ⟨s, hs⟩
  rw [h.quiet s] at hs
  cases hs

theorem Host.Undisturbed.not_refused {σ W : Type} {host : Host (StateM σ)} {plan : Plan}
    {settings : RunSettings} (h : host.Undisturbed plan settings) (cause : BulkError) :
    ¬plan.Refused (host.withState : Host (StateT W (StateM σ))) settings cause := by
  intro hrefused
  cases cause with
  | auditLog path cause =>
      obtain ⟨hpath, w, s, hs⟩ := hrefused
      have hopens := (h.opens path hpath s).symm.trans hs
      cases hopens
  | signal cause =>
      obtain ⟨hlistens, w, s, hs⟩ := hrefused
      have hhears := (h.hears hlistens s).symm.trans hs
      cases hhears
  | _ => exact hrefused

namespace Trial

/-- A store before its trial. -/
def start (store : Store) : Trial :=
  ⟨store, 0, []⟩

/-- All ids that it was given. -/
def touched (w : Trial) : List Value :=
  w.handed.flatten

/-- A cursor is asked for. -/
def ask (w : Trial) : Trial :=
  { w with opened := w.opened + 1 }

/-- Ids are given, and a collection has other documents after that. -/
def hand (w : Trial) (ids : List Value) (name : String) (docs : Collection) : Trial :=
  { w with store := w.store.setDocuments name docs, handed := w.handed ++ [ids] }

/-- The documents of a collection. -/
def documents (w : Trial) (name : String) : Collection :=
  w.store.documents name

@[simp] theorem documents_hand (w : Trial) (ids : List Value) (name : String)
    (docs : Collection) : (w.hand ids name docs).documents name = docs :=
  w.store.documents_setDocuments_self name docs

@[simp] theorem touched_hand (w : Trial) (ids : List Value) (name : String)
    (docs : Collection) : (w.hand ids name docs).touched = w.touched ++ ids := by
  simp [touched, hand]

/-! ## Connections -/

variable {m : Type → Type} [Monad m]

/-- What a store does, done by the store on trial. -/
def onStore {α : Type} (act : StateT Store m α) : StateT Trial m α := fun w => do
  let (answer, store) ← act.run w.store
  return (answer, { w with store := store })

/-- A store on trial as a connection. -/
def connection (faults : Nat → Option Fault) : Connection (StateT Trial m) where
  count := fun target filter => onStore (Store.connection.count target filter)
  openCursor := fun target filter => do
    let w ← get
    set w.ask
    let answer ← onStore (Store.connection.openCursor target filter)
    return answer.bind (Fault.spoil (faults w.opened))
  deleteByIds := fun target ids => do
    modify fun w => { w with handed := w.handed ++ [ids] }
    onStore (Store.connection.deleteByIds target ids)
  updateByIds := fun target ids operators => do
    modify fun w => { w with handed := w.handed ++ [ids] }
    onStore (Store.connection.updateByIds target ids operators)

/-! ## What its operations lead to -/

variable {σ : Type} {faults : Nat → Option Fault} {w : Trial} {target : Namespace}
  {filter : Document} {ids : List Value}

theorem yields_count {post : Except ConnError Nat → Trial → Prop}
    (h : post (.ok ((w.documents target.collection).count filter)) w) :
    Yields ((connection faults : Connection (StateT Trial (StateM σ))).count target filter) w
      post :=
  fun _ => h

theorem yields_openCursor {post : Except ConnError Cursor → Trial → Prop}
    (h : post (Fault.spoil (faults w.opened) ⟨(w.documents target.collection).ids filter, none⟩)
      w.ask) :
    Yields ((connection faults : Connection (StateT Trial (StateM σ))).openCursor target filter) w
      post :=
  fun _ => h

theorem yields_deleteByIds {post : Except ConnError Nat → Trial → Prop}
    (h : post (.ok ((w.documents target.collection).length -
        ((w.documents target.collection).delete ids).length))
      (w.hand ids target.collection ((w.documents target.collection).delete ids))) :
    Yields ((connection faults : Connection (StateT Trial (StateM σ))).deleteByIds target ids) w
      post :=
  fun _ => h

theorem yields_updateByIds {operators : Document}
    {post : Except ConnError UpdateCounts → Trial → Prop}
    (h : post ((w.documents target.collection).update ids operators).2
      (w.hand ids target.collection ((w.documents target.collection).update ids operators).1)) :
    Yields ((connection faults : Connection (StateT Trial (StateM σ))).updateByIds target ids
      operators) w post :=
  fun _ => h

/-! ## Runs over it -/

/-- What a run over a store on trial works with.  The host knows nothing of the trial. -/
def bench (host : Host (StateM σ)) (faults : Nat → Option Fault) (plan : Plan) (change : Change)
    (audit : AuditLog) : Bench (StateT Trial (StateM σ)) :=
  ⟨host.withState, connection faults, plan, change, audit⟩

variable {host : Host (StateM σ)} {plan : Plan} {audit : AuditLog}

theorem standsBy_bench {change : Change} :
    (bench host faults plan change audit).host.StandsBy :=
  Host.standsBy_withState host

theorem yields_apply_delete {post : Except ConnError BatchCounts → Trial → Prop}
    (h : post (.ok ⟨(w.documents plan.job.target.collection).length -
        ((w.documents plan.job.target.collection).delete ids).length, 0⟩)
      (w.hand ids plan.job.target.collection
        ((w.documents plan.job.target.collection).delete ids))) :
    Yields ((bench host faults plan .delete audit).apply ids) w post :=
  yields_bind (yields_deleteByIds (yields_pure h))

theorem yields_apply_update {operators : Document} {post : Except ConnError BatchCounts → Trial → Prop}
    (h : post
      (((w.documents plan.job.target.collection).update ids operators).2.map fun counts =>
        ⟨counts.matched, counts.modified⟩)
      (w.hand ids plan.job.target.collection
        ((w.documents plan.job.target.collection).update ids operators).1)) :
    Yields ((bench host faults plan (.update operators) audit).apply ids) w post :=
  yields_bind (yields_updateByIds (yields_pure h))

/-- A batch of deletions is stopped by the operator, or done. -/
theorem leads_batch_delete {t : Tally} {post : Except Stop Unit → Tally → Trial → Prop}
    (hstop : (∃ s, (host.interrupted.run s).1 = true) → post (.error .cancelled) t.settle w)
    (hdone : post (.ok ())
      (t.succeed ⟨(w.documents plan.job.target.collection).length -
        ((w.documents plan.job.target.collection).delete t.buffer.toList).length, 0⟩)
      (w.hand t.buffer.toList plan.job.target.collection
        ((w.documents plan.job.target.collection).delete t.buffer.toList))) :
    Leads (bench host faults plan .delete audit).batch t w post := by
  refine leads_batch standsBy_bench ?_
  refine Bystander.yields_answer (bystander_lift host.interrupted) fun stopped hstopped => ?_
  cases stopped with
  | true => exact hstop hstopped
  | false =>
      rw [if_neg Bool.false_ne_true]
      exact yields_apply_delete hdone

/-- A batch of updates is stopped by the operator, or ends as the update of its documents does. -/
theorem leads_batch_update {operators : Document} {t : Tally}
    {post : Except Stop Unit → Tally → Trial → Prop}
    (hstop : (∃ s, (host.interrupted.run s).1 = true) → post (.error .cancelled) t.settle w)
    (hupdate : ∀ docs answer, (w.documents plan.job.target.collection).update t.buffer.toList
        operators = (docs, answer) →
      match answer with
      | .error cause => post (.error (.failed (t.failure .update cause))) t.beginBatch.settle
          (w.hand t.buffer.toList plan.job.target.collection docs)
      | .ok counts => post (.ok ()) (t.succeed ⟨counts.matched, counts.modified⟩)
          (w.hand t.buffer.toList plan.job.target.collection docs)) :
    Leads (bench host faults plan (.update operators) audit).batch t w post := by
  refine leads_batch standsBy_bench ?_
  refine Bystander.yields_answer (bystander_lift host.interrupted) fun stopped hstopped => ?_
  cases stopped with
  | true => exact hstop hstopped
  | false =>
      rw [if_neg Bool.false_ne_true]
      refine yields_apply_update ?_
      cases hresult : (w.documents plan.job.target.collection).update t.buffer.toList operators with
      | mk docs answer =>
          have hanswer := hupdate docs answer hresult
          cases answer with
          | error cause => exact hanswer
          | ok counts => exact hanswer

/-- A sweep over a store on trial reads the ids of the matches of each moment, as far as the faults
let it. -/
theorem leads_sweep {change : Change} {post : Except BulkError Report → Trial → Prop}
    (policy : Retry.Policy) (Inv : Nat → Tally → Trial → Prop)
    (hpass : ∀ i t w, i < policy.attempts → Inv i t w → ∀ answer,
      Fault.spoil (faults w.opened)
        ⟨(w.documents plan.job.target.collection).ids plan.filter, none⟩ = answer →
      CursorLeads (bench host faults plan change audit) policy.attempts i Inv post t answer w.ask)
    {t : Tally} (h : Inv 0 t w) :
    Leads ((bench host faults plan change audit).sweep policy) t w fun result _ w' =>
      post result w' := by
  refine BulkSweep.leads_sweep standsBy_bench policy Inv ?_ h
  intro i t w hi hinv
  exact yields_openCursor (hpass i t w hi hinv _ rfl)

/-- A run over a store on trial counts the matches once. -/
theorem yields_run {change : Change} (settings : RunSettings) (hwet : plan.job.dryRun = false)
    {post : Except BulkError Report → Trial → Prop}
    (hidle : (w.documents plan.job.target.collection).count plan.filter = 0 →
      post (.ok (.idle .nothingToDo 0)) w)
    (hrefused : ∀ cause,
      plan.Refused (host.withState : Host (StateT Trial (StateM σ))) settings cause →
        post (.error cause) w)
    (hsweep : (w.documents plan.job.target.collection).count plan.filter ≠ 0 → ∀ audit now,
      Leads ((bench host faults plan change audit).sweep settings.cursorRetry)
        (.start ((w.documents plan.job.target.collection).count plan.filter) now) w
        fun result _ w' => post result w') :
    Yields (plan.run host.withState (connection faults) change settings) w post := by
  have hhost : (host.withState : Host (StateT Trial (StateM σ))).StandsBy :=
    Host.standsBy_withState host
  refine BulkSweep.yields_run plan settings hhost ?_
  refine yields_countMatches hhost settings.countRetry (fun w' => w' = w) ?_ rfl
  intro w' hsame
  rw [hsame]
  refine yields_count ⟨hidle, fun hdry => ?_, fun hsome _ => ⟨hrefused, hsweep hsome⟩⟩
  rw [hwet] at hdry
  cases hdry

end Trial

/-- What a pass over a cursor that fails or not comes to. -/
theorem Fault.spoil_ids {fault : Option Fault} {ids : List Value} {cursor : Cursor}
    (h : Fault.spoil fault ⟨ids, none⟩ = .ok cursor) :
    List.Sublist cursor.ids ids ∧ (cursor.fault = none → cursor.ids = ids) := by
  cases fault with
  | none =>
      cases h
      exact ⟨List.Sublist.refl _, fun _ => rfl⟩
  | some fault =>
      cases fault with
      | refuses cause => cases h
      | breaks after cause =>
          cases h
          exact ⟨List.take_sublist _ _, nofun⟩

end BulkSweep

import BulkSweep.Proofs.Run.Sweeps
import BulkSweep.Proofs.Run.Transcript

/-!
# Endings

Counting and reading are tried as long as they end in errors that may pass, and as often as their
policies allow; the last try decides (`Tried`).  A pass is read off its calls: the cursor that was opened
and the batches that were handed on tell whether it was finished, stopped, or ended by an error, and by
which one (`Pass.ending`).  A sweep is such passes, and the last one shows in its result
(`leads_sweep_recorded`).
-/

set_option autoImplicit false

namespace BulkSweep

/-! ## Tries -/

/-- Tries of which each but the last may pass: no more than are allowed, and no fewer unless the last
one does not pass. -/
structure Tried {α : Type} (attempts : Nat) (Passing : α → Prop) (tries : List α) (last : α) :
    Prop where
  /-- the last one is there -/
  ends : tries.getLast? = some last
  /-- those before it call for another one -/
  again : ∀ try' ∈ tries.dropLast, Passing try'
  /-- there are not too many -/
  bounded : tries.length ≤ attempts
  /-- it is not given up too early -/
  all : Passing last → tries.length = attempts

theorem tried_of_append {α : Type} {attempts : Nat} {Passing : α → Prop} {before : List α} (last : α)
    (hbefore : ∀ try' ∈ before, Passing try') (hlength : before.length < attempts)
    (hlast : Passing last → before.length + 1 = attempts) :
    Tried attempts Passing (before ++ [last]) last := by
  refine ⟨List.getLast?_concat, ?_, ?_, ?_⟩
  · rw [List.dropLast_concat]
    exact hbefore
  · rw [List.length_append]
    exact hlength
  · rw [List.length_append]
    exact hlast

/-- An error that may pass. -/
def PassingError {α : Type} (answer : Except ConnError α) : Prop :=
  ∃ cause, answer = .error cause ∧ cause.isRetryable = true

/-! ## Passes -/

/-- The calls of a pass. -/
inductive Pass where
  /-- no cursor was opened -/
  | refused (cause : ConnError)
  /-- a cursor was opened and batches were done, and after them one failed perhaps -/
  | read (cursor : Cursor) (done : List (List Value × BatchCounts))
    (failed : Option (List Value × ConnError))

/-- How a pass ended. -/
inductive Ending where
  /-- all batches are done, and the cursor ended by itself -/
  | finished
  /-- the cursor was not opened, or ended by an error when all its batches were done -/
  | broken (cause : ConnError)
  /-- a batch failed -/
  | failed (cause : ConnError)
  /-- there were more batches, but none was begun -/
  | stopped
  deriving DecidableEq, Repr

namespace Pass

/-- The calls of a pass as they are written down. -/
def events : Pass → List Event
  | refused cause => [.opened (.error cause)]
  | read cursor done failed =>
    .opened (.ok cursor) :: done.map (fun batch => .handed batch.1 (.ok batch.2))
      ++ (failed.map fun batch => .handed batch.1 (.error batch.2)).toList

/-- How a pass ended, with batches of the given size. -/
def ending (size : Nat) : Pass → Ending
  | refused cause => .broken cause
  | read _ _ (some (_, cause)) => .failed cause
  | read cursor done none =>
    if done.length < (cursor.batches size).length then .stopped
    else
      match cursor.fault with
      | some cause => .broken cause
      | none => .finished

/-- A pass that ended in an error of its cursor that may pass. -/
def Passing (size : Nat) (p : Pass) : Prop :=
  ∃ cause, p.ending size = .broken cause ∧ cause.isRetryable = true

end Pass

/-- The results that follow from the ending of the last pass. -/
inductive Ending.Shows (attempts : Nat) : Ending → Except BulkError Report → Prop where
  | finished {report : Report} (completed : report.outcome = .completed) :
      Shows attempts .finished (.ok report)
  | stopped {report : Report} (cancelled : report.outcome = .cancelled) :
      Shows attempts .stopped (.ok report)
  | failed {cause : ConnError} {label : String} {number processed total : Nat} :
      Shows attempts (.failed cause) (.error (.batch label number processed total cause))
  | passing {cause : ConnError} {processed total : Nat} (passes : cause.isRetryable = true) :
      Shows attempts (.broken cause)
        (.error (.cursorRetriesExhausted attempts processed total cause))
  | fatal {cause : ConnError} {processed total : Nat} (stays : cause.isRetryable = false) :
      Shows attempts (.broken cause) (.error (.cursor processed total cause))

/-- What a run comes to once it opens cursors: its last pass decides. -/
def Swept (attempts size : Nat) (passes : List Pass) (result : Except BulkError Report) : Prop :=
  ∃ last, Tried attempts (Pass.Passing size) passes last ∧ (last.ending size).Shows attempts result

/-! ## Counts -/

section Counts

variable {σ : Type} {host : Host (StateM σ)} {connection : Connection (StateM σ)} {plan : Plan}

/-- The matches are counted until a count succeeds, fails for good, or none is left. -/
theorem yields_counts (policy : Retry.Policy) :
    Yields (plan.countMatches host.withState connection.recorded policy) [] fun answer events =>
      ∃ counts last, events = counts.map Event.counted ∧
        Tried policy.attempts PassingError counts last ∧
          answer = last.mapError BulkError.count := by
  have hhost := Host.standsBy_withState (W := List Event) host
  refine yields_counting hhost.idles policy
    (fun i events => ∃ counts : List (Except ConnError Nat), events = counts.map Event.counted ∧
      counts.length = i ∧ ∀ answer ∈ counts, PassingError answer) ?_
    ⟨[], rfl, rfl, List.forall_mem_nil _⟩
  rintro i events hi ⟨counts, rfl, hlength, hpassing⟩
  refine yields_recorded_count fun answer => ?_
  have hevents : counts.map Event.counted ++ [.counted answer]
      = (counts ++ [answer]).map Event.counted := by simp
  rw [hevents]
  rw [← hlength] at hi
  cases answer with
  | ok total =>
      refine ⟨_, _, rfl, tried_of_append _ hpassing hi ?_, rfl⟩
      rintro ⟨cause, ⟨⟩, -⟩
  | error cause =>
      dsimp only [CountFails]
      split
      · rename_i hretry
        split
        · rename_i hlast
          rw [← hlength] at hlast
          exact ⟨_, _, rfl, tried_of_append _ hpassing hi fun _ => hlast, rfl⟩
        · have hagain : PassingError (Except.error cause : Except ConnError Nat) :=
            ⟨cause, rfl, hretry⟩
          refine ⟨_, rfl, by rw [List.length_append, hlength]; rfl, ?_⟩
          exact List.forall_mem_append.mpr ⟨hpassing, List.forall_mem_singleton.mpr hagain⟩
      · rename_i hfatal
        refine ⟨_, _, rfl, tried_of_append _ hpassing hi ?_, rfl⟩
        rintro ⟨cause', ⟨⟩, hretry⟩
        exact absurd hretry hfatal

end Counts

/-! ## Passes of a sweep -/

/-- What was written down after `base` is so many passes, and all of them call for another one. -/
structure Begun (base : List Event) (size tries : Nat) (passes : List Pass) (events : List Event) :
    Prop where
  /-- the passes are what was written down -/
  events : events = base ++ passes.flatMap Pass.events
  /-- there are so many -/
  length : passes.length = tries
  /-- another one is called for -/
  again : ∀ pass ∈ passes, pass.Passing size

/-- What was written down after `base` is the passes of a sweep with the given result. -/
def Closed (base : List Event) (attempts size : Nat) (result : Except BulkError Report)
    (events : List Event) : Prop :=
  ∃ passes, events = base ++ passes.flatMap Pass.events ∧ Swept attempts size passes result

section Sweeps

variable {base events : List Event} {attempts size tries : Nat} {passes : List Pass} {t : Tally}
  {result : Except BulkError Report}

theorem Begun.events_append (h : Begun base size tries passes events) (pass : Pass) :
    events ++ pass.events = base ++ (passes ++ [pass]).flatMap Pass.events := by
  rw [h.events, List.flatMap_append, List.append_assoc]
  simp

/-- A pass is the last one if it shows the result, unless it calls for another one that is allowed. -/
theorem Begun.closes (h : Begun base size tries passes events) (htries : tries < attempts)
    (last : Pass) (hlast : last.Passing size → tries + 1 = attempts)
    (hshows : (last.ending size).Shows attempts result) :
    Closed base attempts size result (events ++ last.events) := by
  rw [← h.length] at htries hlast
  exact ⟨passes ++ [last], h.events_append last, last, tried_of_append last h.again htries hlast,
    hshows⟩

/-- A pass that is broken calls for another one or decides the result. -/
theorem Begun.breaks (h : Begun base size tries passes events) (htries : tries < attempts)
    (pass : Pass) {cause : ConnError} (hending : pass.ending size = .broken cause) :
    CursorFails attempts tries (fun i _ events => ∃ passes, Begun base size i passes events)
      (Closed base attempts size) t cause (events ++ pass.events) := by
  unfold CursorFails
  split
  · rename_i hretry
    split
    · rename_i hlast
      refine h.closes htries pass (fun _ => hlast) ?_
      rw [hending]
      exact .passing hretry
    · refine ⟨passes ++ [pass], h.events_append pass, ?_, ?_⟩
      · rw [List.length_append, h.length]
        rfl
      · have hpassing : pass.Passing size := ⟨cause, hending, hretry⟩
        exact List.forall_mem_append.mpr ⟨h.again, List.forall_mem_singleton.mpr hpassing⟩
  · rename_i hfatal
    refine h.closes htries pass ?_ ?_
    · rintro ⟨cause', hending', hretry⟩
      rw [hending] at hending'
      cases hending'
      exact absurd hretry hfatal
    · rw [hending]
      exact .fatal (Bool.eq_false_iff.mpr hfatal)

variable {σ : Type} {host : Host (StateM σ)} {connection : Connection (StateM σ)} {plan : Plan}
  {change : Change} {audit : AuditLog}

/-- What a run works with when the calls of its connection are written down. -/
def recordedBench (host : Host (StateM σ)) (connection : Connection (StateM σ)) (plan : Plan)
    (change : Change) (audit : AuditLog) : Bench (StateT (List Event) (StateM σ)) :=
  ⟨host.withState, connection.recorded, plan, change, audit⟩

theorem recordedBench_standsBy : (recordedBench host connection plan change audit).host.StandsBy :=
  Host.standsBy_withState host

theorem Pass.events_done (cursor : Cursor) (done : List (List Value × BatchCounts))
    (ids : List Value) (counts : BatchCounts) :
    (Pass.read cursor done none).events ++ [.handed ids (.ok counts)]
      = (Pass.read cursor (done ++ [(ids, counts)]) none).events := by
  simp [Pass.events]

theorem Pass.events_failed (cursor : Cursor) (done : List (List Value × BatchCounts))
    (ids : List Value) (cause : ConnError) :
    (Pass.read cursor done none).events ++ [.handed ids (.error cause)]
      = (Pass.read cursor done (some (ids, cause))).events := by
  simp [Pass.events]

/-- The batches of a cursor are handed on one after another, until the run is stopped or one of them
fails. -/
theorem Begun.reads (h : Begun base size tries passes events) (htries : tries < attempts)
    {cursor : Cursor} (done : List (List Value × BatchCounts)) {todo : List (List Value)}
    (hbatches : done.map Prod.fst ++ todo = cursor.batches size) :
    LeadsThrough (recordedBench host connection plan change audit) t
      (events ++ (Pass.read cursor done none).events) todo fun answer t' events' =>
        match answer with
        | .error stop => ∀ result, stop.Ends t' result → Closed base attempts size result events'
        | .ok _ => ∃ done, events' = events ++ (Pass.read cursor done none).events ∧
            done.length = (cursor.batches size).length := by
  induction todo generalizing t done with
  | nil =>
      rw [List.append_nil] at hbatches
      exact ⟨done, rfl, by rw [← hbatches, List.length_map]⟩
  | cons ids rest ih =>
      have hshort : done.length < (cursor.batches size).length := by
        rw [← hbatches, List.length_append, List.length_map, List.length_cons]
        omega
      refine leads_batch recordedBench_standsBy ((bystander_lift host.interrupted).yields fun stopped => ?_)
      split
      · rintro result ⟨now, later, rfl⟩
        have hending : (Pass.read cursor done none).ending size = .stopped := if_pos hshort
        refine h.closes htries _ ?_ ?_
        · rintro ⟨cause, hbroken, -⟩
          rw [hending] at hbroken
          cases hbroken
        · rw [hending]
          exact .stopped rfl
      · refine yields_recorded_apply fun answer => ?_
        cases answer with
        | error cause =>
            rintro result rfl
            rw [List.append_assoc, Tally.buffer_fill, Pass.events_failed]
            refine h.closes htries _ ?_ ?_
            · rintro ⟨cause', hbroken, -⟩
              cases hbroken
            · exact .failed
        | ok counts =>
            dsimp only
            rw [List.append_assoc, Tally.buffer_fill, Pass.events_done]
            refine ih _ ?_
            rw [← hbatches]
            simp

/-- A sweep is passes, and the last of them decides its result. -/
theorem leads_sweep_recorded (policy : Retry.Policy) (t : Tally) (base : List Event) :
    Leads ((recordedBench host connection plan change audit).sweep policy) t base
      fun result _ events => Closed base policy.attempts plan.job.batchLength result events := by
  refine leads_sweep recordedBench_standsBy policy
    (fun i _ events => ∃ passes, Begun base plan.job.batchLength i passes events) ?_
    ⟨[], (List.append_nil base).symm, rfl, List.forall_mem_nil _⟩
  rintro i t events hi ⟨passes, hbegun⟩
  refine yields_recorded_open fun answer => ?_
  cases answer with
  | error cause => exact hbegun.breaks hi (.refused cause) rfl
  | ok cursor =>
      refine LeadsThrough.mono (hbegun.reads hi [] rfl) fun answer t' events' hend => ?_
      cases answer with
      | error stop => exact hend
      | ok _ =>
          obtain ⟨done, rfl, hall⟩ := hend
          have hending : (Pass.read cursor done none).ending plan.job.batchLength =
              match cursor.fault with
              | some cause => .broken cause
              | none => .finished :=
            if_neg (by omega)
          cases hfault : cursor.fault with
          | none =>
              rw [hfault] at hending
              intro now later
              refine hbegun.closes hi _ ?_ ?_
              · rintro ⟨cause, hbroken, -⟩
                rw [hending] at hbroken
                cases hbroken
              · rw [hending]
                exact .finished rfl
          | some cause =>
              rw [hfault] at hending
              exact hbegun.breaks hi _ hending

end Sweeps

end BulkSweep

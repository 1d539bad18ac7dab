import BulkSweep.Proofs.Run.Breaking
import BulkSweep.Proofs.Run.Endings
import BulkSweep.Rehearsal

/-!
# Verdicts

How a run ends is decided by its calls (`run_decided`): its counts have their say, then its passes, and
a batch that fails has the last word.  A run that breaks off has made the first ones of such calls.
-/

set_option autoImplicit false

namespace BulkSweep

/-! ## Arms that are never reached -/

/-- How one pass can end: it asks for another one after an error that may pass, and such an error
never ends the run by itself. -/
def PassReaches : Retry.Attempt Unit Stop Stop → Prop
  | .done _ => True
  | .fatal stop => ∀ cause, stop ≠ .transient cause
  | .again stop => ∃ cause, stop = .transient cause

/-- How all passes can end: only after an error that may pass is none left to try, and such an error
never ends the run by itself. -/
def SweepReaches : Except (Retry.Failure Stop Stop) Unit → Prop
  | .ok _ => True
  | .error (.fatal stop) => ∀ cause, stop ≠ .transient cause
  | .error (.exhausted _ stop) => ∃ cause, stop = .transient cause

section Arms

variable {σ W : Type} {b : Bench (StateT W (StateM σ))} {t : Tally} {w : W}

/-- Batches are stopped by the operator or by a failure. -/
theorem leadsThrough_stops (hhost : b.host.StandsBy) (batches : List (List Value)) :
    LeadsThrough b t w batches fun answer _ _ =>
      ∀ stop, answer = .error stop → ∀ cause, stop ≠ .transient cause := by
  induction batches generalizing t w with
  | nil => exact nofun
  | cons ids rest ih =>
      refine leads_batch hhost (yields_any fun stopped w => ?_)
      split
      · rintro _ ⟨⟩ _ ⟨⟩
      · refine yields_any fun answer w => ?_
        cases answer with
        | error cause => rintro _ ⟨⟩ _ ⟨⟩
        | ok counts => exact ih

theorem Tally.fault_reaches (t : Tally) (cause : ConnError) : PassReaches (t.fault cause).1 := by
  unfold Tally.fault
  split
  · exact ⟨cause, rfl⟩
  · rintro _ ⟨⟩

theorem leads_pass_reaches (hhost : b.host.StandsBy) :
    Leads b.pass t w fun answer _ _ => PassReaches answer := by
  refine leads_pass hhost (yields_any fun answer w => ?_)
  cases answer with
  | error cause => exact t.beginPass.fault_reaches cause
  | ok cursor =>
      obtain ⟨ids, fault⟩ := cursor
      refine (leadsThrough_stops hhost _).mono fun answer t' w' hstop => ?_
      cases answer with
      | error stop => exact hstop stop rfl
      | ok _ =>
          cases fault with
          | none => trivial
          | some cause => exact Tally.fault_reaches _ cause

/-- Neither are the tries of a pass over for want of another try after anything but an error that may
pass, nor does such an error end them otherwise. -/
theorem leads_tries_reaches (hhost : b.host.StandsBy) (policy : Retry.Policy) :
    Leads (policy.conditional (b.host.backOff .reopen).withState b.pass) t w
      fun answer _ _ => SweepReaches answer := by
  refine leads_conditional hhost.idles .reopen policy (fun _ _ _ => True) ?_ trivial
  intro i t w hi _
  refine (leads_pass_reaches hhost).mono fun answer t' w' hanswer => ?_
  cases answer with
  | done _ => trivial
  | fatal stop => exact hanswer
  | again stop =>
      dsimp only
      split
      · exact hanswer
      · trivial

end Arms

/-! ## Runs -/

/-- What the counts of a run say about it. -/
structure CountVerdict (attempts : Nat) (counts : List (Except ConnError Nat))
    (result : Except BulkError Report) : Prop where
  /-- there is a count -/
  counted : counts ≠ []
  /-- another one follows only an error that may pass -/
  again : ∀ answer ∈ counts.dropLast, PassingError answer
  /-- there are not too many -/
  bounded : counts.length ≤ attempts
  /-- the run fails for want of a count just if no count succeeded, and with the last error -/
  fails : ∀ cause, result = .error (.count cause) ↔
    (∀ total, .ok total ∉ counts) ∧ counts.getLast? = some (.error cause)

/-- What the passes of a run say about it, with batches of the given size. -/
structure PassVerdict (attempts size : Nat) (passes : List Pass)
    (result : Except BulkError Report) : Prop where
  /-- another one follows only one that ended in an error of its cursor that may pass -/
  again : ∀ pass ∈ passes.dropLast, pass.Passing size
  /-- there are not too many -/
  bounded : passes.length ≤ attempts
  /-- the tries are over just if all of them were made and ended in errors that may pass, and the last
  of these is shown -/
  exhausted : ∀ number cause,
    (∃ processed total, result = .error (.cursorRetriesExhausted number processed total cause)) ↔
      number = attempts ∧ passes.length = attempts ∧ (∀ pass ∈ passes, pass.Passing size) ∧
        passes.getLast?.map (Pass.ending size) = some (.broken cause)
  /-- the cursor ends the run just if the last pass ended in an error of it that does not pass -/
  fatal : ∀ cause, (∃ processed total, result = .error (.cursor processed total cause)) ↔
    cause.isRetryable = false ∧ passes.getLast?.map (Pass.ending size) = some (.broken cause)

/-- A batch that fails is the last thing that is asked of the connection, and the run fails with its
error. -/
def BatchVerdict (events : List Event) (result : Except BulkError Report) : Prop :=
  ∀ before ids cause after, events = before ++ .handed ids (.error cause) :: after →
    after = [] ∧ ∃ label number processed total,
      result = .error (.batch label number processed total cause)

theorem Tried.forall {α : Type} {attempts : Nat} {Passing : α → Prop} {tries : List α} {last : α}
    (h : Tried attempts Passing tries last) {P : α → Prop} :
    (∀ try' ∈ tries, P try') ↔ (∀ try' ∈ tries.dropLast, P try') ∧ P last := by
  obtain ⟨before, rfl⟩ := List.getLast?_eq_some_iff.mp h.ends
  rw [List.dropLast_concat, List.forall_mem_append, List.forall_mem_singleton]

/-- Only the last count can have succeeded. -/
theorem Tried.eq_last {attempts total : Nat} {counts : List (Except ConnError Nat)}
    {last : Except ConnError Nat} (h : Tried attempts PassingError counts last)
    (hmem : .ok total ∈ counts) : last = .ok total := by
  have hsame : ∀ answer ∈ counts, answer = .ok total → last = answer := by
    refine h.forall.mpr ⟨fun answer hanswer hok => ?_, fun _ => rfl⟩
    obtain ⟨cause, hcause, -⟩ := h.again answer hanswer
    rw [hok] at hcause
    cases hcause
  exact hsame _ hmem rfl

theorem Tried.countVerdict {attempts : Nat} {counts : List (Except ConnError Nat)}
    {last : Except ConnError Nat} {result : Except BulkError Report}
    (h : Tried attempts PassingError counts last)
    (hresult : ∀ cause, result = .error (.count cause) ↔ last = .error cause) :
    CountVerdict attempts counts result where
  counted := by
    rintro rfl
    cases h.ends
  again := h.again
  bounded := h.bounded
  fails := by
    intro cause
    rw [hresult, h.ends, Option.some_inj, and_iff_right_of_imp]
    rintro rfl total hmem
    cases h.eq_last hmem

/-- Whether a result tells of a cursor that failed. -/
def TellsOfCursor : Except BulkError Report → Prop
  | .error (.cursor _ _ _) | .error (.cursorRetriesExhausted _ _ _ _) => True
  | _ => False

/-- Where no pass was begun, none decides the result. -/
theorem passVerdict_nil {attempts size : Nat} {result : Except BulkError Report}
    (hresult : ¬ TellsOfCursor result) : PassVerdict attempts size [] result where
  again := List.forall_mem_nil _
  bounded := Nat.zero_le _
  exhausted := by
    intro number cause
    constructor
    · rintro ⟨processed, total, rfl⟩
      exact absurd trivial hresult
    · rintro ⟨-, -, -, ⟨⟩⟩
  fatal := by
    intro cause
    constructor
    · rintro ⟨processed, total, rfl⟩
      exact absurd trivial hresult
    · rintro ⟨-, ⟨⟩⟩

theorem Ending.Shows.not_count {attempts : Nat} {ending : Ending} {result : Except BulkError Report}
    (h : ending.Shows attempts result) (cause : ConnError) : result ≠ .error (.count cause) := by
  cases h with
  | _ => exact nofun

/-- The tries are over just if the last one ended in an error of its cursor that may pass. -/
theorem Ending.Shows.exhausted_iff {attempts number : Nat} {ending : Ending}
    {result : Except BulkError Report} {cause : ConnError} (h : ending.Shows attempts result) :
    (∃ processed total, result = .error (.cursorRetriesExhausted number processed total cause)) ↔
      number = attempts ∧ cause.isRetryable = true ∧ ending = .broken cause := by
  cases h with
  | passing hretry =>
      constructor
      · rintro ⟨_, _, ⟨⟩⟩
        exact ⟨rfl, hretry, rfl⟩
      · rintro ⟨rfl, -, ⟨⟩⟩
        exact ⟨_, _, rfl⟩
  | fatal hfatal =>
      constructor
      · rintro ⟨_, _, ⟨⟩⟩
      · rintro ⟨-, hretry, ⟨⟩⟩
        rw [hfatal] at hretry
        cases hretry
  | finished _ | stopped _ | failed => simp

/-- The cursor ends the run just if the last try ended in an error of it that does not pass. -/
theorem Ending.Shows.cursor_iff {attempts : Nat} {ending : Ending}
    {result : Except BulkError Report} {cause : ConnError} (h : ending.Shows attempts result) :
    (∃ processed total, result = .error (.cursor processed total cause)) ↔
      cause.isRetryable = false ∧ ending = .broken cause := by
  cases h with
  | passing hretry =>
      constructor
      · rintro ⟨_, _, ⟨⟩⟩
      · rintro ⟨hfatal, ⟨⟩⟩
        rw [hretry] at hfatal
        cases hfatal
  | fatal hfatal =>
      constructor
      · rintro ⟨_, _, ⟨⟩⟩
        exact ⟨hfatal, rfl⟩
      · rintro ⟨-, ⟨⟩⟩
        exact ⟨_, _, rfl⟩
  | finished _ | stopped _ | failed => simp

theorem Swept.passVerdict {attempts size : Nat} {passes : List Pass}
    {result : Except BulkError Report} (h : Swept attempts size passes result) :
    PassVerdict attempts size passes result := by
  obtain ⟨last, htried, hshows⟩ := h
  refine ⟨htried.again, htried.bounded, fun number cause => ?_, fun cause => ?_⟩
  · rw [hshows.exhausted_iff, htried.ends, Option.map_some, Option.some_inj, htried.forall]
    constructor
    · rintro ⟨hnumber, hretry, hending⟩
      have hlast : last.Passing size := ⟨cause, hending, hretry⟩
      exact ⟨hnumber, htried.all hlast, ⟨htried.again, hlast⟩, hending⟩
    · rintro ⟨hnumber, -, ⟨-, cause', hending', hretry⟩, hending⟩
      rw [hending'] at hending
      cases hending
      exact ⟨hnumber, hretry, hending'⟩
  · rw [hshows.cursor_iff, htried.ends, Option.map_some, Option.some_inj]

/-- The error of a batch that failed. -/
def Event.failure? : Event → Option ConnError
  | .handed _ (.error cause) => some cause
  | _ => none

/-- If only the last of some events can be a batch that failed, then one that is found is the last. -/
theorem eq_nil_of_failure_last {front before after : List Event} {last event : Event}
    (hfront : ∀ event ∈ front, event.failure? = none)
    (hsplit : front ++ [last] = before ++ event :: after) (hfailed : event.failure? ≠ none) :
    after = [] ∧ event = last := by
  rcases List.eq_nil_or_concat after with rfl | ⟨rest, other, rfl⟩
  · exact ⟨rfl, (List.append_singleton_inj.mp hsplit).2.symm⟩
  · rw [List.concat_eq_append, ← List.cons_append, ← List.append_assoc] at hsplit
    obtain ⟨rfl, -⟩ := List.append_singleton_inj.mp hsplit
    exact absurd (hfront event (by simp)) hfailed

/-- A pass tells of no batch that failed unless one ended it. -/
theorem Pass.events_failure (pass : Pass) (size : Nat) :
    (∀ event ∈ pass.events, event.failure? = none) ∨
      ∃ front ids cause, pass.events = front ++ [.handed ids (.error cause)] ∧
        (∀ event ∈ front, event.failure? = none) ∧ pass.ending size = .failed cause := by
  cases pass with
  | refused cause => exact .inl (List.forall_mem_singleton.mpr rfl)
  | read cursor done failed =>
      have hdone : ∀ event ∈ (Pass.read cursor done none).events, event.failure? = none := by
        intro event hmem
        rw [events, Option.map_none, Option.toList_none, List.append_nil] at hmem
        rcases List.mem_cons.mp hmem with rfl | hmem
        · rfl
        · obtain ⟨batch, -, rfl⟩ := List.mem_map.mp hmem
          rfl
      cases failed with
      | none => exact .inl hdone
      | some batch => exact .inr ⟨_, batch.1, batch.2, (events_failed cursor done _ _).symm, hdone, rfl⟩

/-- A pass that is followed by another one tells of no batch that failed. -/
theorem Pass.Passing.events_calm {pass : Pass} {size : Nat} (h : pass.Passing size) :
    ∀ event ∈ pass.events, event.failure? = none := by
  obtain ⟨cause, hbroken, -⟩ := h
  obtain hcalm | ⟨front, ids, cause', -, -, hfailed⟩ := pass.events_failure size
  · exact hcalm
  · rw [hbroken] at hfailed
    cases hfailed

theorem Swept.batchVerdict {attempts size : Nat} {base : List Event} {passes : List Pass}
    {result : Except BulkError Report} (h : Swept attempts size passes result)
    (hbase : ∀ event ∈ base, event.failure? = none) :
    BatchVerdict (base ++ passes.flatMap Pass.events) result := by
  obtain ⟨last, htried, hshows⟩ := h
  obtain ⟨passing, rfl⟩ := List.getLast?_eq_some_iff.mp htried.ends
  have hpassing : ∀ event ∈ base ++ passing.flatMap Pass.events, event.failure? = none := by
    refine List.forall_mem_append.mpr ⟨hbase, fun event hmem => ?_⟩
    obtain ⟨pass, hpass, hevent⟩ := List.mem_flatMap.mp hmem
    have hagain := htried.again pass (by rw [List.dropLast_concat]; exact hpass)
    exact hagain.events_calm event hevent
  intro before ids cause after hsplit
  rw [List.flatMap_append, List.flatMap_singleton, ← List.append_assoc] at hsplit
  obtain hcalm | ⟨front, ids', cause', hevents, hfront, hfailed⟩ := last.events_failure size
  · have hnone : (Event.handed ids (.error cause)).failure? = none := by
      refine List.forall_mem_append.mpr ⟨hpassing, hcalm⟩ _ ?_
      rw [hsplit]
      simp
    cases hnone
  · rw [hevents, ← List.append_assoc] at hsplit
    obtain ⟨rfl, hsame⟩ := eq_nil_of_failure_last
      (List.forall_mem_append.mpr ⟨hpassing, hfront⟩) hsplit nofun
    cases hsame
    rw [hfailed] at hshows
    cases hshows
    exact ⟨rfl, _, _, _, _, rfl⟩

/-- A run on which only counts are written down tells of no batch. -/
theorem batchVerdict_counts (counts : List (Except ConnError Nat))
    (result : Except BulkError Report) : BatchVerdict (counts.map Event.counted) result := by
  intro before ids cause after hsplit
  have hmem : Event.handed ids (.error cause) ∈ counts.map Event.counted := by
    rw [hsplit]
    simp
  simp at hmem

/-- What the calls of a run decide about its result: the calls are counts and then passes, and both have
their say.  If there is nothing to be done, or nothing is to be done, there is no pass. -/
def Decided (plan : Plan) (settings : RunSettings) (result : Except BulkError Report)
    (events : List Event) : Prop :=
  ∃ counts passes,
    events = counts.map Event.counted ++ passes.flatMap Pass.events ∧
    CountVerdict settings.countRetry.attempts counts result ∧
    (.ok 0 ∈ counts ∨ plan.job.dryRun = true → passes = []) ∧
    PassVerdict settings.cursorRetry.attempts plan.job.batchLength passes result ∧
    BatchVerdict events result

section Runs

variable {plan : Plan} {settings : RunSettings} {counts : List (Except ConnError Nat)}
  {last : Except ConnError Nat} {result : Except BulkError Report}

/-- A run that opens no cursor is decided by its counts. -/
theorem decided_counts (htried : Tried settings.countRetry.attempts PassingError counts last)
    (hcount : ∀ cause, result = .error (.count cause) ↔ last = .error cause)
    (hcursor : ¬ TellsOfCursor result) :
    Decided plan settings result (counts.map Event.counted) :=
  ⟨counts, [], (List.append_nil _).symm, htried.countVerdict hcount, fun _ => rfl,
    passVerdict_nil hcursor, batchVerdict_counts counts result⟩

/-- A run that opens a cursor is decided by its passes. -/
theorem decided_swept {total : Nat}
    (htried : Tried settings.countRetry.attempts PassingError counts (.ok total))
    (hsome : total ≠ 0) (hwet : plan.job.dryRun = false) {events : List Event}
    (hclosed : Closed (counts.map Event.counted) settings.cursorRetry.attempts
      plan.job.batchLength result events) :
    Decided plan settings result events := by
  obtain ⟨passes, rfl, hswept⟩ := hclosed
  have hresult : ∀ cause, result ≠ .error (.count cause) := by
    obtain ⟨last, -, hshows⟩ := hswept
    exact hshows.not_count
  refine ⟨counts, passes, rfl, htried.countVerdict fun cause => ?_, ?_, hswept.passVerdict, ?_⟩
  · exact ⟨fun h => absurd h (hresult cause), nofun⟩
  · rintro (hzero | hdry)
    · exact absurd (Except.ok.inj (htried.eq_last hzero)) hsome
    · rw [hwet] at hdry
      cases hdry
  · refine hswept.batchVerdict fun event hmem => ?_
    obtain ⟨answer, -, rfl⟩ := List.mem_map.mp hmem
    rfl

end Runs

/-- What the calls of a run decide about it, if it goes on wherever it would break off. -/
theorem yields_run_decided {σ : Type} (host : Host (StateM σ)) (connection : Connection (StateM σ))
    (plan : Plan) (change : Change) (settings : RunSettings) :
    Yields (plan.run host.withState connection.recorded change settings) []
      (Decided plan settings) := by
  refine yields_run plan settings (Host.standsBy_withState host) ?_
  refine (yields_counts settings.countRetry).mono fun answer events hcounts => ?_
  obtain ⟨counts, last, rfl, htried, rfl⟩ := hcounts
  cases last with
  | error cause => exact decided_counts htried (fun _ => by simp) id
  | ok total =>
      refine ⟨fun _ => ?_, fun _ => ?_, fun hsome hwet =>
        ⟨fun cause hcause => ?_, fun audit now => ?_⟩⟩
      · exact decided_counts htried (fun _ => by simp) id
      · exact decided_counts htried (fun _ => by simp) id
      · cases cause with
        | auditLog path cause => exact decided_counts htried (fun _ => by simp) id
        | signal cause => exact decided_counts htried (fun _ => by simp) id
        | _ => exact hcause.elim
      · exact (leads_sweep_recorded settings.cursorRetry _ _).mono fun result _ events hclosed =>
          decided_swept htried hsome hwet hclosed

/-! ## Runs that break off -/

section Breaking

variable {σ : Type} {host : Host (StateM σ)} {connection : Connection (StateM σ)}

theorem growth_events : Growth fun (events events' : List Event) => events <+: events' :=
  growth_written id

theorem yields_recording_grows {α : Type} (act : StateM σ α) (event : α → Event)
    (events : List Event) : Yields (recording act event) events fun _ events' => events <+: events' :=
  yields_recording fun answer => List.prefix_append events [event answer]

/-- The calls that were written down stay so. -/
theorem extends_recorded : connection.recorded.Extends fun events events' => events <+: events' where
  count := fun _ _ => yields_recording_grows _ _
  openCursor := fun _ _ => yields_recording_grows _ _
  deleteByIds := fun _ _ => yields_recording_grows _ _
  updateByIds := fun _ _ _ => yields_recording_grows _ _

theorem yields_interrupted_grows (events : List Event) :
    Yields host.withState.interrupted events fun _ events' => events <+: events' :=
  (bystander_lift host.interrupted).yields fun _ => List.prefix_refl events

/-- The tries of a pass that do not break off are over as those are that go on. -/
theorem yields_tries_reaches (policy : Retry.Policy) (plan : Plan) (change : Change) (audit : AuditLog)
    (t : Tally) (events : List Event) :
    let b : Bench (ExceptT Overflow (StateT (List Event) (StateM σ))) :=
      ⟨host.withState.breaking, connection.recorded.breaking, plan, change, audit⟩
    Yields ((policy.conditional (b.host.backOff .reopen).withState b.pass).run t).run events
      fun answer _ => ∀ reached, answer = .ok reached → SweepReaches reached.1 := by
  intro b
  have htries : Truncates (fun (events events' : List Event) => events <+: events')
      ((policy.conditional (b.host.backOff .reopen).withState b.pass).run t)
      ((policy.conditional (host.withState.backOff .reopen).withState
        (b.on host.withState connection.recorded).pass).run t) :=
    tries_alike (b := b)
      (host_breaking_alike growth_events (Host.standsBy_withState host) yields_interrupted_grows)
      (connection_breaking_alike growth_events extends_recorded) policy t
  refine (htries.yields (leads_tries_reaches recordedBench_standsBy policy)).mono ?_
  rintro _ _ hreaches reached rfl
  exact hreaches

end Breaking

/-- What the calls of a run decide about it.  The run counts, and then goes through passes.  It counts
again only after an error that may pass and as often as it is allowed to, and fails for want of a count
just if no count succeeded.  If there is nothing to be done, or nothing is to be done, it opens no
cursor and hands on no batch.  It goes through another pass only after one whose cursor ended in an
error that may pass and as often as it is allowed to; that no try is left is told just if all of them
ended so, and that the cursor failed just if the last one ended in an error that does not pass.  A
batch that fails is the last call, whatever its error is.

Only if a pause or the rest of the job takes too long to be told, the run breaks off without a result, and
then its calls are the first ones of a run of which all this holds.

Therefore the tries of a pass are never over for want of another one after anything but such an error
(`SweepReaches`), and such an error never ends them otherwise. -/
theorem run_decided {σ : Type} (host : Host (StateM σ)) (connection : Connection (StateM σ))
    (plan : Plan) (change : Change) (settings : RunSettings) :
    (Yields (plan.run host.withState.breaking connection.recorded.breaking change settings).run []
      fun answer events =>
        match answer with
        | .ok result => Decided plan settings result events
        | .error cause =>
            (cause.Grounded settings fun total => .counted (.ok total) ∈ events) ∧
              ∃ result events', events <+: events' ∧ Decided plan settings result events') ∧
      ∀ audit t events,
        let b : Bench (ExceptT Overflow (StateT (List Event) (StateM σ))) :=
          ⟨host.withState.breaking, connection.recorded.breaking, plan, change, audit⟩
        Yields ((settings.cursorRetry.conditional (b.host.backOff .reopen).withState b.pass).run t).run
          events fun answer _ => ∀ reached, answer = .ok reached → SweepReaches reached.1 := by
  refine ⟨?_, fun audit t events => yields_tries_reaches settings.cursorRetry plan change audit t events⟩
  refine yields_breaking growth_events (Host.standsBy_withState host) yields_interrupted_grows
    extends_recorded (fun total events => .counted (.ok total) ∈ events)
    (fun _ _ _ hgrows hmem => hgrows.subset hmem) (fun events => ?_)
    (yields_run_decided host connection plan change settings)
  refine yields_recorded_count fun answer total hanswer => ?_
  rw [hanswer]
  exact List.mem_append_right events (List.mem_singleton.mpr rfl)

/-! ## Runs without a verdict -/

/-- An error that may pass. -/
def reset : ConnError := .network "connection reset"

/-- A database of a vast count, whose cursors yield one id before they are cut off. -/
def cutOff : Connection (StateM Rehearsal) where
  count _ _ := return .ok (2 ^ 63 - 1)
  openCursor _ _ := return .ok ⟨[.int32 1], some reset⟩
  deleteByIds _ ids := return .ok ids.length
  updateByIds _ _ _ := return .ok ⟨0, 0⟩

/-- A run of one pass on this database, with five seconds between its batches. -/
def cutOffRun : (Except Overflow (Except BulkError Report) × List Event) × Rehearsal :=
  ((Plan.run ⟨{ target := ⟨"shop", "orders"⟩, batchSize := 1, pauseMs := 5000 }, []⟩
    (Rehearsal.host false).withState.breaking cutOff.recorded.breaking .delete
    { cursorRetry := .of 1 Retry.second }).run.run []).run { tree := ⟨[], []⟩ }

/-- A database that cannot be reached. -/
def outOfReach : Connection (StateM Rehearsal) where
  count _ _ := return .error reset
  openCursor _ _ := return .error reset
  deleteByIds _ _ := return .error reset
  updateByIds _ _ _ := return .error reset

/-- A run on this database that may count twice, with the longest pause that there is between. -/
def outOfReachRun : (Except Overflow (Except BulkError Report) × List Event) × Rehearsal :=
  ((Plan.run ⟨{ target := ⟨"shop", "orders"⟩ }, []⟩ (Rehearsal.host false).withState.breaking
    outOfReach.recorded.breaking .delete { countRetry := .of 2 Retry.maxTime }).run.run []).run
    { tree := ⟨[], []⟩ }

/-- The pass of a run that counted once and handed on one batch. -/
def onlyPass? : List Event → Option Pass
  | [.counted (.ok _), .opened (.ok cursor), .handed ids (.ok counts)] =>
    some (.read cursor [(ids, counts)] none)
  | _ => none

theorem events_of_onlyPass? {events : List Event} {pass : Pass} (h : onlyPass? events = some pass) :
    ∃ total, events = .counted (.ok total) :: pass.events := by
  unfold onlyPass? at h
  split at h
  · cases h
    exact ⟨_, rfl⟩
  · cases h

/-- A run of which every pass that is allowed ended in an error that may pass breaks off, when its last line
tells the rest of a vast job; and so does one of which no count succeeded, when it pauses. -/
theorem runs_undecided :
    (cutOffRun.1.1.isOk = false ∧ ∃ (total : Nat) (pass : Pass),
      cutOffRun.1.2 = .counted (.ok total) :: pass.events ∧ pass.Passing 1) ∧
    outOfReachRun.1.1.isOk = false ∧ outOfReachRun.1.2 = [.counted (.error reset)] := by
  have hending : (onlyPass? cutOffRun.1.2).map (Pass.ending 1) = some (.broken reset) := by
    decide +kernel
  obtain ⟨pass, hpass, hbroken⟩ := Option.map_eq_some_iff.mp hending
  obtain ⟨total, hevents⟩ := events_of_onlyPass? hpass
  refine ⟨⟨?_, total, pass, hevents, reset, hbroken, rfl⟩, ?_, rfl⟩
  · decide +kernel
  · decide +kernel

end BulkSweep

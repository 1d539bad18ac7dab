import BulkSweep.Proofs.Files.Growth
import BulkSweep.Proofs.Run.Accounts
import BulkSweep.Proofs.Run.Courses

/-!
# The file of an audit log

Beside its books, a run keeps a file: what it adds to the file of its audit log stands behind what the
file held before, entry by entry (`Filed`).  Each entry begins with a time that the host has told, and
the error that it tells of, if any, is one that the connection has answered (`Diary`).
-/

set_option autoImplicit false

namespace BulkSweep

variable {σ : Type}

/-! ## Files that are kept beside a transcript -/

/-- The files after an event: only what is added to a file changes them. -/
def Event.filed (tree : FileTree) : Event → FileTree
  | appended path text => (tree.append path text).1
  | _ => tree

/-- The files after some events. -/
def Transcript.grown (tree : FileTree) (events : List Event) : FileTree :=
  events.foldl Event.filed tree

theorem Transcript.grown_append (tree : FileTree) (events : List Event) (event : Event) :
    grown tree (events ++ [event]) = event.filed (grown tree events) := by
  rw [grown, List.foldl_append]
  rfl

/-- A host whose files stand in a tree, at least those to which something is added; what it writes is
written down. -/
def Host.filing (host : Host (StateM σ)) (tree : FileTree) :
    Host (StateT (List Event) (StateM σ)) :=
  { host.recorded with
    files := { host.recorded.files with
      append := fun path text => do
        let answer := ((Transcript.grown tree (← get)).append path text).2
        modify (· ++ [.appended path text])
        return answer } }

/-- The same work with files in a tree and everything written down. -/
def Bench.filing (b : Bench (StateM σ)) (tree : FileTree) :
    Bench (StateT (List Event) (StateM σ)) :=
  ⟨b.host.filing tree, b.connection.recorded, b.plan, b.change, b.audit⟩

theorem Host.idles_filing (host : Host (StateM σ)) (tree : FileTree) : (host.filing tree).Idles :=
  ⟨host.idles_recorded.log, host.idles_recorded.sleep, host.idles_recorded.draw,
    host.idles_recorded.overflow⟩

theorem yields_filing_append {host : Host (StateM σ)} {tree : FileTree} {path text : String}
    {w : List Event} {post : Except FileError Unit → List Event → Prop}
    (h : post ((Transcript.grown tree w).append path text).2 (w ++ [.appended path text])) :
    Yields ((host.filing tree).files.append path text) w post :=
  fun _ => h

/-! ## The file of a log -/

/-- A file has grown by what was added to it since, and can be added to. -/
structure Filed (tree : FileTree) (path : String) (events : List Event) : Prop where
  /-- its path does not ask for a folder -/
  short : Route.withoutTrailing path = path
  /-- it can be read -/
  readable : ∃ content, (Transcript.grown tree events).read path = .ok content
  /-- what was added stands behind what it held -/
  bytes : ((Transcript.grown tree events).held path).bytes
    = (tree.held path).bytes ++ (String.join (Transcript.records path events)).toUTF8.toList

namespace Filed

variable {tree : FileTree} {path : String} {events : List Event}

theorem skip (h : Filed tree path events) {event : Event}
    (hfiled : ∀ tree, event.filed tree = tree) (hrecord : event.record? path = none) :
    Filed tree path (events ++ [event]) where
  short := h.short
  readable := by rw [Transcript.grown_append, hfiled]; exact h.readable
  bytes := by rw [Transcript.grown_append, hfiled, Transcript.records_skip hrecord]; exact h.bytes

theorem toUTF8_append (a b : String) : (a ++ b).toUTF8.toList = a.toUTF8.toList ++ b.toUTF8.toList := by
  simp [Text.toList_byteArray]

theorem append (h : Filed tree path events) {text : String} (htext : text ≠ "") :
    Filed tree path (events ++ [.appended path text]) := by
  obtain ⟨content, hcontent⟩ := h.readable
  have hadded := FileTree.append_of_read h.short hcontent text
  have hread := FileTree.read_append hadded
  have hgrown : Transcript.grown tree (events ++ [.appended path text])
      = ((Transcript.grown tree events).append path text).1 := Transcript.grown_append _ _ _
  have hrecord : (Event.appended path text).record? path = some text := if_pos ⟨rfl, htext⟩
  refine ⟨h.short, ⟨_, by rw [hgrown, hread]⟩, ?_⟩
  rw [hgrown, FileTree.held_of_read hread, Content.bytes_append, h.bytes,
    Transcript.records_add hrecord, List.append_assoc, ← toUTF8_append, String.join_append]
  simp

/-- A file that could be opened can be added to. -/
theorem opened {w : List Event} (hgrown : Transcript.grown tree w = tree)
    (hrecords : Transcript.records path w = []) (h : (tree.append path "").2 = .ok ()) :
    Filed tree path (w ++ [.appended path ""]) := by
  have hread := FileTree.read_append h
  have hafter : Transcript.grown tree (w ++ [.appended path ""]) = (tree.append path "").1 := by
    rw [Transcript.grown_append, hgrown]
    rfl
  have hrecord : (Event.appended path "").record? path = none := if_neg fun h => h.2 rfl
  refine ⟨(FileTree.append_eq_ok h).1, ⟨_, by rw [hafter, hread]⟩, ?_⟩
  rw [hafter, FileTree.held_of_read hread, Content.bytes_append,
    Transcript.records_skip hrecord, hrecords]
  rfl

end Filed

/-! ## Errors of the connection -/

/-- The error that the connection has answered. -/
def Event.error? : Event → Option ConnError
  | counted (.error cause) => some cause
  | opened answer => cursorFault answer
  | handed _ (.error cause) => some cause
  | _ => none

/-- The errors that the connection has answered. -/
def Transcript.errors (events : List Event) : List ConnError :=
  events.filterMap Event.error?

theorem Transcript.mem_errors_append {cause : ConnError} {events : List Event}
    (h : cause ∈ errors events) (more : List Event) : cause ∈ errors (events ++ more) := by
  rw [errors, List.filterMap_append]
  exact List.mem_append_left _ h

theorem Transcript.mem_errors_answered {cause : ConnError} {event : Event} (events : List Event)
    (h : event.error? = some cause) : cause ∈ errors (events ++ [event]) := by
  rw [errors, List.filterMap_append]
  exact List.mem_append_right _ (List.mem_filterMap.mpr ⟨event, List.mem_singleton_self _, h⟩)

/-- The error that an event of an audit log tells of. -/
def Line.cause? : Line → Option ConnError
  | retrying cause _ _ | cursorFailed cause _ _ | batchFailed _ cause _ _ => some cause
  | _ => none

/-! ## Diaries -/

/-- A time that a host has told. -/
def Host.Told (host : Host (StateM σ)) (time : String) : Prop :=
  ∃ s, (host.timestamp.run s).1 = time

/-- An entry can be vouched for: its time was told by the host, and its error by the connection. -/
structure Entry.Vouched (host : Host (StateM σ)) (events : List Event) (entry : Entry) : Prop where
  /-- the time -/
  told : host.Told entry.time
  /-- the error -/
  answered : ∀ cause, entry.line.cause? = some cause → cause ∈ Transcript.errors events

theorem Entry.Vouched.append {host : Host (StateM σ)} {events : List Event} {entry : Entry}
    (h : entry.Vouched host events) (more : List Event) : entry.Vouched host (events ++ more) :=
  ⟨h.told, fun cause hcause => Transcript.mem_errors_append (h.answered cause hcause) more⟩

/-- The books of a run are in order, the file of its log has grown by the entries, and each of these can
be vouched for. -/
structure Diary (b : Bench (StateM σ)) (tree : FileTree) (counted failures : Nat) (t : Tally)
    (events : List Event) (entries : List Entry) : Prop where
  /-- the books -/
  books : Books b counted failures t events entries
  /-- the file -/
  filed : ∀ path, b.audit.path = some path → Filed tree path events
  /-- the entries -/
  vouched : ∀ entry ∈ entries, entry.Vouched b.host events

namespace Diary

variable {b : Bench (StateM σ)} {tree : FileTree} {counted failures : Nat} {t : Tally}
  {events : List Event} {entries : List Entry}

/-- What is no entry leaves the file as it is. -/
theorem skip {failures' : Nat} {t' : Tally} (h : Diary b tree counted failures t events entries)
    {event : Event} (hbooks : Books b counted failures' t' (events ++ [event]) entries)
    (hfiled : ∀ tree, event.filed tree = tree) (hrecord : ∀ path, event.record? path = none) :
    Diary b tree counted failures' t' (events ++ [event]) entries where
  books := hbooks
  filed path hpath := (h.filed path hpath).skip hfiled (hrecord path)
  vouched entry hentry := (h.vouched entry hentry).append _

theorem print (h : Diary b tree counted failures t events entries) (text : String) :
    Diary b tree counted failures t (events ++ [.printed text]) entries :=
  h.skip (h.books.print text) (fun _ => rfl) fun _ => rfl

/-- The books may change if the transcript does not. -/
theorem congr {failures' : Nat} {t' : Tally} (h : Diary b tree counted failures t events entries)
    (hbooks : Books b counted failures' t' events entries) :
    Diary b tree counted failures' t' events entries :=
  ⟨hbooks, h.filed, h.vouched⟩

theorem opening (h : Diary b tree counted failures t events entries)
    (answer : Except ConnError Cursor) :
    Diary b tree counted failures t.beginPass (events ++ [.opened answer]) entries :=
  h.skip (h.books.opening answer) (fun _ => rfl) fun _ => rfl

theorem failed (h : Diary b tree counted failures t events entries) (ids : List Value)
    (cause : ConnError) :
    Diary b tree counted (failures + 1) t.beginBatch (events ++ [.handed ids (.error cause)])
      entries :=
  h.skip (h.books.failed ids cause) (fun _ => rfl) fun _ => rfl

theorem filed_written (h : ∀ path, b.audit.path = some path → Filed tree path events)
    (time message : String) (path : String) (hpath : b.audit.path = some path) :
    Filed tree path (events ++ b.audit.written (AuditLog.entry time message)) := by
  rw [AuditLog.written, hpath]
  exact (h path hpath).append (AuditLog.entry_ne_empty _ _)

theorem vouched_concat {host : Host (StateM σ)}
    (h : ∀ entry ∈ entries, entry.Vouched host events) (more : List Event) {entry : Entry}
    (hentry : entry.Vouched host (events ++ more)) :
    ∀ other ∈ entries ++ [entry], other.Vouched host (events ++ more) := by
  intro other hother
  rcases List.mem_append.mp hother with hother | hother
  · exact (h other hother).append more
  · rw [List.mem_singleton.mp hother]
    exact hentry

/-- An entry that tells of no batch. -/
theorem note (h : Diary b tree counted failures t events entries) {time : String}
    (htime : b.host.Told time) (line : Line) (hline : line.milestone? = none)
    (hcause : ∀ cause, line.cause? = some cause → cause ∈ Transcript.errors events) :
    Diary b tree counted failures t
      (events ++ b.audit.written (AuditLog.entry time (line.text b.operation)))
      (entries ++ [⟨time, line⟩]) where
  books := h.books.note time line hline
  filed := filed_written h.filed time _
  vouched := vouched_concat h.vouched _
    ⟨htime, fun cause hsame => Transcript.mem_errors_append (hcause cause hsame) _⟩

/-- The diary after a batch, its text on the terminal and its entry. -/
theorem batch (h : Diary b tree counted 0 t events entries) (counts : BatchCounts)
    (text : String) {time : String} (htime : b.host.Told time) (speed : Numeric.Binary64)
    {m : Milestone} {after : Tally} (hafter : after = t.beginBatch.endBatch counts)
    (hm : m = ⟨after.batches, after.processed, after.total, after.counts⟩) :
    Diary b tree counted 0 after
      (events ++ [.handed t.buffer.toList (.ok counts)] ++ [.printed text]
        ++ b.audit.written (AuditLog.entry time ((Line.batch m speed).text b.operation)))
      (entries ++ [⟨time, .batch m speed⟩]) where
  books := h.books.batch counts text time speed hafter hm
  filed := filed_written (fun path hpath =>
    ((h.filed path hpath).skip (fun _ => rfl) rfl).skip (fun _ => rfl) rfl) time _
  vouched := vouched_concat (fun entry hentry => ((h.vouched entry hentry).append _).append _) _
    ⟨htime, nofun⟩

end Diary

/-! ## Steps -/

section Steps

variable {b : Bench (StateM σ)} {tree : FileTree} {counted : Nat} {t : Tally} {w : List Event}

theorem leads_note_filing {event : String} {post : Unit → Tally → List Event → Prop}
    (h : ∀ time, b.host.Told time →
      post () t (w ++ b.audit.written (AuditLog.entry time event))) :
    Leads ((b.filing tree).note event) t w post := by
  have hrecord : Yields (b.audit.record (b.host.filing tree) event) w fun _ w' => post () t w' := by
    unfold AuditLog.record
    unfold AuditLog.written at h
    cases hpath : b.audit.path with
    | none =>
        -- nothing is written, so any time that the host tells will do
        rw [hpath] at h
        intro s
        have hnothing : post () t (w ++ []) := h _ ⟨s, rfl⟩
        rwa [List.append_nil] at hnothing
    | some path =>
        rw [hpath] at h
        have htimestamp : Bystander (b.host.filing tree).timestamp := bystander_lift b.host.timestamp
        refine yields_bind (htimestamp.yields_answer fun time htime => ?_)
        refine yields_bind (yields_filing_append ?_)
        cases ((Transcript.grown tree w).append path (AuditLog.entry time event)).2 with
        | ok _ => exact yields_pure (h time htime)
        | error cause => exact (bystander_lift (b.host.log _ _)).yields fun _ => h time htime
  rw [← bind_pure ((b.filing tree).note event)]
  exact leads_lift_bind (hrecord.mono fun _ _ hpost => leads_pure hpost)

/-- There is a diary of a run, in which so many batches have failed. -/
def Kept (b : Bench (StateM σ)) (tree : FileTree) (counted failures : Nat) (t : Tally)
    (events : List Event) : Prop :=
  ∃ entries, Diary b tree counted failures t events entries

/-- There is a diary at each landmark of a run.  The error of a cursor that will fail was answered when
the cursor was opened. -/
def diaryCourse (b : Bench (StateM σ)) (tree : FileTree) (counted : Nat) : Course (List Event) where
  going _ := Kept b tree counted 0
  reading _ fault t events :=
    Kept b tree counted 0 t events ∧ ∀ cause, fault = some cause → cause ∈ Transcript.errors events
  halted _ t events := ∃ failures, Kept b tree counted failures t events
  paused _ _ := Kept b tree counted 0
  ended _ events := ∃ failures t, Kept b tree counted failures t events

theorem leads_settle_filing {failures : Nat} {entries : List Entry}
    {post : Unit → Tally → List Event → Prop} (h : Diary b tree counted failures t w entries)
    (hpost : ∀ w', Diary b tree counted failures t.settle w' entries → w <+: w' →
      post () t.settle w') :
    Leads (b.filing tree).settle t w post := by
  refine leads_settle_recorded (b := b) fun text => ?_
  have hsettled := ((h.congr h.books.settle).print text).print "\n"
  exact hpost _ hsettled ((List.prefix_append _ _).trans (List.prefix_append _ _))

theorem leads_cancel_filing (h : Kept b tree counted 0 t w) :
    Leads (b.filing tree).cancel t w fun _ t' w' => Kept b tree counted 0 t' w' := by
  obtain ⟨entries, hdiary⟩ := h
  refine leads_bind (leads_settle_filing hdiary fun w' hdiary _ => leads_get_bind ?_)
  refine leads_bind (leads_print_recorded (b := b) (leads_bind (leads_note_filing ?_)))
  intro time htime
  exact leads_pure ⟨_, (hdiary.print _).note htime (.interrupted t.processed t.settle.total) rfl nofun⟩

theorem leads_failBatch_filing {cause : ConnError} (h : Kept b tree counted 1 t w)
    (hcause : cause ∈ Transcript.errors w) :
    Leads ((b.filing tree).failBatch cause) t w fun _ t' w' => Kept b tree counted 1 t' w' := by
  obtain ⟨entries, hdiary⟩ := h
  refine leads_bind (leads_settle_filing hdiary fun w' hdiary hbefore => leads_get_bind ?_)
  refine leads_bind (leads_log_recorded (b := b) (leads_bind (leads_note_filing ?_)))
  intro time htime
  obtain ⟨more, rfl⟩ := hbefore
  refine leads_pure ⟨_, hdiary.note htime
    (.batchFailed t.batches cause t.processed t.settle.total) rfl ?_⟩
  rintro _ ⟨⟩
  exact Transcript.mem_errors_append hcause more

theorem leads_batch_filing (passes : Nat) {fault : Option ConnError}
    (h : (diaryCourse b tree counted).reading passes fault t w) :
    Leads (b.filing tree).batch t w ((diaryCourse b tree counted).AfterBatch passes fault) := by
  obtain ⟨⟨entries, hdiary⟩, hfault⟩ := h
  refine leads_bystander_bind (bystander_lift b.host.interrupted) fun stopped => ?_
  cases stopped with
  | true =>
      refine leads_bind ((leads_cancel_filing ⟨entries, hdiary⟩).mono fun _ _ _ hkept => ?_)
      exact leads_pure ⟨0, hkept⟩
  | false =>
      refine leads_modify_bind (leads_get_bind (leads_lift_bind ?_))
      refine yields_recorded_apply fun answer => ?_
      cases answer with
      | error cause =>
          have hfailed := hdiary.failed t.buffer.toList cause
          refine leads_bind ((leads_failBatch_filing ⟨entries, hfailed⟩ ?_).mono ?_)
          · exact Transcript.mem_errors_answered w rfl
          · exact fun _ _ _ hkept => leads_pure ⟨1, hkept⟩
      | ok counts =>
          refine leads_modify_bind (leads_bind (leads_draw_recorded (b := b) fun text => ?_))
          refine leads_get_bind (leads_bystander_bind (bystander_lift b.host.clock) fun now => ?_)
          refine leads_bind (leads_log_recorded (b := b) (leads_bind (leads_note_filing ?_)))
          intro time htime
          refine leads_modify_bind ?_
          have hbatch := hdiary.batch counts text htime
            ((t.beginBatch.endBatch counts).tracker.speed now) rfl rfl
          have hkept : (diaryCourse b tree counted).reading passes fault
              (t.beginBatch.endBatch counts).clear _ :=
            ⟨⟨_, hbatch.congr (hbatch.books.buffer #[])⟩, fun cause hcause =>
              Transcript.mem_errors_append (Transcript.mem_errors_append
                (Transcript.mem_errors_append (hfault cause hcause) _) _) _⟩
          dsimp only
          split
          · exact leads_bystander_bind (bystander_lift (b.host.sleep _ _)) fun _ => leads_pure hkept
          · exact leads_pure hkept

theorem leads_cursorFailure_filing (passes : Nat) {cause : ConnError}
    (h : Kept b tree counted 0 t w) (hcause : cause ∈ Transcript.errors w) :
    Leads ((b.filing tree).cursorFailure cause) t w
      ((diaryCourse b tree counted).AfterPass passes) := by
  obtain ⟨entries, hdiary⟩ := h
  unfold Bench.cursorFailure
  split
  · refine leads_bind (leads_log_recorded (b := b) (leads_get_bind (leads_bind ?_)))
    refine leads_note_filing fun time htime => leads_pure ⟨cause, rfl, _, hdiary.note htime
      (.retrying cause t.processed t.total) rfl ?_⟩
    rintro _ ⟨⟩
    exact hcause
  · refine leads_bind (leads_settle_filing hdiary fun w' hdiary hbefore => leads_get_bind ?_)
    obtain ⟨more, rfl⟩ := hbefore
    refine leads_bind (leads_log_recorded (b := b) (leads_bind (leads_note_filing ?_)))
    intro time htime
    refine leads_pure ⟨0, _, hdiary.note htime
      (.cursorFailed cause t.processed t.settle.total) rfl ?_⟩
    rintro _ ⟨⟩
    exact Transcript.mem_errors_append hcause more

theorem leads_complete_filing (h : Kept b tree counted 0 t w) :
    Leads (b.filing tree).complete t w fun _ t' w' => Kept b tree counted 0 t' w' := by
  obtain ⟨entries, hdiary⟩ := h
  refine leads_modify_bind (leads_bind (leads_draw_recorded (b := b) fun text => ?_))
  refine leads_bind (leads_print_recorded (b := b) (leads_get_bind ?_))
  refine leads_bystander_bind (bystander_lift b.host.clock) fun now => ?_
  refine leads_bystander_bind (bystander_lift b.host.clock) fun later => ?_
  refine leads_bind (leads_print_recorded (b := b) (leads_bind (leads_note_filing ?_)))
  intro time htime
  have hprinted := (((hdiary.congr hdiary.books.finish).print text).print "\n").print
    (b.operation.doneLine b.host.palette (t.finish.report .completed now later) ++ "\n")
  exact leads_pure
    ⟨_, hprinted.note htime (.completed (t.finish.report .completed now later)) rfl nofun⟩

theorem leads_exhausted_filing (attempts : Nat) (cause : ConnError) (h : Kept b tree counted 0 t w) :
    Leads ((b.filing tree).exhausted attempts cause) t w fun _ t' w' =>
      Kept b tree counted 0 t' w' := by
  obtain ⟨entries, hdiary⟩ := h
  refine leads_bind (leads_settle_filing hdiary fun w' hdiary _ => leads_get_bind ?_)
  exact leads_bind (leads_log_recorded (b := b) (leads_pure ⟨entries, hdiary⟩))

theorem leads_abort_filing {failures : Nat} (stop : Stop) (h : Kept b tree counted failures t w) :
    Leads ((b.filing tree).abort stop) t w fun _ t' w' => Kept b tree counted failures t' w' := by
  cases stop with
  | cancelled =>
      refine leads_get_bind (leads_bystander_bind (bystander_lift b.host.clock) fun now => ?_)
      exact leads_bystander_bind (bystander_lift b.host.clock) fun later => leads_pure h
  | failed cause => exact leads_pure h
  | transient cause => exact leads_get_bind (leads_get_bind (leads_pure h))

/-- A run keeps its diary. -/
theorem keeps_diary : (b.filing tree).Keeps (diaryCourse b tree counted) where
  opening := by
    rintro passes t w ⟨entries, hdiary⟩
    refine yields_recorded_open fun answer => ⟨⟨entries, hdiary.opening answer⟩, ?_⟩
    exact fun cause hcause => Transcript.mem_errors_answered w hcause
  buffer := by
    rintro passes fault t w ids ⟨⟨entries, hdiary⟩, hfault⟩
    exact ⟨⟨entries, hdiary.congr (hdiary.books.buffer ids)⟩, hfault⟩
  batch h := leads_batch_filing _ h
  failing h := leads_cursorFailure_filing _ h.1 (h.2 _ rfl)
  closing h := h.1
  resuming h := h
  completing h := (leads_complete_filing h).mono fun _ t' _ hkept => ⟨0, t', hkept⟩
  exhausting h := (leads_exhausted_filing _ _ h).mono fun _ t' _ hkept => ⟨0, t', hkept⟩
  aborting := by
    rintro stop t w ⟨failures, h⟩
    exact (leads_abort_filing stop h).mono fun _ t' _ hkept => ⟨failures, t', hkept⟩

end Steps

end BulkSweep

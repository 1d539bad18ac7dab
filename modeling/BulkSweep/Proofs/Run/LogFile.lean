import BulkSweep.Proofs.Files.Lines
import BulkSweep.Proofs.Numeric.Numerals
import BulkSweep.Proofs.Run.Diary
import BulkSweep.Rehearsal

/-!
# Lines of an audit log

What a run adds to the file of its audit log is one text for each event, the time in front, behind all
that the file held before.  These texts are lines of their own exactly if the errors that they tell of
have no line breaks in their messages (`run_adds_entries`): messages are written as they are.
-/

set_option autoImplicit false

namespace BulkSweep

open Numeric

variable {σ : Type}

/-! ## Texts without line breaks -/

theorem unbroken_toString (n : Nat) : Unbroken (toString n) := by
  intro hmem
  have hdigits : (toString n).toList = Nat.toDigits 10 n := Nat.toList_repr
  rw [hdigits] at hmem
  exact absurd (isDigit_of_mem_toDigits hmem) (by decide)

/-- What is cut from a text without line breaks has none. -/
theorem unbroken_of_subset {cs : List Char} {text : String} (h : Unbroken text)
    (hsubset : cs ⊆ text.toList) : Unbroken (String.ofList cs) := by
  intro hmem
  rw [String.toList_ofList] at hmem
  exact h (hsubset hmem)

theorem unbroken_padded (zeros n : Nat) :
    Unbroken (String.ofList (List.replicate zeros '0') ++ toString n) := by
  refine unbroken_append.mpr ⟨fun hmem => ?_, unbroken_toString n⟩
  rw [String.toList_ofList] at hmem
  exact absurd (List.eq_of_mem_replicate hmem) (by decide)

theorem unbroken_fixedText (x : Binary64) (places : Nat) : Unbroken (fixedText x places) := by
  unfold fixedText
  dsimp only
  generalize hdigits : toString (roundQuotient (x.fraction.1 * 10 ^ places) x.fraction.2) = digits
  generalize hpadding : String.ofList (List.replicate (places + 1 - digits.length) '0') ++ digits
    = padded
  have hpadded : Unbroken padded := by
    rw [← hpadding, ← hdigits]
    exact unbroken_padded _ _
  refine unbroken_append.mpr ⟨unbroken_append.mpr ⟨?_, ?_⟩, ?_⟩
  · split
    · simp [Unbroken]
    · simp [Unbroken]
  · exact unbroken_of_subset hpadded (List.take_subset _ _)
  · split
    · simp [Unbroken]
    · exact unbroken_append.mpr ⟨by simp [Unbroken],
        unbroken_of_subset hpadded (List.drop_subset _ _)⟩

theorem unbroken_milliFraction (millis : Nat) : Unbroken (milliFraction millis) := by
  unfold milliFraction
  split
  · simp [Unbroken]
  · refine unbroken_append.mpr ⟨by simp [Unbroken], ?_⟩
    refine unbroken_of_subset (unbroken_toString (1000 + millis)) fun c hmem => ?_
    have hdigit := (List.dropWhile_subset _ (List.mem_reverse.mp hmem))
    exact List.drop_subset _ _ (List.mem_reverse.mp hdigit)

theorem unbroken_elapsedText (nanos : Nat) : Unbroken (elapsedText nanos) := by
  unfold elapsedText
  dsimp only
  split
  · simp [Unbroken]
  · split
    · exact unbroken_append.mpr ⟨unbroken_toString _, by simp [Unbroken]⟩
    · exact unbroken_append.mpr ⟨unbroken_append.mpr ⟨unbroken_toString _, unbroken_milliFraction _⟩,
        by simp [Unbroken]⟩

theorem unbroken_placeText (processed total : Nat) : Unbroken (placeText processed total) := by
  simp only [placeText, unbroken_append, unbroken_toString, true_and, and_true]
  simp [Unbroken]

theorem unbroken_countsText (op : Operation) (counts : BatchCounts) :
    Unbroken (op.countsText counts) := by
  cases op with
  | delete =>
      simp only [Operation.countsText, unbroken_append, unbroken_toString, and_true]
      simp [Unbroken]
  | update =>
      simp only [Operation.countsText, unbroken_append, unbroken_toString, and_true]
      simp [Unbroken]

theorem unbroken_batchLine (op : Operation) (m : Milestone) (speed : Binary64) :
    Unbroken (op.batchLine m.number m.processed m.total m.counts speed) := by
  unfold Operation.batchLine speedText
  simp only [unbroken_append, unbroken_toString, unbroken_countsText, unbroken_fixedText, true_and,
    and_true]
  simp [Unbroken]

theorem unbroken_doneEvent (op : Operation) (report : Report) : Unbroken (op.doneEvent report) := by
  unfold Operation.doneEvent speedText
  simp only [unbroken_append, unbroken_toString, unbroken_countsText, unbroken_elapsedText,
    unbroken_fixedText, true_and, and_true]
  cases op <;> simp [Unbroken]

/-- Only the message of an error can break the wording of an event. -/
theorem unbroken_text_iff (op : Operation) (line : Line) :
    Unbroken (line.text op) ↔ ∀ cause, line.cause? = some cause → Unbroken cause.message := by
  have htold (cause : ConnError) :
      (∀ other, some cause = some other → Unbroken other.message) ↔ Unbroken cause.message :=
    ⟨fun h => h cause rfl, fun h _ hsame => Option.some.inj hsame ▸ h⟩
  cases line with
  | batch m speed => exact iff_of_true (unbroken_batchLine op m speed) nofun
  | completed report => exact iff_of_true (unbroken_doneEvent op report) nofun
  | interrupted processed total =>
      refine iff_of_true (unbroken_append.mpr ⟨?_, unbroken_placeText processed total⟩) nofun
      simp [Unbroken]
  | retrying cause processed total =>
      refine Iff.trans ?_ (htold cause).symm
      unfold Line.text
      simp only [unbroken_append, unbroken_placeText, and_true]
      simp [Unbroken]
  | cursorFailed cause processed total =>
      refine Iff.trans ?_ (htold cause).symm
      unfold Line.text
      simp only [unbroken_append, unbroken_placeText, and_true]
      simp [Unbroken]
  | batchFailed number cause processed total =>
      refine Iff.trans ?_ (htold cause).symm
      unfold Line.text
      simp only [unbroken_append, unbroken_placeText, unbroken_toString, and_true]
      simp [Unbroken]

/-! ## Entries as lines -/

/-- A date and a time, to the second. -/
def IsStamp (time : String) : Prop :=
  time.toList.map (fun c => if c.isDigit then '0' else c) = "0000-00-00 00:00:00".toList

instance (time : String) : Decidable (IsStamp time) :=
  inferInstanceAs (Decidable (_ = _))

theorem IsStamp.unbroken {time : String} (h : IsStamp time) : Unbroken time := by
  intro hmem
  have hbreak : '\n' ∈ "0000-00-00 00:00:00".toList := by
    rw [← h]
    exact List.mem_map.mpr ⟨'\n', hmem, by decide⟩
  simp at hbreak

/-- What an entry of a log looks like. -/
def Entry.shown (op : Operation) (entry : Entry) : String :=
  "[" ++ entry.time ++ "] " ++ entry.line.text op

theorem Entry.unbroken_shown_iff (op : Operation) {entry : Entry} (h : IsStamp entry.time) :
    Unbroken (entry.shown op) ↔
      ∀ cause, entry.line.cause? = some cause → Unbroken cause.message := by
  rw [← unbroken_text_iff op]
  simp only [Entry.shown, unbroken_append, h.unbroken, and_true]
  simp [Unbroken]

/-- The text of some entries, one after another. -/
def entriesText (op : Operation) (entries : List Entry) : String :=
  String.join (entries.map (Entry.text op))

/-- Entries are lines of their own if the errors that they tell of have no line breaks in their
messages, and only then. -/
theorem pieces_entriesText_iff (op : Operation) {entries : List Entry}
    (h : ∀ entry ∈ entries, IsStamp entry.time) :
    (Content.pieces '\n' (entriesText op entries).toList
        = entries.map fun entry => ((entry.shown op).toList, true)) ↔
      ∀ entry ∈ entries, ∀ cause, entry.line.cause? = some cause → Unbroken cause.message := by
  have hlines : entriesText op entries = String.join ((entries.map (Entry.shown op)).map (· ++ "\n")) := by
    -- an entry is what it looks like, with a line break behind it
    rw [List.map_map]
    rfl
  have hshown : (entries.map fun entry => ((entry.shown op).toList, true))
      = (entries.map (Entry.shown op)).map fun line => (line.toList, true) := by
    rw [List.map_map]
    rfl
  rw [hlines, hshown, Content.pieces_join_iff, List.forall_mem_map]
  exact forall₂_congr fun entry hentry => Entry.unbroken_shown_iff op (h entry hentry)

/-! ## Runs -/

/-- What a run has added to the file of its audit log: some entries, in the order in which they were
written down, behind what the file held before. -/
structure Recorded (tree : FileTree) (path : String) (op : Operation) (events : List Event)
    (entries : List Entry) : Prop where
  /-- each of them was added as one text -/
  records : Transcript.records path events = entries.map (Entry.text op)
  /-- the file has grown by these texts -/
  bytes : ((Transcript.grown tree events).held path).bytes
    = (tree.held path).bytes ++ (entriesText op entries).toUTF8.toList
  /-- each begins with a date and a time -/
  stamped : ∀ entry ∈ entries, IsStamp entry.time
  /-- the errors that they tell of were answered by the connection -/
  answered : ∀ entry ∈ entries, ∀ cause, entry.line.cause? = some cause →
    cause ∈ Transcript.errors events
  /-- each batch that was done has its entry -/
  logged : Transcript.openings events ≠ 0 → ∃ counted, Transcript.totals events = [counted] ∧
    Logged op ⟨some path⟩ counted events entries

section Runs

variable {host : Host (StateM σ)} {tree : FileTree} {connection : Connection (StateM σ)} {plan : Plan}
  {path : String} {op : Operation} {w : List Event}

/-- Before a cursor is opened there is no entry. -/
theorem Unopened.recorded {totals : List Nat} (h : Unopened totals w)
    (hheld : ((Transcript.grown tree w).held path).bytes
      = (tree.held path).bytes ++ (String.join (Transcript.records path w)).toUTF8.toList) :
    Recorded tree path op w [] where
  records := h.records path
  bytes := by rw [hheld, h.records path, entriesText, List.map_nil]
  stamped := List.forall_mem_nil _
  answered := List.forall_mem_nil _
  logged hopened := absurd h.openings hopened

theorem Unopened.recorded_of_same {totals : List Nat} (h : Unopened totals w)
    (hsame : Transcript.grown tree w = tree) : Recorded tree path op w [] := by
  have hempty : (String.join []).toUTF8.toList = [] := by
    rw [Text.toList_byteArray]
    rfl
  exact h.recorded (by rw [hsame, h.records path, hempty, List.append_nil])

theorem Kept.recorded {b : Bench (StateM σ)} (hpath : b.audit.path = some path)
    (hstamps : ∀ s, IsStamp (b.host.timestamp.run s).1) {counted failures : Nat} {t : Tally}
    (h : Kept b tree counted failures t w) :
    ∃ entries, Recorded tree path b.operation w entries := by
  obtain ⟨entries, hbooks, hfiled, hvouched⟩ := h
  have hrecords := hbooks.logged.recorded path hpath
  refine ⟨entries, hrecords, ?_, fun entry hentry => ?_, fun entry hentry => ?_, fun _ => ?_⟩
  · rw [(hfiled path hpath).bytes, hrecords]
    rfl
  · obtain ⟨s, hs⟩ := (hvouched entry hentry).told
    exact hs ▸ hstamps s
  · exact (hvouched entry hentry).answered
  · refine ⟨counted, hbooks.ledger.totals, ?_⟩
    rw [← hpath]
    exact hbooks.logged

/-- The stages of a run whose audit log goes to a file. -/
def filingStages (tree : FileTree) (path : String) (op : Operation) : Stages (List Event) where
  counted total events := Unopened [total] events ∧ Transcript.grown tree events = tree
  ready total events := Unopened [total] events ∧ Filed tree path events
  ended _ events := ∃ entries, Recorded tree path op events entries

theorem grown_skip {event : Event} (h : Transcript.grown tree w = tree)
    (hfiled : ∀ tree, event.filed tree = tree) : Transcript.grown tree (w ++ [event]) = tree := by
  rw [Transcript.grown_append, hfiled, h]

theorem yields_openAt_filing {total : Nat} (hpath : plan.job.auditLog = some path)
    (h : (filingStages tree path op).counted total w) :
    Yields (AuditLog.openAt (host.filing tree) plan.job.auditLog) w fun answer w' =>
      match answer with
      | .error cause => (filingStages tree path op).ended (.error cause) w'
      | .ok audit => audit = ⟨plan.job.auditLog⟩ ∧ (filingStages tree path op).ready total w' := by
  obtain ⟨hunopened, hgrown⟩ := h
  rw [hpath]
  have hopened : Unopened [total] (w ++ [.appended path ""]) :=
    hunopened.skip rfl rfl rfl rfl fun _ => if_neg fun hrecord => hrecord.2 rfl
  refine yields_bind (yields_filing_append ?_)
  rw [hgrown]
  cases happend : (tree.append path "").2 with
  | error cause =>
      refine yields_pure ⟨[], hopened.recorded_of_same ?_⟩
      rw [Transcript.grown_append, hgrown]
      exact FileTree.append_of_error happend
  | ok _ =>
      refine yields_bind ((bystander_lift (host.log _ _)).yields fun _ => yields_pure ⟨rfl, hopened, ?_⟩)
      exact Filed.opened hgrown (hunopened.records path) happend

theorem reaches_filing (hpath : plan.job.auditLog = some path) :
    plan.Reaches (host.filing tree) (filingStages tree path op) where
  print text h := yields_recording fun _ =>
    ⟨h.1.skip rfl rfl rfl rfl fun _ => rfl, grown_skip h.2 fun _ => rfl⟩
  idle _ _ h := ⟨[], h.1.recorded_of_same h.2⟩
  openAt h := yields_openAt_filing hpath h
  listen h := (bystander_lift host.listen).yields fun answer => by
    cases answer with
    | error cause => exact ⟨[], h.1.recorded h.2.bytes⟩
    | ok _ => exact h
  clock := bystander_lift host.clock

theorem yields_countMatches_filing (policy : Retry.Policy) :
    Yields (plan.countMatches (host.filing tree) connection.recorded policy) [] fun answer events =>
      match answer with
      | .error cause => (filingStages tree path op).ended (.error cause) events
      | .ok total => (filingStages tree path op).counted total events := by
  have hcounts : Yields (plan.countMatches (host.filing tree) connection.recorded policy) [] _ :=
    yields_countMatches_recorded policy
  have hsame : Yields (plan.countMatches (host.filing tree) connection.recorded policy) []
      fun _ events => Transcript.grown tree events = tree := by
    refine yields_counting (host.idles_filing tree) policy
      (fun _ events => Transcript.grown tree events = tree) (fun i w _ hgrown => ?_) rfl
    refine yields_recorded_count fun answer => ?_
    have hcounted : Transcript.grown tree (_ ++ [.counted answer]) = tree :=
      grown_skip hgrown fun _ => rfl
    cases answer with
    | ok total => exact hcounted
    | error cause =>
        dsimp only [CountFails]
        split
        · split <;> exact hcounted
        · exact hcounted
  refine (hcounts.and hsame).mono fun answer events hboth => ?_
  cases answer with
  | error cause => exact ⟨[], hboth.1.recorded_of_same hboth.2⟩
  | ok total => exact hboth

/-- A run adds to the file of its audit log one text for each of its events, in the order in which they
happened, behind all that the file held before.  Each begins with a date and a time, and each batch that
was done has one.  The texts are lines of their own exactly if no error that they tell of, and these are
errors that the connection has answered, has a line break in its message. -/
theorem run_adds_entries (host : Host (StateM σ))
    (hstamps : ∀ s, IsStamp (host.timestamp.run s).1) (tree : FileTree)
    (connection : Connection (StateM σ)) (plan : Plan) {path : String}
    (hpath : plan.job.auditLog = some path) (change : Change) (settings : RunSettings) :
    Yields (plan.run (host.filing tree) connection.recorded change settings) [] fun _ events =>
      ∃ entries, Recorded tree path change.operation events entries ∧
        (Content.pieces '\n' (entriesText change.operation entries).toList
            = (entries.map fun entry => ((entry.shown change.operation).toList, true)) ↔
          ∀ entry ∈ entries, ∀ cause, entry.line.cause? = some cause →
            Unbroken cause.message) := by
  have hrecorded : Yields (plan.run (host.filing tree) connection.recorded change settings) []
      (filingStages tree path change.operation).ended := by
    refine yields_run_stages (reaches_filing hpath)
      (yields_countMatches_filing settings.countRetry) fun total now w hready => ?_
    obtain ⟨hunopened, hfiled⟩ := hready
    let b : Bench (StateM σ) := ⟨host, connection, plan, change, ⟨plan.job.auditLog⟩⟩
    obtain ⟨-, entries, hbooks⟩ := hunopened.going (b := b) now
    have hnone : entries = [] := by
      have hrecords := hbooks.logged.recorded path hpath
      rw [hunopened.records path] at hrecords
      exact List.map_eq_nil_iff.mp hrecords.symm
    subst hnone
    have hkept : Kept b tree total 0 (.start total now) w := by
      refine ⟨[], hbooks, fun file hfile => ?_, nofun⟩
      rw [Option.some.inj (hfile.symm.trans hpath)]
      exact hfiled
    have hkeeps : (b.filing tree).Keeps (diaryCourse b tree total) := keeps_diary
    refine (leads_sweep_keeps (host.idles_filing tree) hkeeps settings.cursorRetry hkept).mono
      fun _ _ _ hend => ?_
    obtain ⟨failures, t, hkept⟩ := hend
    exact hkept.recorded hpath hstamps
  refine hrecorded.mono fun _ events hend => ?_
  obtain ⟨entries, hentries⟩ := hend
  exact ⟨entries, hentries, pieces_entriesText_iff change.operation hentries.stamped⟩

end Runs

/-! ## An error with a line break -/

/-- A database that counts one match and fails, on two lines, before it has handed one over. -/
def brokenOff : Connection (StateM Rehearsal) where
  count _ _ := return .ok 1
  openCursor _ _ := return .ok ⟨[], some (.other "lost\nthe server")⟩
  deleteByIds _ _ := return .ok 0
  updateByIds _ _ _ := return .ok ⟨0, 0⟩

/-- A run that breaks off so, with a log that holds a line from before. -/
theorem run_adds_entries_of_break :
    let plan : Plan := ⟨{ target := ⟨"shop", "orders"⟩, auditLog := some "audit.log" }, []⟩
    let tree : FileTree := ⟨[("audit.log", .file (.text "earlier\n"))], []⟩
    let events := (((plan.run ((Rehearsal.host false).filing tree) brokenOff.recorded .delete {}).run
      []).run { tree := tree }).1.2
    ∃ entries, Recorded tree "audit.log" .delete events entries ∧
      (Content.pieces '\n' (entriesText .delete entries).toList
          = (entries.map fun entry => ((entry.shown .delete).toList, true)) ↔
        ∀ entry ∈ entries, ∀ cause, entry.line.cause? = some cause → Unbroken cause.message) := by
  intro plan tree events
  exact run_adds_entries (Rehearsal.host false)
    (fun _ => (by decide +kernel : IsStamp "2000-01-01 00:00:00")) tree brokenOff plan rfl
    .delete {} { tree := tree }

/-- One event may fill several lines: the message of its error is written as it is. -/
theorem event_fills_two_lines :
    let plan : Plan := ⟨{ target := ⟨"shop", "orders"⟩, auditLog := some "audit.log" }, []⟩
    let tree : FileTree := ⟨[], []⟩
    let events := (((plan.run ((Rehearsal.host false).filing tree) brokenOff.recorded .delete {}).run
      []).run { tree := tree }).1.2
    (Transcript.records "audit.log" events).length = 1 ∧
      ((Transcript.grown tree events).held "audit.log").lines
        = [some "[2000-01-01 00:00:00] cursor iteration error: lost",
          some "the server (completed: 0/1)"] := by
  decide +kernel +zetaReduce

end BulkSweep

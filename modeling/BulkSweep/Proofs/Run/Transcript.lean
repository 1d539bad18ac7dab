import BulkSweep.Proofs.Run.Leads

/-!
# Transcripts

A transcript is what a run did to its surroundings, in order: the calls of its connection with their
answers, the texts on its terminal, and the texts that it added to files.  Any connection and any host
can be recorded: they do and answer what they did before, and write it down.
-/

set_option autoImplicit false

namespace BulkSweep

/-- Something that a run did, with what came of it. -/
inductive Event where
  /-- it counted the matches -/
  | counted (answer : Except ConnError Nat)
  /-- it opened a cursor, or tried to -/
  | opened (answer : Except ConnError Cursor)
  /-- it handed on a batch of ids -/
  | handed (ids : List Value) (answer : Except ConnError BatchCounts)
  /-- it wrote to the terminal -/
  | printed (text : String)
  /-- it added a text to a file -/
  | appended (path text : String)

/-! ## Recorders -/

section Recorders

variable {m : Type → Type} [Monad m] {α : Type}

/-- Does something and writes down what came of it. -/
def recording (act : m α) (event : α → Event) : StateT (List Event) m α := do
  let answer ← act
  modify (· ++ [event answer])
  return answer

/-- A connection whose calls are written down. -/
def Connection.recorded (c : Connection m) : Connection (StateT (List Event) m) where
  count := fun target filter => recording (c.count target filter) .counted
  openCursor := fun target filter => recording (c.openCursor target filter) .opened
  deleteByIds := fun target ids => recording (c.deleteByIds target ids) fun answer =>
    .handed ids (answer.map fun deleted => ⟨deleted, 0⟩)
  updateByIds := fun target ids operators => recording (c.updateByIds target ids operators)
    fun answer => .handed ids (answer.map fun counts => ⟨counts.matched, counts.modified⟩)

/-- A host of which the texts for the terminal and for files are written down. -/
def Host.recorded (h : Host m) : Host (StateT (List Event) m) :=
  { h.withState with
    print := fun text => recording (h.print text) fun _ => .printed text
    files := { h.files.withState with
      append := fun path text => recording (h.files.append path text) fun _ =>
        .appended path text } }

end Recorders

/-- A host that is recorded writes nothing down of its log and its pauses. -/
theorem Host.idles_recorded {σ : Type} (host : Host (StateM σ)) : host.recorded.Idles where
  log := fun level line => bystander_lift (host.log level line)
  sleep := fun reason nanos => bystander_lift (host.sleep reason nanos)
  draw := bystander_lift host.draw
  overflow := fun cause => bystander_lift (host.overflow cause)

/-! ## What is written down -/

section Rules

variable {σ α : Type} {w : List Event}

theorem yields_recording {act : StateM σ α} {event : α → Event} {post : α → List Event → Prop}
    (h : ∀ answer, post answer (w ++ [event answer])) : Yields (recording act event) w post :=
  fun _ => h _

variable {connection : Connection (StateM σ)}

theorem yields_recorded_count {target : Namespace} {filter : Document}
    {post : Except ConnError Nat → List Event → Prop}
    (h : ∀ answer, post answer (w ++ [.counted answer])) :
    Yields (connection.recorded.count target filter) w post :=
  yields_recording h

theorem yields_recorded_open {target : Namespace} {filter : Document}
    {post : Except ConnError Cursor → List Event → Prop}
    (h : ∀ answer, post answer (w ++ [.opened answer])) :
    Yields (connection.recorded.openCursor target filter) w post :=
  yields_recording h

/-- A batch of a change is handed on, whatever the change is. -/
theorem yields_recorded_apply {host : Host (StateT (List Event) (StateM σ))} {plan : Plan}
    {change : Change} {audit : AuditLog} {ids : List Value}
    {post : Except ConnError BatchCounts → List Event → Prop}
    (h : ∀ answer, post answer (w ++ [.handed ids answer])) :
    Yields (Bench.apply ⟨host, connection.recorded, plan, change, audit⟩ ids) w post := by
  cases change with
  | delete => exact yields_bind (yields_recording fun answer => yields_pure (h _))
  | update operators => exact yields_bind (yields_recording fun answer => yields_pure (h _))

end Rules

end BulkSweep

import BulkSweep.Run.Execution

/-!
# What an action leads to

A run works on three things at once: its own tally, the part `W` of the world that a statement is
about (a store, a script of answers), and all the rest `σ` of it (terminal, log, clock, files, the
operator).  The rest is never fixed: `Yields` and `Leads` say what holds after an action from whatever
state of the rest it begins in, so a host may answer anything it likes.

The rules below take an action apart along its binds.  An action that leaves `W` alone is a
*bystander*; all of a host but the word of an interrupt is one.
-/

set_option autoImplicit false

namespace BulkSweep

variable {σ W α β : Type}

/-! ## Actions on the world -/

/-- From `w` and any state of the rest, an action ends in a result and a state of which `post`
holds. -/
def Yields (act : StateT W (StateM σ) α) (w : W) (post : α → W → Prop) : Prop :=
  ∀ s, post ((act.run w).run s).1.1 ((act.run w).run s).1.2

theorem Yields.mono {act : StateT W (StateM σ) α} {w : W} {post post' : α → W → Prop}
    (h : Yields act w post) (himp : ∀ a w', post a w' → post' a w') : Yields act w post' :=
  fun s => himp _ _ (h s)

theorem Yields.and {act : StateT W (StateM σ) α} {w : W} {post post' : α → W → Prop}
    (h : Yields act w post) (h' : Yields act w post') :
    Yields act w fun a w' => post a w' ∧ post' a w' :=
  fun s => ⟨h s, h' s⟩

theorem yields_pure {a : α} {w : W} {post : α → W → Prop} (h : post a w) :
    Yields (pure a : StateT W (StateM σ) α) w post :=
  fun _ => h

theorem yields_bind {act : StateT W (StateM σ) α} {next : α → StateT W (StateM σ) β} {w : W}
    {post : β → W → Prop} (h : Yields act w fun a w' => Yields (next a) w' post) :
    Yields (act >>= next) w post :=
  fun s => h s ((act.run w).run s).2

theorem yields_get_bind {next : W → StateT W (StateM σ) β} {w : W} {post : β → W → Prop}
    (h : Yields (next w) w post) : Yields (get >>= next) w post :=
  h

theorem yields_modify_bind {change : W → W} {next : PUnit → StateT W (StateM σ) β} {w : W}
    {post : β → W → Prop} (h : Yields (next ⟨⟩) (change w) post) :
    Yields (modify change >>= next) w post :=
  h

/-- What holds of every result and every state holds after any action. -/
theorem yields_any {act : StateT W (StateM σ) α} {w : W} {post : α → W → Prop}
    (h : ∀ a w', post a w') : Yields act w post :=
  fun _ => h _ _

/-! ## Bystanders -/

/-- An action that leaves the world as it is. -/
def Bystander (act : StateT W (StateM σ) α) : Prop :=
  ∀ w, Yields act w fun _ w' => w' = w

/-- After a bystander holds what held before, whatever it answers. -/
theorem Bystander.yields {act : StateT W (StateM σ) α} (hact : Bystander act) {w : W}
    {post : α → W → Prop} (h : ∀ a, post a w) : Yields act w post :=
  (hact w).mono fun a w' hw => by rw [hw]; exact h a

/-- After a bystander holds what held before, for each answer that it can give. -/
theorem Bystander.yields_answer {act : StateT W (StateM σ) α} (hact : Bystander act) {w : W}
    {post : α → W → Prop} (h : ∀ a, (∃ s, ((act.run w).run s).1.1 = a) → post a w) :
    Yields act w post := by
  intro s
  have hsame : ((act.run w).run s).1.2 = w := hact w s
  rw [hsame]
  exact h _ ⟨s, rfl⟩

theorem bystander_pure (a : α) : Bystander (pure a : StateT W (StateM σ) α) :=
  fun _ => yields_pure rfl

theorem Bystander.bind {act : StateT W (StateM σ) α} {next : α → StateT W (StateM σ) β}
    (hact : Bystander act) (hnext : ∀ a, Bystander (next a)) : Bystander (act >>= next) :=
  fun w => yields_bind (hact.yields fun a => hnext a w)

/-- What only touches the rest of the world is a bystander. -/
theorem bystander_lift (act : StateM σ α) :
    Bystander (StateT.lift act : StateT W (StateM σ) α) :=
  fun _ _ => rfl

/-- A host of bystanders, the word of an interrupt apart. -/
structure Host.StandsBy (host : Host (StateT W (StateM σ))) : Prop where
  print : ∀ text, Bystander (host.print text)
  log : ∀ level line, Bystander (host.log level line)
  clock : Bystander host.clock
  timestamp : Bystander host.timestamp
  sleep : ∀ reason nanos, Bystander (host.sleep reason nanos)
  draw : Bystander host.draw
  listen : Bystander host.listen
  overflow : ∀ cause, Bystander (host.overflow cause)
  append : ∀ path text, Bystander (host.files.append path text)

/-- A host that knows nothing of the world is a host of bystanders. -/
theorem Host.standsBy_withState (host : Host (StateM σ)) :
    (host.withState : Host (StateT W (StateM σ))).StandsBy where
  print := fun text => bystander_lift (host.print text)
  log := fun level line => bystander_lift (host.log level line)
  clock := bystander_lift host.clock
  timestamp := bystander_lift host.timestamp
  sleep := fun reason nanos => bystander_lift (host.sleep reason nanos)
  draw := bystander_lift host.draw
  listen := bystander_lift host.listen
  overflow := fun cause => bystander_lift (host.overflow cause)
  append := fun path text => bystander_lift (host.files.append path text)

/-- A host whose log and whose pauses are bystanders: what it takes to try something again. -/
structure Host.Idles (host : Host (StateT W (StateM σ))) : Prop where
  log : ∀ level line, Bystander (host.log level line)
  sleep : ∀ reason nanos, Bystander (host.sleep reason nanos)
  draw : Bystander host.draw
  overflow : ∀ cause, Bystander (host.overflow cause)

namespace Host.StandsBy

variable {host : Host (StateT W (StateM σ))}

theorem idles (hhost : host.StandsBy) : host.Idles :=
  ⟨hhost.log, hhost.sleep, hhost.draw, hhost.overflow⟩

theorem printLine (hhost : host.StandsBy) (line : String) : Bystander (host.printLine line) :=
  hhost.print _

theorem printColoured (hhost : host.StandsBy) (c : Colour) (line : String) :
    Bystander (host.printColoured c line) :=
  hhost.print _

theorem record (hhost : host.StandsBy) (audit : AuditLog) (event : String) :
    Bystander (audit.record host event) := by
  unfold AuditLog.record
  cases audit.path with
  | none => exact bystander_pure ()
  | some path =>
      refine hhost.timestamp.bind fun time => (hhost.append path _).bind fun answer => ?_
      cases answer with
      | ok _ => exact bystander_pure ()
      | error cause => exact hhost.log _ _

theorem printAll (hhost : host.StandsBy) (lines : List String) :
    Bystander (Plan.printAll host lines) := by
  induction lines with
  | nil => exact bystander_pure ()
  | cons line rest ih => exact (hhost.printLine line).bind fun _ => ih

end Host.StandsBy

/-! ## Actions of a run -/

/-- From a tally and `w` and any state of the rest, an action of a run ends in a result, a tally and
a state of which `post` holds. -/
def Leads (act : StateT Tally (StateT W (StateM σ)) α) (t : Tally) (w : W)
    (post : α → Tally → W → Prop) : Prop :=
  Yields (act.run t) w fun answer w' => post answer.1 answer.2 w'

theorem Leads.mono {act : StateT Tally (StateT W (StateM σ)) α} {t : Tally} {w : W}
    {post post' : α → Tally → W → Prop} (h : Leads act t w post)
    (himp : ∀ a t' w', post a t' w' → post' a t' w') : Leads act t w post' :=
  Yields.mono h fun _ _ => himp _ _ _

theorem Leads.and {act : StateT Tally (StateT W (StateM σ)) α} {t : Tally} {w : W}
    {post post' : α → Tally → W → Prop} (h : Leads act t w post) (h' : Leads act t w post') :
    Leads act t w fun a t' w' => post a t' w' ∧ post' a t' w' :=
  Yields.and h h'

/-- What an action of a run leads to, its tally apart. -/
theorem Leads.yields {act : StateT Tally (StateT W (StateM σ)) α} {t : Tally} {w : W}
    {post : α → W → Prop} (h : Leads act t w fun a _ w' => post a w') :
    Yields (act.run' t) w post :=
  fun s => h s

section Rules

variable {t : Tally} {w : W} {post : β → Tally → W → Prop}
  {next : α → StateT Tally (StateT W (StateM σ)) β}

theorem leads_pure {a : β} (h : post a t w) :
    Leads (pure a : StateT Tally (StateT W (StateM σ)) β) t w post :=
  yields_pure h

theorem leads_bind {act : StateT Tally (StateT W (StateM σ)) α}
    (h : Leads act t w fun a t' w' => Leads (next a) t' w' post) :
    Leads (act >>= next) t w post :=
  yields_bind h

theorem leads_get_bind {next : Tally → StateT Tally (StateT W (StateM σ)) β}
    (h : Leads (next t) t w post) : Leads (get >>= next) t w post :=
  h

theorem leads_modify_bind {change : Tally → Tally}
    {next : PUnit → StateT Tally (StateT W (StateM σ)) β}
    (h : Leads (next ⟨⟩) (change t) w post) : Leads (modify change >>= next) t w post :=
  h

/-- An action on the world leaves the tally as it is. -/
theorem leads_lift_bind {act : StateT W (StateM σ) α}
    (h : Yields act w fun a w' => Leads (next a) t w' post) :
    Leads (liftM act >>= next) t w post :=
  yields_bind h

/-- A bystander leaves the tally and the world as they are. -/
theorem leads_bystander_bind {act : StateT W (StateM σ) α} (hact : Bystander act)
    (h : ∀ a, Leads (next a) t w post) : Leads (liftM act >>= next) t w post :=
  leads_lift_bind (hact.yields h)

theorem leads_bystander {act : StateT W (StateM σ) β} (hact : Bystander act)
    (h : ∀ a, post a t w) : Leads (liftM act : StateT Tally (StateT W (StateM σ)) β) t w post := by
  rw [← bind_pure (liftM act)]
  exact leads_bystander_bind hact fun a => leads_pure (h a)

end Rules

end BulkSweep

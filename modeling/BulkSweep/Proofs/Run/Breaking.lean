import BulkSweep.Proofs.Run.Causes
import BulkSweep.Proofs.Run.Likeness

/-!
# Runs that break off

A run on a host where it may break off does what one does that goes on, as far as it gets: unless it breaks
off, it has the same result and leaves the same behind (`Truncates`).  So whatever holds of every run that
goes on holds of every run that does not break off, and one that does break off has a cause for it and
has done a part of what one does that goes on (`yields_breaking`).
-/

set_option autoImplicit false

namespace BulkSweep

variable {σ W α β : Type}

/-! ## Programs that end early -/

/-- A way in which the world grows: by nothing, or further than before. -/
structure Growth (Grows : W → W → Prop) : Prop where
  refl : ∀ w, Grows w w
  trans : ∀ w w' w'', Grows w w' → Grows w' w'' → Grows w w''

/-- What is written down only grows. -/
theorem growth_written {γ : Type} (written : W → List γ) :
    Growth fun w w' => written w <+: written w' :=
  ⟨fun w => List.prefix_refl (written w), fun _ _ _ h h' => List.IsPrefix.trans h h'⟩

/-- The first program does what the second one does, but may break off: then the second one gets further.
And the second one never goes back. -/
def Truncates (Grows : W → W → Prop) (act : ExceptT Overflow (StateT W (StateM σ)) α)
    (act' : StateT W (StateM σ) α) : Prop :=
  ∀ w s, Grows w ((act'.run w).run s).1.2 ∧
    match ((act.run.run w).run s).1.1 with
    | .ok a => (act'.run w).run s = ((a, ((act.run.run w).run s).1.2), ((act.run.run w).run s).2)
    | .error _ => Grows ((act.run.run w).run s).1.2 ((act'.run w).run s).1.2

namespace Truncates

variable {Grows : W → W → Prop}

theorem lift {act : StateT W (StateM σ) α} (h : ∀ w, Yields act w fun _ w' => Grows w w') :
    Truncates Grows (liftM act) act :=
  fun w s => ⟨h w s, rfl⟩

theorem stop {act : StateT W (StateM σ) α} (h : ∀ w, Yields act w fun _ w' => Grows w w')
    (cause : Overflow) : Truncates Grows (throw cause) act :=
  fun w s => ⟨h w s, h w s⟩

theorem pure (hgrowth : Growth Grows) (a : α) :
    Truncates Grows (Pure.pure a) (Pure.pure a : StateT W (StateM σ) α) :=
  fun w _ => ⟨hgrowth.refl w, rfl⟩

theorem bind (hgrowth : Growth Grows)
    {act : ExceptT Overflow (StateT W (StateM σ)) α} {act' : StateT W (StateM σ) α}
    {next : α → ExceptT Overflow (StateT W (StateM σ)) β} {next' : α → StateT W (StateM σ) β}
    (hact : Truncates Grows act act') (hnext : ∀ a, Truncates Grows (next a) (next' a)) :
    Truncates Grows (act >>= next) (act' >>= next') := by
  intro w s
  obtain ⟨hgrows, hsame⟩ := hact w s
  -- after the first action, the one that goes on is here
  obtain ⟨hmore, hrest⟩ := hnext ((act'.run w).run s).1.1 ((act'.run w).run s).1.2 ((act'.run w).run s).2
  refine ⟨hgrowth.trans _ _ _ hgrows hmore, ?_⟩
  have hrun : ((act >>= next).run.run w).run s
      = ((ExceptT.bindCont next ((act.run.run w).run s).1.1).run ((act.run.run w).run s).1.2).run
        ((act.run.run w).run s).2 := rfl
  have hrun' : ((act' >>= next').run w).run s
      = ((next' ((act'.run w).run s).1.1).run ((act'.run w).run s).1.2).run ((act'.run w).run s).2 := rfl
  rw [hrun, hrun']
  generalize ((act.run.run w).run s) = done at hsame
  obtain ⟨⟨answer, reached⟩, left⟩ := done
  cases answer with
  | error cause => exact hgrowth.trans _ _ _ hsame hmore
  | ok a =>
      dsimp only at hsame
      rw [hsame] at hrest ⊢
      exact hrest

/-- What holds after the program that goes on holds after the one that may break off, unless it does. -/
theorem yields {act : ExceptT Overflow (StateT W (StateM σ)) α} {act' : StateT W (StateM σ) α} {w : W}
    {post : α → W → Prop} (h : Truncates Grows act act') (hact : Yields act' w post) :
    Yields act.run w fun answer w' =>
      match answer with
      | .ok a => post a w'
      | .error _ => ∃ a w'', Grows w' w'' ∧ post a w'' := by
  intro s
  obtain ⟨-, hsame⟩ := h w s
  have hend := hact s
  generalize (act.run.run w).run s = done at hsame ⊢
  obtain ⟨⟨answer, reached⟩, left⟩ := done
  cases answer with
  | ok a =>
      dsimp only at hsame
      rw [hsame] at hend
      exact hend
  | error cause => exact ⟨_, _, hsame, hend⟩

end Truncates

/-! ## Surroundings that only grow -/

/-- The operations of a connection only add to the world. -/
structure Connection.Extends (c : Connection (StateT W (StateM σ))) (Grows : W → W → Prop) : Prop where
  count : ∀ target filter w, Yields (c.count target filter) w fun _ w' => Grows w w'
  openCursor : ∀ target filter w, Yields (c.openCursor target filter) w fun _ w' => Grows w w'
  deleteByIds : ∀ target ids w, Yields (c.deleteByIds target ids) w fun _ w' => Grows w w'
  updateByIds : ∀ target ids operators w,
    Yields (c.updateByIds target ids operators) w fun _ w' => Grows w w'

/-- What stays when the world grows is kept. -/
theorem Connection.Extends.keeps {c : Connection (StateT W (StateM σ))} {Grows : W → W → Prop}
    (hconn : c.Extends Grows) {P : W → Prop} (hP : ∀ w w', Grows w w' → P w → P w') :
    c.Keeps Reckoning.world P where
  openCursor := fun target filter w hw =>
    (hconn.openCursor target filter w).mono fun _ _ hgrows => hP _ _ hgrows hw
  deleteByIds := fun target ids w hw =>
    (hconn.deleteByIds target ids w).mono fun _ _ hgrows => hP _ _ hgrows hw
  updateByIds := fun target ids operators w hw =>
    (hconn.updateByIds target ids operators w).mono fun _ _ hgrows => hP _ _ hgrows hw

section Likeness

variable {Grows : W → W → Prop}

/-- Programs that may break off are like those that go on. -/
def Likeness.truncating (hgrowth : Growth Grows) :
    Likeness (ExceptT Overflow (StateT W (StateM σ))) (StateT W (StateM σ)) where
  Like := Truncates Grows
  pure := Truncates.pure hgrowth
  map := fun f act act' hact => by
    rw [map_eq_pure_bind, map_eq_pure_bind]
    exact Truncates.bind hgrowth hact fun a => Truncates.pure hgrowth (f a)
  bind := Truncates.bind hgrowth

variable {host : Host (StateT W (StateM σ))} {connection : Connection (StateT W (StateM σ))}

theorem host_breaking_alike (hgrowth : Growth Grows) (hhost : host.StandsBy)
    (hinterrupted : ∀ w, Yields host.interrupted w fun _ w' => Grows w w') :
    host.breaking.Alike (Likeness.truncating hgrowth) host := by
  have hstays {α : Type} {act : StateT W (StateM σ) α} (hact : Bystander act) (w : W) :
      Yields act w fun _ w' => Grows w w' :=
    hact.yields fun _ => hgrowth.refl w
  exact {
    palette := rfl
    print := fun text => Truncates.lift (hstays (hhost.print text))
    log := fun level line => Truncates.lift (hstays (hhost.log level line))
    clock := Truncates.lift (hstays hhost.clock)
    timestamp := Truncates.lift (hstays hhost.timestamp)
    sleep := fun reason nanos => Truncates.lift (hstays (hhost.sleep reason nanos))
    draw := Truncates.lift (hstays hhost.draw)
    listen := Truncates.lift (hstays hhost.listen)
    interrupted := Truncates.lift hinterrupted
    overflow := fun cause => Truncates.stop (hstays (hhost.overflow cause)) cause
    append := fun path text => Truncates.lift (hstays (hhost.append path text)) }

theorem connection_breaking_alike (hgrowth : Growth Grows) (hconn : connection.Extends Grows) :
    connection.breaking.Alike (Likeness.truncating hgrowth) connection where
  count := fun target filter => Truncates.lift (hconn.count target filter)
  openCursor := fun target filter => Truncates.lift (hconn.openCursor target filter)
  deleteByIds := fun target ids => Truncates.lift (hconn.deleteByIds target ids)
  updateByIds := fun target ids operators => Truncates.lift (hconn.updateByIds target ids operators)

end Likeness

/-! ## Runs -/

section Runs

variable {Grows : W → W → Prop} {host : Host (StateT W (StateM σ))}
  {connection : Connection (StateT W (StateM σ))}

/-- What a run ends in, or what it breaks off for and with what done. -/
theorem yields_breaking (hgrowth : Growth Grows) (hhost : host.StandsBy)
    (hinterrupted : ∀ w, Yields host.interrupted w fun _ w' => Grows w w')
    (hconn : connection.Extends Grows) {plan : Plan} {change : Change} {settings : RunSettings}
    (Counted : Nat → W → Prop)
    (hkept : ∀ counted w w', Grows w w' → Counted counted w → Counted counted w')
    (hcount : ∀ w, Yields (connection.count plan.job.target plan.filter) w fun answer w' =>
      ∀ total, answer = .ok total → Counted total w')
    {w : W} {post : Except BulkError Report → W → Prop}
    (h : Yields (plan.run host connection change settings) w post) :
    Yields (plan.run host.breaking connection.breaking change settings).run w fun answer w' =>
      match answer with
      | .ok result => post result w'
      | .error cause =>
          cause.Grounded settings (Counted · w') ∧ ∃ result w'', Grows w' w'' ∧ post result w'' := by
  have hcause := run_grounded hhost plan change settings Counted
    (fun counted w hw => (hinterrupted w).mono fun _ _ hgrows => hkept _ _ _ hgrows hw)
    (fun counted => hconn.keeps (hkept counted)) hcount w
  have hend : Truncates Grows (plan.run host.breaking connection.breaking change settings)
      (plan.run host connection change settings) :=
    run_alike (host_breaking_alike hgrowth hhost hinterrupted)
      (connection_breaking_alike hgrowth hconn) plan change settings
  refine (hcause.and (hend.yields h)).mono fun answer w' hanswer => ?_
  cases answer with
  | ok result => exact hanswer.2
  | error cause => exact ⟨hanswer.1 cause rfl, hanswer.2⟩

end Runs

end BulkSweep

import BulkSweep.Proofs.Retry.Pauses
import BulkSweep.Proofs.Run.Leads

/-!
# Reckonings

A reckoning says of actions what they end in, whatever they are actions of: the world, a run with its tally,
or a program that may break off.  What holds before every try of an action carries over to the result of all
tries (`Reckoning.conditional`).  A pause between them matters only as far as it is too long to be told,
and of a policy whose first pause can be told with half of it added none is.
-/

set_option autoImplicit false

namespace BulkSweep

/-- A way to say of actions what they end in: from a state, in a result and a state. -/
structure Reckoning (n : Type → Type) [Monad n] (S : Type) where
  /-- from a state, an action ends in a result and a state with a property -/
  Ends : {β : Type} → n β → S → (β → S → Prop) → Prop
  mono : ∀ {β : Type} {act : n β} {s : S} {post post' : β → S → Prop},
    Ends act s post → (∀ b s', post b s' → post' b s') → Ends act s post'
  pure : ∀ {β : Type} {b : β} {s : S} {post : β → S → Prop}, post b s → Ends (Pure.pure b) s post
  bind : ∀ {β γ : Type} {act : n β} {next : β → n γ} {s : S} {post : γ → S → Prop},
    Ends act s (fun b s' => Ends (next b) s' post) → Ends (act >>= next) s post

namespace Reckoning

/-- Actions on the world. -/
def world {σ W : Type} : Reckoning (StateT W (StateM σ)) W where
  Ends := Yields
  mono := Yields.mono
  pure := yields_pure
  bind := yields_bind

variable {n : Type → Type} [Monad n] {S : Type}

/-- Actions with a tally. -/
def tallied (R : Reckoning n S) : Reckoning (StateT Tally n) (Tally × S) where
  Ends := fun act s post => R.Ends (act.run s.1) s.2 fun answer w => post answer.1 (answer.2, w)
  mono := fun h himp => R.mono h fun answer w => himp answer.1 (answer.2, w)
  pure := fun h => R.pure h
  bind := fun h => R.bind h

/-- Actions that may break off: where one does, something holds of the cause and of the state. -/
def breaking (R : Reckoning n S) (off : Overflow → S → Prop) :
    Reckoning (ExceptT Overflow n) S where
  Ends := fun act s post => R.Ends act.run s fun answer s' =>
    match answer with
    | .ok b => post b s'
    | .error cause => off cause s'
  mono := fun h himp => R.mono h fun answer s' hanswer => by
    cases answer with
    | ok b => exact himp b s' hanswer
    | error cause => exact hanswer
  pure := fun h => R.pure h
  bind := fun h => R.bind (R.mono h fun answer s' hanswer => by
    cases answer with
    | ok b => exact hanswer
    | error cause => exact R.pure hanswer)

/-! ## Properties that are kept -/

/-- An action keeps a property of the state, whatever it answers. -/
def Keeps (R : Reckoning n S) (P : S → Prop) {α : Type} (act : n α) : Prop :=
  ∀ s, P s → R.Ends act s fun _ s' => P s'

section Keeping

variable {R : Reckoning n S} {P : S → Prop} {α β : Type}

theorem keeps_pure (a : α) : R.Keeps P (Pure.pure a : n α) :=
  fun _ h => R.pure h

theorem Keeps.bind {act : n α} {next : α → n β} (hact : R.Keeps P act)
    (hnext : ∀ a, R.Keeps P (next a)) : R.Keeps P (act >>= next) :=
  fun s h => R.bind (R.mono (hact s h) fun a s' h' => hnext a s' h')

theorem Keeps.ends {act : n α} (hact : R.Keeps P act) {s : S} (h : P s) :
    R.Ends act s fun _ _ => True :=
  R.mono (hact s h) fun _ _ _ => trivial

theorem Keeps.ite {p : Prop} [Decidable p] {act other : n α} (hact : R.Keeps P act)
    (hother : R.Keeps P other) : R.Keeps P (if p then act else other) := by
  split
  · exact hact
  · exact hother

variable {I : Tally × S → Prop}

theorem keeps_get : R.tallied.Keeps I (get : StateT Tally n Tally) :=
  fun _ h => R.pure h

theorem keeps_modify {change : Tally → Tally} (h : ∀ t s, I (t, s) → I (change t, s)) :
    R.tallied.Keeps I (modify change : StateT Tally n PUnit) :=
  fun s hs => R.pure (h s.1 s.2 hs)

/-- An action without a tally keeps what it keeps for each tally. -/
theorem keeps_lift {act : n α} (h : ∀ t, R.Keeps (fun s => I (t, s)) act) :
    R.tallied.Keeps I (liftM act : StateT Tally n α) :=
  fun s hs => R.bind (R.mono (h s.1 s.2 hs) fun _ _ h' => R.pure h')

theorem ends_get_bind {next : Tally → StateT Tally n β} {s : Tally × S}
    {post : β → Tally × S → Prop} (h : R.tallied.Ends (next s.1) s post) :
    R.tallied.Ends (get >>= next) s post :=
  R.bind (R.pure h)

theorem ends_lift_bind {act : n α} {next : α → StateT Tally n β} {s : Tally × S}
    {post : β → Tally × S → Prop}
    (h : R.Ends act s.2 fun a w => R.tallied.Ends (next a) (s.1, w) post) :
    R.tallied.Ends (liftM act >>= next) s post :=
  R.bind (R.bind (R.mono h fun _ _ h' => R.pure h'))

end Keeping

/-! ## Tries -/

section Tries

variable {α φ ε : Type}

/-- Pauses of a policy that keep a property.  Only of a policy of which some pause may be too long to be
told need this hold when a program breaks off. -/
structure Pauses (R : Reckoning n S) (policy : Retry.Policy) (P : S → Prop)
    (back : Retry.BackOff n) : Prop where
  draw : R.Keeps P back.draw
  sleep : ∀ nanos, R.Keeps P (back.sleep nanos)
  note : ∀ line, R.Keeps P (back.note line)
  overflow : ∀ nanos, Retry.maxTime < nanos → ¬policy.Tellable → R.Keeps P (back.overflow nanos)

/-- A length due, in a retry of a policy. -/
structure Due (policy : Retry.Policy) (due : Nat) : Prop where
  pos : 0 < due
  tellable : policy.Tellable → due + due / 2 ≤ Retry.maxTime

theorem Pauses.wait {R : Reckoning n S} {policy : Retry.Policy} {P : S → Prop}
    {back : Retry.BackOff n} (hback : R.Pauses policy P back) {due : Nat} (hdue : Due policy due) {s : S}
    (h : P s) : R.Ends (back.wait due) s fun next s' => Due policy next ∧ P s' := by
  refine R.bind (R.mono (hback.draw s h) fun draw drawn hdrawn => ?_)
  have hslept (told : S) (htold : P told) :
      R.Ends (back.sleep (Retry.lengthen due draw) >>= fun _ => Pure.pure
        (2 * Retry.lengthen due draw)) told fun next s' => Due policy next ∧ P s' := by
    refine R.bind (R.mono (hback.sleep _ told htold) fun _ slept hslept => R.pure ⟨?_, hslept⟩)
    exact ⟨Nat.mul_pos Nat.zero_lt_two (Retry.lengthen_pos hdue.pos draw),
      fun _ => Retry.tellable_lengthen due draw⟩
  have hjitter := Retry.jitter_le hdue.pos draw
  dsimp only
  split
  · rename_i hlong
    have huntold : ¬policy.Tellable := fun htold => by
      have := hdue.tellable htold
      omega
    exact R.bind (R.mono (hback.overflow _ hlong huntold drawn hdrawn) fun _ => hslept)
  · exact hslept drawn hdrawn

/-- What holds before every try of an action, `Inv` with the number of tries before it, carries over
to the result of all tries. -/
theorem conditional (R : Reckoning n S) {back : Retry.BackOff n} (policy : Retry.Policy)
    (Inv : Nat → S → Prop) (hback : ∀ i, R.Pauses policy (Inv i) back)
    {act : n (Retry.Attempt α φ ε)} {post : Except (Retry.Failure φ ε) α → S → Prop}
    (hstep : ∀ i s, i < policy.attempts → Inv i s → R.Ends act s fun answer s' =>
      match answer with
      | .done a => post (.ok a) s'
      | .fatal f => post (.error (.fatal f)) s'
      | .again e =>
          if i + 1 = policy.attempts then post (.error (.exhausted policy.attempts e)) s'
          else Inv (i + 1) s')
    {s : S} (h : Inv 0 s) : R.Ends (policy.conditional back act) s post := by
  -- the induction is on the tries that are left after this one, which has the number `i`
  have hloop : ∀ left i attempt due s, left + i + 1 = policy.attempts → Due policy due → Inv i s →
      R.Ends (Retry.conditionalFrom back policy.attempts act left attempt due) s post := by
    intro left
    induction left with
    | zero =>
        intro i attempt due s hlast hdue hinv
        refine R.bind (R.mono (hstep i s (by omega) hinv) fun answer s' hanswer => ?_)
        cases answer with
        | done a => exact R.pure hanswer
        | fatal f => exact R.pure hanswer
        | again e =>
            dsimp only at hanswer
            rw [if_pos (by omega)] at hanswer
            exact R.pure hanswer
    | succ left ih =>
        intro i attempt due s hmore hdue hinv
        refine R.bind (R.mono (hstep i s (by omega) hinv) fun answer s' hanswer => ?_)
        cases answer with
        | done a => exact R.pure hanswer
        | fatal f => exact R.pure hanswer
        | again e =>
            dsimp only at hanswer
            rw [if_neg (by omega)] at hanswer
            refine R.bind (R.mono ((hback (i + 1)).note _ s' hanswer) fun _ noted hnoted => ?_)
            refine R.bind (R.mono ((hback (i + 1)).wait hdue hnoted) fun next waited hwaited => ?_)
            exact ih (i + 1) _ next waited (by omega) hwaited.1 hwaited.2
  have := policy.attempts_pos
  exact hloop _ 0 _ _ s (by omega) ⟨policy.pause_pos, id⟩ h

end Tries

end Reckoning

/-- What an action of a run leads to. -/
theorem Reckoning.tallied_ends {σ W α : Type} {act : StateT Tally (StateT W (StateM σ)) α} {t : Tally}
    {w : W} {post : α → Tally × W → Prop} :
    Reckoning.world.tallied.Ends act (t, w) post ↔ Leads act t w fun a t' w' => post a (t', w') :=
  Iff.rfl

/-- What an action on the world that may break off ends in. -/
theorem Reckoning.breaking_ends {σ W α : Type} {off : Overflow → W → Prop}
    {act : ExceptT Overflow (StateT W (StateM σ)) α} {w : W} {post : α → W → Prop} :
    (Reckoning.world.breaking off).Ends act w post ↔ Yields act.run w fun answer w' =>
      match answer with
      | .ok a => post a w'
      | .error cause => off cause w' :=
  Iff.rfl

/-- An action on the world that is a bystander keeps every property of it. -/
theorem Bystander.keeps {σ W α : Type} {act : StateT W (StateM σ) α} (hact : Bystander act)
    (P : W → Prop) : Reckoning.world.Keeps P act :=
  fun _ h => hact.yields fun _ => h

end BulkSweep

import BulkSweep.Proofs.Retry.Tries

/-!
# The pauses of a retry

A pause is as long as the length due or up to half longer, and twice the last pause is due for the next
one (`lengthen_bounds`, `pauseAt_succ`).  So the pauses of a retry grow at least twofold and at most
threefold until they reach the longest pause, where they stay; and no length on the way is too long to
be told (`pauses_bounded`).
-/

set_option autoImplicit false

namespace BulkSweep.Retry

/-! ## One pause -/

theorem jitter_le {due : Nat} (h : 0 < due) (draw : Nat) : jitter due draw ≤ due / 2 := by
  have hbelow : draw % min due (2 ^ 64 - 1) < min due (2 ^ 64 - 1) :=
    Nat.mod_lt _ (Nat.lt_min.mpr ⟨h, by decide⟩)
  have hshort : draw % min due (2 ^ 64 - 1) ≤ due :=
    Nat.le_trans (Nat.le_of_lt hbelow) (Nat.min_le_left _ _)
  exact Nat.div_le_div_right hshort

/-- A pause is no shorter than the length due and at most half longer, unless it would be longer than a
pause can be. -/
theorem lengthen_bounds {due : Nat} (h : 0 < due) (draw : Nat) :
    min due maxPause ≤ lengthen due draw ∧ lengthen due draw ≤ min (due + due / 2) maxPause := by
  have hjitter := jitter_le h draw
  unfold lengthen
  omega

theorem lengthen_pos {due : Nat} (h : 0 < due) (draw : Nat) : 0 < lengthen due draw := by
  have hbounds := (lengthen_bounds h draw).1
  have hlong : 0 < maxPause := by decide
  omega

/-! ## Pause after pause -/

/-- The length due for the pause with the given number, counted from zero. -/
def dueAt (due : Nat) (draws : Nat → Nat) : Nat → Nat
  | 0 => due
  | k + 1 => 2 * lengthen (dueAt due draws k) (draws k)

/-- The pause with the given number, counted from zero. -/
def pauseAt (due : Nat) (draws : Nat → Nat) (k : Nat) : Nat :=
  lengthen (dueAt due draws k) (draws k)

variable {due : Nat} {draws : Nat → Nat}

theorem dueAt_succ (due : Nat) (draws : Nat → Nat) (k : Nat) :
    dueAt due draws (k + 1) = dueAt (2 * lengthen due (draws 0)) (fun i => draws (i + 1)) k := by
  induction k with
  | zero => rfl
  | succ k ih => rw [dueAt, ih, dueAt]

theorem pauses_eq_map (due : Nat) (draws : Nat → Nat) (k : Nat) :
    pauses due draws k = (List.range k).map (pauseAt due draws) := by
  induction k generalizing due draws with
  | zero => rfl
  | succ k ih =>
    rw [pauses, ih, List.range_succ_eq_map, List.map_cons, List.map_map]
    refine congrArg (lengthen due (draws 0) :: ·) (List.map_congr_left fun i _ => ?_)
    rw [Function.comp_apply, pauseAt, pauseAt, dueAt_succ]

theorem dueAt_pos (h : 0 < due) (draws : Nat → Nat) (k : Nat) : 0 < dueAt due draws k := by
  induction k with
  | zero => exact h
  | succ k ih => exact Nat.mul_pos Nat.zero_lt_two (lengthen_pos ih _)

theorem pauseAt_zero (h : 0 < due) (draws : Nat → Nat) :
    min due maxPause ≤ pauseAt due draws 0 ∧
      pauseAt due draws 0 ≤ min (due + due / 2) maxPause :=
  lengthen_bounds h (draws 0)

/-- From one pause to the next. -/
theorem pauseAt_succ (h : 0 < due) (draws : Nat → Nat) (k : Nat) :
    min (2 * pauseAt due draws k) maxPause ≤ pauseAt due draws (k + 1) ∧
      pauseAt due draws (k + 1) ≤ min (3 * pauseAt due draws k) maxPause := by
  have hbounds := lengthen_bounds (dueAt_pos h draws (k + 1)) (draws (k + 1))
  have hdue : dueAt due draws (k + 1) = 2 * pauseAt due draws k := rfl
  rw [hdue] at hbounds
  have hpause : pauseAt due draws (k + 1) = lengthen (2 * pauseAt due draws k) (draws (k + 1)) := rfl
  rw [hpause]
  omega

theorem pauseAt_le_maxPause (due : Nat) (draws : Nat → Nat) (k : Nat) :
    pauseAt due draws k ≤ maxPause :=
  Nat.min_le_right _ _

theorem pauseAt_mono (h : 0 < due) (draws : Nat → Nat) {k l : Nat} (hkl : k ≤ l) :
    pauseAt due draws k ≤ pauseAt due draws l := by
  induction hkl with
  | refl => exact Nat.le_refl _
  | @step l _ ih =>
    have hnext := (pauseAt_succ h draws l).1
    have hshort := pauseAt_le_maxPause due draws l
    change _ ≤ pauseAt due draws (l + 1)
    omega

/-- Pauses double at least, as long as they can. -/
theorem le_pauseAt (h : 0 < due) (draws : Nat → Nat) (k : Nat) :
    min (due * 2 ^ k) maxPause ≤ pauseAt due draws k := by
  induction k with
  | zero => simpa using (pauseAt_zero h draws).1
  | succ k ih =>
    have hnext := (pauseAt_succ h draws k).1
    have hdouble : due * 2 ^ (k + 1) = 2 * (due * 2 ^ k) := by
      rw [Nat.pow_succ, ← Nat.mul_assoc, Nat.mul_comm]
    rw [hdouble]
    omega

/-! ## Lengths that can be told -/

/-- The first pause of a policy can be told with half of it added. -/
def Policy.Tellable (p : Policy) : Prop :=
  p.pause + p.pause / 2 ≤ maxTime

/-- After any pause, the length due can be told with half of it added. -/
theorem tellable_lengthen (due draw : Nat) :
    2 * lengthen due draw + 2 * lengthen due draw / 2 ≤ maxTime := by
  have hcap : lengthen due draw ≤ maxPause := Nat.min_le_right _ _
  have hlong : 3 * maxPause ≤ maxTime := by decide
  omega

/-- A length of time, unless it is too long to be told. -/
def told? (time : Nat) : Option Nat :=
  if time ≤ maxTime then some time else none

/-- The first pauses of a retry by arithmetic that ends when a sum or a product is too long to be
told. -/
def pauses? (due : Nat) (draws : Nat → Nat) : Nat → Option (List Nat)
  | 0 => some []
  | k + 1 => do
    let longer ← told? (due + jitter due (draws 0))
    let pause := min longer maxPause
    let next ← told? (2 * pause)
    let more ← pauses? next (fun i => draws (i + 1)) k
    return pause :: more

/-- If the first length due can be told with half of it added, so can all lengths after it. -/
theorem pauses?_eq_some (hpos : 0 < due) (h : due + due / 2 ≤ maxTime) (draws : Nat → Nat) (k : Nat) :
    pauses? due draws k = some (pauses due draws k) := by
  induction k generalizing due draws with
  | zero => rfl
  | succ k ih =>
    have hlong : maxPause + maxPause + maxPause ≤ maxTime := by decide
    have hjitter := jitter_le hpos (draws 0)
    have hcap : lengthen due (draws 0) ≤ maxPause := Nat.min_le_right _ _
    have hsum : told? (due + jitter due (draws 0)) = some (due + jitter due (draws 0)) :=
      if_pos (by omega)
    have hdouble : told? (2 * lengthen due (draws 0)) = some (2 * lengthen due (draws 0)) :=
      if_pos (by omega)
    have hmore := ih (Nat.mul_pos Nat.zero_lt_two (lengthen_pos hpos (draws 0))) (by omega)
      fun i => draws (i + 1)
    rw [pauses?, hsum]
    change (told? (2 * lengthen due (draws 0))).bind _ = _
    rw [hdouble, Option.bind_some, hmore]
    rfl

/-! ## Retries -/

/-- The pauses in a log. -/
def waited (log : List Event) : List Nat :=
  log.filterMap fun
    | .call => none
    | .sleep pause => some pause

theorem waited_spaced (pauses : List Nat) : waited (spaced pauses) = pauses := by
  induction pauses with
  | nil => rfl
  | cons pause more ih => exact congrArg (pause :: ·) ih

/-- The pauses of a retry that may try so often, from the first length due and the draws. -/
structure BacksOff (due attempts : Nat) (draws : Nat → Nat) (pauses : List Nat) : Prop where
  /-- the number of a try never exceeds that of the tries -/
  few : pauses.length < attempts
  /-- no sum and no product on the way is too long to be told -/
  told : pauses? due draws pauses.length = some pauses
  /-- the first pause -/
  first : ∀ s, pauses[0]? = some s → min due maxPause ≤ s ∧ s ≤ min (due + due / 2) maxPause
  /-- each next pause -/
  next : ∀ k s s', pauses[k]? = some s → pauses[k + 1]? = some s' →
    min (2 * s) maxPause ≤ s' ∧ s' ≤ min (3 * s) maxPause
  /-- pauses never decrease -/
  mono : List.Pairwise (fun (s s' : Nat) => s ≤ s') pauses
  /-- none is longer than a pause can be -/
  capped : ∀ s ∈ pauses, s ≤ maxPause
  /-- they double at least, as long as they can -/
  grown : ∀ k s, pauses[k]? = some s → min (due * 2 ^ k) maxPause ≤ s
  /-- after a pause that is as long as can be all are -/
  stays : ∀ (k l s : Nat), k ≤ l → pauses[k]? = some maxPause → pauses[l]? = some s → s = maxPause

theorem getElem?_pauses {k i s : Nat} (h : (pauses due draws k)[i]? = some s) :
    s = pauseAt due draws i := by
  rw [pauses_eq_map, List.getElem?_map, Option.map_eq_some_iff] at h
  obtain ⟨j, hj, rfl⟩ := h
  obtain ⟨hi, rfl⟩ := List.getElem?_eq_some_iff.mp hj
  rw [List.getElem_range]

theorem pauses_backsOff {attempts k : Nat} (hk : k < attempts) (hpos : 0 < due)
    (h : due + due / 2 ≤ maxTime) (draws : Nat → Nat) :
    BacksOff due attempts draws (pauses due draws k) where
  few := by rwa [length_pauses]
  told := by rw [length_pauses, pauses?_eq_some hpos h]
  first := fun s hs => by
    rw [getElem?_pauses hs]
    exact pauseAt_zero hpos draws
  next := fun i s s' hs hs' => by
    rw [getElem?_pauses hs, getElem?_pauses hs']
    exact pauseAt_succ hpos draws i
  mono := by
    rw [pauses_eq_map, List.pairwise_map]
    exact List.pairwise_lt_range.imp fun hlt => pauseAt_mono hpos draws (Nat.le_of_lt hlt)
  capped := fun s hs => by
    rw [pauses_eq_map] at hs
    obtain ⟨i, -, rfl⟩ := List.mem_map.mp hs
    exact pauseAt_le_maxPause due draws i
  grown := fun i s hs => by
    rw [getElem?_pauses hs]
    exact le_pauseAt hpos draws i
  stays := fun i j s hij hi hj => by
    have hmono := pauseAt_mono hpos draws hij
    rw [← getElem?_pauses hi, ← getElem?_pauses hj] at hmono
    rw [getElem?_pauses hj] at hmono ⊢
    exact Nat.le_antisymm (pauseAt_le_maxPause due draws j) hmono

/-- The pauses of a retry are bounded, whatever its tries end with. -/
theorem conditional_backsOff {α φ ε : Type} (p : Policy) (h : p.pause + p.pause / 2 ≤ maxTime)
    (draws : Nat → Nat) (outcomes : Nat → Attempt α φ ε) :
    let log := ((p.conditional (waiting draws) (scripted outcomes)).run []).2
    sleeps log = (waited log).length ∧ calls log = (waited log).length + 1 ∧
      BacksOff p.pause p.attempts draws (waited log) := by
  intro log
  have hlog : log = spaced (pauses p.pause draws (firstEnd p.attempts outcomes - 1)) :=
    congrArg Prod.snd (run_conditional p draws outcomes)
  have hfew : firstEnd p.attempts outcomes - 1 < p.attempts := by
    have hpos := p.attempts_pos
    have hfound : (List.range (p.attempts - 1)).findIdx (fun i => (outcomes i).ends)
        ≤ (List.range (p.attempts - 1)).length := List.findIdx_le_length
    rw [List.length_range] at hfound
    have hfirst := firstEnd_succ (p.attempts - 1) outcomes
    rw [Nat.sub_add_cancel hpos] at hfirst
    omega
  obtain ⟨hcalls, hsleeps⟩ :=
    counts_spaced (pauses p.pause draws (firstEnd p.attempts outcomes - 1))
  rw [hlog, waited_spaced]
  exact ⟨hsleeps, hcalls, pauses_backsOff hfew p.pause_pos h draws⟩

/-- The pauses of both retries are bounded by the first length due, whatever is drawn and whatever the
tries end with.  The only condition is that this length can be told with half of it added. -/
theorem pauses_bounded (n pause : Nat)
    (h : (Policy.of n pause).pause + (Policy.of n pause).pause / 2 ≤ maxTime) (draws : Nat → Nat) :
    (Policy.of n pause).pause = (if pause = 0 then second else pause) ∧
      (∀ {α φ ε : Type} (outcomes : Nat → Attempt α φ ε),
        let log :=
          (((Policy.of n pause).conditional (waiting draws) (scripted outcomes)).run []).2
        sleeps log = (waited log).length ∧ calls log = (waited log).length + 1 ∧
          BacksOff (Policy.of n pause).pause (max n 1) draws (waited log)) ∧
      ∀ {α ε : Type} (results : Nat → Except ε α),
        let log := (((Policy.of n pause).plain (waiting draws) (scripted results)).run []).2
        sleeps log = (waited log).length ∧ calls log = (waited log).length + 1 ∧
          BacksOff (Policy.of n pause).pause (max n 1) draws (waited log) := by
  refine ⟨rfl, fun outcomes => conditional_backsOff (.of n pause) h draws outcomes,
    fun results => ?_⟩
  -- a retry after every error logs what one does whose errors may all pass
  have hscript : Attempt.ofExcept <$> scripted results
      = scripted fun i => Attempt.ofExcept (results i) := rfl
  rw [plain_eq_conditional (fun _ => rfl) (.of n pause), hscript, StateT.run_map]
  exact conditional_backsOff (.of n pause) h draws fun i => Attempt.ofExcept (results i)

/-- A retry that never succeeds, with twenty seconds due for its first pause and draws of ten: this pause
is five seconds longer, and after it all are the longest. -/
theorem pauses_bounded_of_failures :
    let log := (((Policy.of 4 (20 * second)).plain (waiting fun _ => 10 * second)
      (scripted fun _ => (.error "busy" : Except String Unit))).run []).2
    20 * second + 20 * second / 2 ≤ maxTime ∧
      waited log = [25 * second, maxPause, maxPause] ∧
      BacksOff (20 * second) 4 (fun _ => 10 * second) (waited log) := by
  have hshort : 20 * second + 20 * second / 2 ≤ maxTime := by decide
  exact ⟨hshort, by decide,
    ((pauses_bounded 4 (20 * second) hshort fun _ => 10 * second).2.2 fun _ => .error "busy").2.2⟩

end BulkSweep.Retry

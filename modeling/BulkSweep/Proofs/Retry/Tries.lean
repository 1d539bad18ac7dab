import BulkSweep.Retry

/-!
# The tries of a retry

An operation is called until it ends a retry or no try is left, and between two calls there is one
pause (`run_conditional`).  Whether it decides itself what is worth another try, or every error is worth
one, comes to the same calls, pauses and results (`plain_eq_conditional`).
-/

set_option autoImplicit false

namespace BulkSweep.Retry

/-! ## Outcomes -/

section

variable {α φ ε : Type}

/-- Whether a retry ends with an outcome even if tries are left. -/
def Attempt.ends : Attempt α φ ε → Bool
  | .done _ | .fatal _ => true
  | .again _ => false

/-- What a retry of so many tries answers after its last outcome. -/
def Attempt.verdict (attempts : Nat) : Attempt α φ ε → Except (Failure φ ε) α
  | .done result => .ok result
  | .fatal failure => .error (.fatal failure)
  | .again error => .error (.exhausted attempts error)

/-- The outcome of an operation all of whose errors may pass. -/
def Attempt.ofExcept : Except ε α → Attempt α ε ε
  | .ok result => .done result
  | .error error => .again error

/-- The error behind a failure. -/
def Failure.error : Failure ε ε → ε
  | .fatal error | .exhausted _ error => error

/-- The number of the first outcome that ends a retry, counted from one; the number of tries if none of
them has one. -/
def firstEnd (attempts : Nat) (outcomes : Nat → Attempt α φ ε) : Nat :=
  let passed := (List.range attempts).findIdx fun i => (outcomes i).ends
  if passed < attempts then passed + 1 else attempts

variable {outcomes : Nat → Attempt α φ ε}

theorem firstEnd_of_again {attempts : Nat} (h : ∀ i < attempts, (outcomes i).ends = false) :
    firstEnd attempts outcomes = attempts := by
  have hpassed : ((List.range attempts).findIdx fun i => (outcomes i).ends) = attempts := by
    have hnone : ∀ i ∈ List.range attempts, (outcomes i).ends = false := fun i hi =>
      h i (List.mem_range.mp hi)
    simpa using List.findIdx_eq_length.mpr hnone
  simp [firstEnd, hpassed]

/-- Outcomes behind the last try make no difference. -/
theorem firstEnd_of_ends {i : Nat} (h : (outcomes i).ends = true)
    (hbefore : ∀ j < i, (outcomes j).ends = false) (attempts : Nat) :
    firstEnd attempts outcomes = min attempts (i + 1) := by
  by_cases hi : i < attempts
  · have hpassed : ((List.range attempts).findIdx fun i => (outcomes i).ends) = i := by
      rw [List.findIdx_eq (by simpa using hi)]
      simpa using ⟨h, hbefore⟩
    simp only [firstEnd, hpassed, if_pos hi]
    omega
  · rw [firstEnd_of_again fun j hj => hbefore j (by omega)]
    omega

theorem firstEnd_succ (left : Nat) (outcomes : Nat → Attempt α φ ε) :
    firstEnd (left + 1) outcomes = ((List.range left).findIdx fun i => (outcomes i).ends) + 1 := by
  have hle : (List.range left).findIdx (fun i => (outcomes i).ends) ≤ (List.range left).length :=
    List.findIdx_le_length
  rw [List.length_range] at hle
  simp only [firstEnd, List.range_succ, List.findIdx_append, List.length_range, List.findIdx_singleton]
  generalize (List.range left).findIdx (fun i => (outcomes i).ends) = passed at hle ⊢
  by_cases hpassed : passed < left
  · rw [if_pos hpassed, if_pos (Nat.lt_succ_of_lt hpassed)]
  · have heq : passed = left := by omega
    cases (outcomes left).ends with
    | true => simp [heq]
    | false => simp [heq, Nat.add_comm]

end

/-! ## Two kinds of operations -/

theorem mapError_ok {α ε ε' : Type} (f : ε → ε') (a : α) :
    (Except.ok a : Except ε α).mapError f = .ok a :=
  rfl

theorem mapError_error {α ε ε' : Type} (f : ε → ε') (error : ε) :
    (Except.error error : Except ε α).mapError f = .error (f error) :=
  rfl

section

variable {m : Type → Type} [Monad m] [LawfulMonad m] {α ε : Type}

theorem plainFrom_eq_conditionalFrom {b : BackOff m} (hquiet : ∀ text, b.note text = pure ())
    (attempts : Nat) (act : m (Except ε α)) (left attempt pause : Nat) :
    plainFrom b act left attempt pause
      = Except.mapError Failure.error <$>
        conditionalFrom b attempts (Attempt.ofExcept <$> act) left attempt pause := by
  induction left generalizing attempt pause with
  | zero =>
    rw [plainFrom, conditionalFrom, bind_map_left, map_bind]
    refine (bind_pure act).symm.trans (bind_congr fun outcome => ?_)
    cases outcome with
    | ok result => simp [Attempt.ofExcept, mapError_ok]
    | error error => simp [Attempt.ofExcept, mapError_error, Failure.error]
  | succ left ih =>
    rw [plainFrom, conditionalFrom, bind_map_left, map_bind]
    refine bind_congr fun outcome => ?_
    cases outcome with
    | ok result => simp [Attempt.ofExcept, mapError_ok]
    | error error => simp [Attempt.ofExcept, hquiet, ih]

/-- A retry after every error is a retry after the errors that may pass, if all may.  It does the same
things in the same order, its notes apart. -/
theorem plain_eq_conditional {b : BackOff m} (hquiet : ∀ text, b.note text = pure ()) (p : Policy)
    (act : m (Except ε α)) :
    p.plain b act = Except.mapError Failure.error <$> p.conditional b (Attempt.ofExcept <$> act) := by
  rw [Policy.plain, Policy.conditional]
  exact plainFrom_eq_conditionalFrom hquiet p.attempts act _ _ _

end

/-! ## A log of what is done -/

/-- What a retry does, its notes apart. -/
inductive Event where
  /-- it calls the operation -/
  | call
  /-- it waits for so long -/
  | sleep (pause : Nat)
  deriving DecidableEq, Repr

/-- Computations that log what a retry does. -/
abbrev Logged : Type → Type :=
  StateM (List Event)

/-- The number of calls in a log. -/
def calls (log : List Event) : Nat :=
  log.count .call

/-- The number of pauses in a log. -/
def sleeps (log : List Event) : Nat :=
  log.countP (· != .call)

/-- An operation with given outcomes, one for each call. -/
def scripted {α : Type} (outcomes : Nat → α) : Logged α := fun log =>
  (outcomes (calls log), log ++ [.call])

/-- Waiting with given draws, one for each pause. -/
def waiting (draws : Nat → Nat) : BackOff Logged where
  draw := fun log => (draws (sleeps log), log)
  sleep pause := modify (· ++ [.sleep pause])
  note _ := pure ()
  overflow _ := pure ()

/-- Calls with one pause between any two of them. -/
def spaced (pauses : List Nat) : List Event :=
  .call :: pauses.flatMap fun pause => [.sleep pause, .call]

/-- The first pauses of a retry, given the length due and a draw for each. -/
def pauses (due : Nat) (draws : Nat → Nat) : Nat → List Nat
  | 0 => []
  | k + 1 =>
    let pause := lengthen due (draws 0)
    pause :: pauses (2 * pause) (fun i => draws (i + 1)) k

theorem calls_call (log : List Event) : calls (log ++ [.call]) = calls log + 1 := by
  simp [calls]

theorem calls_sleep (log : List Event) (pause : Nat) :
    calls (log ++ [.sleep pause]) = calls log := by
  simp [calls]

theorem sleeps_call (log : List Event) : sleeps (log ++ [.call]) = sleeps log := by
  simp [sleeps]

theorem sleeps_sleep (log : List Event) (pause : Nat) :
    sleeps (log ++ [.sleep pause]) = sleeps log + 1 := by
  simp [sleeps]

/-- There is one call more than there are pauses. -/
theorem counts_spaced (pauses : List Nat) :
    calls (spaced pauses) = pauses.length + 1 ∧ sleeps (spaced pauses) = pauses.length := by
  induction pauses with
  | nil => exact ⟨rfl, rfl⟩
  | cons pause more ih =>
    have hspaced : spaced (pause :: more) = .call :: .sleep pause :: spaced more := rfl
    obtain ⟨hcalls, hsleeps⟩ := ih
    rw [calls] at hcalls
    rw [sleeps] at hsleeps
    simp [hspaced, calls, sleeps, hcalls, hsleeps]

theorem length_pauses (due : Nat) (draws : Nat → Nat) (k : Nat) : (pauses due draws k).length = k := by
  induction k generalizing due draws with
  | zero => rfl
  | succ k ih => simp [pauses, ih]

/-! ## Runs -/

theorem run_scripted {α : Type} (outcomes : Nat → α) (log : List Event) :
    (scripted outcomes).run log = (outcomes (calls log), log ++ [.call]) :=
  rfl

theorem run_wait (draws : Nat → Nat) (due : Nat) (log : List Event) :
    ((waiting draws).wait due).run log
      = (2 * lengthen due (draws (sleeps log)),
          log ++ [.sleep (lengthen due (draws (sleeps log)))]) := by
  have hdraw : (waiting draws).draw.run log = (draws (sleeps log), log) := rfl
  rw [BackOff.wait, StateT.run_bind, hdraw]
  change (if _ then _ else _ : Logged Nat).run log = _
  split <;> rfl

theorem run_note (draws : Nat → Nat) (text : String) : (waiting draws).note text = pure () :=
  rfl

/-- What is done after a run starts from its result and its log. -/
theorem run_bind_of_run {β γ : Type} {first : Logged β} {next : β → Logged γ} {b : β}
    {log log' : List Event} (h : first.run log = (b, log')) :
    (first >>= next).run log = (next b).run log' := by
  rw [StateT.run_bind, h]
  rfl

section

variable {α φ ε : Type} {outcomes : Nat → Attempt α φ ε} {log : List Event}

/-- If no try is left any outcome is the last one. -/
theorem run_conditionalFrom_zero (b : BackOff Logged) (attempts attempt due : Nat) :
    (conditionalFrom b attempts (scripted outcomes) 0 attempt due).run log
      = ((outcomes (calls log)).verdict attempts, log ++ [.call]) := by
  rw [conditionalFrom, run_bind_of_run (run_scripted outcomes log)]
  cases outcomes (calls log) <;> rfl

/-- So is an outcome that ends a retry. -/
theorem run_conditionalFrom_ends (b : BackOff Logged) (attempts left attempt due : Nat)
    (h : (outcomes (calls log)).ends = true) :
    (conditionalFrom b attempts (scripted outcomes) left attempt due).run log
      = ((outcomes (calls log)).verdict attempts, log ++ [.call]) := by
  cases left with
  | zero => exact run_conditionalFrom_zero b attempts attempt due
  | succ left =>
    rw [conditionalFrom, run_bind_of_run (run_scripted outcomes log)]
    cases hout : outcomes (calls log) with
    | done result => rfl
    | fatal failure => rfl
    | again error => simp [hout, Attempt.ends] at h

/-- After any other outcome there is a pause, and the retry goes on. -/
theorem run_conditionalFrom_again (draws : Nat → Nat) (attempts left attempt due : Nat)
    (h : (outcomes (calls log)).ends = false) :
    let pause := lengthen due (draws (sleeps log))
    (conditionalFrom (waiting draws) attempts (scripted outcomes) (left + 1) attempt due).run log
      = (conditionalFrom (waiting draws) attempts (scripted outcomes) left (attempt + 1)
          (2 * pause)).run (log ++ [.call] ++ [.sleep pause]) := by
  intro pause
  rw [conditionalFrom, run_bind_of_run (run_scripted outcomes log)]
  cases hout : outcomes (calls log) with
  | done result => simp [hout, Attempt.ends] at h
  | fatal failure => simp [hout, Attempt.ends] at h
  | again error =>
    have hslept : sleeps (log ++ [.call]) = sleeps log := sleeps_call log
    have hwait := run_wait draws due (log ++ [.call])
    rw [hslept] at hwait
    simp only [run_note, pure_bind]
    exact run_bind_of_run hwait

theorem findIdx_range'_succ (first left : Nat) (p : Nat → Bool) :
    (List.range' first (left + 1)).findIdx p
      = if p first then 0 else (List.range' (first + 1) left).findIdx p + 1 := by
  rw [List.range'_succ, List.findIdx_cons]
  cases p first <;> simp

/-- The tries from one place on: of those that are left, as many are made as end with an error that may
pass. -/
theorem run_conditionalFrom (draws : Nat → Nat) (attempts left attempt due done : Nat)
    (hcalls : calls log = done) (hsleeps : sleeps log = done) :
    let k := (List.range' done left).findIdx fun i => (outcomes i).ends
    (conditionalFrom (waiting draws) attempts (scripted outcomes) left attempt due).run log
      = ((outcomes (done + k)).verdict attempts,
          log ++ spaced (pauses due (fun i => draws (done + i)) k)) := by
  induction left generalizing attempt due done log with
  | zero =>
    intro k
    rw [run_conditionalFrom_zero, hcalls]
    rfl
  | succ left ih =>
    intro k
    by_cases hends : (outcomes done).ends = true
    · have hk : k = 0 := by simp [k, findIdx_range'_succ, hends]
      rw [run_conditionalFrom_ends _ _ _ _ _ (by rw [hcalls]; exact hends), hcalls, hk]
      rfl
    · have hagain : (outcomes done).ends = false := Bool.eq_false_iff.mpr hends
      let later := (List.range' (done + 1) left).findIdx fun i => (outcomes i).ends
      have hk : k = later + 1 := by simp [k, later, findIdx_range'_succ, hagain]
      have hplace : done + (later + 1) = done + 1 + later := by omega
      have hdraws : (fun i => draws (done + (i + 1))) = fun i => draws (done + 1 + i) := by
        funext i
        congr 1
        omega
      rw [run_conditionalFrom_again _ _ _ _ _ (by rw [hcalls]; exact hagain), hsleeps, hk, hplace,
        ih _ _ (done + 1) (by rw [calls_sleep, calls_call, hcalls])
          (by rw [sleeps_sleep, sleeps_call, hsleeps])]
      simp [pauses, spaced, hdraws, later]

/-- A retry of an operation that decides itself, from its first call to its last. -/
theorem run_conditional (p : Policy) (draws : Nat → Nat) (outcomes : Nat → Attempt α φ ε) :
    (p.conditional (waiting draws) (scripted outcomes)).run []
      = ((outcomes (firstEnd p.attempts outcomes - 1)).verdict p.attempts,
          spaced (pauses p.pause draws (firstEnd p.attempts outcomes - 1))) := by
  have hfirst : firstEnd p.attempts outcomes
      = ((List.range' 0 (p.attempts - 1)).findIdx fun i => (outcomes i).ends) + 1 := by
    rw [← List.range_eq_range', ← firstEnd_succ, Nat.sub_add_cancel p.attempts_pos]
  rw [Policy.conditional, run_conditionalFrom draws p.attempts (p.attempts - 1) 1 p.pause 0 rfl rfl,
    hfirst, Nat.add_sub_cancel]
  simp only [Nat.zero_add, List.nil_append]

end

end BulkSweep.Retry

import BulkSweep.Proofs.Retry.Pauses

/-!
# Retries that agree

A retry breaks off only where a pause and its random part make up a length that cannot be told.  Of a
policy whose first pause can be told with half of it added, no retry does (`conditional_breaking`,
`plain_breaking`).  Then both retries make the same calls and pauses and come to the same end
(`retries_agree`), except for how the last error is handed out.
-/

set_option autoImplicit false

namespace BulkSweep.Retry

/-! ## Retries that never break off -/

section

variable {m : Type → Type} [Monad m] [LawfulMonad m] {α φ ε fault : Type} {b : BackOff m}
  {cause : Nat → fault} {due : Nat}

/-- What is done after a wait that does not break off. -/
theorem wait_bind_breaking (hpos : 0 < due) (h : due + due / 2 ≤ maxTime)
    (next : Nat → m α) (next' : Nat → ExceptT fault m α)
    (hnext : ∀ draw, next' (2 * lengthen due draw) = liftM (next (2 * lengthen due draw))) :
    (b.breaking cause).wait due >>= next' = liftM (b.wait due >>= next) := by
  have htold (draw : Nat) : ¬ maxTime < due + jitter due draw := by
    have hjitter := jitter_le hpos draw
    omega
  simp only [BackOff.wait, BackOff.breaking, htold, if_false, bind_assoc, pure_bind, liftM_bind, hnext]

theorem conditionalFrom_breaking (hpos : 0 < due) (h : due + due / 2 ≤ maxTime) (attempts : Nat)
    (act : m (Attempt α φ ε)) (left attempt : Nat) :
    conditionalFrom (b.breaking cause) attempts (liftM act) left attempt due
      = liftM (conditionalFrom b attempts act left attempt due) := by
  induction left generalizing attempt due with
  | zero =>
    rw [conditionalFrom, conditionalFrom, liftM_bind]
    refine bind_congr fun outcome => ?_
    cases outcome <;> rw [liftM_pure]
  | succ left ih =>
    rw [conditionalFrom, conditionalFrom, liftM_bind]
    refine bind_congr fun outcome => ?_
    cases outcome with
    | done result => rw [liftM_pure]
    | fatal failure => rw [liftM_pure]
    | again error =>
      rw [liftM_bind]
      refine bind_congr fun _ => wait_bind_breaking hpos h _ _ fun draw => ?_
      exact ih (Nat.mul_pos Nat.zero_lt_two (lengthen_pos hpos draw)) (tellable_lengthen due draw) _

theorem plainFrom_breaking (hpos : 0 < due) (h : due + due / 2 ≤ maxTime) (act : m (Except ε α))
    (left attempt : Nat) :
    plainFrom (b.breaking cause) (liftM act) left attempt due
      = liftM (plainFrom b act left attempt due) := by
  induction left generalizing attempt due with
  | zero => rfl
  | succ left ih =>
    rw [plainFrom, plainFrom, liftM_bind]
    refine bind_congr fun outcome => ?_
    cases outcome with
    | ok result => rw [liftM_pure]
    | error error =>
      rw [liftM_bind]
      refine bind_congr fun _ => wait_bind_breaking hpos h _ _ fun draw => ?_
      exact ih (Nat.mul_pos Nat.zero_lt_two (lengthen_pos hpos draw)) (tellable_lengthen due draw) _

/-- A retry does not break off if its first pause can be told with half of it added. -/
theorem conditional_breaking {p : Policy} (h : p.Tellable) (act : m (Attempt α φ ε)) :
    p.conditional (b.breaking cause) (liftM act) = liftM (p.conditional b act) :=
  conditionalFrom_breaking p.pause_pos h p.attempts act _ _

/-- Neither does a retry after every error. -/
theorem plain_breaking {p : Policy} (h : p.Tellable) (act : m (Except ε α)) :
    p.plain (b.breaking cause) (liftM act) = liftM (p.plain b act) :=
  plainFrom_breaking p.pause_pos h act _ _

end

/-! ## Retries with a log -/

section

variable {α φ ε : Type}

/-- A retry with a log: its result, or the length at which it broke off, and what it has done. -/
def Policy.decided (p : Policy) (draws : Nat → Nat) (outcomes : Nat → Attempt α φ ε) :
    Except Nat (Except (Failure φ ε) α) × List Event :=
  (p.conditional ((waiting draws).breaking id) (liftM (scripted outcomes))).run.run []

/-- A retry after every error with a log. -/
def Policy.persistent (p : Policy) (draws : Nat → Nat) (results : Nat → Except ε α) :
    Except Nat (Except ε α) × List Event :=
  (p.plain ((waiting draws).breaking id) (liftM (scripted results))).run.run []

theorem Policy.decided_eq {p : Policy} (h : p.Tellable) (draws : Nat → Nat)
    (outcomes : Nat → Attempt α φ ε) :
    p.decided draws outcomes =
      (.ok ((outcomes (firstEnd p.attempts outcomes - 1)).verdict p.attempts),
        spaced (pauses p.pause draws (firstEnd p.attempts outcomes - 1))) := by
  have hrun := run_conditional p draws outcomes
  rw [Policy.decided, conditional_breaking h]
  exact congrArg (fun run => (Except.ok run.1, run.2)) hrun

theorem Policy.persistent_eq {p : Policy} (h : p.Tellable) (draws : Nat → Nat)
    (results : Nat → Except ε α) :
    p.persistent draws results =
      ((p.decided draws fun i => Attempt.ofExcept (results i)).1.map (Except.mapError Failure.error),
        (p.decided draws fun i => Attempt.ofExcept (results i)).2) := by
  have hscript : Attempt.ofExcept <$> scripted results
      = scripted fun i => Attempt.ofExcept (results i) := rfl
  rw [Policy.persistent, plain_breaking h, plain_eq_conditional (fun _ => rfl) p, hscript,
    Policy.decided, conditional_breaking h]
  rfl

end

/-- Both retries are bounded, and they agree, if the first pause can be told with half of it added.  If
the operation decides itself what is worth another try, it is called up to the first outcome that ends the
retry, or as often as it may be called at all; between two calls there is one pause, none follows the last
call, and the last outcome decides the result.  If every error is worth another try, the same is done, and
the result is the same, as if the operation said so; but the last error is handed out as it is, and the
number of tries is not told with it. -/
theorem retries_agree (n pause : Nat) (h : (Policy.of n pause).Tellable) (draws : Nat → Nat) :
    (∀ {α φ ε : Type} (outcomes : Nat → Attempt α φ ε),
        let made := firstEnd (max n 1) outcomes
        let run := (Policy.of n pause).decided draws outcomes
        (∀ i, (outcomes i).ends = true → (∀ j < i, (outcomes j).ends = false) →
            made = min (max n 1) (i + 1)) ∧
          ((∀ i, (outcomes i).ends = false) → made = max n 1) ∧
          calls run.2 = made ∧ sleeps run.2 = made - 1 ∧
          run.2 = spaced (pauses (Policy.of n pause).pause draws (made - 1)) ∧
          run.1 = .ok ((outcomes (made - 1)).verdict (max n 1))) ∧
      ∀ {α ε : Type} (results : Nat → Except ε α),
        let (answer, log) := (Policy.of n pause).decided draws fun i => Attempt.ofExcept (results i)
        (Policy.of n pause).persistent draws results
          = (answer.map (Except.mapError Failure.error), log) := by
  refine ⟨fun outcomes => ?_, fun results => Policy.persistent_eq h draws results⟩
  intro made run
  have hrun : run = (.ok ((outcomes (made - 1)).verdict (max n 1)),
      spaced (pauses (Policy.of n pause).pause draws (made - 1))) :=
    Policy.decided_eq h draws outcomes
  have hmade : made - 1 + 1 = made := by
    obtain ⟨left, hleft⟩ : ∃ left, max n 1 = left + 1 := ⟨max n 1 - 1, by omega⟩
    simp only [made, hleft, firstEnd_succ, Nat.add_sub_cancel]
  obtain ⟨hcalls, hsleeps⟩ := counts_spaced (pauses (Policy.of n pause).pause draws (made - 1))
  rw [length_pauses] at hcalls hsleeps
  rw [hrun]
  exact ⟨fun i h hbefore => firstEnd_of_ends h hbefore (max n 1),
    fun h => firstEnd_of_again fun i _ => h i, hcalls.trans hmade, hsleeps, rfl, rfl⟩

/-- Two errors that pass and then a result, with pauses that are not lengthened. -/
theorem retries_agree_of_recovery :
    let outcomes : Nat → Attempt Nat String String := fun i => if i < 2 then .again "busy" else .done i
    (Policy.of 5 millisecond).Tellable ∧
      (Policy.of 5 millisecond).decided (fun _ => 0) outcomes
        = (.ok (.ok 2), [.call, .sleep millisecond, .call, .sleep (2 * millisecond), .call]) := by
  intro outcomes
  have htell : (Policy.of 5 millisecond).Tellable := by
    unfold Policy.Tellable
    decide
  obtain ⟨hfirst, -, -, -, hlog, hanswer⟩ := (retries_agree 5 millisecond htell fun _ => 0).1 outcomes
  have hbefore : ∀ j < 2, (outcomes j).ends = false := by
    intro j hj
    have hbusy : outcomes j = .again "busy" := if_pos hj
    rw [hbusy]
    rfl
  have hmade : firstEnd (max 5 1) outcomes = 3 := hfirst 2 rfl hbefore
  rw [hmade] at hlog hanswer
  exact ⟨htell, Prod.ext hanswer hlog⟩

/-- With the longest first pause that there is, a retry of two tries breaks off after its first call, though
the second one would succeed.  And of two tries that fail, one kind of retry hands out the last error as
it is, the other one with the number of tries. -/
theorem retries_disagree :
    ((Policy.of 2 maxTime).decided (fun _ => 2) fun i =>
        if i = 0 then (.again "busy" : Attempt Unit Unit String) else .done ()) =
        (.error (maxTime + 1), [.call]) ∧
      ((Policy.of 2 second).persistent (fun _ => 0) fun _ => (.error "busy" : Except String Unit)) =
        (.ok (.error "busy"), [.call, .sleep second, .call]) ∧
      ((Policy.of 2 second).decided (fun _ => 0) fun _ =>
        Attempt.ofExcept (.error "busy" : Except String Unit)) =
        (.ok (.error (.exhausted 2 "busy")), [.call, .sleep second, .call]) :=
  ⟨rfl, rfl, rfl⟩

end BulkSweep.Retry

import BulkSweep.Progress
import BulkSweep.Proofs.Numeric.Nearness

/-!
# The remaining time

The time that the rest of a job will take is worked out with doubles, in a few roundings that differ from the
exact numbers by small parts of them.  It can be told, and so the progress line can be drawn, as long as
the total times the seconds since the beginning stays below `2 ^ 63` (`drawable_of_lt`).
-/

set_option autoImplicit false

namespace BulkSweep

open BulkSweep.Numeric

/-! ## Seconds -/

/-- The rest of a duration that makes no whole second. -/
theorem fraction_between {rest : Nat} (h : rest < 10 ^ 9) :
    ((Binary64.ofNat rest).div (.ofNat 1000000000)).Between (4 / 5 * (rest / 10 ^ 9))
      (5 / 4 * (rest / 10 ^ 9)) := by
  have hless : (rest : ℚ) < 10 ^ 9 := by exact_mod_cast h
  have hnonneg : (0 : ℚ) ≤ rest := Nat.cast_nonneg rest
  have hlow : 17 / 16 * (rest : ℚ) = 0 ∨
      2 ^ (-128 : ℤ) ≤ 15 / 16 * (rest : ℚ) / (17 / 16 * (1000000000 : ℕ)) := by
    refine rest.eq_zero_or_pos.imp (fun hzero => by rw [hzero, Nat.cast_zero, mul_zero]) fun hsome => ?_
    have hone : (1 : ℚ) ≤ rest := by exact_mod_cast hsome
    norm_num
    linarith
  have hhigh : 17 / 16 * (rest : ℚ) / (15 / 16 * (1000000000 : ℕ)) ≤ 2 ^ (128 : ℤ) := by
    norm_num
    linarith
  refine ((Binary64.ofNat_between (by omega)).div (Binary64.ofNat_between (by norm_num))
    (by positivity) (by norm_num) hlow hhigh).widen ?_ ?_
  · norm_num
    linarith
  · norm_num
    linarith

/-- The seconds of a duration, of which whole seconds and the rest are rounded apart. -/
theorem secondsOf_between {nanos : Nat} (hpos : 0 < nanos) (hle : nanos ≤ 2 ^ 93) :
    (secondsOf nanos).Between (3 / 4 * ((nanos : ℚ) / 10 ^ 9)) (4 / 3 * ((nanos : ℚ) / 10 ^ 9)) := by
  obtain ⟨whole, hwhole⟩ : ∃ whole, whole = nanos / 1000000000 := ⟨_, rfl⟩
  obtain ⟨rest, hrest⟩ : ∃ rest, rest = nanos % 1000000000 := ⟨_, rfl⟩
  have hsplit : (nanos : ℚ) = 10 ^ 9 * whole + rest := by
    have : nanos = 10 ^ 9 * whole + rest := by omega
    exact_mod_cast this
  have hsome : (1 : ℚ) ≤ nanos := by exact_mod_cast hpos
  have hmuch : (nanos : ℚ) ≤ 2 ^ 93 := by exact_mod_cast hle
  rw [hsplit] at hsome hmuch ⊢
  have hw : (0 : ℚ) ≤ whole := Nat.cast_nonneg whole
  have hr : (0 : ℚ) ≤ rest := Nat.cast_nonneg rest
  unfold secondsOf
  rw [← hwhole, ← hrest]
  refine ((Binary64.ofNat_between (by omega)).add (fraction_between (by omega)) (by positivity)
    (by positivity) ?_ ?_).widen ?_ ?_
  · norm_num
    linarith
  · norm_num
    linarith
  · linarith
  · linarith

namespace Tracker

variable {t : Tracker} {now : Nat}

/-! ## Speed -/

theorem speed_of_none (h : t.current = 0 ∨ t.elapsed now = 0) : (t.speed now).isZero = true := by
  have hzero : Binary64.zero.isZero = true := rfl
  unfold speed
  dsimp only
  split
  · exact hzero
  · rename_i hsome
    rcases h with h | h
    · obtain ⟨negative, hzero⟩ := Binary64.exists_zero_div (secondsOf (t.elapsed now))
      rw [h, hzero]
      cases negative <;> rfl
    · rw [h] at hsome
      exact absurd (by decide) hsome

/-- How many are done per second, once one is done and some time has passed. -/
theorem speed_between (hdone : 0 < t.current) (hle : t.current ≤ 2 ^ 93) (hpos : 0 < t.elapsed now)
    (hlate : t.elapsed now ≤ 2 ^ 93) (hspeed : ¬(t.speed now).isZero = true) :
    (t.speed now).Between (5 / 8 * (t.current / (t.elapsed now / 10 ^ 9)))
      (2 * (t.current / (t.elapsed now / 10 ^ 9))) := by
  have hseconds := secondsOf_between hpos hlate
  have hcurrent := Binary64.ofNat_between (n := t.current) (by omega)
  obtain ⟨time, htime⟩ : ∃ time : ℚ, time = t.elapsed now / 10 ^ 9 := ⟨_, rfl⟩
  rw [← htime] at hseconds ⊢
  have hone : (1 : ℚ) ≤ t.current := by exact_mod_cast hdone
  have hfew : (t.current : ℚ) ≤ 2 ^ 93 := by exact_mod_cast hle
  have hlow : 1 / 10 ^ 9 ≤ time := by
    rw [htime]
    gcongr
    exact_mod_cast hpos
  have hhigh : time ≤ 2 ^ 93 / 10 ^ 9 := by
    rw [htime]
    gcongr
    exact_mod_cast hlate
  have htpos : 0 < time := lt_of_lt_of_le (by norm_num) hlow
  have hquotient := hcurrent.div hseconds (by positivity) (by positivity)
    (.inr (by
      rw [le_div_iff₀ (by positivity)]
      norm_num at hhigh ⊢
      linarith))
    (by
      rw [div_le_iff₀ (by positivity)]
      norm_num at hlow ⊢
      linarith)
  have hsome : ¬(secondsOf (t.elapsed now)).isZero = true := fun hzero => by
    rw [speed, if_pos hzero] at hspeed
    exact hspeed rfl
  rw [speed, if_neg hsome]
  have hratio : (0 : ℚ) ≤ t.current / time := by positivity
  refine hquotient.widen ?_ ?_
  · rw [mul_div_mul_comm]
    linarith
  · rw [mul_div_mul_comm]
    linarith

/-! ## The rest -/

theorem remaining?_of_speed (h : ¬(t.speed now).isZero = true) :
    t.remaining? now = some (roundQuotient
      (((Binary64.ofNat (t.total - t.current)).div (t.speed now)).fraction.1 * 1000000000)
      ((Binary64.ofNat (t.total - t.current)).div (t.speed now)).fraction.2) := by
  rw [remaining?, if_neg h]

theorem remaining?_of_full (hspeed : ¬(t.speed now).isZero = true) (h : t.total - t.current = 0) :
    t.remaining? now = some 0 := by
  obtain ⟨negative, hzero⟩ := Binary64.exists_zero_div (t.speed now)
  have hnum : (Binary64.ofParts negative 0).fraction.1 = 0 := by cases negative <;> decide
  have hround := roundQuotient_mul 0 _ (Binary64.ofParts negative 0).fraction_den_pos
  rw [Nat.zero_mul] at hround
  rw [remaining?_of_speed hspeed, h, hzero, hnum, Nat.zero_mul, hround]

/-- A rounded quotient in nanoseconds, from bounds of the quotient in seconds. -/
theorem nanos_le {x : Binary64} {lower upper : ℚ} (h : x.Between lower upper)
    (hupper : upper ≤ 2 ^ 64 - 1) :
    roundQuotient (x.fraction.1 * 1000000000) x.fraction.2 ≤ Retry.maxTime := by
  have hround := (abs_le.mp (roundQuotient_near (x.fraction.1 * 1000000000) x.fraction_den_pos)).2
  have hvalue : ((x.fraction.1 * 1000000000 : ℕ) : ℚ) / x.fraction.2 = x.value * 10 ^ 9 := by
    rw [Binary64.value]
    push_cast
    ring
  have hle := h.le_upper.trans hupper
  rw [hvalue] at hround
  have hless : (roundQuotient (x.fraction.1 * 1000000000) x.fraction.2 : ℚ) ≤ Retry.maxTime := by
    have hmax : (Retry.maxTime : ℚ) = 2 ^ 64 * 10 ^ 9 - 1 := by
      norm_num [Retry.maxTime, Retry.second]
    rw [hmax]
    linarith
  exact Nat.cast_le.mp hless

/-- At no speed there is no remaining time to draw, and where all is done it is empty. -/
theorem drawable_of_idle (h : (t.speed now).isZero = true ∨ t.total - t.current = 0) :
    t.drawable now = true := by
  by_cases hspeed : (t.speed now).isZero = true
  · rw [drawable, remaining?, if_pos hspeed]
    rfl
  · rw [drawable, remaining?_of_full hspeed (h.resolve_left hspeed)]
    rfl

/-- The seconds that the rest will take, exactly. -/
def exactRest (t : Tracker) (now : Nat) : ℚ :=
  (t.total - t.current : ℕ) * (t.elapsed now / 10 ^ 9) / t.current

/-- The exact time stays below the product of the total and the seconds since the beginning. -/
theorem exactRest_le (hdone : 0 < t.current) (h : t.total * t.elapsed now < 2 ^ 63 * Retry.second) :
    t.exactRest now ≤ 2 ^ 63 := by
  have hone : (1 : ℚ) ≤ t.current := by exact_mod_cast hdone
  have hless : (t.total - t.current) * t.elapsed now ≤ 2 ^ 63 * 1000000000 :=
    Nat.le_trans (Nat.mul_le_mul_right _ (Nat.sub_le _ _)) (Nat.le_of_lt h)
  have hcast : ((t.total - t.current : ℕ) : ℚ) * t.elapsed now ≤ 2 ^ 63 * 1000000000 := by
    exact_mod_cast hless
  refine (div_le_self (by positivity) hone).trans ?_
  rw [mul_div_assoc', div_le_iff₀ (by positivity)]
  linarith

theorem le_exactRest (hdone : 0 < t.current) (hle : t.current ≤ 2 ^ 93)
    (hrest : 0 < t.total - t.current) (hpos : 0 < t.elapsed now) :
    1 / 10 ^ 9 / 2 ^ 93 ≤ t.exactRest now := by
  have hcurrent : (t.current : ℚ) ≤ 2 ^ 93 := by exact_mod_cast hle
  have hsome : (1 : ℚ) ≤ (t.total - t.current : ℕ) := by exact_mod_cast hrest
  have hlate : (1 : ℚ) ≤ t.elapsed now := by exact_mod_cast hpos
  have hcount : (0 : ℚ) < t.current := by exact_mod_cast hdone
  unfold exactRest
  rw [← one_mul (1 / 10 ^ 9 : ℚ)]
  gcongr

/-- The time that is worked out is near the exact one. -/
theorem quotient_between (hdone : 0 < t.current) (hle : t.total ≤ 2 ^ 93)
    (hrest : 0 < t.total - t.current) (hpos : 0 < t.elapsed now) (hlate : t.elapsed now ≤ 2 ^ 93)
    (hspeed : ¬(t.speed now).isZero = true) (hexact : t.exactRest now ≤ 2 ^ 63) :
    ((Binary64.ofNat (t.total - t.current)).div (t.speed now)).Between
      (3 / 8 * t.exactRest now) (15 / 8 * t.exactRest now) := by
  have hlower := le_exactRest hdone (by omega) hrest hpos
  have hcount : (0 : ℚ) < t.current := by exact_mod_cast hdone
  have htime : (0 : ℚ) < t.elapsed now := by exact_mod_cast hpos
  have hratio (k l : ℚ) : k * (t.total - t.current : ℕ) / (l * (t.current / (t.elapsed now / 10 ^ 9)))
      = k / l * t.exactRest now := by
    unfold exactRest
    field_simp
  have hquotient := (Binary64.ofNat_between (n := t.total - t.current) (by omega)).div
    (speed_between hdone (by omega) hpos hlate hspeed) (by positivity) (by positivity)
    (.inr (by
      rw [hratio]
      norm_num at hlower ⊢
      linarith))
    (by
      rw [hratio]
      norm_num at hexact ⊢
      linarith)
  rw [hratio, hratio] at hquotient
  have hnonneg : 0 ≤ t.exactRest now := le_trans (by positivity) hlower
  exact hquotient.widen (by linarith) (by linarith)

/-- The rest of a job takes a time that can be told, as long as the total times the seconds since the
beginning stays below `2 ^ 63`. -/
theorem drawable_of_lt (h : t.total * t.elapsed now < 2 ^ 63 * Retry.second) :
    t.drawable now = true := by
  by_cases hidle : (t.speed now).isZero = true ∨ t.total - t.current = 0
  · exact drawable_of_idle hidle
  obtain ⟨hspeed, hrest⟩ := not_or.mp hidle
  have hdone : 0 < t.current := Nat.pos_of_ne_zero fun hzero => hspeed (speed_of_none (.inl hzero))
  have hpos : 0 < t.elapsed now := Nat.pos_of_ne_zero fun hzero => hspeed (speed_of_none (.inr hzero))
  have hsecond : Retry.second = 1000000000 := rfl
  have htotal : t.total ≤ 2 ^ 93 := by
    have := Nat.le_mul_of_pos_right t.total hpos
    omega
  have hlate : t.elapsed now ≤ 2 ^ 93 := by
    have := Nat.le_mul_of_pos_left (t.elapsed now) (show 0 < t.total by omega)
    omega
  have hexact := exactRest_le hdone h
  have htold := nanos_le (quotient_between hdone htotal (Nat.pos_of_ne_zero hrest) hpos hlate hspeed hexact)
    (by linarith)
  rw [drawable, remaining?_of_speed hspeed, Option.all_some, decide_eq_true_iff]
  exact htold

end Tracker

end BulkSweep

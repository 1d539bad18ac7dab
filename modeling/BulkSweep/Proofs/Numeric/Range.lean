import BulkSweep.Proofs.Numeric.Places

/-!
# The range of doubles

A rounded number exceeds the exact one by at most one part in `2 ^ 53`, so that a product of rounded
numbers is finite when the exact product stays below the range by a few parts of this size
(`isInfinite_mul`).  The shortest decimal of a double stays below the midpoint to the next larger double
(`shortest_within`), and that is below the range by so much for all but the two largest doubles.
-/

set_option autoImplicit false

namespace BulkSweep.Numeric

namespace Binary64

/-! ## Rounding errors -/

/-- A number of units is rounded up by at most one part in `2 ^ 53`. -/
theorem unitsOf_place_le (n : Nat) : 2 ^ 53 * unitsOf (place n) ≤ (2 ^ 53 + 1) * n := by
  obtain ⟨-, hlow⟩ := div_shift n
  rw [unitsOf_place]
  generalize hs : shift n = s at hlow ⊢
  have hpos : 0 < 2 ^ s := Nat.two_pow_pos s
  rcases hlow with hzero | hbits
  · rw [hzero, Nat.pow_zero, Nat.mul_one]
    have hround := roundQuotient_mul n 1 Nat.one_pos
    rw [Nat.mul_one] at hround
    rw [hround]
    exact Nat.mul_le_mul_right n (Nat.le_succ _)
  · -- the remainder is rounded up by no more than itself, and the quotient has fifty-three bits
    have hdiv := Nat.div_add_mod n (2 ^ s)
    have hmod := Nat.mod_lt n hpos
    have hup : 2 * (roundQuotient n (2 ^ s) * 2 ^ s) ≤ 2 * n + 2 ^ s := by
      unfold roundQuotient
      simp only
      split
      · rw [Nat.add_mul, Nat.mul_comm (n / 2 ^ s), Nat.one_mul]
        omega
      · rw [Nat.mul_comm (n / 2 ^ s)]
        omega
    have hlarge : 2 ^ 52 * 2 ^ s ≤ n := (Nat.le_div_iff_mul_le hpos).mp hbits
    omega

/-- A number of fifty-four bits that are not all set is not rounded up to the next power of two. -/
theorem place_lt_of {n s : Nat} (h : n < (2 ^ 54 - 1) * 2 ^ s) : place n < (s + 3) * 2 ^ 52 := by
  have hcount := (roundQuotient_shift n).1
  have hpos : 0 < 2 ^ s := Nat.two_pow_pos s
  have hsucc : 2 ^ (s + 1) = 2 * 2 ^ s := by rw [Nat.pow_succ, Nat.mul_comm]
  have hshift : shift n ≤ s + 1 := by
    by_cases hzero : n = 0
    · subst hzero
      exact Nat.zero_le _
    · have htop : n < 2 ^ (54 + s) := by
        rw [Nat.pow_add]
        omega
      have hlog : n.log2 < 54 + s := (Nat.log2_lt hzero).mpr htop
      unfold shift
      omega
  unfold place
  rcases Nat.lt_or_eq_of_le hshift with hless | hlast
  · omega
  · -- the quotient lies below the midpoint to the power of two that would carry over
    have hround : roundQuotient n (2 ^ (s + 1)) < 2 ^ 53 := by
      have hdiv := Nat.div_add_mod n (2 ^ (s + 1))
      have hmod := Nat.mod_lt n (Nat.two_pow_pos (s + 1))
      have hbelow : n / 2 ^ (s + 1) < 2 ^ 53 := by
        rw [Nat.div_lt_iff_lt_mul (Nat.two_pow_pos (s + 1))]
        omega
      unfold roundQuotient
      simp only
      split
      · rename_i hup
        refine Nat.lt_of_le_of_ne hbelow fun heq => ?_
        have hquotient : n / 2 ^ (s + 1) = 2 ^ 53 - 1 := by omega
        rw [hquotient] at hdiv
        omega
      · exact hbelow
    rw [hlast]
    omega

/-- Half the distance of the largest doubles is this power of two. -/
def lastPower : Nat :=
  970

/-- The least number of units that is rounded to infinity. -/
def overflow : Nat :=
  (2 ^ 54 - 1) * 2 ^ (lastPower + leastPower)

theorem place_lt {n : Nat} (h : n < overflow) : place n < infiniteMagnitude := by
  have hinfinite : infiniteMagnitude = (lastPower + leastPower + 3) * 2 ^ 52 := rfl
  rw [hinfinite]
  unfold overflow at h
  exact place_lt_of h

/-- The double nearest to a number over a power of two is finite below the range. -/
theorem magnitude_nearest (negative : Bool) {n t : Nat} (ht : t ≤ 511)
    (h : n * 2 ^ (leastPower - t) < overflow) :
    (nearest negative n (2 ^ t)).magnitude = place (n * 2 ^ (leastPower - t)) := by
  have hplace := place_lt h
  rw [nearest_units negative n ht, Nat.min_eq_right (Nat.le_of_lt hplace),
    magnitude_ofParts (Nat.lt_trans hplace (by decide))]

/-! ## Products -/

/-- The fraction of a finite double, as its units over a power of two. -/
theorem exists_fraction (x : Binary64) : ∃ t ≤ leastPower, x.fraction.2 = 2 ^ t ∧
    x.fraction.1 * 2 ^ (leastPower - t) = unitsOf x.magnitude ∧
    (2 ^ leastPower ≤ unitsOf x.magnitude → t ≤ 52) := by
  have hpower : leastPower = 1074 := rfl
  have hbinade : x.binade = max 1 (x.magnitude / 2 ^ 52) := rfl
  have hunits : unitsOf x.magnitude = x.significand * 2 ^ (x.binade - 1) := rfl
  have hexponent : x.exponent = (x.binade : Int) - 1075 := rfl
  refine ⟨(-x.exponent).toNat, by omega, rfl, ?_, fun hone => ?_⟩
  · have hbits : x.exponent.toNat + (leastPower - (-x.exponent).toNat) = x.binade - 1 := by omega
    change x.significand * 2 ^ x.exponent.toNat * 2 ^ (leastPower - (-x.exponent).toNat) = _
    rw [Nat.mul_assoc, ← Nat.pow_add, hbits, hunits]
  · -- fifty-three bits of significand do not reach one below this power
    have hsignificand : x.significand < 2 ^ 53 := by
      unfold significand
      split <;> omega
    refine Nat.le_of_not_lt fun hsmall => ?_
    have hbits : 2 ^ (x.binade - 1) * 2 ^ 53 ≤ 2 ^ leastPower := by
      rw [← Nat.pow_add]
      exact Nat.pow_le_pow_right (by decide) (by omega)
    have hless : x.significand * 2 ^ (x.binade - 1) < 2 ^ 53 * 2 ^ (x.binade - 1) :=
      Nat.mul_lt_mul_of_pos_right hsignificand (Nat.two_pow_pos _)
    rw [hunits] at hone
    rw [Nat.mul_comm] at hbits
    omega

/-- The product of two doubles that are at least one is finite when the exact product is below the
range. -/
theorem isInfinite_mul {x y : Binary64} (hx : 2 ^ leastPower ≤ unitsOf x.magnitude)
    (hy : 2 ^ leastPower ≤ unitsOf y.magnitude)
    (h : unitsOf x.magnitude * unitsOf y.magnitude < overflow * 2 ^ leastPower) :
    (x.mul y).isInfinite = false := by
  obtain ⟨s, hsmall, hxden, hxnum, hs⟩ := exists_fraction x
  obtain ⟨t, htsmall, hyden, hynum, ht⟩ := exists_fraction y
  have hsbits := hs hx
  have htbits := ht hy
  have hpower : leastPower = 1074 := rfl
  have hsum : leastPower - s + (leastPower - t) = leastPower - (s + t) + leastPower := by omega
  have hunits : x.fraction.1 * y.fraction.1 * 2 ^ (leastPower - (s + t)) * 2 ^ leastPower
      = unitsOf x.magnitude * unitsOf y.magnitude := by
    rw [← hxnum, ← hynum, Nat.mul_mul_mul_comm, ← Nat.pow_add, hsum, Nat.pow_add, ← Nat.mul_assoc]
  have hless : x.fraction.1 * y.fraction.1 * 2 ^ (leastPower - (s + t)) < overflow := by
    rw [← hunits] at h
    exact Nat.lt_of_mul_lt_mul_right h
  have hmagnitude := magnitude_nearest (x.negative != y.negative) (by omega) hless
  rw [Nat.pow_add, ← hxden, ← hyden] at hmagnitude
  have hfinite := place_lt hless
  rw [← hmagnitude] at hfinite
  exact beq_eq_false_iff_ne.mpr (Nat.ne_of_lt hfinite)

/-- The units of the double nearest to a natural number that is not zero. -/
theorem units_ofNat {n : Nat} (h : natural n < overflow) :
    unitsOf (ofNat n).magnitude = unitsOf (place (natural n)) := by
  have hless : n * 2 ^ (leastPower - 0) < overflow := by
    rw [Nat.sub_zero]
    exact h
  have hmagnitude := magnitude_nearest false (Nat.zero_le 511) hless
  rw [Nat.pow_zero, Nat.sub_zero] at hmagnitude
  rw [ofNat, hmagnitude, natural]

/-- A natural number other than zero is rounded to one at least. -/
theorem one_le_place {n : Nat} (h : 0 < n) : 2 ^ leastPower ≤ unitsOf (place (natural n)) := by
  have hle : place (natural 1) ≤ place (natural n) := place_mono (Nat.mul_le_mul_right _ h)
  have hone : unitsOf (place (natural 1)) = 2 ^ leastPower := by
    rw [unitsOf_place_natural (by decide), natural, Nat.one_mul]
  rw [← hone]
  exact Nat.le_of_not_lt fun hlt => Nat.not_lt_of_le hle (unitsOf_lt.mp hlt)

theorem overflow_eq : overflow = (2 ^ 54 - 1) * 2 ^ lastPower * 2 ^ leastPower := by
  rw [overflow, Nat.pow_add, Nat.mul_assoc]

/-- The product of two natural numbers, each rounded to a double, is finite if the exact one is below the
range by four parts in `2 ^ 54`: three roundings use up no more. -/
theorem isInfinite_mul_ofNat {m n : Nat} (hm : 0 < m) (hn : 0 < n)
    (h : m * n ≤ (2 ^ 54 - 5) * 2 ^ lastPower) : ((ofNat m).mul (ofNat n)).isInfinite = false := by
  have hpos : 0 < 2 ^ leastPower := Nat.two_pow_pos leastPower
  have hrange : 0 < 2 ^ lastPower := Nat.two_pow_pos lastPower
  have hnatural {k : Nat} (hk : k ≤ m * n) : natural k < overflow := by
    rw [overflow_eq, natural]
    refine Nat.mul_lt_mul_of_pos_right ?_ hpos
    generalize 2 ^ lastPower = range at h hrange ⊢
    omega
  have hmunits := units_ofNat (hnatural (Nat.le_mul_of_pos_right m hn))
  have hnunits := units_ofNat (hnatural (Nat.le_mul_of_pos_left n hm))
  have hmone := one_le_place hm
  have hnone := one_le_place hn
  rw [← hmunits] at hmone
  rw [← hnunits] at hnone
  refine isInfinite_mul hmone hnone ?_
  rw [hmunits, hnunits, overflow_eq]
  have hrounded : 2 ^ 53 * unitsOf (place (natural m)) * (2 ^ 53 * unitsOf (place (natural n)))
      ≤ (2 ^ 53 + 1) * natural m * ((2 ^ 53 + 1) * natural n) :=
    Nat.mul_le_mul (unitsOf_place_le _) (unitsOf_place_le _)
  have hexact : natural m * natural n ≤ (2 ^ 54 - 5) * 2 ^ lastPower * (2 ^ leastPower * 2 ^ leastPower) := by
    rw [natural, natural, Nat.mul_mul_mul_comm]
    exact Nat.mul_le_mul_right _ h
  rw [Nat.mul_mul_mul_comm, Nat.mul_mul_mul_comm (2 ^ 53 + 1)] at hrounded
  rw [Nat.mul_assoc, Nat.mul_assoc]
  rw [Nat.mul_assoc] at hexact
  have hproduct : 0 < 2 ^ lastPower * (2 ^ leastPower * 2 ^ leastPower) :=
    Nat.mul_pos hrange (Nat.mul_pos hpos hpos)
  generalize 2 ^ lastPower * (2 ^ leastPower * 2 ^ leastPower) = scale at hexact hproduct ⊢
  generalize unitsOf (place (natural m)) * unitsOf (place (natural n)) = rounded at hrounded ⊢
  generalize natural m * natural n = exact at hexact hrounded
  omega

end Binary64

end BulkSweep.Numeric

import BulkSweep.Numeric.Shortest
import BulkSweep.Proofs.Numeric.Range

/-!
# Bounds of shortest digits

The shortest decimal of a double that is not zero is not zero either, and it does not pass the midpoint to
the next larger double: the search takes no other decimals, nor does the exact value pass it, which is
written when no grid of the search has one.  Trailing zeros move into the scale and change nothing of
this.
-/

set_option autoImplicit false

namespace BulkSweep.Numeric

/-! ## Decimals below a bound -/

/-- A decimal is at most a natural number. -/
def Decimal.AtMost (d : Decimal) (bound : Nat) : Prop :=
  d.coefficient * 10 ^ d.scale.toNat ≤ bound * 10 ^ (-d.scale).toNat

theorem Decimal.AtMost.trans {d : Decimal} {bound larger : Nat} (h : d.AtMost bound)
    (hle : bound ≤ larger) : d.AtMost larger :=
  Nat.le_trans h (Nat.mul_le_mul_right _ hle)

/-- A digit moves between the coefficient and the scale. -/
theorem Decimal.atMost_tenfold {n : Nat} {scale : Int} {bound : Nat} :
    Decimal.AtMost ⟨10 * n, scale⟩ bound ↔ Decimal.AtMost ⟨n, scale + 1⟩ bound := by
  unfold AtMost
  rcases (by omega : scale < 0 ∨ 0 ≤ scale) with hneg | hnonneg
  · obtain ⟨k, hk⟩ : ∃ k, (-(scale + 1)).toNat = k ∧ (-scale).toNat = k + 1 :=
      ⟨_, rfl, by omega⟩
    have hzero : scale.toNat = 0 ∧ (scale + 1).toNat = 0 := by omega
    rw [hk.1, hk.2, hzero.1, hzero.2, Nat.pow_succ, Nat.pow_zero, Nat.mul_one, Nat.mul_one,
      ← Nat.mul_assoc, Nat.mul_comm _ 10]
    exact Nat.mul_le_mul_left_iff (by decide)
  · have hsucc : (scale + 1).toNat = scale.toNat + 1 := by omega
    have hzero : (-scale).toNat = 0 ∧ (-(scale + 1)).toNat = 0 := by omega
    rw [hsucc, hzero.1, hzero.2, Nat.pow_succ, Nat.mul_comm 10 n, Nat.mul_assoc, Nat.mul_comm 10]

/-- What the first digits of a decimal denote does not pass its bound either. -/
theorem Decimal.AtMost.mul_pow_le {d : Decimal} {bound s k r : Nat} (h : d.AtMost bound)
    (hle : s * 10 ^ k ≤ d.coefficient) (hr : (r : Int) = k + d.scale) : s * 10 ^ r ≤ bound := by
  have hpos : 0 < 10 ^ (-d.scale).toNat := Nat.pow_pos (by decide)
  have hpowers : r + (-d.scale).toNat = k + d.scale.toNat := by omega
  refine Nat.le_of_mul_le_mul_right ?_ hpos
  calc s * 10 ^ r * 10 ^ (-d.scale).toNat
      = s * 10 ^ k * 10 ^ d.scale.toNat := by
        rw [Nat.mul_assoc, ← Nat.pow_add, hpowers, Nat.pow_add, Nat.mul_assoc]
    _ ≤ d.coefficient * 10 ^ d.scale.toNat := Nat.mul_le_mul_right _ hle
    _ ≤ bound * 10 ^ (-d.scale).toNat := h

/-- Moving trailing zeros into the scale keeps a decimal below its bound and away from zero. -/
theorem Decimal.stripZeros_within {fuel : Nat} {d : Decimal} {bound : Nat} (hpos : 0 < d.coefficient)
    (h : d.AtMost bound) :
    0 < (d.stripZeros fuel).coefficient ∧ (d.stripZeros fuel).AtMost bound := by
  induction fuel generalizing d with
  | zero => exact ⟨hpos, h⟩
  | succ fuel ih =>
      rw [stripZeros]
      split
      · rename_i hzero
        have htens : 10 * (d.coefficient / 10) = d.coefficient := by omega
        refine ih (d := ⟨d.coefficient / 10, d.scale + 1⟩) ?_ ?_
        · change 0 < d.coefficient / 10
          omega
        · refine atMost_tenfold.mp ?_
          rw [htens]
          exact h
      · exact ⟨hpos, h⟩

namespace Binary64

/-! ## Decimals that read back -/

/-- The midpoint to the next larger double, or a larger number where that is no natural one. -/
def midpoint (x : Binary64) : Nat :=
  (4 * x.significand + 2) * 2 ^ (x.exponent - 2).toNat

theorem significand_pos {x : Binary64} (h : x.isZero = false) : 0 < x.significand := by
  have hmagnitude : x.magnitude ≠ 0 := beq_eq_false_iff_ne.mp h
  unfold significand
  split <;> omega

/-- A decimal that reads back to a double is not zero and does not pass the midpoint. -/
theorem within_of_readsBack {x : Binary64} {d : Decimal} (hx : x.isZero = false)
    (h : x.readsBack d = true) : 0 < d.coefficient ∧ d.AtMost x.midpoint := by
  have hpos := significand_pos hx
  unfold readsBack Decimal.compareBinary at h
  simp only [Bool.and_eq_true, Bool.or_eq_true, beq_iff_eq] at h
  obtain ⟨hlow, hhigh⟩ := h
  constructor
  · refine Nat.pos_of_ne_zero fun hzero => ?_
    have hbelow : 0 < if x.significand = 2 ^ 52 ∧ 1 < x.binade then 4 * x.significand - 1
        else 4 * x.significand - 2 := by
      split <;> omega
    generalize (if x.significand = 2 ^ 52 ∧ 1 < x.binade then 4 * x.significand - 1
        else 4 * x.significand - 2) = low at hlow hbelow
    have hnone : compare 0 (low * 2 ^ (x.exponent - 2).toNat * 10 ^ (-d.scale).toNat) = .lt :=
      Nat.compare_eq_lt.mpr (Nat.mul_pos (Nat.mul_pos hbelow (Nat.two_pow_pos _)) (Nat.pow_pos (by decide)))
    rw [hzero, Nat.zero_mul, Nat.zero_mul, hnone] at hlow
    rcases hlow with hgt | ⟨-, heq⟩
    · cases hgt
    · cases heq
  · have hle : d.coefficient * 10 ^ d.scale.toNat * 2 ^ (-(x.exponent - 2)).toNat
        ≤ x.midpoint * 10 ^ (-d.scale).toNat := by
      rcases hhigh with hlt | ⟨-, heq⟩
      · exact Nat.le_of_lt (Nat.compare_eq_lt.mp hlt)
      · exact Nat.le_of_eq (Nat.compare_eq_eq.mp heq)
    exact Nat.le_trans (Nat.le_mul_of_pos_right _ (Nat.two_pow_pos _)) hle

/-- What is taken from a grid reads back. -/
theorem readsBack_of_nearestOnGrid {x : Binary64} {tie : Tie} {scale : Int} {d : Decimal}
    (h : x.nearestOnGrid tie scale = some d) : x.readsBack d = true := by
  unfold nearestOnGrid at h
  simp only at h
  split at h
  · rename_i hbelow habove
    split at h
    · exact Option.some.inj h ▸ hbelow
    · exact Option.some.inj h ▸ habove
    · cases tie with
      | up => exact Option.some.inj h ▸ habove
      | toEven =>
          rw [← Option.some.inj h]
          split
          · exact hbelow
          · exact habove
  · rename_i hbelow _
    exact Option.some.inj h ▸ hbelow
  · rename_i _ habove
    exact Option.some.inj h ▸ habove
  · cases h

/-- The exact value of a double, as it is written when no grid has a decimal that reads back. -/
theorem exact_within {x : Binary64} (hx : x.isZero = false) :
    0 < x.significand * 2 ^ x.exponent.toNat * 5 ^ (-x.exponent).toNat ∧
      Decimal.AtMost ⟨x.significand * 2 ^ x.exponent.toNat * 5 ^ (-x.exponent).toNat,
        -(-x.exponent).toNat⟩ x.midpoint := by
  have hpos := significand_pos hx
  refine ⟨Nat.mul_pos (Nat.mul_pos hpos (Nat.two_pow_pos _)) (Nat.pow_pos (by decide)), ?_⟩
  have hwhole : x.significand * 2 ^ x.exponent.toNat ≤ x.midpoint := by
    unfold midpoint
    rcases (by omega : x.exponent < 2 ∨ 2 ≤ x.exponent) with hsmall | hlarge
    · have hpower : 2 ^ x.exponent.toNat ≤ 2 ^ 1 := Nat.pow_le_pow_right (by decide) (by omega)
      have htwice := Nat.mul_le_mul_left x.significand hpower
      have hmore := Nat.le_mul_of_pos_right (4 * x.significand + 2)
        (Nat.two_pow_pos (x.exponent - 2).toNat)
      omega
    · have hbits : x.exponent.toNat = 2 + (x.exponent - 2).toNat := by omega
      rw [hbits, Nat.pow_add, ← Nat.mul_assoc]
      exact Nat.mul_le_mul_right _ (by omega)
  have hscale : (-(-x.exponent).toNat : Int).toNat = 0 ∧
      (-(-(-x.exponent).toNat : Int)).toNat = (-x.exponent).toNat := by
    omega
  unfold Decimal.AtMost
  simp only
  rw [hscale.1, hscale.2, Nat.pow_zero, Nat.mul_one]
  exact Nat.mul_le_mul hwhole (Nat.pow_le_pow_left (by decide) _)

/-- The search ends with what one of the grids has, or with the exact value. -/
theorem shortestFrom_cases {x : Binary64} (tie : Tie) {P : Decimal → Prop}
    (hgrid : ∀ scale d, x.nearestOnGrid tie scale = some d → P d)
    (hexact : P ⟨x.significand * 2 ^ x.exponent.toNat * 5 ^ (-x.exponent).toNat,
      -(-x.exponent).toNat⟩) (fuel digits : Nat) :
    P (x.shortestFrom tie digits fuel) := by
  induction fuel generalizing digits with
  | zero =>
      unfold shortestFrom
      exact hexact
  | succ fuel ih =>
      unfold shortestFrom
      split
      · rename_i d hfound
        exact hgrid _ d hfound
      · exact ih (digits + 1)

theorem shortest_within {x : Binary64} (tie : Tie) (hx : x.isZero = false) :
    0 < (x.shortest tie).coefficient ∧ (x.shortest tie).AtMost x.midpoint := by
  have hsearch := shortestFrom_cases tie
    (fun _ _ hfound => within_of_readsBack hx (readsBack_of_nearestOnGrid hfound)) (exact_within hx) 17 1
  exact Decimal.stripZeros_within hsearch.1 hsearch.2

/-! ## The largest doubles -/

/-- The midpoint of a finite double is below the range, and well below it for all but the two largest. -/
theorem midpoint_le {x : Binary64} (h : x.magnitude < infiniteMagnitude) :
    x.midpoint ≤ (2 ^ 54 - 1) * 2 ^ lastPower ∧
      (x.magnitude < infiniteMagnitude - 2 → x.midpoint ≤ (2 ^ 54 - 5) * 2 ^ lastPower) := by
  have hinfinite : infiniteMagnitude = 2047 * 2 ^ 52 := rfl
  have hlastPower : lastPower = 970 := rfl
  have hbinade : x.binade = max 1 (x.magnitude / 2 ^ 52) := rfl
  have hexponent : x.exponent = (x.binade : Int) - 1075 := rfl
  have hsignificand : x.significand < 2 ^ 53 := by
    unfold significand
    split <;> omega
  have hlast : x.binade = 2046 → x.magnitude < infiniteMagnitude - 2 → x.significand ≤ 2 ^ 53 - 3 := by
    intro hlarge hless
    unfold significand
    split <;> omega
  obtain ⟨k, hk, hbits⟩ : ∃ k, 1 ≤ k ∧ (x.exponent - 2).toNat + k = lastPower :=
    ⟨lastPower - (x.exponent - 2).toNat, by omega, by omega⟩
  unfold midpoint
  rw [← hbits, Nat.pow_add, Nat.mul_comm (2 ^ _) (2 ^ k), ← Nat.mul_assoc, ← Nat.mul_assoc]
  by_cases htop : x.binade = 2046
  · obtain rfl : k = 1 := by omega
    refine ⟨Nat.mul_le_mul_right _ (by omega), fun hless => Nat.mul_le_mul_right _ ?_⟩
    have hbelow := hlast htop hless
    omega
  · have hfour : 2 ^ 2 ≤ 2 ^ k := Nat.pow_le_pow_right (by decide) (by omega)
    exact ⟨Nat.mul_le_mul_right _ (by omega), fun _ => Nat.mul_le_mul_right _ (by omega)⟩

/-- The shortest decimals of the two largest doubles. -/
theorem shortest_of_last {x : Binary64} (h : infiniteMagnitude - 2 ≤ x.magnitude)
    (hfinite : x.magnitude < infiniteMagnitude) : x.shortest .toEven = ⟨17976931348623155, 292⟩ ∨
      x.shortest .toEven = ⟨17976931348623157, 292⟩ := by
  have hsecond : ∀ negative, (ofParts negative (infiniteMagnitude - 2)).shortest .toEven
      = ⟨17976931348623155, 292⟩ := by
    decide +kernel
  have hfirst : ∀ negative, (ofParts negative (infiniteMagnitude - 1)).shortest .toEven
      = ⟨17976931348623157, 292⟩ := by
    decide +kernel
  rw [← ofParts_eq x]
  rcases (by omega : x.magnitude = infiniteMagnitude - 2 ∨ x.magnitude = infiniteMagnitude - 1)
    with hlast | hlast
  · rw [hlast]
    exact .inl (hsecond _)
  · rw [hlast]
    exact .inr (hfirst _)

end Binary64

end BulkSweep.Numeric

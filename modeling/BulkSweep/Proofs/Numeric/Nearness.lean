import BulkSweep.Proofs.Numeric.Range
import Mathlib.Algebra.Order.Field.Rat
import Mathlib.Algebra.Order.Field.Power
import Mathlib.Tactic.FieldSimp
import Mathlib.Tactic.GCongr
import Mathlib.Tactic.Linarith
import Mathlib.Tactic.NormNum
import Mathlib.Tactic.Positivity
import Mathlib.Tactic.Ring

/-!
# Nearness of doubles

The double nearest to a quotient differs from it by at most one part in `2 ^ 53`, unless the quotient lies
at the ends of the range (`nearest_near`).  Sums and quotients of doubles are rounded once and are as near
to the exact ones (`add_near`, `div_near`).
-/

set_option autoImplicit false

namespace BulkSweep.Numeric

/-! ## Rounded quotients -/

/-- A rounded quotient differs from the exact one by no more than a half. -/
theorem roundQuotient_near (num : Nat) {den : Nat} (hden : 0 < den) :
    |(roundQuotient num den : ℚ) - num / den| ≤ 1 / 2 := by
  have hd : (0 : ℚ) < den := Nat.cast_pos.mpr hden
  have hsplit : (den * (num / den) + num % den : ℕ) = num := Nat.div_add_mod num den
  have hcast : (den : ℚ) * (num / den : ℕ) + (num % den : ℕ) = num := by exact_mod_cast hsplit
  have hquotient : (num : ℚ) / den = (num / den : ℕ) + (num % den : ℕ) / den := by
    rw [← hcast]
    field_simp
  have hmod : ((num % den : ℕ) : ℚ) < den := Nat.cast_lt.mpr (Nat.mod_lt num hden)
  have hnonneg : (0 : ℚ) ≤ (num % den : ℕ) / den := by positivity
  unfold roundQuotient
  simp only
  split
  · rename_i hup
    have hhalf : (den : ℚ) ≤ 2 * (num % den : ℕ) := by
      have : den ≤ 2 * (num % den) := by omega
      exact_mod_cast this
    have hrest : (1 : ℚ) / 2 ≤ (num % den : ℕ) / den := by
      rw [div_le_div_iff₀ two_pos hd]
      linarith
    have hless : ((num % den : ℕ) : ℚ) / den < 1 := (div_lt_one hd).mpr hmod
    rw [hquotient, abs_le]
    push_cast
    constructor <;> linarith
  · rename_i hdown
    have hhalf : 2 * ((num % den : ℕ) : ℚ) ≤ den := by
      have : 2 * (num % den) ≤ den := by omega
      exact_mod_cast this
    have hrest : ((num % den : ℕ) : ℚ) / den ≤ 1 / 2 := by
      rw [div_le_div_iff₀ hd two_pos]
      linarith
    rw [hquotient, abs_le]
    constructor <;> linarith

namespace Binary64

/-! ## Values -/

/-- The absolute value of a finite double. -/
def value (x : Binary64) : ℚ :=
  x.fraction.1 / x.fraction.2

theorem value_eq (x : Binary64) : x.value = (unitsOf x.magnitude : ℚ) * 2 ^ (-1074 : ℤ) := by
  obtain ⟨t, ht, hden, hunits, -⟩ := exists_fraction x
  have hpower : leastPower = 1074 := rfl
  have hsplit : (2 : ℚ) ^ (-1074 : ℤ) = 2 ^ (-t : ℤ) * 2 ^ (-((leastPower - t : ℕ) : ℤ)) := by
    rw [← zpow_add₀ two_ne_zero]
    congr 1
    omega
  rw [value, hden, ← hunits, hsplit]
  push_cast
  rw [zpow_neg, zpow_neg, zpow_natCast, zpow_natCast]
  field_simp

/-- A quotient with powers of two taken from numerator and denominator. -/
theorem cast_scaled (num den : Nat) (e : Int) :
    ((num * 2 ^ (-e).toNat : ℕ) : ℚ) / (den * 2 ^ e.toNat : ℕ) = num / den * 2 ^ (-e) := by
  have hsplit : -e = ((-e).toNat : ℤ) - (e.toNat : ℤ) := by omega
  have hpower : (2 : ℚ) ^ (-e) = 2 ^ ((-e).toNat : ℤ) / 2 ^ (e.toNat : ℤ) := by
    conv => lhs; rw [hsplit]
    exact zpow_sub₀ two_ne_zero _ _
  rw [hpower, zpow_natCast, zpow_natCast]
  push_cast
  rw [mul_div_mul_comm]

/-- A number lies between the powers of two that its logarithm tells. -/
theorem log2_bounds {n : Nat} (h : 0 < n) :
    (2 : ℚ) ^ (n.log2 : ℤ) ≤ n ∧ (n : ℚ) < 2 ^ ((n.log2 : ℤ) + 1) := by
  rw [← Nat.cast_succ, zpow_natCast, zpow_natCast]
  constructor
  · exact_mod_cast Nat.log2_self_le h.ne'
  · exact_mod_cast Nat.lt_log2_self

section

variable {num den : Nat} (hnum : 0 < num) (hden : 0 < den)

include hnum hden

/-- The logarithms of numerator and denominator tell that of the quotient but for one. -/
theorem quotient_bounds : (2 : ℚ) ^ ((num.log2 : ℤ) - den.log2 - 1) ≤ num / den ∧
    (num : ℚ) / den < 2 ^ ((num.log2 : ℤ) - den.log2 + 1) := by
  have hd : (0 : ℚ) < den := Nat.cast_pos.mpr hden
  obtain ⟨hnumlow, hnumhigh⟩ := log2_bounds hnum
  obtain ⟨hdenlow, hdenhigh⟩ := log2_bounds hden
  rw [le_div_iff₀ hd, div_lt_iff₀ hd]
  constructor
  · calc (2 : ℚ) ^ ((num.log2 : ℤ) - den.log2 - 1) * den
        ≤ 2 ^ ((num.log2 : ℤ) - den.log2 - 1) * 2 ^ ((den.log2 : ℤ) + 1) := by gcongr
      _ = 2 ^ (num.log2 : ℤ) := by
        rw [← zpow_add₀ two_ne_zero]
        congr 1
        omega
      _ ≤ num := hnumlow
  · calc (num : ℚ) < 2 ^ ((num.log2 : ℤ) + 1) := hnumhigh
      _ = 2 ^ ((num.log2 : ℤ) - den.log2 + 1) * 2 ^ (den.log2 : ℤ) := by
        rw [← zpow_add₀ two_ne_zero]
        congr 1
        omega
      _ ≤ 2 ^ ((num.log2 : ℤ) - den.log2 + 1) * den := by gcongr

omit hnum in
/-- A power of two is compared with a quotient in natural numbers. -/
theorem scaled_le_iff (e : Int) :
    den * 2 ^ e.toNat ≤ num * 2 ^ (-e).toNat ↔ (2 : ℚ) ^ e ≤ num / den := by
  have hpos : (0 : ℚ) < (den * 2 ^ e.toNat : ℕ) :=
    Nat.cast_pos.mpr (Nat.mul_pos hden (Nat.two_pow_pos _))
  have hone : (2 : ℚ) ^ e ≤ num / den ↔ 1 ≤ (num : ℚ) / den * 2 ^ (-e) := by
    rw [zpow_neg, ← div_eq_mul_inv, one_le_div (zpow_pos two_pos e)]
  rw [hone, ← cast_scaled, one_le_div hpos, Nat.cast_le]

/-- The integer part of the binary logarithm of a quotient. -/
theorem log2Quotient_spec : (2 : ℚ) ^ log2Quotient num den ≤ num / den ∧
    (num : ℚ) / den < 2 ^ (log2Quotient num den + 1) := by
  obtain ⟨hbelow, habove⟩ := quotient_bounds hnum hden
  unfold log2Quotient
  simp only [scaled_le_iff hden]
  split
  · rename_i h
    exact ⟨h, habove⟩
  · rename_i h
    rw [Int.sub_add_cancel]
    exact ⟨hbelow, not_le.mp h⟩

end

/-! ## Rounding -/

/-- A number in the range in which doubles have all their bits. -/
def InRange (q : ℚ) : Prop :=
  2 ^ (-1022 : ℤ) ≤ q ∧ q < 2 ^ (1023 : ℤ)

theorem InRange.pos {q : ℚ} (h : InRange q) : 0 < q :=
  lt_of_lt_of_le (zpow_pos two_pos _) h.1

/-- A number far from both ends of the range is in it. -/
theorem inRange_of_le {q : ℚ} (hlow : 2 ^ (-128 : ℤ) ≤ q) (hhigh : q ≤ 2 ^ (128 : ℤ)) : InRange q :=
  ⟨le_trans (zpow_le_zpow_right₀ one_le_two (by decide)) hlow,
    lt_of_le_of_lt hhigh (zpow_lt_zpow_right₀ one_lt_two (by decide))⟩

/-- A finite double, not below zero, that differs from a number by at most one part in `2 ^ 53` of it. -/
structure Near (x : Binary64) (q : ℚ) : Prop where
  /-- it is finite -/
  finite : x.magnitude < infiniteMagnitude
  /-- it is not below zero -/
  positive : x.negative = false
  /-- it differs by so much at most -/
  close : |x.value - q| ≤ q * 2 ^ (-53 : ℤ)

section

variable {num den : Nat}

theorem num_pos_of_inRange (h : InRange (num / den)) : 0 < num := by
  refine Nat.pos_of_ne_zero fun hzero => ?_
  have hpos := h.pos
  rw [hzero, Nat.cast_zero, zero_div] at hpos
  exact lt_irrefl _ hpos

theorem log2Quotient_of_inRange (hden : 0 < den) (h : InRange (num / den)) :
    -1022 ≤ log2Quotient num den ∧ log2Quotient num den < 1023 := by
  obtain ⟨hlog, hlog'⟩ := log2Quotient_spec (num_pos_of_inRange h) hden
  have hone : (1 : ℚ) < 2 := one_lt_two
  have hlow : (2 : ℚ) ^ (-1022 : ℤ) < 2 ^ (log2Quotient num den + 1) := lt_of_le_of_lt h.1 hlog'
  have hhigh : (2 : ℚ) ^ log2Quotient num den < 2 ^ (1023 : ℤ) := lt_of_le_of_lt hlog h.2
  rw [zpow_lt_zpow_iff_right₀ hone] at hlow hhigh
  omega

/-- A number of fifty-three bits has no more when it is rounded, unless it becomes the next power of two. -/
theorem fits_of_near {count : Nat} {q : ℚ} (hround : |(count : ℚ) - q| ≤ 1 / 2)
    (hlow : 2 ^ (52 : ℤ) ≤ q) (hhigh : q < 2 ^ (53 : ℤ)) : count ≤ 2 ^ 53 ∧ 2 ^ 52 ≤ count := by
  obtain ⟨hdown, hup⟩ := abs_le.mp hround
  rw [zpow_ofNat] at hlow hhigh
  constructor
  · have hless : (count : ℚ) < (2 ^ 53 + 1 : ℕ) := by
      push_cast
      linarith
    exact Nat.lt_succ_iff.mp (Nat.cast_lt.mp hless)
  · have hless : ((2 ^ 52 : ℕ) : ℚ) < (count + 1 : ℕ) := by
      push_cast
      linarith
    exact Nat.lt_succ_iff.mp (Nat.cast_lt.mp hless)

/-- The double nearest to a quotient is its first fifty-three bits, rounded, with their power of two. -/
theorem exists_nearest_eq (hden : 0 < den) (h : InRange (num / den)) :
    ∃ (count : Nat) (unit : Int), (2 : ℚ) ^ (unit + 52) ≤ num / den ∧
      |(count : ℚ) - num / den * 2 ^ (-unit)| ≤ 1 / 2 ∧
      ∃ magnitude < infiniteMagnitude, nearest false num den = ofParts false magnitude ∧
        (unitsOf magnitude : ℚ) * 2 ^ (-1074 : ℤ) = count * 2 ^ unit := by
  have hnum := num_pos_of_inRange h
  obtain ⟨hlog, hlog'⟩ := log2Quotient_spec hnum hden
  obtain ⟨hlow, hhigh⟩ := log2Quotient_of_inRange hden h
  obtain ⟨unit, hunit⟩ : ∃ unit, log2Quotient num den = unit + 52 :=
    ⟨log2Quotient num den - 52, by omega⟩
  rw [hunit] at hlog hlog' hlow hhigh
  obtain ⟨count, hcount⟩ : ∃ count, count = roundQuotient (num * 2 ^ (-unit).toNat)
    (den * 2 ^ unit.toNat) := ⟨_, rfl⟩
  have hround : |(count : ℚ) - num / den * 2 ^ (-unit)| ≤ 1 / 2 := by
    rw [hcount, ← cast_scaled]
    exact roundQuotient_near _ (Nat.mul_pos hden (Nat.two_pow_pos _))
  have hbits (k : Int) : (2 : ℚ) ^ k = 2 ^ (unit + k) * 2 ^ (-unit) := by
    rw [← zpow_add₀ two_ne_zero]
    congr 1
    omega
  have hpos : (0 : ℚ) < 2 ^ (-unit) := zpow_pos two_pos _
  have hlower : (2 : ℚ) ^ (52 : ℤ) ≤ num / den * 2 ^ (-unit) := by
    rw [hbits 52]
    gcongr
  have hupper : (num : ℚ) / den * 2 ^ (-unit) < 2 ^ (53 : ℤ) := by
    rw [hbits 53]
    rw [show unit + 52 + 1 = unit + 53 by omega] at hlog'
    gcongr
  have hfits := fits_of_near hround hlower hupper
  obtain ⟨e, he⟩ : ∃ e : Nat, unit + 1074 = e := ⟨(unit + 1074).toNat, by omega⟩
  have hmax : max (unit + 52 - 52) (-1074) = unit := by omega
  have hinfinite : infiniteMagnitude = 2047 * 2 ^ 52 := rfl
  refine ⟨count, unit, hlog, hround, count + e * 2 ^ 52, by omega, ?_, ?_⟩
  · rw [nearest, if_neg hnum.ne']
    simp only [hunit, hmax, ← hcount, he, Int.toNat_natCast]
    rw [Nat.min_eq_right (by omega)]
  · have hpower : unit = (e : ℤ) + -1074 := by omega
    rw [unitsOf_add hfits.1 (.inr hfits.2), hpower, zpow_add₀ two_ne_zero, zpow_natCast, Nat.cast_mul,
      Nat.cast_pow, Nat.cast_ofNat, mul_assoc]

theorem value_ofParts {magnitude : Nat} (h : magnitude < infiniteMagnitude) :
    (ofParts false magnitude).value = (unitsOf magnitude : ℚ) * 2 ^ (-1074 : ℤ) := by
  rw [value_eq, magnitude_ofParts (Nat.lt_trans h (by decide))]

theorem zero_near : (ofParts false 0).Near 0 := by
  have hfinite : 0 < infiniteMagnitude := by decide
  refine ⟨by rwa [magnitude_ofParts (by decide)], negative_ofParts (by decide), ?_⟩
  rw [value_ofParts hfinite, unitsOf_zero, Nat.cast_zero, zero_mul, sub_zero, abs_zero, zero_mul]

/-- The double nearest to a quotient is near it, unless the quotient lies at the ends of the range. -/
theorem nearest_near (hden : 0 < den) (h : num = 0 ∨ InRange (num / den)) :
    (nearest false num den).Near (num / den) := by
  rcases h with rfl | h
  · rw [Nat.cast_zero, zero_div]
    exact zero_near
  obtain ⟨count, unit, hlog, hround, magnitude, hfinite, hnearest, hvalue⟩ := exists_nearest_eq hden h
  have hbits : magnitude < 2 ^ 63 := Nat.lt_trans hfinite (by decide)
  rw [hnearest]
  refine ⟨by rwa [magnitude_ofParts hbits], negative_ofParts hbits, ?_⟩
  have hpos : (0 : ℚ) < 2 ^ unit := zpow_pos two_pos _
  have hback : (num : ℚ) / den = num / den * 2 ^ (-unit) * 2 ^ unit := by
    rw [mul_assoc, ← zpow_add₀ two_ne_zero, neg_add_cancel, zpow_zero, mul_one]
  calc |(ofParts false magnitude).value - num / den|
      = |((count : ℚ) - num / den * 2 ^ (-unit)) * 2 ^ unit| := by
        conv => lhs; rw [value_ofParts hfinite, hvalue, hback, ← sub_mul]
    _ = |(count : ℚ) - num / den * 2 ^ (-unit)| * 2 ^ unit := by
        rw [abs_mul, abs_of_pos hpos]
    _ ≤ 1 / 2 * 2 ^ unit := by gcongr
    _ = 2 ^ (unit + 52) * 2 ^ (-53 : ℤ) := by
        have hpower : unit + 52 + -53 = -1 + unit := by omega
        rw [← zpow_add₀ two_ne_zero, hpower, zpow_add₀ two_ne_zero, zpow_neg_one, one_div]
    _ ≤ num / den * 2 ^ (-53 : ℤ) := by gcongr

end

/-! ## Operations -/

/-- The double nearest to a natural number. -/
theorem ofNat_near {n : Nat} (h : n ≤ 2 ^ 128) : (ofNat n).Near n := by
  have hrange : n = 0 ∨ InRange ((n : ℚ) / (1 : ℕ)) := by
    refine n.eq_zero_or_pos.imp_right fun hpos => ?_
    have hone : (1 : ℚ) ≤ n := Nat.one_le_cast.mpr hpos
    rw [Nat.cast_one, div_one]
    refine inRange_of_le (le_trans (zpow_le_one_of_nonpos₀ one_le_two (by decide)) hone) ?_
    rw [zpow_ofNat]
    exact_mod_cast h
  have hnear := nearest_near Nat.one_pos hrange
  rw [Nat.cast_one, div_one] at hnear
  exact hnear

section

variable {x y : Binary64}

theorem fraction_den_pos (x : Binary64) : 0 < x.fraction.2 :=
  Nat.two_pow_pos _

/-- The quotient of two doubles is near the quotient of their values. -/
theorem div_near (hx : x.negative = false) (hy : y.negative = false) (hpos : 0 < y.value)
    (h : x.value = 0 ∨ InRange (x.value / y.value)) : (x.div y).Near (x.value / y.value) := by
  have hnum : 0 < y.fraction.1 := by
    refine Nat.pos_of_ne_zero fun hzero => ?_
    rw [value, hzero, Nat.cast_zero, zero_div] at hpos
    exact lt_irrefl _ hpos
  have hvalue : ((x.fraction.1 * y.fraction.2 : ℕ) : ℚ) / (x.fraction.2 * y.fraction.1 : ℕ)
      = x.value / y.value := by
    rw [Nat.cast_mul, Nat.cast_mul, value, value, div_div_div_eq]
  have hrange : x.fraction.1 * y.fraction.2 = 0 ∨
      InRange (((x.fraction.1 * y.fraction.2 : ℕ) : ℚ) / (x.fraction.2 * y.fraction.1 : ℕ)) := by
    refine h.imp (fun hzero => ?_) fun hrange => by rwa [hvalue]
    have hd : (x.fraction.2 : ℚ) ≠ 0 := Nat.cast_ne_zero.mpr x.fraction_den_pos.ne'
    have hn : x.fraction.1 = 0 := Nat.cast_eq_zero.mp ((div_eq_zero_iff.mp hzero).resolve_right hd)
    rw [hn, Nat.zero_mul]
  have hnear := nearest_near (Nat.mul_pos x.fraction_den_pos hnum) hrange
  rw [← hvalue]
  unfold div
  simp only
  rw [hx, hy]
  exact hnear

/-- Zero over a double is zero. -/
theorem exists_zero_div (y : Binary64) : ∃ negative, (ofNat 0).div y = ofParts negative 0 := by
  have hnum : (ofNat 0).fraction.1 = 0 := by decide
  refine ⟨(ofNat 0).negative != y.negative, ?_⟩
  unfold div
  simp only [hnum, Nat.zero_mul]
  rfl

/-- The sum of two doubles is near the sum of their values. -/
theorem add_near (hx : x.magnitude < infiniteMagnitude) (hy : y.magnitude < infiniteMagnitude)
    (hxpos : x.negative = false) (hypos : y.negative = false) (h : InRange (x.value + y.value)) :
    (x.add y).Near (x.value + y.value) := by
  have hnan {z : Binary64} (hz : z.magnitude < infiniteMagnitude) : z.isNaN = false :=
    decide_eq_false (Nat.not_lt_of_lt hz)
  have hinfinite {z : Binary64} (hz : z.magnitude < infiniteMagnitude) : z.isInfinite = false :=
    beq_eq_false_iff_ne.mpr (Nat.ne_of_lt hz)
  have hunits {z : Binary64} (hz : z.negative = false) : z.units = (unitsOf z.magnitude : ℤ) := by
    rw [units_eq, hz, if_neg Bool.false_ne_true]
  have hvalue : ((unitsOf x.magnitude + unitsOf y.magnitude : ℕ) : ℚ) / (2 ^ 1074 : ℕ)
      = x.value + y.value := by
    rw [value_eq, value_eq, ← add_mul, Nat.cast_add, div_eq_mul_inv, zpow_neg, Nat.cast_pow]
    rfl
  rw [← hvalue] at h ⊢
  have hden : 0 < 2 ^ 1074 := by positivity
  have hnear := nearest_near hden (.inr h)
  have hpos := num_pos_of_inRange h
  have hsum : (unitsOf x.magnitude : ℤ) + unitsOf y.magnitude
      = (unitsOf x.magnitude + unitsOf y.magnitude : ℕ) := (Nat.cast_add _ _).symm
  have hsome : ((unitsOf x.magnitude + unitsOf y.magnitude : ℕ) : ℤ) ≠ 0 := by omega
  have hsign : decide (((unitsOf x.magnitude + unitsOf y.magnitude : ℕ) : ℤ) < 0) = false :=
    decide_eq_false (by omega)
  have hadd : x.add y
      = nearest (decide (x.units + y.units < 0)) (x.units + y.units).natAbs (2 ^ 1074) := by
    rw [add, hnan hx, if_neg Bool.false_ne_true, hnan hy, if_neg Bool.false_ne_true, hinfinite hx,
      if_neg Bool.false_ne_true, hinfinite hy, if_neg Bool.false_ne_true]
    exact if_neg (by rw [hunits hxpos, hunits hypos, hsum]; exact hsome)
  rw [hadd, hunits hxpos, hunits hypos, hsum, hsign, Int.natAbs_natCast]
  exact hnear

end

/-! ## Bounds -/

/-- A finite double, not below zero, whose value lies between two bounds. -/
structure Between (x : Binary64) (lower upper : ℚ) : Prop where
  /-- it is finite -/
  finite : x.magnitude < infiniteMagnitude
  /-- it is not below zero -/
  positive : x.negative = false
  /-- it is not below the lower bound -/
  lower_le : lower ≤ x.value
  /-- it is not above the upper bound -/
  le_upper : x.value ≤ upper

section

variable {x y : Binary64} {q a b c d : ℚ}

/-- What lies between two bounds lies between wider ones. -/
theorem Between.widen (h : x.Between a b) (hlower : c ≤ a) (hupper : b ≤ d) : x.Between c d :=
  ⟨h.finite, h.positive, hlower.trans h.lower_le, h.le_upper.trans hupper⟩

/-- A double that is near a number differs from it by much less than a sixteenth. -/
theorem Near.between (h : x.Near q) (hq : 0 ≤ q) : x.Between (15 / 16 * q) (17 / 16 * q) := by
  have hcoarse : |x.value - q| ≤ q * (1 / 16) := by
    refine le_trans h.close ?_
    gcongr
    norm_num
  obtain ⟨hdown, hup⟩ := abs_le.mp hcoarse
  refine ⟨h.finite, h.positive, ?_, ?_⟩ <;> linarith

theorem ofNat_between {n : Nat} (h : n ≤ 2 ^ 128) :
    (ofNat n).Between (15 / 16 * n) (17 / 16 * n) :=
  (ofNat_near h).between (Nat.cast_nonneg n)

/-- Bounds of a quotient, unless it lies at the ends of the range. -/
theorem Between.div (hx : x.Between a b) (hy : y.Between c d) (ha : 0 ≤ a) (hc : 0 < c)
    (hlow : b = 0 ∨ 2 ^ (-128 : ℤ) ≤ a / d) (hhigh : b / c ≤ 2 ^ (128 : ℤ)) :
    (x.div y).Between (15 / 16 * (a / d)) (17 / 16 * (b / c)) := by
  have hvalue : 0 ≤ x.value := ha.trans hx.lower_le
  have hpos : 0 < y.value := hc.trans_le hy.lower_le
  have hlower : a / d ≤ x.value / y.value := div_le_div₀ hvalue hx.lower_le hpos hy.le_upper
  have hupper : x.value / y.value ≤ b / c :=
    div_le_div₀ (hvalue.trans hx.le_upper) hx.le_upper hc hy.lower_le
  have hnear : (x.div y).Near (x.value / y.value) := by
    refine div_near hx.positive hy.positive hpos (hlow.imp (fun hzero => ?_) fun hlow => ?_)
    · exact le_antisymm (hzero ▸ hx.le_upper) hvalue
    · exact inRange_of_le (hlow.trans hlower) (hupper.trans hhigh)
  refine (hnear.between (div_nonneg hvalue hpos.le)).widen ?_ ?_
  · gcongr
  · gcongr

/-- Bounds of a sum, unless it lies at the ends of the range. -/
theorem Between.add (hx : x.Between a b) (hy : y.Between c d) (ha : 0 ≤ a) (hc : 0 ≤ c)
    (hlow : 2 ^ (-128 : ℤ) ≤ a + c) (hhigh : b + d ≤ 2 ^ (128 : ℤ)) :
    (x.add y).Between (15 / 16 * (a + c)) (17 / 16 * (b + d)) := by
  have hlower := add_le_add hx.lower_le hy.lower_le
  have hupper := add_le_add hx.le_upper hy.le_upper
  have hnear := add_near hx.finite hy.finite hx.positive hy.positive
    (inRange_of_le (hlow.trans hlower) (hupper.trans hhigh))
  refine (hnear.between ((add_nonneg ha hc).trans hlower)).widen ?_ ?_
  · gcongr
  · gcongr

end

end Binary64

end BulkSweep.Numeric

import BulkSweep.Numeric.Binary64

/-!
# Places of doubles

A finite double is a multiple of the least positive one, and its magnitude, the bits without the sign,
tells its place among all of them.  The place of an exact number, in the same units, is the magnitude
of the double nearest to it.  A double has its own magnitude as its place, and places keep the order of
exact numbers (`place_mono`); that is all that comparing by nearest doubles rests on.
-/

set_option autoImplicit false

namespace BulkSweep.Numeric

/-! ## Rounded quotients -/

theorem le_roundQuotient (num den : Nat) : num / den ≤ roundQuotient num den := by
  rcases roundQuotient_cases num den with h | h <;> omega

theorem roundQuotient_le (num den : Nat) : roundQuotient num den ≤ num / den + 1 := by
  rcases roundQuotient_cases num den with h | h <;> omega

/-- A larger numerator has no smaller rounded quotient. -/
theorem roundQuotient_mono {m n : Nat} (den : Nat) (h : m ≤ n) :
    roundQuotient m den ≤ roundQuotient n den := by
  have hdiv : m / den ≤ n / den := Nat.div_le_div_right h
  rcases Nat.lt_or_eq_of_le hdiv with hlt | heq
  · exact Nat.le_trans (roundQuotient_le m den) (Nat.le_trans hlt (le_roundQuotient n den))
  · -- between the same two neighbours the remainders decide
    have hm := Nat.div_add_mod m den
    have hn := Nat.div_add_mod n den
    rw [heq] at hm
    have hmod : m % den ≤ n % den := by omega
    unfold roundQuotient
    simp only [heq]
    split <;> split <;> omega

/-- A quotient is rounded alike when numerator and denominator have one more factor. -/
theorem roundQuotient_scale (num den : Nat) {t : Nat} (ht : 0 < t) :
    roundQuotient (num * t) (den * t) = roundQuotient num den := by
  have hdiv : num * t / (den * t) = num / den := Nat.mul_div_mul_right num den ht
  have hmod : num * t % (den * t) = num % den * t := Nat.mul_mod_mul_right t num den
  have hlt : den * t < 2 * (num % den * t) ↔ den < 2 * (num % den) := by
    rw [← Nat.mul_assoc]
    exact Nat.mul_lt_mul_right ht
  have heq : 2 * (num % den * t) = den * t ↔ 2 * (num % den) = den := by
    rw [← Nat.mul_assoc]
    exact Nat.mul_left_inj (Nat.ne_of_gt ht)
  simp only [roundQuotient, hdiv, hmod, hlt, heq]

namespace Binary64

/-! ## Magnitudes -/

/-- The absolute value of a finite double of the given magnitude, as a multiple of the least positive
one. -/
def unitsOf (magnitude : Nat) : Nat :=
  (magnitude % 2 ^ 52 + if magnitude < 2 ^ 52 then 0 else 2 ^ 52) * 2 ^ (max 1 (magnitude / 2 ^ 52) - 1)

theorem units_eq (x : Binary64) :
    x.units = if x.negative then -(unitsOf x.magnitude : Int) else unitsOf x.magnitude :=
  rfl

/-- The magnitude of a double with a significand of fifty-three bits.  Only where the power of two is the
least one may the significand have fewer bits. -/
theorem unitsOf_add {c e : Nat} (hhigh : c ≤ 2 ^ 53) (hlow : e = 0 ∨ 2 ^ 52 ≤ c) :
    unitsOf (c + e * 2 ^ 52) = c * 2 ^ e := by
  by_cases hsmall : c < 2 ^ 52
  · obtain rfl : e = 0 := by omega
    have hmod : (c + 0 * 2 ^ 52) % 2 ^ 52 = c := by omega
    have hdiv : (c + 0 * 2 ^ 52) / 2 ^ 52 = 0 := by omega
    rw [unitsOf, hmod, hdiv, if_pos (by omega)]
    rfl
  · have hbig : ¬c + e * 2 ^ 52 < 2 ^ 52 := by omega
    by_cases hcarry : c < 2 ^ 53
    · have hmod : (c + e * 2 ^ 52) % 2 ^ 52 = c - 2 ^ 52 := by omega
      have hdiv : (c + e * 2 ^ 52) / 2 ^ 52 = e + 1 := by omega
      have hbits : c - 2 ^ 52 + 2 ^ 52 = c := by omega
      have hpower : max 1 (e + 1) - 1 = e := by omega
      rw [unitsOf, hmod, hdiv, if_neg hbig, hbits, hpower]
    · obtain rfl : c = 2 ^ 53 := by omega
      have hmod : (2 ^ 53 + e * 2 ^ 52) % 2 ^ 52 = 0 := by omega
      have hdiv : (2 ^ 53 + e * 2 ^ 52) / 2 ^ 52 = e + 1 + 1 := by omega
      have hpower : max 1 (e + 1 + 1) - 1 = e + 1 := by omega
      rw [unitsOf, hmod, hdiv, if_neg hbig, hpower, Nat.zero_add, Nat.pow_succ]
      omega

/-- A magnitude is a significand and a power of two. -/
theorem exists_parts (m : Nat) : ∃ c e, m = c + e * 2 ^ 52 ∧ c < 2 ^ 53 ∧ (e = 0 ∨ 2 ^ 52 ≤ c) := by
  by_cases h : m < 2 ^ 53
  · exact ⟨m, 0, by omega, h, .inl rfl⟩
  · exact ⟨m % 2 ^ 52 + 2 ^ 52, m / 2 ^ 52 - 1, by omega, by omega, .inr (by omega)⟩

/-! ## Places -/

/-- How many powers of two are rounded away from a number of units. -/
def shift (n : Nat) : Nat :=
  n.log2 - 52

/-- The magnitude of the double nearest to a number of units. -/
def place (n : Nat) : Nat :=
  roundQuotient n (2 ^ shift n) + shift n * 2 ^ 52

theorem shift_eq {n k : Nat} (hhigh : n < 2 ^ (k + 53)) (hlow : k = 0 ∨ 2 ^ (k + 52) ≤ n) :
    shift n = k := by
  unfold shift
  by_cases hzero : n = 0
  · subst hzero
    have hpos : 0 < 2 ^ (k + 52) := Nat.two_pow_pos _
    rw [Nat.log2_zero]
    omega
  · have hlt : n.log2 < k + 53 := (Nat.log2_lt hzero).mpr hhigh
    rcases hlow with hk | hle
    · omega
    · have hge : k + 52 ≤ n.log2 := (Nat.le_log2 hzero).mpr hle
      omega

/-- How many powers of two are rounded away from a number with some powers of two. -/
theorem shift_mul_two_pow {n : Nat} (h : n ≠ 0) (t : Nat) : shift (n * 2 ^ t) = n.log2 + t - 52 := by
  have hpos : 0 < 2 ^ t := Nat.two_pow_pos t
  have hhigh : n * 2 ^ t < 2 ^ (n.log2 + 1 + t) := by
    rw [Nat.pow_add]
    exact Nat.mul_lt_mul_of_pos_right Nat.lt_log2_self hpos
  refine shift_eq (Nat.lt_of_lt_of_le hhigh (Nat.pow_le_pow_right (by decide) (by omega))) ?_
  by_cases hsmall : n.log2 + t ≤ 52
  · exact .inl (by omega)
  · refine .inr ?_
    have hbits : n.log2 + t - 52 + 52 = n.log2 + t := by omega
    rw [hbits, Nat.pow_add]
    exact Nat.mul_le_mul_right _ (Nat.log2_self_le h)

/-- What is left of a number of units has fifty-three bits; only the smallest numbers have fewer. -/
theorem div_shift (n : Nat) : n / 2 ^ shift n < 2 ^ 53 ∧ (shift n = 0 ∨ 2 ^ 52 ≤ n / 2 ^ shift n) := by
  have hpos : 0 < 2 ^ shift n := Nat.two_pow_pos _
  rw [Nat.div_lt_iff_lt_mul hpos, Nat.le_div_iff_mul_le hpos, ← Nat.pow_add, ← Nat.pow_add]
  constructor
  · have hbits : n.log2 + 1 ≤ 53 + shift n := by
      unfold shift
      omega
    exact Nat.lt_of_lt_of_le Nat.lt_log2_self (Nat.pow_le_pow_right (by decide) hbits)
  · by_cases hshift : shift n = 0
    · exact .inl hshift
    · refine .inr ?_
      have hbits : 52 + shift n = n.log2 := by
        unfold shift at hshift ⊢
        omega
      rw [hbits]
      refine Nat.log2_self_le ?_
      rintro rfl
      exact hshift rfl

theorem roundQuotient_shift (n : Nat) : roundQuotient n (2 ^ shift n) ≤ 2 ^ 53 ∧
    (shift n = 0 ∨ 2 ^ 52 ≤ roundQuotient n (2 ^ shift n)) := by
  obtain ⟨hhigh, hlow⟩ := div_shift n
  have hle := roundQuotient_le n (2 ^ shift n)
  have hge := le_roundQuotient n (2 ^ shift n)
  omega

theorem unitsOf_place (n : Nat) :
    unitsOf (place n) = roundQuotient n (2 ^ shift n) * 2 ^ shift n :=
  unitsOf_add (roundQuotient_shift n).1 (roundQuotient_shift n).2

/-- A double has its magnitude as its place. -/
theorem place_unitsOf (m : Nat) : place (unitsOf m) = m := by
  obtain ⟨c, e, rfl, hhigh, hlow⟩ := exists_parts m
  have hpos : 0 < 2 ^ e := Nat.two_pow_pos _
  have hshift : shift (c * 2 ^ e) = e := by
    refine shift_eq ?_ ?_
    · rw [Nat.add_comm, Nat.pow_add]
      exact Nat.mul_lt_mul_of_pos_right hhigh hpos
    · rcases hlow with he | hc
      · exact .inl he
      · refine .inr ?_
        rw [Nat.add_comm, Nat.pow_add]
        exact Nat.mul_le_mul_right _ hc
  rw [unitsOf_add (Nat.le_of_lt hhigh) hlow, place, hshift, roundQuotient_mul c _ hpos]

theorem shift_mono {m n : Nat} (h : m ≤ n) : shift m ≤ shift n := by
  by_cases hzero : m = 0
  · rw [hzero]
    exact Nat.zero_le _
  · have hlog : m.log2 ≤ n.log2 :=
      (Nat.le_log2 (by omega)).mpr (Nat.le_trans (Nat.log2_self_le hzero) h)
    exact Nat.sub_le_sub_right hlog 52

/-- Places keep the order. -/
theorem place_mono {m n : Nat} (h : m ≤ n) : place m ≤ place n := by
  rcases Nat.lt_or_eq_of_le (shift_mono h) with hlt | heq
  · -- the lower number is at most the greatest one with its power, the other is at least the least
    have hm := (roundQuotient_shift m).1
    have hn := (roundQuotient_shift n).2
    unfold place
    omega
  · unfold place
    rw [heq]
    exact Nat.add_le_add_right (roundQuotient_mono _ h) _

/-- Doubles of one sign are ordered as their magnitudes are. -/
theorem unitsOf_lt {m n : Nat} : unitsOf m < unitsOf n ↔ m < n := by
  have hlt {m n : Nat} (h : m < n) : unitsOf m < unitsOf n := by
    refine Nat.lt_of_not_le fun hle => ?_
    have hplaces := place_mono hle
    rw [place_unitsOf, place_unitsOf] at hplaces
    omega
  refine ⟨fun h => Nat.lt_of_not_le fun hle => ?_, hlt⟩
  rcases Nat.lt_or_eq_of_le hle with hless | rfl
  · exact absurd (hlt hless) (Nat.not_lt_of_lt h)
  · exact Nat.lt_irrefl _ h

theorem unitsOf_zero : unitsOf 0 = 0 :=
  rfl

theorem unitsOf_pos {m : Nat} (h : 0 < m) : 0 < unitsOf m := by
  have hless := unitsOf_lt.mpr h
  rwa [unitsOf_zero] at hless

/-! ## Signs -/

variable {negative : Bool} {magnitude : Nat}

theorem bits_ofParts (h : magnitude < 2 ^ 63) :
    (ofParts negative magnitude).bits.toNat = magnitude + if negative then 2 ^ 63 else 0 := by
  have hsize : (magnitude + if negative then 2 ^ 63 else 0) < 2 ^ 64 := by
    split <;> omega
  exact UInt64.toNat_ofNat_of_lt' hsize

theorem magnitude_ofParts (h : magnitude < 2 ^ 63) :
    (ofParts negative magnitude).magnitude = magnitude := by
  unfold Binary64.magnitude
  rw [bits_ofParts h]
  split <;> omega

theorem negative_ofParts (h : magnitude < 2 ^ 63) :
    (ofParts negative magnitude).negative = negative := by
  unfold Binary64.negative
  rw [bits_ofParts h]
  cases negative with
  | true => simp
  | false => simpa using h

/-- A double is its sign and its magnitude. -/
theorem ofParts_eq (x : Binary64) : ofParts x.negative x.magnitude = x := by
  have hsize := x.bits.toNat_lt
  have hmagnitude : x.magnitude < 2 ^ 63 := Nat.mod_lt _ (by decide)
  have hbits : (ofParts x.negative x.magnitude).bits.toNat = x.bits.toNat := by
    rw [bits_ofParts hmagnitude]
    unfold Binary64.magnitude negative
    simp only [decide_eq_true_eq]
    split <;> omega
  exact congrArg Binary64.mk (UInt64.toNat_inj.mp hbits)

theorem units_ofParts (h : magnitude < 2 ^ 63) : (ofParts negative magnitude).units
    = if negative then -(unitsOf magnitude : Int) else unitsOf magnitude := by
  rw [units_eq, magnitude_ofParts h, negative_ofParts h]

/-- The zero below zero, which is equal to zero and yet comes before it in the total order. -/
def IsNegativeZero (x : Binary64) : Prop :=
  x.negative = true ∧ x.magnitude = 0

instance (x : Binary64) : Decidable x.IsNegativeZero :=
  inferInstanceAs (Decidable (_ ∧ _))

theorem units_of_isZero {x : Binary64} (h : x.isZero = true) : x.units = 0 := by
  rw [units_eq, eq_of_beq h, unitsOf_zero]
  split <;> rfl

/-- Doubles that are the same number have the same exact value. -/
theorem units_of_sameNumber {x y : Binary64} (h : x.sameNumber y = true) : x.units = y.units := by
  obtain ⟨-, hsame⟩ := Bool.and_eq_true_iff.mp h
  rcases Bool.or_eq_true_iff.mp hsame with hbits | hzeros
  · obtain rfl : x = y := congrArg Binary64.mk (eq_of_beq hbits)
    rfl
  · obtain ⟨hx, hy⟩ := Bool.and_eq_true_iff.mp hzeros
    rw [units_of_isZero hx, units_of_isZero hy]

/-- Doubles that are zero only if they have the same sign or one of them is not zero. -/
def ZerosAlike (x y : Binary64) : Prop :=
  x.magnitude = 0 → y.magnitude = 0 → x.negative = y.negative

theorem ZerosAlike.symm {x y : Binary64} (h : x.ZerosAlike y) : y.ZerosAlike x :=
  fun hy hx => (h hx hy).symm

/-- Of doubles of different signs that are not both zero, one has a value. -/
theorem ZerosAlike.unitsOf_pos {x y : Binary64} (h : x.ZerosAlike y) (hsign : x.negative ≠ y.negative) :
    0 < unitsOf x.magnitude + unitsOf y.magnitude := by
  by_cases hx : x.magnitude = 0
  · have hy : y.magnitude ≠ 0 := fun hy => hsign (h hx hy)
    exact Nat.add_pos_right _ (Binary64.unitsOf_pos (Nat.pos_of_ne_zero hy))
  · exact Nat.add_pos_left (Binary64.unitsOf_pos (Nat.pos_of_ne_zero hx)) _

/-- The total order of doubles is the order of their exact values, zeros of different signs apart. -/
theorem rank_lt {x y : Binary64} (h : x.ZerosAlike y) : x.rank < y.rank ↔ x.units < y.units := by
  have hless : unitsOf x.magnitude < unitsOf y.magnitude ↔ x.magnitude < y.magnitude := unitsOf_lt
  have hmore : unitsOf y.magnitude < unitsOf x.magnitude ↔ y.magnitude < x.magnitude := unitsOf_lt
  rw [units_eq, units_eq, rank, rank]
  by_cases hxneg : x.negative = true
  · by_cases hyneg : y.negative = true
    · simp only [if_pos hxneg, if_pos hyneg]
      omega
    · have hpos := h.unitsOf_pos fun hsame => hyneg (hsame ▸ hxneg)
      simp only [if_pos hxneg, if_neg hyneg]
      omega
  · by_cases hyneg : y.negative = true
    · have hpos := h.unitsOf_pos fun hsame => hxneg (hsame ▸ hyneg)
      simp only [if_neg hxneg, if_pos hyneg]
      omega
    · simp only [if_neg hxneg, if_neg hyneg]
      omega

theorem totalOrder_eq {x y : Binary64} (h : x.ZerosAlike y) :
    x.totalOrder y = compare x.units y.units := by
  have hless := rank_lt h
  have hmore := rank_lt h.symm
  unfold totalOrder
  rcases Int.lt_trichotomy x.rank y.rank with h | h | h
  · rw [Int.compare_eq_lt.mpr h, Int.compare_eq_lt.mpr (hless.mp h)]
  · rw [Int.compare_eq_eq.mpr h, Int.compare_eq_eq.mpr (by omega)]
  · rw [Int.compare_eq_gt.mpr h, Int.compare_eq_gt.mpr (hmore.mp h)]

/-! ## Integers -/

/-- The least positive double is one divided by so many powers of two. -/
def leastPower : Nat :=
  1074

/-- A natural number as a multiple of the least positive double. -/
def natural (n : Nat) : Nat :=
  n * 2 ^ leastPower

theorem natural_zero : natural 0 = 0 :=
  Nat.zero_mul _

/-- How many powers of two are rounded away from a natural number. -/
theorem shift_natural {n : Nat} (h : n ≠ 0) : shift (natural n) = n.log2 + 1022 := by
  have hpower : leastPower = 1074 := rfl
  unfold natural
  rw [shift_mul_two_pow h]
  omega

theorem place_natural {n : Nat} (h : n ≠ 0) : place (natural n)
    = roundQuotient (natural n) (2 ^ (n.log2 + 1022)) + (n.log2 + 1022) * 2 ^ 52 := by
  rw [place, shift_natural h]

/-- The double nearest to an integer of sixty-four bits is finite. -/
theorem place_natural_lt {n : Nat} (h : n < 2 ^ 64) : place (natural n) < infiniteMagnitude := by
  by_cases hzero : n = 0
  · rw [hzero, natural_zero]
    decide
  · have hlog : n.log2 < 64 := (Nat.log2_lt hzero).mpr h
    have hcount := (roundQuotient_shift (natural n)).1
    rw [shift_natural hzero] at hcount
    rw [place_natural hzero, infiniteMagnitude]
    omega

theorem log2Quotient_two_pow {n : Nat} (h : n ≠ 0) (t : Nat) :
    log2Quotient n (2 ^ t) = (n.log2 : Int) - t := by
  have hfits : 2 ^ t * 2 ^ ((n.log2 : Int) - t).toNat ≤ n * 2 ^ (-((n.log2 : Int) - t)).toNat := by
    have hpowers : t + ((n.log2 : Int) - t).toNat = n.log2 + (-((n.log2 : Int) - t)).toNat := by omega
    rw [← Nat.pow_add, hpowers, Nat.pow_add]
    exact Nat.mul_le_mul_right _ (Nat.log2_self_le h)
  simp only [log2Quotient, Nat.log2_two_pow, if_pos hfits]

/-- The double nearest to a number over a power of two has the place of this number in units. -/
theorem nearest_units (negative : Bool) (n : Nat) {t : Nat} (ht : t ≤ 511) :
    nearest negative n (2 ^ t)
      = ofParts negative (min infiniteMagnitude (place (n * 2 ^ (leastPower - t)))) := by
  have hpower : leastPower = 1074 := rfl
  by_cases hzero : n = 0
  · rw [hzero, Nat.zero_mul]
    rfl
  · have hunit : max (log2Quotient n (2 ^ t) - 52) (-1074) = (n.log2 : Int) - t - 52 := by
      rw [log2Quotient_two_pow hzero]
      omega
    have hshift : shift (n * 2 ^ (leastPower - t)) = ((n.log2 : Int) - t - 52 + 1074).toNat := by
      rw [shift_mul_two_pow hzero]
      omega
    -- numerator and denominator lack the same powers of two of the units
    have hround : roundQuotient (n * 2 ^ (-((n.log2 : Int) - t - 52)).toNat)
          (2 ^ t * 2 ^ ((n.log2 : Int) - t - 52).toNat)
        = roundQuotient (n * 2 ^ (leastPower - t)) (2 ^ ((n.log2 : Int) - t - 52 + 1074).toNat) := by
      obtain ⟨k, hk⟩ : ∃ k, k = leastPower - t - (-((n.log2 : Int) - t - 52)).toNat := ⟨_, rfl⟩
      have hnum : (-((n.log2 : Int) - t - 52)).toNat + k = leastPower - t := by omega
      have hden : t + (((n.log2 : Int) - t - 52).toNat + k) = ((n.log2 : Int) - t - 52 + 1074).toNat := by
        omega
      rw [← roundQuotient_scale _ _ (Nat.two_pow_pos k), Nat.mul_assoc, ← Nat.pow_add, hnum, Nat.mul_assoc,
        ← Nat.pow_add, ← Nat.pow_add, hden]
    rw [nearest, if_neg hzero]
    simp only [hunit, hround, place, hshift]

/-- The double nearest to a natural number has the place of this number. -/
theorem nearest_natural (negative : Bool) {n : Nat} (h : n < 2 ^ 64) :
    nearest negative n 1 = ofParts negative (place (natural n)) := by
  have hunits := nearest_units negative n (Nat.zero_le 511)
  rw [Nat.pow_zero, Nat.sub_zero] at hunits
  rw [hunits]
  exact congrArg (ofParts negative) (Nat.min_eq_right (Nat.le_of_lt (place_natural_lt h)))

/-! ## Exact values -/

/-- The exact value of the double nearest to an exact value, both in units. -/
def nearestUnits (z : Int) : Int :=
  if z < 0 then -(unitsOf (place z.natAbs) : Int) else unitsOf (place z.natAbs)

/-- An integer in units. -/
def integer (n : Int) : Int :=
  n * (2 ^ leastPower : Nat)

theorem natAbs_integer (n : Int) : (integer n).natAbs = natural n.natAbs := by
  rw [integer, Int.natAbs_mul, Int.natAbs_natCast, natural]

theorem integer_eq_zero {n : Int} : integer n = 0 ↔ n = 0 := by
  have hpos : ((2 ^ leastPower : Nat) : Int) ≠ 0 :=
    Int.natCast_ne_zero.mpr (Nat.ne_of_gt (Nat.two_pow_pos _))
  rw [integer, Int.mul_eq_zero, or_iff_left hpos]

theorem integer_neg {n : Int} : integer n < 0 ↔ n < 0 := by
  have hpos : (0 : Int) < (2 ^ leastPower : Nat) := Int.natCast_pos.mpr (Nat.two_pow_pos _)
  rw [integer]
  constructor
  · exact fun h => Int.lt_of_not_ge fun hge => absurd (Int.mul_nonneg hge (Int.le_of_lt hpos)) (by omega)
  · exact fun h => Int.mul_neg_of_neg_of_pos h hpos

/-- Values are rounded in their order. -/
theorem nearestUnits_mono {y z : Int} (h : y ≤ z) : nearestUnits y ≤ nearestUnits z := by
  have hplace {m n : Nat} (hle : m ≤ n) : unitsOf (place m) ≤ unitsOf (place n) := by
    rcases Nat.lt_or_eq_of_le (place_mono hle) with hlt | heq
    · exact Nat.le_of_lt (unitsOf_lt.mpr hlt)
    · exact Nat.le_of_eq (congrArg unitsOf heq)
  unfold nearestUnits
  by_cases hy : y < 0
  · by_cases hz : z < 0
    · have hle : z.natAbs ≤ y.natAbs := by omega
      rw [if_pos hy, if_pos hz]
      exact Int.neg_le_neg (Int.ofNat_le.mpr (hplace hle))
    · rw [if_pos hy, if_neg hz]
      omega
  · have hz : ¬z < 0 := by omega
    have hle : y.natAbs ≤ z.natAbs := by omega
    rw [if_neg hy, if_neg hz]
    exact Int.ofNat_le.mpr (hplace hle)

/-- Values whose nearest doubles differ are ordered as these are. -/
theorem compare_nearestUnits {y z : Int}
    (h : compare (nearestUnits y) (nearestUnits z) ≠ .eq) :
    compare (nearestUnits y) (nearestUnits z) = compare y z := by
  have hyz := nearestUnits_mono (y := y) (z := z)
  have hzy := nearestUnits_mono (y := z) (z := y)
  rcases Int.lt_trichotomy (nearestUnits y) (nearestUnits z) with hlt | heq | hgt
  · rw [Int.compare_eq_lt.mpr hlt, Int.compare_eq_lt.mpr (by omega)]
  · exact absurd (Int.compare_eq_eq.mpr heq) h
  · rw [Int.compare_eq_gt.mpr hgt, Int.compare_eq_gt.mpr (by omega)]

/-- A double has the value of the nearest one to its own value. -/
theorem nearestUnits_units (x : Binary64) : nearestUnits x.units = x.units := by
  rw [units_eq, nearestUnits]
  by_cases hneg : x.negative = true
  · rw [if_pos hneg, Int.natAbs_neg, Int.natAbs_natCast, place_unitsOf]
    split <;> omega
  · rw [if_neg hneg, if_neg (by omega), Int.natAbs_natCast, place_unitsOf]

theorem ofInt_eq {n : Int} (h : n.natAbs < 2 ^ 64) :
    ofInt n = ofParts (n < 0) (place (natural n.natAbs)) :=
  nearest_natural _ h

theorem place_lt_half {n : Nat} (h : n < 2 ^ 64) : place (natural n) < 2 ^ 63 :=
  Nat.lt_trans (place_natural_lt h) (by decide)

/-- The double nearest to an integer of sixty-four bits. -/
theorem units_ofInt {n : Int} (h : n.natAbs < 2 ^ 64) :
    (ofInt n).units = nearestUnits (integer n) := by
  rw [ofInt_eq h, units_ofParts (place_lt_half h), nearestUnits, natAbs_integer]
  simp only [decide_eq_true_eq, integer_neg]

/-- No integer but zero is rounded to zero. -/
theorem eq_zero_of_magnitude_ofInt {n : Int} (h : n.natAbs < 2 ^ 64) (hzero : (ofInt n).magnitude = 0) :
    n = 0 := by
  refine Decidable.byContradiction fun hne => ?_
  rw [ofInt_eq h, magnitude_ofParts (place_lt_half h), place_natural (by omega)] at hzero
  omega

theorem ofInt_not_negativeZero {n : Int} (h : n.natAbs < 2 ^ 64) : ¬(ofInt n).IsNegativeZero := by
  rintro ⟨hneg, hzero⟩
  rw [ofInt_eq h, negative_ofParts (place_lt_half h), decide_eq_true_eq] at hneg
  exact absurd (eq_zero_of_magnitude_ofInt h hzero) (by omega)

/-- Nothing is rounded away from a number of at most fifty-three bits. -/
theorem unitsOf_place_natural {n : Nat} (h : n ≤ 2 ^ 53) : unitsOf (place (natural n)) = natural n := by
  have hpower : leastPower = 1074 := rfl
  have hdvd : 2 ^ shift (natural n) ∣ natural n := by
    by_cases hzero : n = 0
    · rw [hzero, natural_zero]
      exact Nat.dvd_zero _
    rw [shift_natural hzero]
    by_cases hsmall : n < 2 ^ 53
    · have hlog : n.log2 < 53 := (Nat.log2_lt hzero).mpr hsmall
      exact Nat.dvd_mul_left_of_dvd (Nat.pow_dvd_pow 2 (by omega)) n
    · have hsame : n = 2 ^ 53 := by omega
      have hlog : n.log2 + 1022 ≤ 53 + leastPower := by
        rw [hsame, Nat.log2_two_pow]
        omega
      rw [natural, hsame, ← Nat.pow_add, ← hsame]
      exact Nat.pow_dvd_pow 2 hlog
  obtain ⟨c, hc⟩ := hdvd
  have hround : roundQuotient (natural n) (2 ^ shift (natural n)) = c := by
    conv => lhs; arg 1; rw [hc, Nat.mul_comm]
    exact roundQuotient_mul c _ (Nat.two_pow_pos _)
  rw [unitsOf_place, hround, Nat.mul_comm]
  exact hc.symm

/-- An integer of at most fifty-three bits is a double. -/
theorem nearestUnits_integer {n : Int} (h : n.natAbs ≤ 2 ^ 53) :
    nearestUnits (integer n) = integer n := by
  have hnatural := natAbs_integer n
  rw [nearestUnits, hnatural, unitsOf_place_natural h]
  split <;> omega

end Binary64

end BulkSweep.Numeric

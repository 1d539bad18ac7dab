import BulkSweep.Numeric.Power

/-!
# Rounding a quotient

Numbers that have to be written or stored in a bounded form are exact quotients first and are
rounded once.  The only rule in use here is "nearest, a half goes to the even neighbour".
-/

set_option autoImplicit false

namespace BulkSweep.Numeric

/-- The natural number nearest to `num / den`; a half goes to the even neighbour. -/
def roundQuotient (num den : Nat) : Nat :=
  let below := num / den
  let twice := 2 * (num % den)
  if den < twice ∨ (twice = den ∧ below % 2 = 1) then below + 1 else below

/-- The rounded quotient is the floor or the next number. -/
theorem roundQuotient_cases (num den : Nat) :
    roundQuotient num den = num / den ∨ roundQuotient num den = num / den + 1 := by
  unfold roundQuotient
  simp only
  split
  · exact Or.inr rfl
  · exact Or.inl rfl

/-- A quotient without remainder is kept. -/
theorem roundQuotient_mul (n den : Nat) (h : 0 < den) : roundQuotient (n * den) den = n := by
  unfold roundQuotient
  simp only [Nat.mul_mod_left, Nat.mul_zero, Nat.mul_div_cancel n h]
  rw [if_neg]
  omega

end BulkSweep.Numeric

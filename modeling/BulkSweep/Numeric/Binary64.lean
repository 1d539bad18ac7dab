import BulkSweep.Numeric.Rounding

/-!
# Doubles

A double is its 64 bits.  A finite one denotes `± significand * 2 ^ exponent`, exactly; arithmetic is
done on those exact values and rounded once, to nearest with ties to even.  The sign of a NaN is
kept, since stored text shows it.
-/

set_option autoImplicit false

namespace BulkSweep.Numeric

/-- A double, as the 64 bits of its interchange format. -/
structure Binary64 where
  /-- sign, eleven bits of exponent, fifty-two bits of fraction -/
  bits : UInt64
  deriving DecidableEq, Repr, Inhabited

namespace Binary64

/-! ## Parts -/

/-- The sign bit. -/
def negative (x : Binary64) : Bool :=
  2 ^ 63 ≤ x.bits.toNat

/-- The bits without the sign; among finite numbers and infinity it grows with the absolute value. -/
def magnitude (x : Binary64) : Nat :=
  x.bits.toNat % 2 ^ 63

/-- The magnitude of infinity; NaNs lie above it. -/
def infiniteMagnitude : Nat :=
  2047 * 2 ^ 52

/-- Puts sign and magnitude together. -/
def ofParts (negative : Bool) (magnitude : Nat) : Binary64 :=
  ⟨UInt64.ofNat (magnitude + if negative then 2 ^ 63 else 0)⟩

/-- Whether the bits denote no number. -/
def isNaN (x : Binary64) : Bool :=
  infiniteMagnitude < x.magnitude

/-- Whether the bits denote one of the infinities. -/
def isInfinite (x : Binary64) : Bool :=
  x.magnitude == infiniteMagnitude

/-- Whether the bits denote a number. -/
def isFinite (x : Binary64) : Bool :=
  x.magnitude < infiniteMagnitude

/-- Whether the number is zero, of either sign. -/
def isZero (x : Binary64) : Bool :=
  x.magnitude == 0

/-- The exponent field, with the subnormal range counted as its first value. -/
def binade (x : Binary64) : Nat :=
  max 1 (x.magnitude / 2 ^ 52)

/-- The integer that the power of two multiplies. -/
def significand (x : Binary64) : Nat :=
  x.magnitude % 2 ^ 52 + if x.magnitude < 2 ^ 52 then 0 else 2 ^ 52

/-- The power of two that multiplies the significand. -/
def exponent (x : Binary64) : Int :=
  (x.binade : Int) - 1075

/-- The absolute value of a finite double as a fraction. -/
def fraction (x : Binary64) : Nat × Nat :=
  (x.significand * 2 ^ x.exponent.toNat, 2 ^ (-x.exponent).toNat)

/-- A finite double as a multiple of the least positive one. -/
def units (x : Binary64) : Int :=
  let n : Nat := x.significand * 2 ^ (x.binade - 1)
  if x.negative then -(n : Int) else n

/-- The sign of a double together with the rest of another. -/
def withSign (x : Binary64) (negative : Bool) : Binary64 :=
  ofParts negative x.magnitude

/-! ## Particular values -/

/-- Positive zero. -/
def zero : Binary64 := ⟨0⟩

/-- Infinity of a given sign. -/
def infinity (negative : Bool) : Binary64 :=
  ofParts negative infiniteMagnitude

/-- The NaN of a given sign that readers and invalid operations produce. -/
def nan (negative : Bool) : Binary64 :=
  ofParts negative (infiniteMagnitude + 2 ^ 51)

/-! ## Rounding -/

/-- The integer part of the binary logarithm of a positive fraction. -/
def log2Quotient (num den : Nat) : Int :=
  let estimate : Int := (num.log2 : Int) - (den.log2 : Int)
  if den * 2 ^ estimate.toNat ≤ num * 2 ^ (-estimate).toNat then estimate else estimate - 1

/-- The double nearest to `± num / den`; beyond the range it is infinity. -/
def nearest (negative : Bool) (num den : Nat) : Binary64 :=
  if num = 0 then ofParts negative 0
  else
    let unit : Int := max (log2Quotient num den - 52) (-1074)
    let count := roundQuotient (num * 2 ^ (-unit).toNat) (den * 2 ^ unit.toNat)
    ofParts negative (min infiniteMagnitude (count + (unit + 1074).toNat * 2 ^ 52))

/-- The double nearest to a natural number. -/
def ofNat (n : Nat) : Binary64 :=
  nearest false n 1

/-- The double nearest to an integer. -/
def ofInt (n : Int) : Binary64 :=
  nearest (n < 0) n.natAbs 1

/-! ## Comparison -/

/-- The place of a double in the total order of all doubles: negative NaNs, the numbers with negative
zero below positive zero, positive NaNs. -/
def rank (x : Binary64) : Int :=
  if x.negative then -(x.magnitude : Int) - 1 else x.magnitude

/-- The total order of all doubles. -/
def totalOrder (x y : Binary64) : Ordering :=
  compare x.rank y.rank

/-- Equality of numbers: a NaN equals nothing, the two zeros equal each other. -/
def sameNumber (x y : Binary64) : Bool :=
  !x.isNaN && !y.isNaN && (x.bits == y.bits || (x.isZero && y.isZero))

/-! ## Arithmetic -/

/-- A NaN operand, made quiet. -/
def quiet (x : Binary64) : Binary64 :=
  ofParts x.negative (if x.magnitude / 2 ^ 51 % 2 = 1 then x.magnitude else x.magnitude + 2 ^ 51)

/-- The rounded sum.  A NaN operand is the result; infinities of opposite sign have no sum. -/
def add (x y : Binary64) : Binary64 :=
  if x.isNaN then x.quiet
  else if y.isNaN then y.quiet
  else if x.isInfinite then
    if y.isInfinite && x.negative != y.negative then nan true else x
  else if y.isInfinite then y
  else
    let sum := x.units + y.units
    if sum = 0 then ofParts (x.negative && y.negative) 0
    else nearest (sum < 0) sum.natAbs (2 ^ 1074)

/-- The rounded product of two finite doubles. -/
def mul (x y : Binary64) : Binary64 :=
  let (xn, xd) := x.fraction
  let (yn, yd) := y.fraction
  nearest (x.negative != y.negative) (xn * yn) (xd * yd)

/-- The rounded quotient of two finite doubles, the second one not zero. -/
def div (x y : Binary64) : Binary64 :=
  let (xn, xd) := x.fraction
  let (yn, yd) := y.fraction
  nearest (x.negative != y.negative) (xn * yd) (xd * yn)

/-- The integer part of the absolute value of a finite double. -/
def truncate (x : Binary64) : Nat :=
  x.fraction.1 / x.fraction.2

end Binary64

end BulkSweep.Numeric

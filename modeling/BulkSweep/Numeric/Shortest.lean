import BulkSweep.Numeric.Binary64

/-!
# Shortest digits

A double is written with the fewest decimal digits that read back to it.  A decimal reads back when
it lies between the midpoints to the two neighbouring doubles; the midpoints themselves read back
exactly when the significand is even.  On each decimal grid only the two neighbours of the value can
be the nearest, so the search tries those, from one digit on.
-/

set_option autoImplicit false

namespace BulkSweep.Numeric

/-- The decimal number `coefficient * 10 ^ scale`. -/
structure Decimal where
  /-- the digits, as a natural number -/
  coefficient : Nat
  /-- the power of ten -/
  scale : Int
  deriving DecidableEq, Repr, Inhabited

/-- Which of two equally near decimals of the same length is taken. -/
inductive Tie where
  /-- the one with the even last digit -/
  | toEven
  /-- the larger one -/
  | up
  deriving DecidableEq, Repr, Inhabited

namespace Decimal

/-- How many decimal digits a natural number has; zero has one. -/
def digitCount (n : Nat) : Nat :=
  (Nat.toDigits 10 n).length

/-- Compares `a * 10 ^ i` with `n * 2 ^ j`. -/
def compareBinary (a : Nat) (i : Int) (n : Nat) (j : Int) : Ordering :=
  compare (a * 10 ^ i.toNat * 2 ^ (-j).toNat) (n * 2 ^ j.toNat * 10 ^ (-i).toNat)

/-- Moves trailing zeros of the coefficient into the scale, at most `fuel` of them. -/
def stripZeros : Nat → Decimal → Decimal
  | 0, d => d
  | fuel + 1, d =>
    if d.coefficient % 10 = 0 ∧ d.coefficient ≠ 0 then
      stripZeros fuel ⟨d.coefficient / 10, d.scale + 1⟩
    else d

end Decimal

namespace Binary64

/-- Whether a positive decimal is one of the numbers that round to the absolute value of `x`. -/
def readsBack (x : Binary64) (d : Decimal) : Bool :=
  let quarters := 4 * x.significand
  let low := if x.significand = 2 ^ 52 ∧ 1 < x.binade then quarters - 1 else quarters - 2
  let even := x.significand % 2 == 0
  let toLow := Decimal.compareBinary d.coefficient d.scale low (x.exponent - 2)
  let toHigh := Decimal.compareBinary d.coefficient d.scale (quarters + 2) (x.exponent - 2)
  (toLow == .gt || (even && toLow == .eq)) && (toHigh == .lt || (even && toHigh == .eq))

/-- The number of digits before the decimal point of the absolute value; zero or less when it is
below one. -/
def decimalPoint (x : Binary64) : Int :=
  let (num, den) := x.fraction
  if den ≤ num then Decimal.digitCount (num / den) else 1 - (Decimal.digitCount (den / num) : Int)

/-- The nearest decimal on one grid that reads back, if any. -/
def nearestOnGrid (x : Binary64) (tie : Tie) (scale : Int) : Option Decimal :=
  let (num, den) := x.fraction
  let num := num * 10 ^ (-scale).toNat
  let den := den * 10 ^ scale.toNat
  let below : Decimal := ⟨num / den, scale⟩
  let above : Decimal := ⟨num / den + 1, scale⟩
  match x.readsBack below, x.readsBack above with
  | true, true =>
    match compare (2 * (num % den)) den with
    | .lt => some below
    | .gt => some above
    | .eq =>
      match tie with
      | .up => some above
      | .toEven => some (if below.coefficient % 2 = 0 then below else above)
  | true, false => some below
  | false, true => some above
  | false, false => none

/-- Tries the grids of `digits`, `digits + 1`, … digits, `fuel` of them; if none has a decimal that
reads back, the exact value is the answer. -/
def shortestFrom (x : Binary64) (tie : Tie) (digits : Nat) : Nat → Decimal
  | 0 => ⟨x.significand * 2 ^ x.exponent.toNat * 5 ^ (-x.exponent).toNat, -(-x.exponent).toNat⟩
  | fuel + 1 =>
    match x.nearestOnGrid tie (x.decimalPoint - digits) with
    | some d => d
    | none => shortestFrom x tie (digits + 1) fuel

/-- The shortest decimal that reads back to the absolute value of a finite double other than zero. -/
def shortest (x : Binary64) (tie : Tie) : Decimal :=
  (shortestFrom x tie 1 17).stripZeros 400

end Binary64

end BulkSweep.Numeric

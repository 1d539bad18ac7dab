import BulkSweep.Numeric.Reading

/-!
# Decimal numbers of 34 digits

A decimal is kept as written: `5` and `5.0` are different decimals of the same number.  Reading
never rounds: digits beyond the thirty-fourth, and digits below the least exponent, must be zeros.
-/

set_option autoImplicit false

namespace BulkSweep.Numeric

/-- A decimal number with at most 34 digits, an infinity or a NaN. -/
inductive Decimal128 where
  /-- `± coefficient * 10 ^ exponent` -/
  | finite (negative : Bool) (coefficient : Nat) (exponent : Int)
  /-- an infinity -/
  | infinity (negative : Bool)
  /-- no number -/
  | nan (negative signaling : Bool)
  deriving DecidableEq, Repr, Inhabited

namespace Decimal128

/-! ## Limits -/

/-- The most digits that a coefficient has. -/
def maxDigits : Nat := 34

/-- The least exponent. -/
def minExponent : Int := -6176

/-- The greatest exponent. -/
def maxExponent : Int := 6111

/-- The least exponent that digits may be read with, be they zeros or not. -/
def minReadExponent : Int := -(2 ^ 127)

/-! ## Reading -/

/-- Cuts digits off at the end, all of them zeros, and tells how many. -/
def cutZeros (digits : List Char) (keep : Nat) : Option (List Char × Nat) :=
  let tail := digits.drop keep
  if tail.all (· == '0') then some (digits.take keep, tail.length) else none

/-- Digits without leading zeros; nothing left means zero. -/
def significantDigits (digits : List Char) : List Char :=
  match digits.dropWhile (· == '0') with
  | [] => ['0']
  | rest => rest

/-- Brings the digits within the most that a coefficient has. -/
def fitLength (digits : List Char) (exponent : Int) : Option (List Char × Int) :=
  if maxDigits < digits.length then
    (cutZeros digits maxDigits).map fun (kept, cut) => (kept, exponent + cut)
  else some (digits, exponent)

/-- Brings the exponent up to the least one.  Zero takes it as it is. -/
def raiseExponent (digits : List Char) (exponent : Int) : Option (List Char × Int) :=
  if exponent < minExponent then
    if digits = ['0'] then some (digits, minExponent)
    else
      let excess := (minExponent - exponent).toNat
      if digits.length < excess then none
      else (cutZeros digits (digits.length - excess)).map fun (kept, _) => (kept, minExponent)
  else some (digits, exponent)

/-- Brings the exponent down to the greatest one.  Zero takes it as it is. -/
def lowerExponent (digits : List Char) (exponent : Int) : Option (List Char × Int) :=
  if maxExponent < exponent then
    if digits = ['0'] then some (digits, maxExponent)
    else
      let excess := (exponent - maxExponent).toNat
      if maxDigits < digits.length + excess then none
      else some (digits ++ List.replicate excess '0', maxExponent)
  else some (digits, exponent)

/-- The exponent of the last digit, by the exponent that is written and the number of places. -/
def lastExponent (written : Int) (places : Nat) : Option Int :=
  if written - places < minReadExponent then none else some (written - places)

/-- Reads the digits, point and exponent of a finite decimal without its sign. -/
def readFinite (negative : Bool) (s : List Char) : Option Decimal128 := do
  let (mantissa, exponent) := splitAtFirst (· == 'e') s
  let exponent ← match exponent with
    | none => some 0
    | some text => readSized 128 text
  let (whole, places) := splitAtFirst (· == '.') mantissa
  let places := places.getD []
  let digits := significantDigits (whole ++ places)
  let (digits, exponent) ← fitLength digits (← lastExponent exponent places.length)
  let (digits, exponent) ← raiseExponent digits exponent
  let (digits, exponent) ← lowerExponent digits exponent
  let coefficient ← readUnsigned digits
  return .finite negative coefficient exponent

/-- Reads a decimal. -/
def read (s : String) : Option Decimal128 :=
  let (negative, body) := splitSign s.toList
  let body := body.map Char.toLower
  if isWord ["nan"] body then some (.nan negative false)
  else if isWord ["snan"] body then some (.nan negative true)
  else if isWord ["inf", "infinity"] body then some (.infinity negative)
  else readFinite negative body

/-! ## Writing -/

/-- The digits with the point `places` from the right, padded with zeros on the left. -/
def placeText (digits : String) (places : Nat) : String :=
  if places = 0 then digits
  else
    let padded := List.replicate (places + 1 - digits.length) '0' ++ digits.toList
    let whole := padded.length - places
    String.ofList (padded.take whole) ++ "." ++ String.ofList (padded.drop whole)

/-- One digit, a point and the other digits if there are any, and an exponent with its sign. -/
def scientificText (digits : String) (exponent : Int) : String :=
  let lead := String.ofList (digits.toList.take 1)
  let more := String.ofList (digits.toList.drop 1)
  lead ++ (if more.isEmpty then "" else "." ++ more) ++ "E"
    ++ (if 0 < exponent then "+" else "") ++ toString exponent

/-- The absolute value of a finite decimal: plain down to six zeros after the point, with an exponent
otherwise. -/
def finiteText (coefficient : Nat) (exponent : Int) : String :=
  let digits := toString coefficient
  let adjusted := exponent + digits.length - 1
  if exponent ≤ 0 ∧ -6 ≤ adjusted then placeText digits (-exponent).toNat
  else scientificText digits adjusted

/-- A decimal as text.  A NaN shows neither sign nor kind. -/
def text : Decimal128 → String
  | finite negative coefficient exponent =>
    (if negative then "-" else "") ++ finiteText coefficient exponent
  | infinity negative => if negative then "-Infinity" else "Infinity"
  | nan _ _ => "NaN"

/-- The double nearest to a decimal; a NaN becomes the positive one. -/
def toBinary64 : Decimal128 → Binary64
  | finite negative coefficient exponent => .ofDecimal negative coefficient exponent
  | infinity negative => .infinity negative
  | nan _ _ => .nan false

end Decimal128

end BulkSweep.Numeric

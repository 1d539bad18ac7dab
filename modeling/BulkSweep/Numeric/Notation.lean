import BulkSweep.Numeric.Shortest

/-!
# Written forms of doubles

Two layouts of the shortest digits, and a form with a fixed number of places.  A layout says where
positional notation ends, whether whole numbers show a zero after the point, which of two equally
near decimals is taken, and how the values that are no finite numbers are spelled.
-/

set_option autoImplicit false

namespace BulkSweep.Numeric

/-- How the shortest digits of a double are laid out. -/
structure Layout where
  /-- which of two equally near decimals is written -/
  tie : Tie
  /-- whether a number whose point stands after so many digits is written without exponent -/
  positional : Int → Bool
  /-- whether a whole number ends in `.0` -/
  wholeZero : Bool
  /-- the spelling of infinity, without sign -/
  infinity : String
  /-- the spelling of a NaN of either sign -/
  nan : Bool → String

namespace Layout

/-- Digits with the point after `point` of them, padded with zeros on the side where they are
missing. -/
def positionalText (layout : Layout) (digits : String) (point : Int) : String :=
  if point ≤ 0 then "0." ++ String.ofList (List.replicate (-point).toNat '0') ++ digits
  else if digits.length ≤ point.toNat then
    digits ++ String.ofList (List.replicate (point.toNat - digits.length) '0')
      ++ if layout.wholeZero then ".0" else ""
  else
    String.ofList (digits.toList.take point.toNat) ++ "."
      ++ String.ofList (digits.toList.drop point.toNat)

/-- One digit, a point and the other digits if there are any, and a signed exponent. -/
def exponentText (digits : String) (exponent : Int) : String :=
  let lead := String.ofList (digits.toList.take 1)
  let more := String.ofList (digits.toList.drop 1)
  lead ++ (if more.isEmpty then "" else "." ++ more) ++ "e" ++ (if exponent < 0 then "-" else "+")
    ++ toString exponent.natAbs

/-- The absolute value of a finite double. -/
def absoluteText (layout : Layout) (x : Binary64) : String :=
  if x.isZero then if layout.wholeZero then "0.0" else "0"
  else
    let d := x.shortest layout.tie
    let digits := toString d.coefficient
    let point := (digits.length : Int) + d.scale
    if layout.positional point then layout.positionalText digits point
    else exponentText digits (point - 1)

/-- A double in a layout. -/
def write (layout : Layout) (x : Binary64) : String :=
  if x.isNaN then layout.nan x.negative
  else
    (if x.negative then "-" else "")
      ++ if x.isInfinite then layout.infinity else layout.absoluteText x

end Layout

/-- The plain layout, as in the text of an id: never an exponent, no point in whole numbers, a tie
goes up. -/
def plainLayout : Layout where
  tie := .up
  positional := fun _ => true
  wholeZero := false
  infinity := "inf"
  nan := fun _ => "NaN"

/-- The layout of stored and printed documents: positional from `1e-5` up to below `1e16`, a point
in every number without exponent, a tie goes to the even digit.  The names of infinity and NaN are
those of the tagged form, which holds them as text. -/
def documentLayout : Layout where
  tie := .toEven
  positional := fun point => -5 < point ∧ point ≤ 16
  wholeZero := true
  infinity := "Infinity"
  nan := fun negative => if negative then "-NaN" else "NaN"

/-- A finite double rounded to a fixed number of places; a half goes to the even digit. -/
def fixedText (x : Binary64) (places : Nat) : String :=
  let (num, den) := x.fraction
  let digits := toString (roundQuotient (num * 10 ^ places) den)
  let padded := String.ofList (List.replicate (places + 1 - digits.length) '0') ++ digits
  let whole := padded.length - places
  (if x.negative then "-" else "") ++ String.ofList (padded.toList.take whole)
    ++ if places = 0 then "" else "." ++ String.ofList (padded.toList.drop whole)

end BulkSweep.Numeric

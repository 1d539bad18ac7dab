import BulkSweep.Json.Basic
import BulkSweep.Json.Position
import BulkSweep.Numeric.Reading

/-!
# JSON numbers

A number without point and exponent is an integer when it fits into 64 bits.  Any other number is a
double: its first digits, as many as fit into 64 bits, are made a double, and that is multiplied or
divided by a power of ten.  So the result is not always the nearest double.
-/

set_option autoImplicit false

namespace BulkSweep.Json

open BulkSweep.Numeric

/-! ## Significand and scale -/

/-- Takes digits in as long as the number stays below `2 ^ 64`; the others are left over. -/
def takeDigits : Nat → List Char → Nat × List Char
  | n, [] => (n, [])
  | n, d :: ds =>
    let next := 10 * n + digitValue d
    if next < 2 ^ 64 then takeDigits next ds else (n, d :: ds)

/-- The double nearest to a power of ten. -/
def powerOfTen (n : Nat) : Binary64 :=
  .ofNat (10 ^ n)

/-- Multiplies by a power of ten, by division for negative ones.  A scale below the range of the
powers is brought up in steps, of which two leave nothing of a 64-bit number. -/
def scaleFrom : Nat → Binary64 → Int → Option Binary64
  | 0, _, _ => some .zero
  | steps + 1, x, scale =>
    if scale.natAbs ≤ 308 then
      if 0 ≤ scale then
        let product := x.mul (powerOfTen scale.toNat)
        if product.isInfinite then none else some product
      else some (x.div (powerOfTen scale.natAbs))
    else if x.isZero then some x
    else if 0 ≤ scale then none
    else scaleFrom steps (x.div (powerOfTen 308)) (scale + 308)

/-- The double of a significand and a power of ten; `none` beyond the range. -/
def scaled (significand : Nat) (scale : Int) : Option Binary64 :=
  scaleFrom 3 (.ofNat significand) scale

/-! ## Reading -/

/-- Takes the ASCII digits that come next. -/
def readDigits (c : Cursor) : List Char × Cursor :=
  let digits := c.rest.takeWhile Char.isDigit
  (digits, ⟨⟨c.mark.line, c.mark.column + digits.length⟩, c.rest.dropWhile Char.isDigit⟩)

/-- Fails with an invalid number at a byte that is missing or does not fit; the byte is taken. -/
def failNumber {α : Type} (c : Cursor) : Except Failure α :=
  match c.rest with
  | [] => c.fail .endInValue
  | _ => c.failNext .invalidNumber

/-- The digits of the integer part: a zero alone, or digits that begin with another one. -/
def readWhole (c : Cursor) : Except Failure (List Char × Cursor) :=
  match c.rest with
  | '0' :: next :: _ =>
    if next.isDigit then c.advance.failNext .invalidNumber else .ok (['0'], c.advance)
  | '0' :: [] => .ok (['0'], c.advance)
  | d :: _ => if d.isDigit then .ok (readDigits c) else failNumber c
  | [] => failNumber c

/-- The digits after the point, if there is one. -/
def readPlaces (c : Cursor) : Except Failure (Option (List Char) × Cursor) :=
  match c.rest with
  | '.' :: _ =>
    let (digits, rest) := readDigits c.advance
    if digits.isEmpty then failNumber rest else .ok (some digits, rest)
  | _ => .ok (none, c)

/-- An explicit exponent. -/
inductive Exponent where
  /-- an exponent that fits into 32 bits -/
  | exactly (n : Int)
  /-- one that does not, found out at a place of the text -/
  | beyond (negative : Bool) (mark : Mark)
  deriving DecidableEq, Repr, Inhabited

/-- Sums up the digits of an exponent as long as they fit. -/
def sumExponent (negative : Bool) : Nat → Mark → List Char → Exponent
  | n, _, [] => .exactly (if negative then -(n : Int) else n)
  | n, m, d :: ds =>
    let next := 10 * n + digitValue d
    if next < 2 ^ 31 then sumExponent negative next (m.past d) ds
    else .beyond negative (m.past d)

/-- The sign of an exponent. -/
def readSign (c : Cursor) : Bool × Cursor :=
  match c.rest with
  | '+' :: _ => (false, c.advance)
  | '-' :: _ => (true, c.advance)
  | _ => (false, c)

/-- The exponent, if there is one. -/
def readExponent (c : Cursor) : Except Failure (Option Exponent × Cursor) :=
  match c.rest with
  | e :: _ =>
    if e = 'e' ∨ e = 'E' then
      let (negative, c) := readSign c.advance
      let (digits, rest) := readDigits c
      if digits.isEmpty then failNumber c
      else .ok (some (sumExponent negative 0 c.mark digits), rest)
    else .ok (none, c)
  | [] => .ok (none, c)

/-- A number without its sign, taken apart. -/
structure Numeral where
  /-- the digits before the point -/
  whole : List Char
  /-- the digits after the point -/
  places : Option (List Char)
  /-- the exponent -/
  exponent : Option Exponent
  deriving DecidableEq, Repr, Inhabited

/-- The value of a numeral with its sign; a failure is a place beyond which it is out of range, the
end of the numeral when none is given. -/
def Numeral.value (negative : Bool) (n : Numeral) : Except (Option Mark) Number :=
  let (significand, dropped) := takeDigits 0 n.whole
  let signed (x : Binary64) : Number := .fraction (x.withSign negative)
  match n.places, n.exponent with
  | none, none =>
    if dropped.isEmpty then
      if !negative then .ok (.integer significand)
      else if significand = 0 ∨ 2 ^ 63 < significand then .ok (signed (.ofNat significand))
      else .ok (.integer (-(significand : Int)))
    else scaledNumber signed significand dropped.length none
  | places, exponent =>
    let places := places.getD []
    let (significand, lost) := takeDigits significand places
    let scale := (dropped.length : Int) - (places.length - lost.length : Nat)
    scaledNumber signed significand scale exponent
where
  /-- Applies the scale and the exponent. -/
  scaledNumber (signed : Binary64 → Number) (significand : Nat) (scale : Int) :
      Option Exponent → Except (Option Mark) Number
    | some (.beyond negative mark) =>
      if significand = 0 ∨ negative then .ok (signed .zero) else .error (some mark)
    | some (.exactly e) => finish signed significand (scale + e)
    | none => finish signed significand scale
  /-- Makes the double. -/
  finish (signed : Binary64 → Number) (significand : Nat) (scale : Int) :
      Except (Option Mark) Number :=
    match scaled significand scale with
    | some x => .ok (signed x)
    | none => .error none

/-- Reads a number after its sign. -/
def readUnsigned (negative : Bool) (c : Cursor) : Except Failure (Number × Cursor) := do
  let (whole, c) ← readWhole c
  let (places, c) ← readPlaces c
  let (exponent, c) ← readExponent c
  match Numeral.value negative ⟨whole, places, exponent⟩ with
  | .ok n => return (n, c)
  | .error mark => .error ⟨.numberOutOfRange, mark.getD c.mark⟩

/-- Reads a number. -/
def readNumber (c : Cursor) : Except Failure (Number × Cursor) :=
  match c.rest with
  | '-' :: _ => readUnsigned true c.advance
  | _ => readUnsigned false c

end BulkSweep.Json

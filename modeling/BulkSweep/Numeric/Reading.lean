import BulkSweep.Numeric.Binary64

/-!
# Numbers read from text

Integers with an optional sign, and decimal fractions read as the nearest double.  A reader takes a
whole text and answers `none` when any of it does not fit.
-/

set_option autoImplicit false

namespace BulkSweep.Numeric

/-! ## Digits -/

/-- The value of one ASCII digit. -/
def digitValue (c : Char) : Nat :=
  c.toNat - '0'.toNat

/-- The number that a run of ASCII digits denotes. -/
def digitsValue (digits : List Char) : Nat :=
  digits.foldl (fun n c => 10 * n + digitValue c) 0

/-- Reads one or more ASCII digits. -/
def readNatural (s : List Char) : Option Nat :=
  if s.isEmpty || !s.all Char.isDigit then none else some (digitsValue s)

/-- Reads digits with an optional plus sign. -/
def readUnsigned : List Char → Option Nat
  | '+' :: s => readNatural s
  | s => readNatural s

/-- Reads digits with an optional sign. -/
def readInteger : List Char → Option Int
  | '+' :: s => (readNatural s).map Int.ofNat
  | '-' :: s => (readNatural s).map fun n => -(n : Int)
  | s => (readNatural s).map Int.ofNat

/-- Reads an integer of a two's complement width. -/
def readSized (width : Nat) (s : List Char) : Option Int := do
  let n ← readInteger s
  if -(2 ^ (width - 1)) ≤ n ∧ n < 2 ^ (width - 1) then some n else none

/-! ## Decimal fractions -/

/-- The double nearest to `± coefficient * 10 ^ scale`, for any scale.  Magnitudes far outside the
range are settled by their digit count. -/
def Binary64.ofDecimal (negative : Bool) (coefficient : Nat) (scale : Int) : Binary64 :=
  let size : Int := (Nat.toDigits 10 coefficient).length + scale
  if coefficient = 0 ∨ size < -400 then ofParts negative 0
  else if 400 < size then infinity negative
  else nearest negative (coefficient * 10 ^ scale.toNat) (10 ^ (-scale).toNat)

/-- Splits a text at its first character that satisfies `p`, which is dropped. -/
def splitAtFirst (p : Char → Bool) (s : List Char) : List Char × Option (List Char) :=
  match s.dropWhile (fun c => !p c) with
  | [] => (s, none)
  | _ :: rest => (s.takeWhile (fun c => !p c), some rest)

/-- Reads digits with an optional point and an optional exponent; at least one digit stands beside
the point. -/
def readUnsignedDecimal (s : List Char) : Option (Nat × Int) := do
  let (mantissa, exponent) := splitAtFirst (fun c => c == 'e' || c == 'E') s
  let (whole, places) := splitAtFirst (· == '.') mantissa
  let digits := whole ++ places.getD []
  let coefficient ← readNatural digits
  let exponent ← match exponent with
    | none => some 0
    | some text => readInteger text
  return (coefficient, exponent - ((places.getD []).length : Int))

/-- Whether a text is one of the given words, in any mixture of cases. -/
def isWord (words : List String) (s : List Char) : Bool :=
  words.contains (String.ofList (s.map Char.toLower))

/-- Splits an optional sign from a text. -/
def splitSign : List Char → Bool × List Char
  | '+' :: s => (false, s)
  | '-' :: s => (true, s)
  | s => (false, s)

/-- Reads a decimal fraction, an infinity or a NaN as the nearest double. -/
def readBinary64 (s : List Char) : Option Binary64 :=
  let (negative, body) := splitSign s
  if isWord ["inf", "infinity"] body then some (.infinity negative)
  else if isWord ["nan"] body then some (.nan negative)
  else (readUnsignedDecimal body).map fun (coefficient, scale) =>
    .ofDecimal negative coefficient scale

end BulkSweep.Numeric

import BulkSweep.Numeric.Reading
import BulkSweep.Text.Hex
import BulkSweep.Toml.Basic
import BulkSweep.Value.Calendar

/-!
# TOML numbers, truth values and moments

What stands without quotes is one word: a truth value, an integer in one of four bases, a number with a
fraction or an exponent, or a moment of time.  A moment may also be two words, a date and a time.
-/

set_option autoImplicit false

namespace BulkSweep.Toml

open BulkSweep.Numeric BulkSweep.Text BulkSweep.Calendar

/-! ## Numbers -/

/-- Reads one or more digits.  Two of them may have an underscore between them. -/
def readRun (isDigit : Char → Bool) : List Char → Option (List Char)
  | [] => none
  | [c] => if isDigit c then some [c] else none
  | c :: '_' :: rest => if isDigit c then (readRun isDigit rest).map (c :: ·) else none
  | c :: rest => if isDigit c then (readRun isDigit rest).map (c :: ·) else none

/-- Reads decimal digits without a zero in front. -/
def readWhole (s : List Char) : Option (List Char) := do
  let digits ← readRun Char.isDigit s
  if 1 < digits.length && digits.head? == some '0' then none else some digits

/-- Reads digits of a base. -/
def readBased (base : Nat) (s : List Char) : Option Nat := do
  let digits ← readRun (fun c => ((hexValue c).map (decide <| · < base)).getD false) s
  return digits.foldl (fun n c => base * n + (hexValue c).getD 0) 0

/-- Reads an integer.  Only decimal digits may have a sign. -/
def readWholeNumber : List Char → Option Int
  | '0' :: 'x' :: s => (readBased 16 s).map Int.ofNat
  | '0' :: 'o' :: s => (readBased 8 s).map Int.ofNat
  | '0' :: 'b' :: s => (readBased 2 s).map Int.ofNat
  | s => do
    let (negative, body) := splitSign s
    let n := digitsValue (← readWhole body)
    return if negative then -(n : Int) else n

/-- Integers that fit no width of up to sixteen bytes are none. -/
def fits (n : Int) : Bool :=
  -(2 ^ 127) ≤ n && n < 2 ^ 128

/-- Whether digits with an optional sign are an exponent. -/
def isExponent (s : List Char) : Bool :=
  (readRun Char.isDigit (splitSign s).2).isSome

/-- Whether a word is a number with a fraction, an exponent or both, and not beyond all doubles. -/
def isFraction (s : List Char) : Bool :=
  let (mantissa, exponent) := splitAtFirst (fun c => c == 'e' || c == 'E') s
  let (whole, places) := splitAtFirst (· == '.') mantissa
  (exponent.isSome || places.isSome)
    && (readWhole (splitSign whole).2).isSome
    && (places.map fun p => (readRun Char.isDigit p).isSome).getD true
    && (exponent.map isExponent).getD true
    && ((readBinary64 (s.filter (· != '_'))).map Binary64.isFinite).getD false

/-- Whether a word is an infinity or no number. -/
def isSpecial (s : List Char) : Bool :=
  let body := (splitSign s).2
  body == ['i', 'n', 'f'] || body == ['n', 'a', 'n']

/-! ## Moments -/

/-- Reads a number of exactly two digits below a bound. -/
def readTwoDigits (bound : Nat) : List Char → Option (List Char)
  | a :: b :: rest =>
    if a.isDigit && b.isDigit && digitsValue [a, b] < bound then some rest else none
  | _ => none

/-- Reads a date: year, month and day. -/
def readDate : List Char → Option (List Char)
  | a :: b :: c :: d :: '-' :: e :: f :: '-' :: g :: h :: rest =>
    let date : Date := ⟨digitsValue [a, b, c, d], digitsValue [e, f], digitsValue [g, h]⟩
    if [a, b, c, d, e, f, g, h].all Char.isDigit && date.valid then some rest else none
  | _ => none

/-- Reads the fraction of a second. -/
def readPlaces : List Char → Option (List Char)
  | '.' :: s => if (s.takeWhile Char.isDigit).isEmpty then none else some (s.dropWhile Char.isDigit)
  | s => some s

/-- Reads a time: hour and minute, with or without a second.  The second may be a leap second. -/
def readTime (s : List Char) : Option (List Char) := do
  match ← readTwoDigits 24 s with
  | ':' :: s =>
    match ← readTwoDigits 60 s with
    | ':' :: s => readPlaces (← readTwoDigits 61 s)
    | s => return s
  | _ => none

/-- Whether a text is the distance from universal time, or nothing. -/
def isOffset : List Char → Bool
  | [] | ['Z'] | ['z'] => true
  | sign :: s =>
    (sign == '+' || sign == '-') &&
      match readTwoDigits 24 s with
      | some (':' :: s) => readTwoDigits 60 s == some []
      | _ => false

/-- Whether a text is a moment: a date, a time, or both with or without a distance. -/
def isMoment (s : List Char) : Bool :=
  readTime s == some [] ||
    match readDate s with
    | some [] => true
    | some (c :: time) =>
      (c == 'T' || c == 't' || c == ' ') && ((readTime time).map isOffset).getD false
    | none => false

/-! ## Words -/

/-- Whether a character may stand in a word. -/
def inWord (c : Char) : Bool :=
  c.isAlphanum || c == '_' || c == '-' || c == '+' || c == '.' || c == ':'

/-- The value of a word. -/
def ofWord (word : List Char) : Option Toml :=
  if word == ['t', 'r', 'u', 'e'] then some (.boolean true)
  else if word == ['f', 'a', 'l', 's', 'e'] then some (.boolean false)
  else if isSpecial word || isFraction word then some .float
  else if isMoment word then some .moment
  else
    match readWholeNumber word with
    | some n => if fits n then some (.integer n) else none
    | none => none

/-- Reads a word, or a date and a time, as a value. -/
def readScalar (s : List Char) : Option (Toml × List Char) := do
  let word := s.takeWhile inWord
  let rest := s.dropWhile inWord
  match readDate word, rest with
  | some [], ' ' :: c :: more =>
    if c.isDigit then
      let time := (c :: more).takeWhile inWord
      if isMoment (word ++ ' ' :: time) then some (.moment, (c :: more).dropWhile inWord) else none
    else some (.moment, rest)
  | _, _ => return (← ofWord word, rest)

end BulkSweep.Toml

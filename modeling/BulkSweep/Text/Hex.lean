/-!
# Hexadecimal text

Bytes as pairs of hexadecimal digits.  Writing uses lower case; reading takes either.
-/

set_option autoImplicit false

namespace BulkSweep.Text

/-! ## Digits -/

/-- The lower-case digit of a number below sixteen. -/
def hexDigit (n : Nat) : Char :=
  if n < 10 then Char.ofNat (n + '0'.toNat) else Char.ofNat (n - 10 + 'a'.toNat)

/-- The value of a hexadecimal digit of either case. -/
def hexValue (c : Char) : Option Nat :=
  if '0' ≤ c ∧ c ≤ '9' then some (c.toNat - '0'.toNat)
  else if 'a' ≤ c ∧ c ≤ 'f' then some (c.toNat - 'a'.toNat + 10)
  else if 'A' ≤ c ∧ c ≤ 'F' then some (c.toNat - 'A'.toNat + 10)
  else none

/-! ## Bytes -/

/-- The two digits of each byte. -/
def hexText (bytes : List UInt8) : String :=
  String.ofList (bytes.flatMap fun b => [hexDigit (b.toNat / 16), hexDigit (b.toNat % 16)])

/-- Reads pairs of digits. -/
def readHex : List Char → Option (List UInt8)
  | [] => some []
  | [_] => none
  | a :: b :: cs => do
    let high ← hexValue a
    let low ← hexValue b
    let rest ← readHex cs
    return UInt8.ofNat (16 * high + low) :: rest

/-- The lower-case hexadecimal digits of a number, without leading zeros. -/
def hexNumber (n : Nat) : String :=
  String.ofList (Nat.toDigits 16 n)

end BulkSweep.Text

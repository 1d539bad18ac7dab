import BulkSweep.Text.Base64

/-!
# Base64 text that is read back

Three bytes are read from the four characters that were written for them, and the one or two bytes of a
last group from what was padded for them.
-/

set_option autoImplicit false

namespace BulkSweep.Text

theorem base64Value_base64Char : ∀ n < 64, base64Value (base64Char n) = some n := by
  decide

/-- The sign of padding is no character of the alphabet. -/
theorem base64Char_ne_padding : ∀ n < 64, base64Char n ≠ '=' := by
  decide

/-- Four characters of the alphabet are one group, whatever follows. -/
theorem readBase64_group {i j k l : Nat} (hi : i < 64) (hj : j < 64) (hk : k < 64) (hl : l < 64)
    {more : List Char} {rest : List UInt8} (hmore : readBase64 more = some rest) :
    readBase64 (base64Char i :: base64Char j :: base64Char k :: base64Char l :: more)
      = some (UInt8.ofNat ((((i * 64 + j) * 64 + k) * 64 + l) / 65536)
        :: UInt8.ofNat ((((i * 64 + j) * 64 + k) * 64 + l) / 256)
        :: UInt8.ofNat (((i * 64 + j) * 64 + k) * 64 + l) :: rest) := by
  have hlast := base64Char_ne_padding l hl
  rw [readBase64]
  · simp only [base64Value_base64Char _ hi, base64Value_base64Char _ hj, base64Value_base64Char _ hk,
      base64Value_base64Char _ hl, hmore]
    rfl
  · exact fun _ h => absurd h hlast
  · exact fun h => absurd h hlast

theorem byte_eq {n : Nat} {b : UInt8} (h : n % 256 = b.toNat) : UInt8.ofNat n = b :=
  UInt8.toNat_inj.mp (UInt8.toNat_ofNat'.trans h)

/-- Bytes are read as what was written. -/
theorem readBase64_base64Chars (bytes : List UInt8) : readBase64 (base64Chars bytes) = some bytes := by
  induction bytes using base64Chars.induct with
  | case1 => rfl
  | case2 a =>
      have ha := a.toNat_lt
      have hhigh := base64Value_base64Char (a.toNat * 16 / 64) (by omega)
      have hlow := base64Value_base64Char (a.toNat * 16 % 64) (by omega)
      have hrest : (a.toNat * 16 / 64 * 64 + a.toNat * 16 % 64) % 16 = 0 := by omega
      have hbyte : UInt8.ofNat ((a.toNat * 16 / 64 * 64 + a.toNat * 16 % 64) / 16) = a :=
        byte_eq (by omega)
      rw [base64Chars, readBase64]
      simp only [hhigh, hlow, Option.bind_eq_bind, Option.bind_some, if_pos hrest, hbyte]
  | case3 a b =>
      have ha := a.toNat_lt
      have hb := b.toNat_lt
      generalize hn : (a.toNat * 256 + b.toNat) * 4 = n
      have hfirst := base64Value_base64Char (n / 4096) (by omega)
      have hsecond := base64Value_base64Char (n / 64 % 64) (by omega)
      have hthird := base64Value_base64Char (n % 64) (by omega)
      have hlast := base64Char_ne_padding (n % 64) (by omega)
      have hrest : ((n / 4096 * 64 + n / 64 % 64) * 64 + n % 64) % 4 = 0 := by omega
      have hhigh : UInt8.ofNat (((n / 4096 * 64 + n / 64 % 64) * 64 + n % 64) / 1024) = a :=
        byte_eq (by omega)
      have hlow : UInt8.ofNat (((n / 4096 * 64 + n / 64 % 64) * 64 + n % 64) / 4) = b :=
        byte_eq (by omega)
      rw [base64Chars]
      simp only [hn]
      rw [readBase64]
      · simp only [hfirst, hsecond, hthird, Option.bind_eq_bind, Option.bind_some, if_pos hrest, hhigh,
          hlow]
      · exact fun h => absurd h hlast
  | case4 a b c more ih =>
      have ha := a.toNat_lt
      have hb := b.toNat_lt
      have hc := c.toNat_lt
      rw [base64Chars, readBase64_group (by omega) (by omega) (by omega) (by omega) ih,
        byte_eq (b := a) (by omega), byte_eq (b := b) (by omega), byte_eq (b := c) (by omega)]

end BulkSweep.Text

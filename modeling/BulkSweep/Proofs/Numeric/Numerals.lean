import BulkSweep.Numeric.Reading

/-!
# Written integers

An integer is written in decimal digits, with a minus sign in front if it is below zero.  What is
written in this way is read back as the same integer.
-/

set_option autoImplicit false

namespace BulkSweep.Numeric

/-! ## Digits -/

theorem digitsValue_toDigits (n : Nat) : digitsValue (Nat.toDigits 10 n) = n :=
  Nat.ofDigitChars_ten_toDigits

theorem isDigit_of_mem_toDigits {n : Nat} {c : Char} (h : c ∈ Nat.toDigits 10 n) :
    c.isDigit = true :=
  Nat.isDigit_of_mem_toDigits (by decide) (by decide) h

theorem readNatural_toDigits (n : Nat) : readNatural (Nat.toDigits 10 n) = some n := by
  have hall : (Nat.toDigits 10 n).all Char.isDigit = true :=
    List.all_eq_true.mpr fun c hc => isDigit_of_mem_toDigits hc
  have hne : (Nat.toDigits 10 n).isEmpty = false :=
    List.isEmpty_eq_false_iff.mpr Nat.toDigits_ne_nil
  rw [readNatural, hall, hne, digitsValue_toDigits]
  rfl

/-- The digits of a positive number do not begin with a zero. -/
theorem head_toDigits_ne_zero {n : Nat} (h : 0 < n) {c : Char} {cs : List Char}
    (hdigits : Nat.toDigits 10 n = c :: cs) : c ≠ '0' := by
  induction n using Nat.strongRecOn generalizing cs with
  | _ n ih =>
      by_cases hsmall : n < 10
      · rw [Nat.toDigits_of_lt_base hsmall] at hdigits
        have hchar : n.digitChar = c := (List.cons.inj hdigits).1
        have hall : ∀ m < 10, 0 < m → m.digitChar ≠ '0' := by decide
        exact hchar ▸ hall n hsmall h
      · rw [Nat.toDigits_of_base_le (by decide) (by omega)] at hdigits
        cases hfront : Nat.toDigits 10 (n / 10) with
        | nil => exact absurd hfront Nat.toDigits_ne_nil
        | cons d ds =>
            rw [hfront, List.cons_append] at hdigits
            obtain ⟨rfl, -⟩ := List.cons.inj hdigits
            exact ih (n / 10) (by omega) (by omega) hfront

theorem digitValue_le {c : Char} (h : c.isDigit = true) : digitValue c ≤ 9 := by
  obtain ⟨-, hhigh⟩ := Bool.and_eq_true_iff.mp h
  have hvalue : c.val.toNat ≤ '9'.val.toNat := UInt32.le_iff_toNat_le.mp (of_decide_eq_true hhigh)
  change c.val.toNat - 48 ≤ 9
  change c.val.toNat ≤ 57 at hvalue
  omega

theorem digitValue_pos {c : Char} (h : c.isDigit = true) (hzero : c ≠ '0') : 0 < digitValue c := by
  obtain ⟨hlow, -⟩ := Bool.and_eq_true_iff.mp h
  have hvalue : '0'.val.toNat ≤ c.val.toNat := UInt32.le_iff_toNat_le.mp (of_decide_eq_true hlow)
  have hother : c.val.toNat ≠ '0'.val.toNat := fun heq => hzero (Char.toNat_inj.mp heq)
  change 0 < c.val.toNat - 48
  change 48 ≤ c.val.toNat at hvalue
  change c.val.toNat ≠ 48 at hother
  omega

/-- Some digits denote a number below the power of ten with as many zeros. -/
theorem digitsValue_lt {digits : List Char} (h : ∀ c ∈ digits, c.isDigit = true) :
    digitsValue digits < 10 ^ digits.length := by
  change Nat.ofDigitChars 10 digits 0 < 10 ^ digits.length
  induction digits with
  | nil => decide
  | cons d ds ih =>
      obtain ⟨hd, hds⟩ := List.forall_mem_cons.mp h
      have hvalue := Nat.mul_le_mul_left (10 ^ ds.length) (digitValue_le hd)
      have hrest := ih hds
      unfold digitValue at hvalue
      rw [Nat.ofDigitChars_cons, Nat.ofDigitChars_eq_ofDigitChars_zero, List.length_cons, Nat.pow_succ,
        Nat.mul_zero, Nat.zero_add]
      omega

theorem length_toDigits_le {n width : Nat} (hwidth : 0 < width) (h : n < 10 ^ width) :
    (Nat.toDigits 10 n).length ≤ width :=
  (Nat.length_toDigits_le_iff (by decide) hwidth).mpr h

/-! ## Pieces of a text -/

/-- A text without such a character is not split. -/
theorem splitAtFirst_of_none {p : Char → Bool} {s : List Char} (h : ∀ c ∈ s, p c = false) :
    splitAtFirst p s = (s, none) := by
  have hall : ∀ c ∈ s, (!p c) = true := by
    intro c hc
    rw [h c hc]
    rfl
  have hdrop : s.dropWhile (fun c => !p c) = [] := by
    have hwhole : (s ++ []).dropWhile (fun c => !p c) = [].dropWhile (fun c => !p c) :=
      List.dropWhile_append_of_pos hall
    rwa [List.append_nil] at hwhole
  rw [splitAtFirst, hdrop]

/-- A text is split at its first such character. -/
theorem splitAtFirst_append {p : Char → Bool} {front : List Char} {c : Char}
    (h : ∀ d ∈ front, p d = false) (hc : p c = true) (rest : List Char) :
    splitAtFirst p (front ++ c :: rest) = (front, some rest) := by
  have hall : ∀ d ∈ front, (!p d) = true := by
    intro d hd
    rw [h d hd]
    rfl
  rw [splitAtFirst, List.dropWhile_append_of_pos hall, List.takeWhile_append_of_pos hall]
  simp [hc]

/-! ## Signs -/

theorem toList_toString_int (n : Int) :
    (toString n).toList = (if n < 0 then ['-'] else []) ++ Nat.toDigits 10 n.natAbs := by
  rw [Int.toString_eq_repr, Int.repr_eq_if]
  by_cases h : 0 ≤ n
  · rw [if_pos h, if_neg (by omega), Nat.toList_repr, List.nil_append]
    congr 1
    omega
  · rw [if_neg h, if_pos (by omega), String.toList_append, Nat.toList_repr]
    congr 2
    omega

/-- An integer is read as what was written. -/
theorem readInteger_toString (n : Int) : readInteger (toString n).toList = some n := by
  rw [toList_toString_int]
  by_cases h : n < 0
  · have hsame : -(n.natAbs : Int) = n := by omega
    rw [if_pos h, List.singleton_append, readInteger, readNatural_toDigits]
    exact congrArg some hsame
  · rw [if_neg h, List.nil_append]
    have hread := readNatural_toDigits n.natAbs
    have hsame : Int.ofNat n.natAbs = n := Int.natAbs_of_nonneg (by omega)
    cases hdigits : Nat.toDigits 10 n.natAbs with
    | nil => exact absurd hdigits Nat.toDigits_ne_nil
    | cons c cs =>
        have hdigit : c.isDigit = true := isDigit_of_mem_toDigits (hdigits ▸ List.mem_cons_self)
        rw [hdigits] at hread
        rw [readInteger]
        · rw [hread, Option.map_some, hsame]
        · rintro s ⟨⟩
          cases hdigit
        · rintro s ⟨⟩
          cases hdigit

theorem readSized_toString {width : Nat} {n : Int} (hlow : -(2 ^ (width - 1)) ≤ n)
    (hhigh : n < 2 ^ (width - 1)) : readSized width (toString n).toList = some n := by
  rw [readSized, readInteger_toString]
  exact if_pos ⟨hlow, hhigh⟩

end BulkSweep.Numeric

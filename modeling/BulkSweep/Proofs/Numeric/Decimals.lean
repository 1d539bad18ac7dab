import BulkSweep.Numeric.Decimal128
import BulkSweep.Proofs.Numeric.Numerals

/-!
# Decimals that are read back

A decimal that was read has at most thirty-four digits and an exponent between fixed ends
(`fits_of_read`).  What is written for such a decimal can be read again (`exists_read_text`), and a number is
then the same one, with the same exponent (`readFinite_finiteText`).
-/

set_option autoImplicit false

namespace BulkSweep.Numeric

namespace Decimal128

/-! ## Decimals that are read -/

/-- The digits and the exponent of a finite decimal are within the limits. -/
def Fits : Decimal128 → Prop
  | finite _ coefficient exponent =>
    coefficient < 10 ^ maxDigits ∧ minExponent ≤ exponent ∧ exponent ≤ maxExponent
  | _ => True

variable {digits kept : List Char} {exponent raised : Int}

theorem length_fitLength (h : fitLength digits exponent = some (kept, raised)) :
    kept.length ≤ maxDigits := by
  unfold fitLength at h
  split at h
  · obtain ⟨⟨front, cut⟩, hcut, hkept⟩ := Option.map_eq_some_iff.mp h
    cases hkept
    unfold cutZeros at hcut
    dsimp only at hcut
    split at hcut
    · cases hcut
      rw [List.length_take]
      exact Nat.min_le_left _ _
    · cases hcut
  · cases h
    omega

theorem raiseExponent_bounds (hlength : digits.length ≤ maxDigits)
    (h : raiseExponent digits exponent = some (kept, raised)) :
    kept.length ≤ maxDigits ∧ minExponent ≤ raised := by
  unfold raiseExponent at h
  split at h
  · split at h
    · cases h
      exact ⟨hlength, Int.le_refl _⟩
    · dsimp only at h
      split at h
      · cases h
      · obtain ⟨⟨front, cut⟩, hcut, hkept⟩ := Option.map_eq_some_iff.mp h
        cases hkept
        unfold cutZeros at hcut
        dsimp only at hcut
        split at hcut
        · cases hcut
          rw [List.length_take]
          exact ⟨Nat.le_trans (Nat.min_le_right _ _) hlength, Int.le_refl _⟩
        · cases hcut
  · cases h
    exact ⟨hlength, by omega⟩

theorem lowerExponent_bounds (hlength : digits.length ≤ maxDigits) (hlow : minExponent ≤ exponent)
    (h : lowerExponent digits exponent = some (kept, raised)) :
    kept.length ≤ maxDigits ∧ minExponent ≤ raised ∧ raised ≤ maxExponent := by
  have hends : minExponent ≤ maxExponent := by decide
  unfold lowerExponent at h
  split at h
  · split at h
    · cases h
      exact ⟨hlength, hends, Int.le_refl _⟩
    · dsimp only at h
      split at h
      · cases h
      · cases h
        rw [List.length_append, List.length_replicate]
        exact ⟨by omega, hends, Int.le_refl _⟩
  · cases h
    exact ⟨hlength, hlow, by omega⟩

theorem readUnsigned_lt {n : Nat} (h : readUnsigned digits = some n) : n < 10 ^ digits.length := by
  have hnatural : ∀ {ds : List Char}, readNatural ds = some n → n < 10 ^ ds.length := by
    intro ds hread
    unfold readNatural at hread
    split at hread
    · cases hread
    · rename_i hall
      cases hread
      rw [Bool.or_eq_true, not_or, Bool.not_eq_true', Bool.not_eq_false] at hall
      exact digitsValue_lt (List.all_eq_true.mp hall.2)
  unfold readUnsigned at h
  split at h
  · rename_i rest
    exact Nat.lt_of_lt_of_le (hnatural h) (Nat.pow_le_pow_right (by decide) (Nat.le_succ _))
  · exact hnatural h

/-- The decimal of some digits before and behind a point, with a written exponent. -/
def ofParts (negative : Bool) (whole places : List Char) (written : Int) : Option Decimal128 := do
  let (digits, exponent) ← fitLength (significantDigits (whole ++ places))
    (← lastExponent written places.length)
  let (digits, exponent) ← raiseExponent digits exponent
  let (digits, exponent) ← lowerExponent digits exponent
  let coefficient ← readUnsigned digits
  return .finite negative coefficient exponent

/-- A finite decimal is read in parts. -/
theorem readFinite_eq (negative : Bool) (s : List Char) : readFinite negative s =
    let (mantissa, exponent) := splitAtFirst (· == 'e') s
    let (whole, places) := splitAtFirst (· == '.') mantissa
    (exponent.elim (some 0) (readSized 128)).bind (ofParts negative whole (places.getD [])) := by
  unfold readFinite
  rcases splitAtFirst (· == 'e') s with ⟨mantissa, exponent⟩
  cases exponent with
  | none => rfl
  | some text => rfl

theorem fits_of_ofParts {negative : Bool} {whole places : List Char} {written : Int} {d : Decimal128}
    (h : ofParts negative whole places written = some d) : d.Fits := by
  unfold ofParts at h
  simp only [Option.bind_eq_bind, Option.bind_eq_some_iff, Prod.exists] at h
  obtain ⟨last, -, fitted, first, hfit, lifted, second, hraise, lowered, third, hlower,
    coefficient, hcoefficient, hd⟩ := h
  obtain ⟨hlifted, hlow⟩ := raiseExponent_bounds (length_fitLength hfit) hraise
  obtain ⟨hlength, hends⟩ := lowerExponent_bounds hlifted hlow hlower
  cases hd
  refine ⟨?_, hends⟩
  exact Nat.lt_of_lt_of_le (readUnsigned_lt hcoefficient) (Nat.pow_le_pow_right (by decide) hlength)

/-- A decimal that was read is within the limits. -/
theorem fits_of_read {s : String} {d : Decimal128} (h : read s = some d) : d.Fits := by
  unfold read at h
  split at h
  dsimp only at h
  split at h
  · cases h
    trivial
  split at h
  · cases h
    trivial
  split at h
  · cases h
    trivial
  rw [readFinite_eq] at h
  obtain ⟨written, -, hparts⟩ := Option.bind_eq_some_iff.mp h
  exact fits_of_ofParts hparts

/-! ## Decimals that are written -/

/-- A digit is written alike in letters of either case. -/
theorem toLower_digit {c : Char} (h : c.isDigit = true) : c.toLower = c := by
  obtain ⟨-, hhigh⟩ := Bool.and_eq_true_iff.mp h
  unfold Char.toLower
  rw [dif_neg]
  rintro ⟨hupper, -⟩
  have hlow : 'A'.val ≤ '9'.val := UInt32.le_trans hupper (of_decide_eq_true hhigh)
  exact absurd hlow (by decide)

theorem map_toLower_digits {digits : List Char} (h : ∀ c ∈ digits, c.isDigit = true) :
    digits.map Char.toLower = digits := by
  have hsame : digits.map Char.toLower = digits.map id :=
    List.map_congr_left fun c hc => toLower_digit (h c hc)
  rw [hsame, List.map_id]

/-- A text that begins with a digit is no word. -/
theorem isWord_of_digit {words : List String} {c : Char} (hc : c.isDigit = true) (rest : List Char)
    (hwords : ∀ word ∈ words, ∀ first ∈ word.toList.head?, first.isDigit = false) :
    isWord words (c :: rest) = false := by
  unfold isWord
  rw [List.contains_eq_mem, decide_eq_false_iff_not]
  intro hmem
  have hfirst := hwords _ hmem c (by simp [toLower_digit hc])
  rw [hc] at hfirst
  cases hfirst

theorem significantDigits_toDigits (zeros n : Nat) :
    significantDigits (List.replicate zeros '0' ++ Nat.toDigits 10 n) = Nat.toDigits 10 n := by
  have hskip : ∀ rest : List Char,
      (List.replicate zeros '0' ++ rest).dropWhile (· == '0') = rest.dropWhile (· == '0') := by
    intro rest
    refine List.dropWhile_append_of_pos fun c hc => ?_
    rw [List.eq_of_mem_replicate hc]
    rfl
  unfold significantDigits
  rw [hskip]
  by_cases hzero : n = 0
  · rw [hzero]
    rfl
  · cases hdigits : Nat.toDigits 10 n with
    | nil => exact absurd hdigits Nat.toDigits_ne_nil
    | cons c cs =>
        have hlead : (c == '0') = false :=
          beq_eq_false_iff_ne.mpr (head_toDigits_ne_zero (Nat.pos_of_ne_zero hzero) hdigits)
        rw [List.dropWhile_cons, hlead]
        rfl

/-- The digits of a number within the limits denote it, wherever the point stands in them. -/
theorem ofParts_toDigits (negative : Bool) {whole places : List Char} {written : Int} {zeros n : Nat}
    (hdigits : whole ++ places = List.replicate zeros '0' ++ Nat.toDigits 10 n)
    (hfits : Fits (.finite negative n (written - places.length))) :
    ofParts negative whole places written = some (.finite negative n (written - places.length)) := by
  obtain ⟨hsmall, hlow, hhigh⟩ := hfits
  have hlength := length_toDigits_le (show 0 < maxDigits by decide) hsmall
  have hread : readUnsigned (Nat.toDigits 10 n) = some n := by
    have hnatural := readNatural_toDigits n
    cases hn : Nat.toDigits 10 n with
    | nil => exact absurd hn Nat.toDigits_ne_nil
    | cons c cs =>
        have hdigit : c.isDigit = true := isDigit_of_mem_toDigits (hn ▸ List.mem_cons_self)
        rw [hn] at hnatural
        rw [readUnsigned]
        · exact hnatural
        · rintro s ⟨⟩
          cases hdigit
  have hreach : minReadExponent ≤ minExponent := by decide
  have hlast : lastExponent written places.length = some (written - places.length) := by
    unfold lastExponent
    rw [if_neg (by omega)]
  unfold ofParts
  simp only [hdigits, significantDigits_toDigits, hlast, Option.bind_eq_bind, Option.bind_some]
  unfold fitLength raiseExponent lowerExponent
  simp only [if_neg (Nat.not_lt.mpr hlength), if_neg (Int.not_lt.mpr hlow), if_neg (Int.not_lt.mpr hhigh),
    Option.bind_some, hread]
  rfl

/-! ## Points and exponents -/

/-- A point with the digits behind it; nothing if there are none. -/
def pointText (places : List Char) : List Char :=
  if places = [] then [] else '.' :: places

theorem mem_pointText {places : List Char} {c : Char} (h : c ∈ pointText places) :
    c = '.' ∨ c ∈ places := by
  unfold pointText at h
  split at h
  · cases h
  · exact List.mem_cons.mp h

theorem splitAtFirst_point {whole : List Char} (h : ∀ c ∈ whole, c.isDigit = true) (places : List Char) :
    ∃ behind, splitAtFirst (· == '.') (whole ++ pointText places) = (whole, behind) ∧
      behind.getD [] = places := by
  have hwhole : ∀ c ∈ whole, (c == '.') = false := by
    intro c hc
    rw [beq_eq_false_iff_ne]
    rintro rfl
    exact absurd (h _ hc) (by decide)
  by_cases hnone : places = []
  · refine ⟨none, ?_, hnone.symm⟩
    rw [pointText, if_pos hnone, List.append_nil]
    exact splitAtFirst_of_none hwhole
  · refine ⟨some places, ?_, rfl⟩
    rw [pointText, if_neg hnone]
    exact splitAtFirst_append hwhole rfl places

theorem no_letter {whole places : List Char} (hwhole : ∀ c ∈ whole, c.isDigit = true)
    (hplaces : ∀ c ∈ places, c.isDigit = true) : ∀ c ∈ whole ++ pointText places, (c == 'e') = false := by
  intro c hc
  rw [beq_eq_false_iff_ne]
  rintro rfl
  rcases List.mem_append.mp hc with hc | hc
  · exact absurd (hwhole _ hc) (by decide)
  · rcases mem_pointText hc with hpoint | hc
    · exact absurd hpoint (by decide)
    · exact absurd (hplaces _ hc) (by decide)

variable {negative : Bool} {whole places : List Char}

theorem readFinite_point (hwhole : ∀ c ∈ whole, c.isDigit = true)
    (hplaces : ∀ c ∈ places, c.isDigit = true) :
    readFinite negative (whole ++ pointText places) = ofParts negative whole places 0 := by
  obtain ⟨behind, hsplit, hbehind⟩ := splitAtFirst_point hwhole places
  rw [readFinite_eq, splitAtFirst_of_none (no_letter hwhole hplaces)]
  simp only [hsplit, hbehind, Option.elim_none, Option.bind_some]

theorem readFinite_exponent (hwhole : ∀ c ∈ whole, c.isDigit = true)
    (hplaces : ∀ c ∈ places, c.isDigit = true) (text : List Char) :
    readFinite negative (whole ++ pointText places ++ 'e' :: text)
      = (readSized 128 text).bind (ofParts negative whole places) := by
  obtain ⟨behind, hsplit, hbehind⟩ := splitAtFirst_point hwhole places
  rw [readFinite_eq, splitAtFirst_append (no_letter hwhole hplaces) rfl]
  simp only [hsplit, hbehind, Option.elim_some]

/-! ## Written decimals -/

/-- Digits with a point so many places from the right are digits before and behind a point. -/
theorem toList_placeText (n count : Nat) : ∃ (whole places : List Char) (zeros : Nat),
    (placeText (toString n) count).toList = whole ++ pointText places ∧ whole ≠ [] ∧
      places.length = count ∧ whole ++ places = List.replicate zeros '0' ++ Nat.toDigits 10 n := by
  have hdigits : (toString n).toList = Nat.toDigits 10 n := Nat.toList_repr
  unfold placeText
  by_cases hnone : count = 0
  · refine ⟨Nat.toDigits 10 n, [], 0, ?_, Nat.toDigits_ne_nil, hnone.symm, List.append_nil _⟩
    rw [if_pos hnone, hdigits]
    exact (List.append_nil _).symm
  · rw [if_neg hnone, hdigits]
    generalize hpadded : List.replicate (count + 1 - (toString n).length) '0' ++ Nat.toDigits 10 n = padded
    have hlength : count + 1 ≤ padded.length := by
      rw [← hpadded, List.length_append, List.length_replicate, ← String.length_toList, hdigits]
      omega
    have hplaces : (padded.drop (padded.length - count)).length = count := by
      rw [List.length_drop]
      omega
    refine ⟨padded.take (padded.length - count), padded.drop (padded.length - count),
      count + 1 - (toString n).length, ?_, ?_, hplaces, ?_⟩
    · have hsome : padded.drop (padded.length - count) ≠ [] := by
        intro hnil
        rw [hnil] at hplaces
        exact hnone hplaces.symm
      rw [pointText, if_neg hsome]
      simp
    · intro hnil
      have hcut := List.length_take (i := padded.length - count) (l := padded)
      rw [hnil, List.length_nil] at hcut
      omega
    · rw [List.take_append_drop]
      exact hpadded.symm

/-- An exponent with its sign, a positive one with a plus. -/
def exponentText (exponent : Int) : List Char :=
  (if 0 < exponent then ['+'] else []) ++ (toString exponent).toList

theorem toList_scientificText (n : Nat) (exponent : Int) :
    (scientificText (toString n) exponent).toList = (Nat.toDigits 10 n).take 1
      ++ pointText ((Nat.toDigits 10 n).drop 1) ++ 'E' :: exponentText exponent := by
  have hdigits : (toString n).toList = Nat.toDigits 10 n := Nat.toList_repr
  have hpoint : ∀ more : List Char,
      (if (String.ofList more).isEmpty then "" else "." ++ String.ofList more).toList = pointText more := by
    intro more
    cases more with
    | nil => rfl
    | cons c cs => simp [pointText]
  have hsign : (if 0 < exponent then "+" else "").toList = if 0 < exponent then ['+'] else [] := by
    split
    · rfl
    · rfl
  unfold scientificText exponentText
  simp only [hdigits, String.toList_append, hpoint, hsign, String.toList_ofList]
  simp

theorem readSized_exponentText {exponent : Int} (hlow : -(2 ^ 127) ≤ exponent)
    (hhigh : exponent < 2 ^ 127) : readSized 128 (exponentText exponent) = some exponent := by
  have hread : readInteger (exponentText exponent) = some exponent := by
    unfold exponentText
    by_cases hpositive : 0 < exponent
    · have hsame : Int.ofNat exponent.natAbs = exponent := Int.natAbs_of_nonneg (Int.le_of_lt hpositive)
      rw [if_pos hpositive, toList_toString_int, if_neg (by omega), List.nil_append,
        List.singleton_append, readInteger, readNatural_toDigits, Option.map_some, hsame]
    · rw [if_neg hpositive, List.nil_append]
      exact readInteger_toString exponent
  rw [readSized, hread]
  exact if_pos ⟨hlow, hhigh⟩

/-- What stands in a decimal before its exponent is the same in letters of either case. -/
theorem map_toLower_point (hwhole : ∀ c ∈ whole, c.isDigit = true)
    (hplaces : ∀ c ∈ places, c.isDigit = true) :
    (whole ++ pointText places).map Char.toLower = whole ++ pointText places := by
  have hpoint : (pointText places).map Char.toLower = pointText places := by
    unfold pointText
    split
    · rfl
    · rw [List.map_cons, map_toLower_digits hplaces]
      rfl
  rw [List.map_append, map_toLower_digits hwhole, hpoint]

theorem map_toLower_exponentText (exponent : Int) :
    (exponentText exponent).map Char.toLower = exponentText exponent := by
  have hdigits := map_toLower_digits fun c hc => isDigit_of_mem_toDigits (n := exponent.natAbs) hc
  unfold exponentText
  rw [toList_toString_int, List.map_append, List.map_append, hdigits]
  split
  · split
    · rfl
    · rfl
  · split
    · rfl
    · rfl

/-- A finite decimal within the limits is read as it was written. -/
theorem readFinite_finiteText {n : Nat} {exponent : Int} (h : Fits (.finite negative n exponent)) :
    readFinite negative ((finiteText n exponent).toList.map Char.toLower)
      = some (.finite negative n exponent) := by
  have hall : ∀ {whole places : List Char} {zeros : Nat},
      whole ++ places = List.replicate zeros '0' ++ Nat.toDigits 10 n →
      (∀ c ∈ whole, c.isDigit = true) ∧ ∀ c ∈ places, c.isDigit = true := by
    intro whole places zeros hdigits
    have hdigit : ∀ c ∈ whole ++ places, c.isDigit = true := by
      intro c hc
      rw [hdigits] at hc
      rcases List.mem_append.mp hc with hzero | hc
      · rw [List.eq_of_mem_replicate hzero]
        decide
      · exact isDigit_of_mem_toDigits hc
    exact ⟨fun c hc => hdigit c (List.mem_append_left _ hc),
      fun c hc => hdigit c (List.mem_append_right _ hc)⟩
  unfold finiteText
  dsimp only
  split
  · rename_i hplain
    obtain ⟨whole, places, zeros, htext, -, hcount, hdigits⟩ := toList_placeText n (-exponent).toNat
    obtain ⟨hwhole, hplaces⟩ := hall hdigits
    have hexponent : (0 : Int) - places.length = exponent := by omega
    rw [htext, map_toLower_point hwhole hplaces, readFinite_point hwhole hplaces,
      ofParts_toDigits negative hdigits (hexponent ▸ h), hexponent]
  · have hsplit : (Nat.toDigits 10 n).take 1 ++ (Nat.toDigits 10 n).drop 1
        = List.replicate 0 '0' ++ Nat.toDigits 10 n := List.take_append_drop _ _
    obtain ⟨hwhole, hplaces⟩ := hall hsplit
    have hlength : (toString n).length = (Nat.toDigits 10 n).length := by
      rw [← String.length_toList]
      exact congrArg List.length Nat.toList_repr
    have hpos : 0 < (Nat.toDigits 10 n).length := List.length_pos_iff.mpr Nat.toDigits_ne_nil
    obtain ⟨hsmall, hlow, hhigh⟩ := h
    have hshort := length_toDigits_le (show 0 < maxDigits by decide) hsmall
    have hends : -6176 ≤ exponent ∧ exponent ≤ 6111 := ⟨hlow, hhigh⟩
    have hmost : (Nat.toDigits 10 n).length ≤ 34 := hshort
    have hexponent : exponent + (toString n).length - 1 - ((Nat.toDigits 10 n).drop 1).length = exponent := by
      rw [hlength, List.length_drop]
      omega
    rw [toList_scientificText, List.map_append, map_toLower_point hwhole hplaces, List.map_cons,
      map_toLower_exponentText]
    have hletter : 'E'.toLower = 'e' := by decide
    rw [hletter, readFinite_exponent hwhole hplaces, readSized_exponentText (by omega) (by omega),
      Option.bind_some, ofParts_toDigits negative hsplit (hexponent.symm ▸ ⟨hsmall, hlow, hhigh⟩), hexponent]

/-- A finite decimal begins with a digit. -/
theorem exists_head_finiteText (n : Nat) (exponent : Int) : ∃ (c : Char) (rest : List Char),
    (finiteText n exponent).toList = c :: rest ∧ c.isDigit = true := by
  unfold finiteText
  dsimp only
  split
  · obtain ⟨whole, places, zeros, htext, hne, -, hdigits⟩ := toList_placeText n (-exponent).toNat
    cases whole with
    | nil => exact absurd rfl hne
    | cons c cs =>
        refine ⟨c, cs ++ pointText places, htext, ?_⟩
        have hmem : c ∈ List.replicate zeros '0' ++ Nat.toDigits 10 n := by
          rw [← hdigits]
          exact List.mem_cons_self
        rcases List.mem_append.mp hmem with hzero | hc
        · rw [List.eq_of_mem_replicate hzero]
          decide
        · exact isDigit_of_mem_toDigits hc
  · rw [toList_scientificText]
    cases hn : Nat.toDigits 10 n with
    | nil => exact absurd hn Nat.toDigits_ne_nil
    | cons c cs =>
        exact ⟨c, _, rfl, isDigit_of_mem_toDigits (hn ▸ List.mem_cons_self)⟩

/-- What is written for a decimal within the limits can be read: a number as itself. -/
theorem exists_read_text {d : Decimal128} (h : d.Fits) : ∃ found, read d.text = some found := by
  cases d with
  | infinity negative =>
      cases negative with
      | true => exact ⟨_, rfl⟩
      | false => exact ⟨_, rfl⟩
  | nan negative signaling =>
      change ∃ found, read "NaN" = some found
      exact ⟨_, rfl⟩
  | finite negative n exponent =>
      obtain ⟨c, rest, hhead, hc⟩ := exists_head_finiteText n exponent
      have hsign : splitSign (text (.finite negative n exponent)).toList = (negative, c :: rest) := by
        cases negative with
        | true =>
            change splitSign ("-" ++ finiteText n exponent).toList = _
            rw [String.toList_append, hhead]
            rfl
        | false =>
            change splitSign ("" ++ finiteText n exponent).toList = _
            rw [String.empty_append, hhead, splitSign]
            · rintro s ⟨⟩
              cases hc
            · rintro s ⟨⟩
              cases hc
      have hnumber : ∀ words : List String,
          (∀ word ∈ words, ∀ first ∈ word.toList.head?, first.isDigit = false) →
          isWord words ((c :: rest).map Char.toLower) = false := by
        intro words hwords
        rw [List.map_cons, toLower_digit hc]
        exact isWord_of_digit hc _ hwords
      have hletter : ∀ {word : String} {letter : Char}, word.toList.head? = some letter →
          letter.isDigit = false → ∀ first ∈ word.toList.head?, first.isDigit = false := by
        intro word letter hword hletter first hfirst
        rw [hword] at hfirst
        cases hfirst
        exact hletter
      have hnan := hnumber ["nan"] (List.forall_mem_singleton.mpr (hletter rfl rfl))
      have hsnan := hnumber ["snan"] (List.forall_mem_singleton.mpr (hletter rfl rfl))
      have hinfinity := hnumber ["inf", "infinity"] (List.forall_mem_cons.mpr
        ⟨hletter rfl rfl, List.forall_mem_singleton.mpr (hletter rfl rfl)⟩)
      refine ⟨.finite negative n exponent, ?_⟩
      unfold read
      simp only [hsign, hnan, hsnan, hinfinity, Bool.false_eq_true, if_false]
      rw [← hhead]
      exact readFinite_finiteText h

end Decimal128

end BulkSweep.Numeric

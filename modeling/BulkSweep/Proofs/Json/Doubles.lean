import BulkSweep.Proofs.Json.Printing
import BulkSweep.Proofs.Numeric.Shortest

/-!
# Written doubles are read

Whatever a finite double is written as, a reader makes a number of it: not always the same one, since a
reader multiplies where it should round, but never one out of range (`exists_figures_double`).
-/

set_option autoImplicit false

namespace BulkSweep.Json

open BulkSweep.Numeric BulkSweep.Numeric.Binary64

/-! ## Scaled significands -/

/-- A division never leaves the range. -/
theorem exists_scaled_of_neg (significand : Nat) {scale : Int} (h : scale < 0) :
    ∃ x, scaled significand scale = some x := by
  have hsteps : ∀ (steps : Nat) (x : Binary64) (scale : Int), scale < 0 →
      ∃ y, scaleFrom steps x scale = some y := by
    intro steps
    induction steps with
    | zero => exact fun _ _ _ => ⟨_, rfl⟩
    | succ steps ih =>
        intro x scale hneg
        have hdivide : ¬0 ≤ scale := by omega
        rw [scaleFrom, if_neg hdivide, if_neg hdivide]
        by_cases hnear : scale.natAbs ≤ 308
        · exact ⟨_, if_pos hnear⟩
        · rw [if_neg hnear]
          by_cases hzero : x.isZero = true
          · exact ⟨_, if_pos hzero⟩
          · rw [if_neg hzero]
            exact ih _ _ (by omega)
  exact hsteps 3 _ scale h

/-- The range of doubles ends before this power of ten. -/
def rangePower : Nat :=
  309

theorem range_lt : (2 ^ 54 - 1) * 2 ^ lastPower < 10 ^ rangePower := by
  obtain ⟨m, hbinary, hdecimal⟩ : ∃ m, 54 + lastPower = 93 * m + 1 ∧ rangePower = 28 * m + 1 :=
    ⟨11, rfl, rfl⟩
  have hpos : 0 < (10 ^ 28) ^ m := Nat.pow_pos (by decide)
  calc (2 ^ 54 - 1) * 2 ^ lastPower
      ≤ 2 ^ 54 * 2 ^ lastPower := Nat.mul_le_mul_right _ (by decide)
    _ = (2 ^ 93) ^ m * 2 := by rw [← Nat.pow_add, hbinary, Nat.pow_succ, Nat.pow_mul]
    _ ≤ (10 ^ 28) ^ m * 2 := Nat.mul_le_mul_right 2 (Nat.pow_le_pow_left (by decide) m)
    _ < (10 ^ 28) ^ m * 10 := Nat.mul_lt_mul_of_pos_left (by decide) hpos
    _ = 10 ^ rangePower := by rw [hdecimal, Nat.pow_add, Nat.pow_mul, Nat.pow_one]

/-- A product with a power of ten stays in the range if it is somewhat smaller. -/
theorem exists_scaled_of_le {significand power : Nat} (hpos : 0 < significand)
    (h : significand * 10 ^ power ≤ (2 ^ 54 - 5) * 2 ^ lastPower) :
    ∃ x, scaled significand power = some x := by
  have hten : 0 < 10 ^ power := Nat.pow_pos (by decide)
  have hpower : power < rangePower := by
    have hle : 10 ^ power ≤ significand * 10 ^ power := Nat.le_mul_of_pos_left _ hpos
    have hbelow : (2 ^ 54 - 5) * 2 ^ lastPower ≤ (2 ^ 54 - 1) * 2 ^ lastPower :=
      Nat.mul_le_mul_right _ (by decide)
    have hlt := Nat.lt_of_le_of_lt (Nat.le_trans hle (Nat.le_trans h hbelow)) range_lt
    exact (Nat.pow_lt_pow_iff_right (by decide)).mp hlt
  have hbound : rangePower = 309 := rfl
  have hfinite := isInfinite_mul_ofNat hpos hten h
  refine ⟨(ofNat significand).mul (ofNat (10 ^ power)), ?_⟩
  rw [scaled, scaleFrom, if_pos (by omega), if_pos (by omega), Int.toNat_natCast, powerOfTen]
  simp only [hfinite, Bool.false_eq_true, if_false]

/-! ## Digits -/

/-- What is taken in of some digits is a beginning of them. -/
theorem takeDigits_le (n : Nat) (digits : List Char) : n ≤ (takeDigits n digits).1 ∧
    (takeDigits n digits).2.length ≤ digits.length ∧
    (takeDigits n digits).1 * 10 ^ (takeDigits n digits).2.length ≤ Nat.ofDigitChars 10 digits n := by
  induction digits generalizing n with
  | nil => exact ⟨Nat.le_refl n, Nat.le_refl 0, Nat.le_of_eq (Nat.mul_one n)⟩
  | cons d ds ih =>
      rw [takeDigits, Nat.ofDigitChars_cons]
      by_cases hnext : 10 * n + digitValue d < 2 ^ 64
      · rw [if_pos hnext]
        obtain ⟨hle, hlength, hvalue⟩ := ih (10 * n + digitValue d)
        exact ⟨by omega, Nat.le_succ_of_le hlength, hvalue⟩
      · rw [if_neg hnext]
        refine ⟨Nat.le_refl n, Nat.le_refl _, ?_⟩
        simp only [List.length_cons]
        rw [Nat.ofDigitChars_eq_ofDigitChars_zero, Nat.pow_succ, Nat.mul_left_comm, Nat.mul_comm n 10]
        exact Nat.le_trans (Nat.mul_le_mul_left _ (Nat.le_add_right _ _)) (Nat.le_add_right _ _)

/-- An exponent has its value, or it is too large. -/
theorem sumExponent_cases (negative : Bool) (n : Nat) (mark : Mark) (digits : List Char) :
    sumExponent negative n mark digits = .exactly
        (if negative then -(Nat.ofDigitChars 10 digits n : Int) else Nat.ofDigitChars 10 digits n) ∨
      2 ^ 31 ≤ Nat.ofDigitChars 10 digits n ∧
        ∃ place, sumExponent negative n mark digits = .beyond negative place := by
  induction digits generalizing n mark with
  | nil => exact .inl rfl
  | cons d ds ih =>
      rw [sumExponent, Nat.ofDigitChars_cons]
      by_cases hnext : 10 * n + digitValue d < 2 ^ 31
      · rw [if_pos hnext]
        exact ih _ _
      · rw [if_neg hnext]
        refine .inr ⟨?_, _, rfl⟩
        have hpow : 0 < 10 ^ ds.length := Nat.pow_pos (by decide)
        have hle := Nat.le_mul_of_pos_left (10 * n + digitValue d) hpow
        rw [Nat.ofDigitChars_eq_ofDigitChars_zero]
        unfold digitValue at hle hnext
        omega

/-! ## Numbers with a point -/

theorem Form.Whole.isDigit (whole : Form.Whole) : ∀ c ∈ whole.text, c.isDigit = true := by
  cases whole with
  | zero => decide
  | digits d _ => exact List.forall_mem_cons.mpr ⟨d.first_isDigit, d.rest_isDigit⟩

/-- A number with a point and without exponent is a fraction if its whole digits are few: one of its
places at least is taken in. -/
theorem exists_value_point (negative : Bool) (whole : Form.Whole) (places : Form.Digits)
    (h : whole.text.length ≤ 16) : ∃ x, (Form.Figures.mk negative whole (some places) none).value?
      = some (.fraction x) := by
  have hwhole : digitsValue whole.text < 10 ^ 16 :=
    Nat.lt_of_lt_of_le (digitsValue_lt whole.isDigit) (Nat.pow_le_pow_right (by decide) h)
  have htake : takeDigits 0 whole.text = (digitsValue whole.text, []) :=
    takeDigits_of_lt (Nat.lt_trans hwhole (by decide))
  have hfirst := digitValue_le places.first_isDigit
  have hstep : takeDigits (digitsValue whole.text) places.text
      = takeDigits (10 * digitsValue whole.text + digitValue places.first) places.rest := by
    rw [Form.Digits.text, takeDigits, if_pos (by omega)]
  have hlost := (takeDigits_le (10 * digitsValue whole.text + digitValue places.first) places.rest).2.1
  have hneg : ((0 : Nat) : Int) - (places.text.length
      - (takeDigits (digitsValue whole.text) places.text).2.length : Nat) < 0 := by
    rw [hstep, Form.Digits.text, List.length_cons]
    omega
  obtain ⟨x, hx⟩ := exists_scaled_of_neg (takeDigits (digitsValue whole.text) places.text).1 hneg
  refine ⟨x.withSign negative, ?_⟩
  simp only [Form.Figures.value?, Form.Figures.numeral, Numeral.value, htake, Option.map_some,
    Option.map_none, Option.getD_some, Numeral.value.scaledNumber, Numeral.value.finish, List.length_nil, hx]
  rfl

/-! ## Numbers with an exponent -/

theorem value_power (negative : Bool) {whole : List Char} {n : Nat} (h : takeDigits 0 whole = (n, []))
    (places : Option (List Char)) (e : Exponent) :
    Numeral.value negative ⟨whole, places, some e⟩
      = Numeral.value.scaledNumber (fun x => .fraction (x.withSign negative))
          (takeDigits n (places.getD [])).1
          (((0 : Nat) : Int) - ((places.getD []).length - (takeDigits n (places.getD [])).2.length : Nat))
          (some e) := by
  cases places with
  | none => simp only [Numeral.value, h, List.length_nil]
  | some digits => simp only [Numeral.value, h, List.length_nil]

/-- A number with one digit before the point and an exponent is a fraction if the digits that are taken in
can be scaled by it. -/
theorem exists_value_power (negative : Bool) {c : Char} {cs : List Char} {hc : c.isDigit = true}
    {hlead : c ≠ '0'} {places : Option Form.Digits} (hplaces : (places.map Form.Digits.text).getD [] = cs)
    {power : Form.Power} {e : Int}
    (hpower : power.exponent .start = .exactly e ∨ ∃ place, power.exponent .start = .beyond true place)
    (hscaled : ∃ y, scaled (takeDigits 0 (c :: cs)).1
      ((takeDigits 0 (c :: cs)).2.length - cs.length + e) = some y) :
    ∃ x, (Form.Figures.mk negative (.digits ⟨c, [], hc, nofun⟩ hlead) places (some power)).value?
      = some (.fraction x) := by
  have hvalue := digitValue_le hc
  have htake : takeDigits 0 [c] = (digitValue c, []) := by
    rw [takeDigits, if_pos (by omega), Nat.mul_zero, Nat.zero_add, takeDigits]
  have hstep : takeDigits 0 (c :: cs) = takeDigits (digitValue c) cs := by
    rw [takeDigits, if_pos (by omega), Nat.mul_zero, Nat.zero_add]
  have hlost := (takeDigits_le (digitValue c) cs).2.1
  rw [hstep] at hscaled
  obtain ⟨y, hy⟩ := hscaled
  have hscale : ((0 : Nat) : Int) - (cs.length - (takeDigits (digitValue c) cs).2.length : Nat) + e
      = (takeDigits (digitValue c) cs).2.length - cs.length + e := by
    omega
  rw [Form.Figures.value?, Form.Figures.numeral, Option.map_some]
  change ∃ x, (Numeral.value negative ⟨[c], places.map Form.Digits.text,
    some (power.exponent .start)⟩).toOption = some (.fraction x)
  rw [value_power negative htake, hplaces]
  rcases hpower with hexactly | ⟨place, hbeyond⟩
  · refine ⟨y.withSign negative, ?_⟩
    simp only [hexactly, Numeral.value.scaledNumber, Numeral.value.finish, hscale, hy]
    rfl
  · refine ⟨Binary64.zero.withSign negative, ?_⟩
    simp only [hbeyond, Numeral.value.scaledNumber, or_true, if_true]
    rfl

/-- The digits of a number that is not zero are taken in as a number that is not. -/
theorem takeDigits_pos {n : Nat} (h : 0 < n) : 0 < (takeDigits 0 (Nat.toDigits 10 n)).1 := by
  cases hdigits : Nat.toDigits 10 n with
  | nil => exact absurd hdigits Nat.toDigits_ne_nil
  | cons c cs =>
      have hc : c.isDigit = true := isDigit_of_mem_toDigits (hdigits ▸ List.mem_cons_self)
      have hvalue := digitValue_le hc
      have hpos := digitValue_pos hc (head_toDigits_ne_zero h hdigits)
      rw [takeDigits, if_pos (by omega), Nat.mul_zero, Nat.zero_add]
      exact Nat.lt_of_lt_of_le hpos (takeDigits_le _ cs).1

/-- The digits of the shortest decimal of a finite double can be scaled as it says. -/
theorem exists_scaled_shortest {x : Binary64} (hfinite : x.magnitude < infiniteMagnitude)
    (hzero : x.isZero = false) : ∃ y,
      scaled (takeDigits 0 (Nat.toDigits 10 (x.shortest .toEven).coefficient)).1
        ((takeDigits 0 (Nat.toDigits 10 (x.shortest .toEven).coefficient)).2.length
          + (x.shortest .toEven).scale) = some y := by
  by_cases hlast : infiniteMagnitude - 2 ≤ x.magnitude
  · rcases shortest_of_last hlast hfinite with hshortest | hshortest
    · rw [hshortest]
      exact Option.isSome_iff_exists.mp (by decide +kernel)
    · rw [hshortest]
      exact Option.isSome_iff_exists.mp (by decide +kernel)
  · obtain ⟨hpos, hwithin⟩ := shortest_within .toEven hzero
    have hrange := hwithin.trans ((midpoint_le hfinite).2 (by omega))
    generalize x.shortest .toEven = d at hpos hrange ⊢
    obtain ⟨-, -, hvalue⟩ := takeDigits_le 0 (Nat.toDigits 10 d.coefficient)
    rw [Nat.ofDigitChars_ten_toDigits] at hvalue
    have htaken := takeDigits_pos hpos
    generalize takeDigits 0 (Nat.toDigits 10 d.coefficient) = taken at hvalue htaken ⊢
    by_cases hneg : taken.2.length + d.scale < 0
    · exact exists_scaled_of_neg _ hneg
    · obtain ⟨r, hr⟩ := Int.eq_ofNat_of_zero_le (Int.not_lt.mp hneg)
      rw [hr]
      exact exists_scaled_of_le htaken (hrange.mul_pow_le hvalue hr.symm)

/-! ## Written doubles -/

theorem exists_digits {digits : List Char} (hne : digits ≠ []) (h : ∀ c ∈ digits, c.isDigit = true) :
    ∃ d : Form.Digits, d.text = digits := by
  cases digits with
  | nil => exact absurd rfl hne
  | cons c cs =>
      obtain ⟨hc, hcs⟩ := List.forall_mem_cons.mp h
      exact ⟨⟨c, cs, hc, hcs⟩, rfl⟩

/-- An absolute value is written as a number that denotes a fraction with either sign. -/
def WritesFraction (text : List Char) : Prop :=
  ∃ (whole : Form.Whole) (places : Option Form.Digits) (power : Option Form.Power),
    text = whole.text ++ Form.placesText places ++ Form.powerText power ∧
      ∀ negative, ∃ x, (Form.Figures.mk negative whole places power).value? = some (.fraction x)

/-- Digits with a point between them denote a fraction if only few stand before the point. -/
theorem writesFraction_point (whole places : List Char) (hwhole : ∃ w : Form.Whole, w.text = whole)
    (hlength : whole.length ≤ 16) (hne : places ≠ []) (hplaces : ∀ c ∈ places, c.isDigit = true) :
    WritesFraction (whole ++ '.' :: places) := by
  obtain ⟨w, rfl⟩ := hwhole
  obtain ⟨digits, rfl⟩ := exists_digits hne hplaces
  refine ⟨w, some digits, none, ?_, fun negative => exists_value_point negative w digits hlength⟩
  exact (List.append_nil _).symm

/-- The positional text of digits is a number with a point. -/
theorem writesFraction_positional {n : Nat} (hpos : 0 < n) {point : Int} (h : point ≤ 16) :
    WritesFraction (documentLayout.positionalText (toString n) point).toList := by
  have hdigits : (toString n).toList = Nat.toDigits 10 n := Nat.toList_repr
  have hall : ∀ c ∈ Nat.toDigits 10 n, c.isDigit = true := fun c hc => isDigit_of_mem_toDigits hc
  have hzeros : ∀ k, ∀ c ∈ List.replicate k '0', c.isDigit = true := by
    intro k c hc
    rw [List.eq_of_mem_replicate hc]
    decide
  have hne : Nat.toDigits 10 n ≠ [] := Nat.toDigits_ne_nil
  obtain ⟨c, cs, hcons⟩ := List.exists_cons_of_ne_nil hne
  have hlead := head_toDigits_ne_zero hpos hcons
  have hlength : (toString n).length = (Nat.toDigits 10 n).length := by
    rw [← hdigits, String.length_toList]
  unfold Layout.positionalText
  by_cases hbelow : point ≤ 0
  · rw [if_pos hbelow, String.toList_append, String.toList_append, String.toList_ofList,
      String.toList_ofList, hdigits, List.append_assoc]
    refine writesFraction_point ['0'] (List.replicate (-point).toNat '0' ++ Nat.toDigits 10 n)
      ⟨.zero, rfl⟩ (by decide) ?_ ?_
    · exact fun hnil => hne (List.append_eq_nil_iff.mp hnil).2
    · exact List.forall_mem_append.mpr ⟨hzeros _, hall⟩
  · rw [if_neg hbelow, hlength]
    by_cases hwhole : (Nat.toDigits 10 n).length ≤ point.toNat
    · rw [if_pos hwhole, String.toList_append, String.toList_append, String.toList_ofList, hdigits]
      refine writesFraction_point _ ['0'] ?_ ?_ (by decide) (by decide)
      · rw [hcons] at hall ⊢
        obtain ⟨hc, hcs⟩ := List.forall_mem_cons.mp hall
        have hmore := List.forall_mem_append.mpr ⟨hcs, hzeros (point.toNat - (c :: cs).length)⟩
        exact ⟨.digits ⟨c, _, hc, hmore⟩ hlead, rfl⟩
      · rw [List.length_append, List.length_replicate]
        omega
    · rw [if_neg hwhole, String.toList_append, String.toList_append, String.toList_ofList,
        String.toList_ofList, String.toList_ofList, hdigits, List.append_assoc]
      obtain ⟨k, hk⟩ : ∃ k, point.toNat = k + 1 := ⟨point.toNat - 1, by omega⟩
      refine writesFraction_point _ _ ?_ ?_ ?_ fun d hd => hall d (List.mem_of_mem_drop hd)
      · rw [hcons] at hall ⊢
        obtain ⟨hc, hcs⟩ := List.forall_mem_cons.mp hall
        rw [hk, List.take_succ_cons]
        exact ⟨.digits ⟨c, cs.take k, hc, fun d hd => hcs d (List.mem_of_mem_take hd)⟩ hlead, rfl⟩
      · rw [List.length_take]
        omega
      · intro hnil
        exact hwhole (List.drop_eq_nil_iff.mp hnil)

/-- Digits are the places of a number, none if there are no digits. -/
theorem exists_places {cs : List Char} (h : ∀ c ∈ cs, c.isDigit = true) :
    ∃ places : Option Form.Digits, (places.map Form.Digits.text).getD [] = cs ∧
      Form.placesText places = if cs.isEmpty then [] else '.' :: cs := by
  cases cs with
  | nil => exact ⟨none, rfl, rfl⟩
  | cons d ds =>
      obtain ⟨digits, htext⟩ := exists_digits (List.cons_ne_nil d ds) h
      refine ⟨some digits, htext, ?_⟩
      rw [Form.placesText, Option.elim_some, htext]
      rfl

/-- A written exponent is read as itself, unless it is far below zero. -/
theorem exponent_of_digits {exponent : Int} (hlarge : exponent < 2 ^ 31) {digits : Form.Digits}
    (h : digits.text = Nat.toDigits 10 exponent.natAbs) {upper : Bool} :
    let power : Form.Power := ⟨upper, if exponent < 0 then .minus else .plus, digits⟩
    power.exponent .start = .exactly exponent ∨ ∃ place, power.exponent .start = .beyond true place := by
  intro power
  have hnatAbs : Nat.ofDigitChars 10 (Nat.toDigits 10 exponent.natAbs) 0 = exponent.natAbs :=
    Nat.ofDigitChars_ten_toDigits
  have hsign : decide ((if exponent < 0 then Form.Sign.minus else .plus) = .minus)
      = decide (exponent < 0) := by
    split
    · rename_i hneg
      exact (decide_eq_true hneg).symm
    · rename_i hneg
      exact (decide_eq_false hneg).symm
  rw [Form.Power.exponent, h, hsign]
  rcases sumExponent_cases (decide (exponent < 0)) 0 .start (Nat.toDigits 10 exponent.natAbs)
    with hexactly | ⟨hbeyond, place, hplace⟩
  · refine .inl (hexactly.trans (congrArg Exponent.exactly ?_))
    rw [hnatAbs]
    by_cases hneg : exponent < 0
    · rw [decide_eq_true hneg, if_pos rfl]
      omega
    · rw [decide_eq_false hneg, if_neg Bool.false_ne_true]
      omega
  · rw [hnatAbs] at hbeyond
    have hneg : exponent < 0 := by omega
    rw [decide_eq_true hneg] at hplace
    exact .inr ⟨place, by rw [decide_eq_true hneg, hplace]⟩

/-- The text of digits with an exponent is a number if the digits can be scaled by it. -/
theorem writesFraction_exponent {n : Nat} (hpos : 0 < n) {exponent : Int} (hlarge : exponent < 2 ^ 31)
    (hscaled : ∃ y, scaled (takeDigits 0 (Nat.toDigits 10 n)).1
      ((takeDigits 0 (Nat.toDigits 10 n)).2.length - ((Nat.toDigits 10 n).length - 1 : Nat) + exponent)
      = some y) :
    WritesFraction (Layout.exponentText (toString n) exponent).toList := by
  have hdigits : (toString n).toList = Nat.toDigits 10 n := Nat.toList_repr
  have hall : ∀ c ∈ Nat.toDigits 10 n, c.isDigit = true := fun c hc => isDigit_of_mem_toDigits hc
  have hne : Nat.toDigits 10 n ≠ [] := Nat.toDigits_ne_nil
  obtain ⟨c, cs, hcons⟩ := List.exists_cons_of_ne_nil hne
  have hlead := head_toDigits_ne_zero hpos hcons
  rw [hcons] at hall hscaled
  obtain ⟨hc, hcs⟩ := List.forall_mem_cons.mp hall
  obtain ⟨places, hplaces, hplacesText⟩ := exists_places hcs
  obtain ⟨digits, hexponent⟩ := exists_digits (Nat.toDigits_ne_nil (b := 10) (n := exponent.natAbs))
    fun d hd => isDigit_of_mem_toDigits hd
  refine ⟨.digits ⟨c, [], hc, nofun⟩ hlead, places,
    some ⟨false, if exponent < 0 then .minus else .plus, digits⟩, ?_, fun negative => ?_⟩
  · have hlead' : String.ofList ((toString n).toList.take 1) = String.ofList [c] := by
      rw [hdigits, hcons]
      rfl
    have hmore : String.ofList ((toString n).toList.drop 1) = String.ofList cs := by
      rw [hdigits, hcons]
      rfl
    have hpower : (toString exponent.natAbs).toList = digits.text := Nat.toList_repr.trans hexponent.symm
    have hplacesOf : (if (String.ofList cs).isEmpty then "" else "." ++ String.ofList cs : String).toList
        = Form.placesText places := by
      rw [hplacesText]
      cases cs <;> simp
    have hsign : (if exponent < 0 then "-" else "+" : String).toList
        = (if exponent < 0 then Form.Sign.minus else .plus).text := by
      split <;> rfl
    unfold Layout.exponentText
    rw [hlead', hmore]
    simp only [String.toList_append, hplacesOf, hsign, hpower, String.toList_ofList]
    simp [Form.Whole.text, Form.Digits.text, Form.powerText, Form.Power.text, Form.Power.letter]
  · exact exists_value_power negative hplaces (exponent_of_digits hlarge hexponent) hscaled

/-- The first digit of a decimal below the range has an exponent below three hundred and nine. -/
theorem exponent_lt {d : Decimal} (hpos : 0 < d.coefficient)
    (h : d.AtMost ((2 ^ 54 - 1) * 2 ^ lastPower)) :
    (Nat.toDigits 10 d.coefficient).length + d.scale - 1 < rangePower := by
  have hlength : 0 < (Nat.toDigits 10 d.coefficient).length :=
    List.length_pos_iff.mpr Nat.toDigits_ne_nil
  obtain ⟨k, hk⟩ : ∃ k, (Nat.toDigits 10 d.coefficient).length = k + 1 :=
    ⟨(Nat.toDigits 10 d.coefficient).length - 1, by omega⟩
  have hfirst : 1 * 10 ^ k ≤ d.coefficient := by
    rw [Nat.one_mul]
    by_cases hzero : k = 0
    · rw [hzero]
      exact hpos
    · refine Nat.le_of_not_lt fun hlt => ?_
      have hless := length_toDigits_le (Nat.pos_of_ne_zero hzero) hlt
      omega
  by_cases hneg : (k : Int) + d.scale < 0
  · omega
  · obtain ⟨r, hr⟩ := Int.eq_ofNat_of_zero_le (Int.not_lt.mp hneg)
    have hrange := h.mul_pow_le hfirst hr.symm
    rw [Nat.one_mul] at hrange
    have hless : r < rangePower :=
      (Nat.pow_lt_pow_iff_right (by decide)).mp (Nat.lt_of_le_of_lt hrange range_lt)
    omega

/-- A decimal is written as a number if its digits can be scaled as it says. -/
theorem writesFraction_decimal {d : Decimal} (hpos : 0 < d.coefficient)
    (h : d.AtMost ((2 ^ 54 - 1) * 2 ^ lastPower))
    (hscaled : ∃ y, scaled (takeDigits 0 (Nat.toDigits 10 d.coefficient)).1
      ((takeDigits 0 (Nat.toDigits 10 d.coefficient)).2.length + d.scale) = some y) :
    WritesFraction (if documentLayout.positional ((toString d.coefficient).length + d.scale) then
      documentLayout.positionalText (toString d.coefficient) ((toString d.coefficient).length + d.scale)
    else Layout.exponentText (toString d.coefficient)
      ((toString d.coefficient).length + d.scale - 1)).toList := by
  have hlength : (toString d.coefficient).length = (Nat.toDigits 10 d.coefficient).length := by
    rw [← String.length_toList]
    exact congrArg List.length Nat.toList_repr
  have hne : 0 < (Nat.toDigits 10 d.coefficient).length := List.length_pos_iff.mpr Nat.toDigits_ne_nil
  have hexponent := exponent_lt hpos h
  have hbound : rangePower = 309 := rfl
  rw [hlength]
  by_cases hpositional :
      documentLayout.positional ((Nat.toDigits 10 d.coefficient).length + d.scale) = true
  · rw [if_pos hpositional]
    exact writesFraction_positional hpos (of_decide_eq_true hpositional).2
  · rw [if_neg hpositional]
    have hscale : ((takeDigits 0 (Nat.toDigits 10 d.coefficient)).2.length : Int)
          - ((Nat.toDigits 10 d.coefficient).length - 1 : Nat)
          + ((Nat.toDigits 10 d.coefficient).length + d.scale - 1)
        = (takeDigits 0 (Nat.toDigits 10 d.coefficient)).2.length + d.scale := by
      omega
    refine writesFraction_exponent hpos (by omega) ?_
    rw [hscale]
    exact hscaled

/-- What is written for a finite double denotes a fraction. -/
theorem exists_figures_double {x : Binary64} (h : x.isFinite = true) :
    ∃ figures : Form.Figures, figures.text = (documentLayout.write x).toList ∧
      ∃ y, figures.value? = some (.fraction y) := by
  have hfinite : x.magnitude < infiniteMagnitude := of_decide_eq_true h
  have hnan : x.isNaN = false := decide_eq_false (Nat.not_lt_of_lt hfinite)
  have hinfinite : x.isInfinite = false := beq_eq_false_iff_ne.mpr (Nat.ne_of_lt hfinite)
  have habsolute : WritesFraction (documentLayout.absoluteText x).toList := by
    unfold Layout.absoluteText
    cases hzero : x.isZero with
    | true =>
        rw [if_pos rfl]
        exact writesFraction_point ['0'] ['0'] ⟨.zero, rfl⟩ (by decide) (by decide) (by decide)
    | false =>
        rw [if_neg Bool.false_ne_true]
        obtain ⟨hpos, hwithin⟩ := shortest_within .toEven hzero
        exact writesFraction_decimal hpos (hwithin.trans (midpoint_le hfinite).1)
          (exists_scaled_shortest hfinite hzero)
  obtain ⟨whole, places, power, htext, hvalue⟩ := habsolute
  refine ⟨⟨x.negative, whole, places, power⟩, ?_, hvalue x.negative⟩
  unfold Layout.write
  rw [hnan, hinfinite]
  simp [Form.Figures.text, htext]
  cases x.negative <;> simp

end BulkSweep.Json

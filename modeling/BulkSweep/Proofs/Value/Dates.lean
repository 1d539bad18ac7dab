import Mathlib.Data.List.TakeWhile
import BulkSweep.Proofs.Numeric.Numerals
import BulkSweep.Value.Calendar

/-!
# Dates that are read back

The date of every day number exists in the calendar (`valid_ofDayNumber`).  So the internet form of a point in
time, which ends with the year 9999, is one that can be read (`exists_readInternet`).
-/

set_option autoImplicit false

namespace BulkSweep.Calendar

open BulkSweep.Numeric

/-! ## Years of an era -/

/-- The days of an era before one of its years. -/
def daysBefore (year : Nat) : Nat :=
  365 * year + year / 4 - year / 100

/-- Days of an era without the leap days before them: every year then has 365 of them. -/
def plainDays (day : Nat) : Nat :=
  day - day / 1460 + day / 36524 - day / 146096

theorem plainDays_mono {a b : Nat} (h : a ≤ b) : plainDays a ≤ plainDays b := by
  have hfour : a - a / 1460 ≤ b - b / 1460 := by omega
  have hcenturies : a / 36524 - a / 146096 ≤ b / 36524 - b / 146096 := by omega
  unfold plainDays
  omega

/-- The plain days tell the year, on its first day and on the last day before it. -/
theorem plainDays_daysBefore : ∀ year < 400, plainDays (daysBefore year) / 365 = year ∧
    (0 < year → plainDays (daysBefore year - 1) / 365 < year) := by
  decide +kernel

/-- A day of an era lies in the year that the plain days tell. -/
theorem year_of_plainDays {day year : Nat} (h : day < 146097) (hyear : year = plainDays day / 365) :
    year < 400 ∧ daysBefore year ≤ day ∧ (day < daysBefore (year + 1) ∨ year = 399) := by
  have hlast : plainDays day ≤ plainDays 146096 := plainDays_mono (by omega)
  have hbound : plainDays 146096 / 365 = 399 := by decide
  have hsmall : year < 400 := by omega
  refine ⟨hsmall, ?_, ?_⟩
  · rcases Nat.lt_or_ge day (daysBefore year) with hbefore | hle
    · have hpos : 0 < year := by
        rcases Nat.eq_zero_or_pos year with hzero | hpos
        · rw [hzero] at hbefore
          exact absurd hbefore (Nat.not_lt_zero day)
        · exact hpos
      have hless := (plainDays_daysBefore year hsmall).2 hpos
      have hmono : plainDays day ≤ plainDays (daysBefore year - 1) := plainDays_mono (by omega)
      omega
    · exact hle
  · rcases Nat.lt_or_ge day (daysBefore (year + 1)) with hlt | hafter
    · exact .inl hlt
    · refine .inr ?_
      rcases Nat.lt_or_ge year 399 with hearly | hfinal
      · have hnext := (plainDays_daysBefore (year + 1) (by omega)).1
        have hmono : plainDays (daysBefore (year + 1)) ≤ plainDays day := plainDays_mono hafter
        omega
      · omega

/-! ## Months and days -/

/-- The month of a day of the year, which begins in March. -/
def monthOfDay (day : Nat) : Nat :=
  if (5 * day + 2) / 153 < 10 then (5 * day + 2) / 153 + 3 else (5 * day + 2) / 153 - 9

/-- The day of its month. -/
def dayOfMonth (day : Nat) : Nat :=
  day - (153 * ((5 * day + 2) / 153) + 2) / 5 + 1

/-- Every day but the leap day, which is the last one, exists in every year. -/
theorem valid_of_day : ∀ day < 365, 1 ≤ monthOfDay day ∧ monthOfDay day ≤ 12 ∧
    dayOfMonth day ≤ daysInMonth 1 (monthOfDay day) := by
  decide +kernel

theorem daysInMonth_le (year : Int) (month : Nat) : daysInMonth 1 month ≤ daysInMonth year month := by
  unfold daysInMonth
  have hplain : isLeapYear 1 = false := by decide
  rw [hplain]
  split
  · cases isLeapYear year with
    | true => decide
    | false => decide
  · exact Nat.le_refl _

/-- A year with a leap day at its end has a leap year behind it. -/
theorem isLeapYear_of_day {day year : Nat} (era : Int) (hday : daysBefore year + 365 = day)
    (hyear : day < daysBefore (year + 1) ∨ year = 399) :
    isLeapYear ((year : Int) + era * 400 + 1) = true := by
  unfold daysBefore at hday hyear
  have hfour : ((year : Int) + era * 400 + 1) % 4 = 0 := by omega
  have hcentury : ((year : Int) + era * 400 + 1) % 100 ≠ 0 ∨
      ((year : Int) + era * 400 + 1) % 400 = 0 := by omega
  unfold isLeapYear
  rw [hfour]
  rcases hcentury with hcentury | hcentury
  · simp [hcentury]
  · simp [hcentury]

/-- A day number is a day of a year of an era, and so is its date. -/
theorem exists_ofDayNumber (days : Int) : ∃ (era : Int) (year day : Nat), year < 400 ∧ day ≤ 365 ∧
    days + 719468 = era * 146097 + daysBefore year + day ∧
    (day = 365 → isLeapYear ((year : Int) + era * 400 + 1) = true) ∧
    Date.ofDayNumber days = ⟨year + era * 400 + if monthOfDay day ≤ 2 then 1 else 0,
      monthOfDay day, dayOfMonth day⟩ := by
  obtain ⟨era, hera⟩ : ∃ era, era = (days + 719468).fdiv 146097 := ⟨_, rfl⟩
  obtain ⟨dayOfEra, hday⟩ : ∃ day, day = (days + 719468 - era * 146097).toNat := ⟨_, rfl⟩
  obtain ⟨year, hyear⟩ : ∃ year, year = plainDays dayOfEra / 365 := ⟨_, rfl⟩
  have hfdiv := Int.fdiv_eq_ediv_of_nonneg (days + 719468) (show (0 : Int) ≤ 146097 by decide)
  have hbound : dayOfEra < 146097 := by omega
  obtain ⟨hsmall, hfirst, hlast⟩ := year_of_plainDays hbound hyear
  refine ⟨era, year, dayOfEra - daysBefore year, hsmall, ?_, by omega, ?_, ?_⟩
  · unfold daysBefore at hfirst hlast ⊢
    omega
  · intro hleap
    exact isLeapYear_of_day era (by omega) hlast
  · rw [hyear, hday, hera]
    rfl

/-- The date of a day number exists. -/
theorem valid_ofDayNumber (days : Int) : (Date.ofDayNumber days).valid = true := by
  obtain ⟨era, year, day, -, hday, -, hleap, hdate⟩ := exists_ofDayNumber days
  rw [hdate]
  simp only [Date.valid, Bool.and_eq_true, decide_eq_true_eq]
  rcases Nat.lt_or_eq_of_le hday with hplain | hlast
  · obtain ⟨hlow, hhigh, hlength⟩ := valid_of_day day (by omega)
    refine ⟨⟨⟨hlow, hhigh⟩, Nat.le_add_left 1 _⟩, ?_⟩
    exact Nat.le_trans hlength (daysInMonth_le _ _)
  · have hmonth : monthOfDay day = 2 := by
      rw [hlast]
      rfl
    have hnumber : dayOfMonth day = 29 := by
      rw [hlast]
      rfl
    rw [hmonth, hnumber]
    simp [daysInMonth, hleap hlast]

/-- The days from 1970 to 9999 have years of four digits. -/
theorem year_ofDayNumber {days : Int} (hlow : 0 ≤ days) (hhigh : days < 2932897) :
    0 ≤ (Date.ofDayNumber days).year ∧ (Date.ofDayNumber days).year < 10000 := by
  obtain ⟨era, year, day, hyear, hday, hdays, -, hdate⟩ := exists_ofDayNumber days
  rw [hdate]
  unfold daysBefore at hdays
  -- January and February belong to the year behind, so the last year of the last era ends early
  have hlate : day < 306 → ¬monthOfDay day ≤ 2 := by
    intro hbefore
    unfold monthOfDay
    split
    · omega
    · omega
  dsimp only
  split
  · rename_i hmonth
    have hend : ¬day < 306 := fun hbefore => hlate hbefore hmonth
    omega
  · omega

/-! ## Written numbers -/

theorem toList_padded (width n : Nat) : (padded width n).toList =
    List.replicate (width - (Nat.toDigits 10 n).length) '0' ++ Nat.toDigits 10 n := by
  have hdigits : (toString n).toList = Nat.toDigits 10 n := Nat.toList_repr
  unfold padded
  rw [String.toList_append, String.toList_ofList, hdigits, ← String.length_toList, hdigits]

theorem isDigit_of_mem_padded {width n : Nat} {c : Char} (h : c ∈ (padded width n).toList) :
    c.isDigit = true := by
  rw [toList_padded] at h
  rcases List.mem_append.mp h with hzero | hdigit
  · rw [List.eq_of_mem_replicate hzero]
    decide
  · exact isDigit_of_mem_toDigits hdigit

/-- Zeros in front of digits do not change what they denote. -/
theorem digitsValue_padded (width n : Nat) : digitsValue (padded width n).toList = n := by
  change Nat.ofDigitChars 10 (padded width n).toList 0 = n
  rw [toList_padded, Nat.ofDigitChars_append, Nat.ofDigitChars_replicate_zero, Nat.mul_zero]
  exact Nat.ofDigitChars_ten_toDigits

theorem readNatural_padded (width n : Nat) : readNatural (padded width n).toList = some n := by
  have hall : (padded width n).toList.all Char.isDigit = true :=
    List.all_eq_true.mpr fun c hc => isDigit_of_mem_padded hc
  have hne : (padded width n).toList.isEmpty = false := by
    rw [toList_padded, List.isEmpty_eq_false_iff]
    exact List.append_ne_nil_of_right_ne_nil _ Nat.toDigits_ne_nil
  rw [readNatural, hall, hne, digitsValue_padded]
  rfl

/-- A number that fits into so many digits is read as it was written with them. -/
theorem takeDigits_padded {width n : Nat} (hwidth : 0 < width) (h : n < 10 ^ width) (rest : List Char) :
    takeDigits width ((padded width n).toList ++ rest) = some (n, rest) := by
  have hfits := length_toDigits_le hwidth h
  have hlength : (padded width n).toList.length = width := by
    rw [toList_padded, List.length_append, List.length_replicate]
    omega
  unfold takeDigits
  simp only [List.take_left' hlength, List.drop_left' hlength, hlength, if_true, readNatural_padded]
  rfl

/-- Digits of which none is another one than zero denote zero. -/
theorem digitsValue_zeros {digits : List Char} (h : ∀ c ∈ digits, c = '0') : digitsValue digits = 0 := by
  rw [List.eq_replicate_of_mem h]
  change Nat.ofDigitChars 10 (List.replicate digits.length '0') 0 = 0
  rw [Nat.ofDigitChars_replicate_zero, Nat.mul_zero]

/-- The milliseconds of a second are read, whatever zeros are left off at their end. -/
theorem exists_takeFraction (milli : Nat) :
    ∃ nanos, takeFraction ((fractionText milli).toList ++ ['Z']) = some (nanos, ['Z']) := by
  unfold fractionText
  by_cases hzero : milli = 0
  · rw [if_pos hzero]
    exact ⟨0, rfl⟩
  · rw [if_neg hzero, String.toList_append, String.toList_ofList]
    generalize hdigits : ((padded 3 milli).toList.reverse.dropWhile (· == '0')).reverse = digits
    have hall : ∀ c ∈ digits, c.isDigit = true := by
      intro c hc
      rw [← hdigits, List.mem_reverse] at hc
      exact isDigit_of_mem_padded (List.mem_reverse.mp ((List.dropWhile_sublist _).subset hc))
    have hsome : digits ≠ [] := by
      rintro rfl
      rw [List.reverse_eq_nil_iff, List.dropWhile_eq_nil_iff] at hdigits
      have hvalue := digitsValue_padded 3 milli
      rw [digitsValue_zeros fun c hc => eq_of_beq (hdigits c (List.mem_reverse.mpr hc))] at hvalue
      exact hzero hvalue.symm
    have htake : (digits ++ ['Z']).takeWhile Char.isDigit = digits := by
      rw [List.takeWhile_append_of_pos hall]
      exact List.append_nil digits
    have hdrop : (digits ++ ['Z']).dropWhile Char.isDigit = ['Z'] :=
      List.dropWhile_append_of_pos hall
    rw [String.toList_ofList, List.append_assoc]
    change ∃ nanos, takeFraction ('.' :: (digits ++ ['Z'])) = some (nanos, ['Z'])
    unfold takeFraction
    simp only [htake, hdrop, List.isEmpty_eq_false_iff.mpr hsome]
    exact ⟨_, rfl⟩

/-! ## Points in time -/

/-- The parts of a point in time from 1970 to 9999 fit into their digits. -/
theorem Moment.ofMillis_bounds {millis : Int} (hlow : 0 ≤ millis) (hhigh : millis < endOfYears) :
    let m := Moment.ofMillis millis
    m.date.valid = true ∧ 0 ≤ m.date.year ∧ m.date.year < 10000 ∧
      m.hour < 24 ∧ m.minute < 60 ∧ m.second < 60 := by
  have hdays := Int.fdiv_eq_ediv_of_nonneg millis (show (0 : Int) ≤ 86400000 by decide)
  have hend : endOfYears = 253402300800000 := rfl
  have hyear : 0 ≤ (Date.ofDayNumber (millis.fdiv 86400000)).year ∧
      (Date.ofDayNumber (millis.fdiv 86400000)).year < 10000 :=
    year_ofDayNumber (by omega) (by omega)
  unfold Moment.ofMillis
  refine ⟨valid_ofDayNumber _, hyear.1, hyear.2, ?_, ?_, ?_⟩
  · dsimp only
    omega
  · dsimp only
    omega
  · dsimp only
    omega

theorem bind_of_some {α β : Type} {answer : Option α} {next : α → Option β} {a : α} (h : answer = some a) :
    answer >>= next = next a := by
  rw [h]
  rfl

theorem takeChar_cons (c : Char) (s : List Char) : takeChar c (c :: s) = some s :=
  if_pos rfl

/-- A text is read if its parts are there, one behind the other, and make up a point in time that is no leap
second. -/
theorem exists_readInternet_of_parts {text : String} {year month day hour minute second : Nat} {c : Char}
    {nanos : Nat} {offset : Int} {s₁ s₂ s₃ s₄ s₅ s₆ s₇ s₈ s₉ s₁₀ s₁₁ : List Char}
    (hyear : takeDigits 4 text.toList = some (year, s₁)) (hfirst : takeChar '-' s₁ = some s₂)
    (hmonth : takeDigits 2 s₂ = some (month, s₃)) (hsecond : takeChar '-' s₃ = some s₄)
    (hday : takeDigits 2 s₄ = some (day, c :: s₅)) (hnarrow : c.toNat < 128)
    (hhour : takeDigits 2 s₅ = some (hour, s₆)) (hthird : takeChar ':' s₆ = some s₇)
    (hminute : takeDigits 2 s₇ = some (minute, s₈)) (hfourth : takeChar ':' s₈ = some s₉)
    (hseconds : takeDigits 2 s₉ = some (second, s₁₀)) (hnanos : takeFraction s₁₀ = some (nanos, s₁₁))
    (hoffset : takeOffset s₁₁ = some (offset, []))
    (hvalid : Date.valid ⟨year, month, day⟩ = true) (hlimits : hour ≤ 23 ∧ minute ≤ 59 ∧ second < 60) :
    ∃ found, readInternet text = some found := by
  have hhours : ¬23 < hour := by omega
  have hminutes : ¬59 < minute := by omega
  have hlate : ¬60 < second := by omega
  have hleap : ¬second = 60 := by omega
  have hchecks : (!([] : List Char).isEmpty || !Date.valid ⟨year, month, day⟩ || decide (23 < hour)
      || decide (59 < minute) || decide (60 < second)) = false := by
    simp only [hvalid, hhours, hminutes, hlate, List.isEmpty_nil, Bool.not_true, decide_false, Bool.or_false]
  unfold readInternet
  rw [bind_of_some hyear]
  dsimp only
  rw [bind_of_some hfirst, bind_of_some hmonth]
  dsimp only
  rw [bind_of_some hsecond, bind_of_some hday]
  dsimp only
  rw [if_pos hnarrow, bind_of_some rfl, bind_of_some hhour]
  dsimp only
  rw [bind_of_some hthird, bind_of_some hminute]
  dsimp only
  rw [bind_of_some hfourth, bind_of_some hseconds]
  dsimp only
  rw [bind_of_some hnanos]
  dsimp only
  rw [bind_of_some hoffset]
  dsimp only
  rw [hchecks, decide_eq_false hleap]
  exact ⟨_, rfl⟩

/-- The internet form of a point in time from 1970 on can be read. -/
theorem exists_readInternet {millis : Int} (hlow : 0 ≤ millis) :
    ∃ found, readInternet (internetText millis) = some found := by
  unfold internetText
  by_cases hend : endOfYears ≤ millis
  · rw [if_pos hend]
    exact ⟨_, rfl⟩
  · rw [if_neg hend]
    obtain ⟨hvalid, hyear, hyear', hhour, hminute, hsecond⟩ :=
      Moment.ofMillis_bounds hlow (Int.not_le.mp hend)
    generalize Moment.ofMillis millis = m at hvalid hyear hyear' hhour hminute hsecond ⊢
    obtain ⟨⟨year, month, day⟩, hour, minute, second, milli⟩ := m
    change Date.valid ⟨year, month, day⟩ = true at hvalid
    dsimp only at hyear hyear' hhour hminute hsecond
    obtain ⟨hmonth, hday⟩ : month ≤ 12 ∧ day ≤ 31 := by
      have hlength : daysInMonth year month ≤ 31 := by
        unfold daysInMonth
        split <;> split <;> omega
      simp only [Date.valid, Bool.and_eq_true, decide_eq_true_eq] at hvalid
      omega
    -- every part is read with the digits that it was written with
    have hfour : ∀ rest, takeDigits 4 ((padded 4 year.toNat).toList ++ rest) = some (year.toNat, rest) := by
      intro rest
      exact takeDigits_padded (by decide) (by omega) rest
    have htwo : ∀ {n : Nat}, n < 100 → ∀ rest,
        takeDigits 2 ((padded 2 n).toList ++ rest) = some (n, rest) := by
      intro n hn rest
      exact takeDigits_padded (by decide) hn rest
    obtain ⟨nanos, hnanos⟩ := exists_takeFraction milli
    have hyearBack : (year.toNat : Int) = year := Int.toNat_of_nonneg hyear
    have hyearRead : takeDigits 4 (padded 4 year.toNat ++ "-" ++ padded 2 month ++ "-" ++ padded 2 day
        ++ "T" ++ padded 2 hour ++ ":" ++ padded 2 minute ++ ":" ++ padded 2 second
        ++ fractionText milli ++ "Z").toList =
      some (year.toNat, '-' :: ((padded 2 month).toList ++ '-' :: ((padded 2 day).toList
        ++ 'T' :: ((padded 2 hour).toList ++ ':' :: ((padded 2 minute).toList
        ++ ':' :: ((padded 2 second).toList ++ ((fractionText milli).toList ++ ['Z']))))))) := by
      simp only [String.toList_append, List.append_assoc, String.reduceToList, List.cons_append,
        List.nil_append]
      exact hfour _
    refine exists_readInternet_of_parts hyearRead (takeChar_cons _ _) (htwo (by omega) _) (takeChar_cons _ _)
      (htwo (by omega) _) (by decide) (htwo (by omega) _) (takeChar_cons _ _) (htwo (by omega) _)
      (takeChar_cons _ _) (htwo (by omega) _) hnanos rfl ?_ ?_
    · rw [hyearBack]
      exact hvalid
    · omega

end BulkSweep.Calendar

import BulkSweep.Numeric.Reading

/-!
# Calendar dates

Points in time are milliseconds since the beginning of 1970, in UTC.  Dates are those of the
proleptic Gregorian calendar; day numbers are counted in eras of 400 years, which repeat exactly.
-/

set_option autoImplicit false

namespace BulkSweep.Calendar

open BulkSweep.Numeric

/-! ## Days -/

/-- A date of the calendar. -/
structure Date where
  /-- the year; zero and below are before the common era -/
  year : Int
  /-- the month, from one -/
  month : Nat
  /-- the day of the month, from one -/
  day : Nat
  deriving DecidableEq, Repr, Inhabited

/-- Whether a year has a twenty-ninth of February. -/
def isLeapYear (year : Int) : Bool :=
  year % 4 == 0 && (year % 100 != 0 || year % 400 == 0)

/-- The number of days of a month. -/
def daysInMonth (year : Int) (month : Nat) : Nat :=
  if month = 2 then if isLeapYear year then 29 else 28
  else if month = 4 ∨ month = 6 ∨ month = 9 ∨ month = 11 then 30
  else 31

/-- Whether the month and the day exist. -/
def Date.valid (d : Date) : Bool :=
  1 ≤ d.month && d.month ≤ 12 && 1 ≤ d.day && d.day ≤ daysInMonth d.year d.month

/-- Days since the beginning of 1970.  The year is taken to begin in March, so that the leap day is
its last. -/
def Date.dayNumber (d : Date) : Int :=
  let year := if d.month ≤ 2 then d.year - 1 else d.year
  let era := year.fdiv 400
  let yearOfEra := year - era * 400
  let monthOfYear := (d.month + 9) % 12
  let dayOfYear : Int := (153 * monthOfYear + 2) / 5 + d.day - 1
  let dayOfEra := yearOfEra * 365 + yearOfEra / 4 - yearOfEra / 100 + dayOfYear
  era * 146097 + dayOfEra - 719468

/-- The date of a day number. -/
def Date.ofDayNumber (days : Int) : Date :=
  let shifted := days + 719468
  let era := shifted.fdiv 146097
  let dayOfEra := (shifted - era * 146097).toNat
  let yearOfEra := (dayOfEra - dayOfEra / 1460 + dayOfEra / 36524 - dayOfEra / 146096) / 365
  let dayOfYear := dayOfEra - (365 * yearOfEra + yearOfEra / 4 - yearOfEra / 100)
  let monthOfYear := (5 * dayOfYear + 2) / 153
  let month := if monthOfYear < 10 then monthOfYear + 3 else monthOfYear - 9
  { year := yearOfEra + era * 400 + if month ≤ 2 then 1 else 0
    month := month
    day := dayOfYear - (153 * monthOfYear + 2) / 5 + 1 }

/-! ## Moments -/

/-- A point in time, taken apart. -/
structure Moment where
  /-- the date -/
  date : Date
  /-- the hour, below 24 -/
  hour : Nat
  /-- the minute, below 60 -/
  minute : Nat
  /-- the second, below 60 -/
  second : Nat
  /-- the milliseconds of the second -/
  milli : Nat
  deriving DecidableEq, Repr, Inhabited

/-- Takes milliseconds since the beginning of 1970 apart. -/
def Moment.ofMillis (millis : Int) : Moment :=
  let days := millis.fdiv 86400000
  let rest := (millis - days * 86400000).toNat
  { date := .ofDayNumber days
    hour := rest / 3600000
    minute := rest / 60000 % 60
    second := rest / 1000 % 60
    milli := rest % 1000 }

/-- A number with at least `width` digits. -/
def padded (width n : Nat) : String :=
  let digits := toString n
  String.ofList (List.replicate (width - digits.length) '0') ++ digits

/-- A fraction of a second without trailing zeros, and its point; nothing when it is zero. -/
def fractionText (milli : Nat) : String :=
  if milli = 0 then ""
  else
    let digits := (padded 3 milli).toList.reverse.dropWhile (· == '0')
    "." ++ String.ofList digits.reverse

/-- The first millisecond of the year -9999. -/
def beginningOfYears : Int := -377705116800000

/-- The first millisecond of the year 10000. -/
def endOfYears : Int := 253402300800000

/-- The internet form of a point in time from 1970 on.  Times after the year 9999 are shown as its
last nanosecond. -/
def internetText (millis : Int) : String :=
  if endOfYears ≤ millis then "9999-12-31T23:59:59.999999999Z"
  else
    let m := Moment.ofMillis millis
    padded 4 m.date.year.toNat ++ "-" ++ padded 2 m.date.month ++ "-" ++ padded 2 m.date.day ++ "T"
      ++ padded 2 m.hour ++ ":" ++ padded 2 m.minute ++ ":" ++ padded 2 m.second
      ++ fractionText m.milli ++ "Z"

/-- A year with at least four digits, and its sign when it is negative. -/
def yearText (year : Int) : String :=
  (if year < 0 then "-" else "") ++ padded 4 year.natAbs

/-- The spaced form of a point in time, with its offset.  Outside the years of four digits it is the
number of milliseconds.  No two milliseconds share one form. -/
def spacedText (millis : Int) : String :=
  if millis < beginningOfYears ∨ endOfYears ≤ millis then toString millis
  else
    let m := Moment.ofMillis millis
    yearText m.date.year ++ "-" ++ padded 2 m.date.month ++ "-" ++ padded 2 m.date.day ++ " "
      ++ toString m.hour ++ ":" ++ padded 2 m.minute ++ ":" ++ padded 2 m.second
      ++ (if m.milli = 0 then ".0" else fractionText m.milli) ++ " +00:00:00"

/-- A point in time to the second, without its offset. -/
def secondText (millis : Int) : String :=
  let m := Moment.ofMillis millis
  yearText m.date.year ++ "-" ++ padded 2 m.date.month ++ "-" ++ padded 2 m.date.day ++ " "
    ++ padded 2 m.hour ++ ":" ++ padded 2 m.minute ++ ":" ++ padded 2 m.second

/-! ## Reading the internet form -/

/-- Reads a fixed number of ASCII digits. -/
def takeDigits (count : Nat) (s : List Char) : Option (Nat × List Char) := do
  let digits := s.take count
  if digits.length = count then
    let n ← readNatural digits
    return (n, s.drop count)
  else none

/-- Reads one given character. -/
def takeChar (c : Char) : List Char → Option (List Char)
  | d :: ds => if d = c then some ds else none
  | [] => none

/-- Reads an optional point with digits as nanoseconds; digits after the ninth do not count. -/
def takeFraction : List Char → Option (Nat × List Char)
  | '.' :: s =>
    let digits := s.takeWhile Char.isDigit
    if digits.isEmpty then none
    else
      let nine := digits.take 9 ++ List.replicate (9 - digits.length) '0'
      some (digitsValue nine, s.dropWhile Char.isDigit)
  | s => some (0, s)

/-- Reads an offset from UTC, in seconds. -/
def takeOffset : List Char → Option (Int × List Char)
  | 'Z' :: s => some (0, s)
  | 'z' :: s => some (0, s)
  | sign :: s => do
    if sign ≠ '+' ∧ sign ≠ '-' then none
    let (hours, s) ← takeDigits 2 s
    let s ← takeChar ':' s
    let (minutes, s) ← takeDigits 2 s
    if 23 < hours ∨ 59 < minutes then none
    let seconds : Int := hours * 3600 + minutes * 60
    return (if sign = '-' then -seconds else seconds, s)
  | [] => none

/-- Whether a second is the last one of a month. -/
def endsMonth (seconds : Int) : Bool :=
  let m := Moment.ofMillis (seconds * 1000)
  m.hour == 23 && m.minute == 59 && m.second == 59
    && m.date.day == daysInMonth m.date.year m.date.month

/-- Reads the internet form of a point in time as milliseconds, rounded toward the beginning of
1970.  Any one-byte separator may stand between date and time.  A sixtieth second is read as the
last nanosecond of the fifty-ninth, where a month ends. -/
def readInternet (text : String) : Option Int := do
  let (year, s) ← takeDigits 4 text.toList
  let s ← takeChar '-' s
  let (month, s) ← takeDigits 2 s
  let s ← takeChar '-' s
  let (day, s) ← takeDigits 2 s
  let date : Date := ⟨year, month, day⟩
  let s ← match s with
    | c :: cs => if c.toNat < 128 then some cs else none
    | [] => none
  let (hour, s) ← takeDigits 2 s
  let s ← takeChar ':' s
  let (minute, s) ← takeDigits 2 s
  let s ← takeChar ':' s
  let (second, s) ← takeDigits 2 s
  let (nanos, s) ← takeFraction s
  let (offset, s) ← takeOffset s
  if !s.isEmpty || !date.valid || 23 < hour || 59 < minute || 60 < second then none
  let leap := second = 60
  let seconds : Int :=
    date.dayNumber * 86400 + hour * 3600 + minute * 60 + (if leap then 59 else second) - offset
  if leap && !endsMonth seconds then none
  let nanos : Int := if leap then 999999999 else nanos
  return (seconds * 1000000000 + nanos).tdiv 1000000

end BulkSweep.Calendar

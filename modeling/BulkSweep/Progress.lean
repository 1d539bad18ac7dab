import BulkSweep.Numeric.Notation
import BulkSweep.Retry

/-!
# Progress

How far a job has come, as one line that is drawn over and over.  The total grows when the count
overtakes it, so that the line never shows more than a hundred percent.  Durations are in nanoseconds.
-/

set_option autoImplicit false

namespace BulkSweep

open BulkSweep.Numeric

/-! ## Durations -/

/-- A remaining time in minutes and seconds. -/
def remainingText (nanos : Nat) : String :=
  let seconds := nanos / 1000000000
  if seconds = 0 then "<1s"
  else if 60 ≤ seconds then toString (seconds / 60) ++ "m" ++ toString (seconds % 60) ++ "s"
  else toString seconds ++ "s"

/-- The most milliseconds of an elapsed time that is shown. -/
def maxMillis : Nat := 2 ^ 64 - 1

/-- The milliseconds of a second as a decimal fraction without trailing zeros. -/
def milliFraction (millis : Nat) : String :=
  if millis = 0 then ""
  else
    let digits := (toString (1000 + millis)).toList.drop 1
    "." ++ String.ofList (digits.reverse.dropWhile (· == '0')).reverse

/-- An elapsed time, cut to milliseconds: in seconds from one second on. -/
def elapsedText (nanos : Nat) : String :=
  let millis := min (nanos / 1000000) maxMillis
  if millis = 0 then "0s"
  else if millis < 1000 then toString millis ++ "ms"
  else toString (millis / 1000) ++ milliFraction (millis % 1000) ++ "s"

/-- A duration in seconds, as a double. -/
def secondsOf (nanos : Nat) : Binary64 :=
  (Binary64.ofNat (nanos / 1000000000)).add
    ((Binary64.ofNat (nanos % 1000000000)).div (.ofNat 1000000000))

/-! ## Trackers -/

/-- The count of a job against its total. -/
structure Tracker where
  /-- how many there are to do -/
  total : Nat
  /-- how many are done -/
  current : Nat
  /-- the clock when the job began -/
  started : Nat
  deriving DecidableEq, Repr, Inhabited

namespace Tracker

/-- A tracker at the beginning of a job. -/
def start (total clock : Nat) : Tracker :=
  ⟨total, 0, clock⟩

/-- Notes how many are done. -/
def update (t : Tracker) (current : Nat) : Tracker :=
  { t with current := current, total := max t.total current }

/-- Notes that all are done. -/
def finish (t : Tracker) : Tracker :=
  t.update t.total

/-- The time since the beginning. -/
def elapsed (t : Tracker) (clock : Nat) : Nat :=
  clock - t.started

/-- How many are done per second; zero before any time has passed. -/
def speed (t : Tracker) (clock : Nat) : Binary64 :=
  let seconds := secondsOf (t.elapsed clock)
  if seconds.isZero then .zero else (Binary64.ofNat t.current).div seconds

/-- How much is done, in percent. -/
def percent (t : Tracker) : Binary64 :=
  if t.total = 0 then .ofNat 100
  else ((Binary64.ofNat t.current).div (.ofNat t.total)).mul (.ofNat 100)

/-- The number of characters of the bar. -/
def barWidth : Nat := 40

/-- How many characters of the bar are filled. -/
def filled (t : Tracker) : Nat :=
  min barWidth (((t.percent.div (.ofNat 100)).mul (.ofNat barWidth)).truncate)

/-- The time that the rest will take at the present speed; nothing at no speed. -/
def remaining? (t : Tracker) (clock : Nat) : Option Nat :=
  let speed := t.speed clock
  if speed.isZero then none
  else
    let (num, den) := ((Binary64.ofNat (t.total - t.current)).div speed).fraction
    some (roundQuotient (num * 1000000000) den)

/-- Whether the line can be drawn: the time that the rest will take must be one that can be told. -/
def drawable (t : Tracker) (clock : Nat) : Bool :=
  (t.remaining? clock).all fun nanos => nanos ≤ Retry.maxTime

/-- The line of a tracker, where it can be drawn. -/
def line (t : Tracker) (clock : Nat) : String :=
  let bar := String.ofList
    (List.replicate t.filled '█' ++ List.replicate (barWidth - t.filled) '░')
  "[" ++ bar ++ "]  " ++ fixedText t.percent 1 ++ "%  " ++ toString t.current ++ "/"
    ++ toString t.total ++ "  |  " ++ fixedText (t.speed clock) 0 ++ " docs/sec  |  ETA: "
    ++ ((t.remaining? clock).map remainingText).getD "N/A"

/-- What a terminal is sent to draw the line again. -/
def redraw (t : Tracker) (clock : Nat) : String :=
  "\r" ++ t.line clock ++ "    "

end Tracker

end BulkSweep

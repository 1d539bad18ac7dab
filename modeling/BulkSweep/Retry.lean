import BulkSweep.Numeric.Power

/-!
# Retries

Tries an operation a bounded number of times, with pauses between that grow.  A pause is lengthened by
a random part of up to half of itself, is never longer than half a minute, and doubles for the next
round.  There is no pause after the last try.  Durations are in nanoseconds; a program breaks off where
one of them is too long to be told.
-/

set_option autoImplicit false

namespace BulkSweep.Retry

/-! ## Policies -/

/-- One second. -/
def second : Nat := 1000000000

/-- One millisecond. -/
def millisecond : Nat := 1000000

/-- The first pause when none is given. -/
def defaultPause : Nat := second

/-- The longest pause. -/
def maxPause : Nat := 30 * second

/-- The longest time that can be told: a nanosecond less than 2^64 seconds. -/
def maxTime : Nat := 2 ^ 64 * second - 1

/-- How often an operation is tried, and the pause after the first failure. -/
structure Policy where
  /-- the number of tries -/
  attempts : Nat
  /-- the first pause, before its random part -/
  pause : Nat
  /-- there is at least one try -/
  attempts_pos : 0 < attempts := by decide
  /-- the pause is not empty -/
  pause_pos : 0 < pause := by decide

/-- A policy of any two numbers: no try counts as one, and no pause as the default one. -/
def Policy.of (attempts pause : Nat) : Policy where
  attempts := max attempts 1
  pause := if pause = 0 then defaultPause else pause
  attempts_pos := Nat.lt_of_lt_of_le Nat.zero_lt_one (Nat.le_max_right _ _)
  pause_pos := by
    split
    · decide
    · exact Nat.pos_of_ne_zero ‹_›

/-- Three tries with the default pause. -/
def Policy.default : Policy :=
  .of 3 defaultPause

/-! ## Pauses -/

/-- The random part of a pause: below half of it.  The draw is any number. -/
def jitter (pause draw : Nat) : Nat :=
  draw % min pause (2 ^ 64 - 1) / 2

/-- The pause that is made, given the length due and a draw. -/
def lengthen (pause draw : Nat) : Nat :=
  min (pause + jitter pause draw) maxPause

/-- What a retry needs from outside. -/
structure BackOff (m : Type → Type) where
  /-- draws a random number -/
  draw : m Nat
  /-- waits -/
  sleep : Nat → m Unit
  /-- notes a single step -/
  note : String → m Unit
  /-- breaks off, since a pause of this length cannot be told -/
  overflow : Nat → m Unit

/-- Waits after a failure; the result is the length due next time.  The random part is added before the
longest pause is looked at, so a length that will be cut must be one that can be told, too. -/
def BackOff.wait {m : Type → Type} [Monad m] (b : BackOff m) (pause : Nat) : m Nat := do
  let draw ← b.draw
  if maxTime < pause + jitter pause draw then
    b.overflow (pause + jitter pause draw)
  let actual := lengthen pause draw
  b.sleep actual
  return 2 * actual

/-- Pauses for a program that ends at once where it breaks off. -/
def BackOff.breaking {m : Type → Type} [Monad m] {ε : Type} (b : BackOff m) (cause : Nat → ε) :
    BackOff (ExceptT ε m) where
  draw := b.draw
  sleep := fun nanos => b.sleep nanos
  note := fun line => b.note line
  overflow := fun nanos => throw (cause nanos)

/-! ## Operations that fail or not -/

/-- Tries `left` more times after this one. -/
def plainFrom {m : Type → Type} [Monad m] {α ε : Type} (b : BackOff m) (act : m (Except ε α)) :
    (left attempt pause : Nat) → m (Except ε α)
  | 0, _, _ => act
  | left + 1, attempt, pause => do
    match ← act with
    | .ok a => return .ok a
    | .error _ =>
      b.note ("attempt " ++ toString attempt ++ " failed, backing off")
      plainFrom b act left (attempt + 1) (← b.wait pause)

/-- Tries until the operation succeeds or no try is left; the last error stands. -/
def Policy.plain {m : Type → Type} [Monad m] {α ε : Type} (p : Policy) (b : BackOff m)
    (act : m (Except ε α)) : m (Except ε α) :=
  plainFrom b act (p.attempts - 1) 1 p.pause

/-! ## Operations that decide themselves -/

/-- How a try ended. -/
inductive Attempt (α φ ε : Type) where
  /-- with a result -/
  | done (result : α)
  /-- with a failure that another try would not mend -/
  | fatal (failure : φ)
  /-- with an error that may pass -/
  | again (error : ε)
  deriving Repr

/-- Why there is no result. -/
inductive Failure (φ ε : Type) where
  /-- a try ended for good -/
  | fatal (failure : φ)
  /-- all tries ended with an error that may pass; the last one is given -/
  | exhausted (attempts : Nat) (last : ε)
  deriving Repr

/-- Tries `left` more times after this one. -/
def conditionalFrom {m : Type → Type} [Monad m] {α φ ε : Type} (b : BackOff m) (attempts : Nat)
    (act : m (Attempt α φ ε)) : (left attempt pause : Nat) → m (Except (Failure φ ε) α)
  | 0, _, _ => do
    match ← act with
    | .done a => return .ok a
    | .fatal f => return .error (.fatal f)
    | .again e => return .error (.exhausted attempts e)
  | left + 1, attempt, pause => do
    match ← act with
    | .done a => return .ok a
    | .fatal f => return .error (.fatal f)
    | .again _ =>
      b.note ("attempt " ++ toString attempt ++ " asked for retry, backing off")
      conditionalFrom b attempts act left (attempt + 1) (← b.wait pause)

/-- Tries until the operation ends with a result or for good, or no try is left. -/
def Policy.conditional {m : Type → Type} [Monad m] {α φ ε : Type} (p : Policy) (b : BackOff m)
    (act : m (Attempt α φ ε)) : m (Except (Failure φ ε) α) :=
  conditionalFrom b p.attempts act (p.attempts - 1) 1 p.pause

end BulkSweep.Retry

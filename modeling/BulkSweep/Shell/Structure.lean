import BulkSweep.Text.Blank

/-!
# Text between literals

Two liberties of shell text show outside its literals: keys without quotes, and a comma before a
closing bracket.  This module turns one run of such text into one with neither.
-/

set_option autoImplicit false

namespace BulkSweep.Shell

open BulkSweep.Text

/-- Whether the first character after blanks closes an object or a list. -/
def closesNext (s : List Char) : Bool :=
  match dropBlank s with
  | c :: _ => c == '}' || c == ']'
  | [] => false

/-- A character that can begin a bare key, a leading `$` apart. -/
def isKeyStart (c : Char) : Bool :=
  c.isAlpha || c == '_'

/-- A character that can continue a bare key. -/
def isKeyChar (c : Char) : Bool :=
  c.isAlphanum || c == '_' || c == '.' || c == '$'

/-- Splits a name from what follows it: a start character and the key characters after it. -/
def readKeyName : List Char → Option (List Char × List Char)
  | c :: cs =>
    if isKeyStart c then some (c :: cs.takeWhile isKeyChar, cs.dropWhile isKeyChar) else none
  | [] => none

/-- Splits a bare key from what follows it; the key may begin with `$`. -/
def readKey : List Char → Option (List Char × List Char)
  | '$' :: cs => (readKeyName cs).map fun (name, rest) => ('$' :: name, rest)
  | cs => readKeyName cs

/-- Reads a bare key with its colon.  Blanks before the key and before the colon are dropped. -/
def readBareKey (s : List Char) : Option (List Char × List Char) := do
  let (key, rest) ← readKey (dropBlank s)
  match dropBlank rest with
  | ':' :: rest => some (key, rest)
  | _ => none

theorem readKeyName_length {s key rest : List Char} (h : readKeyName s = some (key, rest)) :
    rest.length ≤ s.length := by
  cases s with
  | nil => simp [readKeyName] at h
  | cons c cs =>
    rw [readKeyName] at h
    split at h
    · simp only [Option.some.injEq, Prod.mk.injEq] at h
      exact h.2 ▸ Nat.le_succ_of_le (List.dropWhile_suffix isKeyChar).length_le
    · simp at h

theorem readKey_length {s key rest : List Char} (h : readKey s = some (key, rest)) :
    rest.length ≤ s.length := by
  unfold readKey at h
  split at h
  · simp only [Option.map_eq_some_iff, Prod.mk.injEq] at h
    obtain ⟨r, hr, -, he⟩ := h
    exact he ▸ Nat.le_succ_of_le (readKeyName_length hr)
  · exact readKeyName_length h

theorem readBareKey_length {s key rest : List Char} (h : readBareKey s = some (key, rest)) :
    rest.length ≤ s.length := by
  simp only [readBareKey, Option.bind_eq_bind, Option.bind_eq_some_iff] at h
  obtain ⟨⟨k, r⟩, hk, h⟩ := h
  have l1 := readKey_length hk
  have d1 := dropBlank_length_le s
  have d2 := dropBlank_length_le r
  simp only at h
  split at h
  · rename_i rest' hr
    simp only [Option.some.injEq, Prod.mk.injEq] at h
    rw [hr] at d2
    simp only [List.length_cons] at d2
    rw [← h.2]
    omega
  · simp at h

/-- Quotes bare keys and drops a comma, with the blanks after it, before a closing bracket. -/
def tidy : List Char → List Char
  | [] => []
  | c :: cs =>
    if c = ',' ∧ closesNext cs then tidy (dropBlank cs)
    else if c = '{' ∨ c = ',' then
      match _ : readBareKey cs with
      | some (key, rest) => c :: '"' :: (key ++ '"' :: ':' :: tidy rest)
      | none => c :: tidy cs
    else c :: tidy cs
termination_by s => s.length
decreasing_by
  · exact Nat.lt_succ_of_le (dropBlank_length_le cs)
  · exact Nat.lt_succ_of_le (readBareKey_length ‹_›)
  · exact Nat.lt_succ_self _
  · exact Nat.lt_succ_self _

end BulkSweep.Shell

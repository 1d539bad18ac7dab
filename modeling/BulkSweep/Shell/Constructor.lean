import BulkSweep.Text.Blank

/-!
# Constructor calls

The shell writes dates, ids and sized numbers as calls such as `ISODate("...")`.  This module reads
one call at the front of a text and gives its Extended JSON form.  Readers take the text and return
what they read with the rest; `none` means that the text does not begin with such a thing.
-/

set_option autoImplicit false

namespace BulkSweep.Shell

open BulkSweep.Text

/-! ## Words and numbers -/

/-- A character that can continue an identifier: an ASCII letter or digit, `_` or `$`. -/
def isWordChar (c : Char) : Bool :=
  c.isAlphanum || c == '_' || c == '$'

/-- Removes a leading text. -/
def stripLead : List Char → List Char → Option (List Char)
  | [], s => some s
  | w :: ws, c :: cs => if w = c then stripLead ws cs else none
  | _ :: _, [] => none

/-- Reads a word that is not the beginning of a longer identifier. -/
def readWord (word s : List Char) : Option (List Char) :=
  match stripLead word s with
  | some (c :: cs) => if isWordChar c then none else some (c :: cs)
  | other => other

/-- Reads one given character. -/
def readChar (c : Char) : List Char → Option (List Char)
  | d :: ds => if d = c then some ds else none
  | [] => none

/-- Reads one or more ASCII digits. -/
def readDigits (s : List Char) : Option (List Char × List Char) :=
  let digits := s.takeWhile Char.isDigit
  if digits.isEmpty then none else some (digits, s.dropWhile Char.isDigit)

/-- Reads digits with an optional minus sign. -/
def readInteger (s : List Char) : Option (List Char × List Char) :=
  match readChar '-' s with
  | some rest => (readDigits rest).map fun (digits, rest) => ('-' :: digits, rest)
  | none => readDigits s

/-- Reads an integer, bare or in double quotes. -/
def readQuotableInteger (s : List Char) : Option (List Char × List Char) :=
  match readChar '"' s with
  | some inner => do
    let (n, rest) ← readInteger inner
    let rest ← readChar '"' rest
    return (n, rest)
  | none => readInteger s

/-- A character that may stand in a plain literal: neither a double quote nor a backslash. -/
def isPlain (c : Char) : Bool :=
  c != '"' && c != '\\'

/-- Reads a non-empty double-quoted literal that holds neither quotes nor escapes. -/
def readPlain (s : List Char) : Option (List Char × List Char) := do
  let inner ← readChar '"' s
  let body := inner.takeWhile isPlain
  if body.isEmpty then none
  let rest ← readChar '"' (inner.dropWhile isPlain)
  return (body, rest)

/-! ## Calls -/

/-- The names that begin a call. -/
inductive Callee where
  /-- `ISODate` and `new Date` -/
  | date
  /-- `ObjectId` -/
  | objectId
  /-- `NumberLong` -/
  | long
  /-- `NumberInt` -/
  | int
  /-- `NumberDecimal` -/
  | decimal
  /-- `Timestamp` -/
  | timestamp
  deriving DecidableEq, Repr, Inhabited

/-- The single-word names, in the order in which they are tried. -/
def calleeNames : List (List Char × Callee) :=
  [("ISODate".toList, .date), ("ObjectId".toList, .objectId), ("NumberLong".toList, .long),
   ("NumberInt".toList, .int), ("NumberDecimal".toList, .decimal), ("Timestamp".toList, .timestamp)]

/-- Reads the first of the given names that stands at the front. -/
def readNamed : List (List Char × Callee) → List Char → Option (Callee × List Char)
  | [], _ => none
  | (name, callee) :: more, s =>
    match readWord name s with
    | some rest => some (callee, rest)
    | none => readNamed more s

/-- Reads the name of a call.  `new` must be followed by blanks and `Date`. -/
def readCallee (s : List Char) : Option (Callee × List Char) :=
  match readWord "new".toList s with
  | some rest =>
    let after := dropBlank rest
    if after.length = rest.length then none
    else (readWord "Date".toList after).map fun rest => (.date, rest)
  | none => readNamed calleeNames s

/-- A constructor call with its arguments as written, quotes removed. -/
inductive Call where
  /-- a point in time, given by its text -/
  | date (text : List Char)
  /-- an object id, given by its hexadecimal text -/
  | objectId (text : List Char)
  /-- a 64-bit integer -/
  | long (digits : List Char)
  /-- a 32-bit integer -/
  | int (digits : List Char)
  /-- a decimal number, given by its text -/
  | decimal (text : List Char)
  /-- a timestamp of seconds and increment -/
  | timestamp (seconds increment : List Char)
  deriving DecidableEq, Repr, Inhabited

/-- An object with one string member, in Extended JSON. -/
def taggedText (tag : String) (body : List Char) : List Char :=
  "\x7b\"$".toList ++ tag.toList ++ "\":\"".toList ++ body ++ "\"\x7d".toList

/-- The Extended JSON form of a call. -/
def Call.extended : Call → List Char
  | .date text => taggedText "date" text
  | .objectId text => taggedText "oid" text
  | .long digits => taggedText "numberLong" digits
  | .int digits => taggedText "numberInt" digits
  | .decimal text => taggedText "numberDecimal" text
  | .timestamp seconds increment =>
    "\x7b\"$timestamp\":\x7b\"t\":".toList ++ seconds ++ ",\"i\":".toList ++ increment
      ++ "\x7d\x7d".toList

/-- Reads the arguments that a name takes. -/
def Callee.readArguments : Callee → List Char → Option (Call × List Char)
  | .date, s => (readPlain s).map fun (text, rest) => (.date text, rest)
  | .objectId, s => (readPlain s).map fun (text, rest) => (.objectId text, rest)
  | .decimal, s => (readPlain s).map fun (text, rest) => (.decimal text, rest)
  | .long, s => (readQuotableInteger s).map fun (digits, rest) => (.long digits, rest)
  | .int, s => (readQuotableInteger s).map fun (digits, rest) => (.int digits, rest)
  | .timestamp, s => do
    let (seconds, rest) ← readDigits s
    let rest ← readChar ',' (dropBlank rest)
    let (increment, rest) ← readDigits (dropBlank rest)
    return (.timestamp seconds increment, rest)

/-- Reads one whole call, from its name to its closing parenthesis. -/
def Call.read (s : List Char) : Option (Call × List Char) := do
  let (callee, rest) ← readCallee s
  let rest ← readChar '(' (dropBlank rest)
  let (call, rest) ← callee.readArguments (dropBlank rest)
  let rest ← readChar ')' (dropBlank rest)
  return (call, rest)

/-! ## Readers consume -/

theorem readChar_length {c : Char} {s r : List Char} (h : readChar c s = some r) :
    r.length < s.length := by
  cases s with
  | nil => simp [readChar] at h
  | cons d ds =>
    rw [readChar] at h
    split at h
    · simp only [Option.some.injEq] at h
      simp [h]
    · simp at h

theorem stripLead_length {w s r : List Char} (h : stripLead w s = some r) :
    r.length ≤ s.length := by
  induction w generalizing s with
  | nil => simp_all [stripLead]
  | cons a w ih =>
    cases s with
    | nil => simp [stripLead] at h
    | cons c cs =>
      rw [stripLead] at h
      split at h
      · exact Nat.le_succ_of_le (ih h)
      · simp at h

theorem readWord_length {w s r : List Char} (h : readWord w s = some r) :
    r.length ≤ s.length := by
  unfold readWord at h
  split at h
  · rename_i c cs hs
    split at h
    · simp at h
    · simp only [Option.some.injEq] at h
      exact h ▸ stripLead_length hs
  · exact stripLead_length h

theorem dropWhile_length_le (p : Char → Bool) (s : List Char) :
    (s.dropWhile p).length ≤ s.length :=
  (List.dropWhile_suffix p).length_le

theorem readDigits_length {s d r : List Char} (h : readDigits s = some (d, r)) :
    r.length ≤ s.length := by
  unfold readDigits at h
  simp only at h
  split at h
  · simp at h
  · simp only [Option.some.injEq, Prod.mk.injEq] at h
    exact h.2 ▸ dropWhile_length_le _ s

theorem readInteger_length {s d r : List Char} (h : readInteger s = some (d, r)) :
    r.length ≤ s.length := by
  unfold readInteger at h
  split at h
  · rename_i rest hrest
    simp only [Option.map_eq_some_iff] at h
    obtain ⟨⟨d', r'⟩, hd, he⟩ := h
    simp only [Prod.mk.injEq] at he
    have h1 := readChar_length hrest
    have h2 := readDigits_length hd
    rw [← he.2]
    omega
  · exact readDigits_length h

theorem readQuotableInteger_length {s d r : List Char}
    (h : readQuotableInteger s = some (d, r)) : r.length ≤ s.length := by
  unfold readQuotableInteger at h
  split at h
  · rename_i inner hinner
    simp only [Option.bind_eq_bind, Option.bind_eq_some_iff] at h
    obtain ⟨⟨n, mid⟩, hn, rest, hrest, he⟩ := h
    simp only [Option.pure_def, Option.some.injEq, Prod.mk.injEq] at he
    have h1 := readChar_length hinner
    have h2 := readInteger_length hn
    have h3 := readChar_length hrest
    rw [← he.2]
    simp only at *
    omega
  · exact readInteger_length h

theorem readPlain_length {s d r : List Char} (h : readPlain s = some (d, r)) :
    r.length ≤ s.length := by
  unfold readPlain at h
  simp only [Option.bind_eq_bind, Option.bind_eq_some_iff] at h
  obtain ⟨inner, hinner, h⟩ := h
  split at h
  · simp at h
  · simp only [Option.bind_eq_some_iff, Option.pure_def, Option.some.injEq, Prod.mk.injEq] at h
    obtain ⟨rest, hrest, -, he⟩ := h
    have h1 := readChar_length hinner
    have h2 := readChar_length hrest
    have h3 := dropWhile_length_le isPlain inner
    rw [← he]
    omega

theorem Callee.readArguments_length {callee : Callee} {s r : List Char} {call : Call}
    (h : callee.readArguments s = some (call, r)) : r.length ≤ s.length := by
  cases callee with
  | timestamp =>
    simp only [Callee.readArguments, Option.bind_eq_bind, Option.bind_eq_some_iff, Option.pure_def,
      Option.some.injEq, Prod.mk.injEq] at h
    obtain ⟨⟨a, r1⟩, h1, r2, h2, ⟨b, r3⟩, h3, -, he⟩ := h
    have l1 := readDigits_length h1
    have l2 := readChar_length h2
    have l3 := readDigits_length h3
    have d1 := dropBlank_length_le r1
    have d2 := dropBlank_length_le r2
    rw [← he]
    simp only at *
    omega
  | date | objectId | decimal =>
    simp only [Callee.readArguments, Option.map_eq_some_iff] at h
    obtain ⟨⟨a, r1⟩, h1, he⟩ := h
    simp only [Prod.mk.injEq] at he
    exact he.2 ▸ readPlain_length h1
  | long | int =>
    simp only [Callee.readArguments, Option.map_eq_some_iff] at h
    obtain ⟨⟨a, r1⟩, h1, he⟩ := h
    simp only [Prod.mk.injEq] at he
    exact he.2 ▸ readQuotableInteger_length h1

theorem readNamed_length {names : List (List Char × Callee)} {s r : List Char} {callee : Callee}
    (h : readNamed names s = some (callee, r)) : r.length ≤ s.length := by
  induction names with
  | nil => simp [readNamed] at h
  | cons n more ih =>
    rw [readNamed] at h
    split at h
    · rename_i rest hrest
      simp only [Option.some.injEq, Prod.mk.injEq] at h
      exact h.2 ▸ readWord_length hrest
    · exact ih h

theorem readCallee_length {s r : List Char} {callee : Callee}
    (h : readCallee s = some (callee, r)) : r.length ≤ s.length := by
  unfold readCallee at h
  split at h
  · rename_i rest hrest
    simp only at h
    split at h
    · simp at h
    · simp only [Option.map_eq_some_iff, Prod.mk.injEq] at h
      obtain ⟨r1, h1, -, he⟩ := h
      have l1 := readWord_length hrest
      have l2 := readWord_length h1
      have d1 := dropBlank_length_le rest
      rw [← he]
      omega
  · exact readNamed_length h

/-- A call takes at least one character. -/
theorem Call.read_length {s r : List Char} {call : Call} (h : Call.read s = some (call, r)) :
    r.length < s.length := by
  simp only [Call.read, Option.bind_eq_bind, Option.bind_eq_some_iff, Option.pure_def,
    Option.some.injEq, Prod.mk.injEq] at h
  obtain ⟨⟨callee, r1⟩, h1, r2, h2, ⟨call', r3⟩, h3, r4, h4, -, he⟩ := h
  have l1 := readCallee_length h1
  have l2 := readChar_length h2
  have l3 := Callee.readArguments_length h3
  have l4 := readChar_length h4
  have d1 := dropBlank_length_le r1
  have d2 := dropBlank_length_le r2
  have d3 := dropBlank_length_le r3
  rw [← he]
  simp only at *
  omega

end BulkSweep.Shell

import BulkSweep.Shell.Literal
import BulkSweep.Shell.Constructor
import BulkSweep.Shell.Structure

/-!
# Strict form of shell text

Shell text is what people paste from a database shell: bare keys, single quotes, constructor calls
and trailing commas.  `normalize` turns it into strict Extended JSON.  The three steps are one kind
of quote, no constructor calls, no bare keys or trailing commas; none of them looks inside a literal.
-/

set_option autoImplicit false

namespace BulkSweep.Shell

open BulkSweep.Text

/-- Replaces constructor calls outside literals, given the character before the text.  A call must
not continue an identifier. -/
def substituteAfter (previous : Option Char) : List Char → List Char
  | [] => []
  | c :: cs =>
    if c = '"' then
      let parts := splitLiteral false cs
      '"' :: (parts.1 ++ substituteAfter (some '"') parts.2)
    else if previous.any isWordChar then c :: substituteAfter (some c) cs
    else
      match _ : Call.read (c :: cs) with
      | some (call, rest) => call.extended ++ substituteAfter (some '}') rest
      | none => c :: substituteAfter (some c) cs
termination_by s => s.length
decreasing_by
  · exact Nat.lt_succ_of_le (splitLiteral_length_le false cs)
  · exact Nat.lt_succ_self _
  · exact Call.read_length ‹_›
  · exact Nat.lt_succ_self _

/-- Replaces the constructor calls of a text that uses double quotes alone. -/
def substituteCalls (s : List Char) : List Char :=
  substituteAfter none s

/-- A literal as it stands, any other run tidied. -/
def Span.strict (span : Span) : List Char :=
  if span.isString then span.text else tidy span.text

/-- The strict form of a text without blanks at its ends. -/
def normalizeTrimmed (s : List Char) : List Char :=
  if s = [] ∨ s = ['{', '}'] then s
  else (spans (substituteCalls (unifyQuotes s))).flatMap Span.strict

/-- The strict form of a text, as characters. -/
def normalizeChars (s : List Char) : List Char :=
  normalizeTrimmed (trimBlank s)

/-- The strict form of shell text.  Text that is already strict only loses its outer blanks. -/
def normalize (s : String) : String :=
  String.ofList (normalizeChars s.toList)

end BulkSweep.Shell

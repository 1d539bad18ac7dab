import BulkSweep.Extended.Decode
import BulkSweep.Json.Reader
import BulkSweep.Shell.Normalize

/-!
# Expressions

A filter, an update or a stored document is given as shell text.  `parseDocument` brings it into
strict form and reads it; what goes wrong is reported with both texts, so that the reader of the
message sees what became of the input.
-/

set_option autoImplicit false

namespace BulkSweep

open BulkSweep.Text

/-! ## Errors -/

/-- Why a strict text is no document. -/
inductive DocumentFault where
  /-- it is no JSON -/
  | json (failure : Json.Failure)
  /-- a tagged object in it denotes no value -/
  | extended (fault : Extended.Fault)
  /-- its outermost value is something else -/
  | notDocument (kind : String)
  deriving DecidableEq, Repr, Inhabited

/-- The message of a fault. -/
def DocumentFault.message : DocumentFault → String
  | json failure => failure.message
  | extended fault => fault.message
  | notDocument kind => "expected a document at top level, got " ++ kind

/-- A text that is no expression, with its strict form. -/
structure SyntaxError where
  /-- why the strict form is no document -/
  fault : DocumentFault
  /-- the text as it was given -/
  given : String
  /-- its strict form -/
  converted : String
  deriving DecidableEq, Repr, Inhabited

namespace SyntaxError

/-- The numbers of opening and closing braces in the strict form, if they differ. -/
def braces (e : SyntaxError) : Option (Nat × Nat) :=
  let opened := e.converted.toList.count '{'
  let closed := e.converted.toList.count '}'
  if opened = closed then none else some (opened, closed)

/-- The hint about braces that do not match. -/
def hint (e : SyntaxError) : String :=
  match e.braces with
  | none => ""
  | some (opened, closed) =>
    "\n  hint: mismatched braces ('\x7b' x" ++ toString opened ++ " vs '\x7d' x" ++ toString closed
      ++ "), please check your input"

/-- The whole message. -/
def message (e : SyntaxError) : String :=
  "invalid JSON/ExtJSON/Shell syntax: " ++ e.fault.message ++ "\n  original:  " ++ e.given
    ++ "\n  converted: " ++ e.converted ++ e.hint

end SyntaxError

/-! ## Reading -/

/-- What a JSON value is called where a document was expected. -/
def Json.kind : Json → String
  | .null => "null"
  | .bool _ => "a boolean"
  | .number _ => "a number"
  | .string _ => "a string"
  | .array _ => "an array"
  | .object _ => "an object"

/-- Reads strict text as a document. -/
def readStrict (text : String) : Except DocumentFault Document :=
  match Json.read text with
  | .error failure => .error (.json failure)
  | .ok (.object members) => (Extended.decodeDocument members).mapError .extended
  | .ok other => .error (.notDocument other.kind)

/-- Reads an expression.  Nothing but blanks, and empty braces, are the empty document. -/
def parseDocument (text : String) : Except SyntaxError Document :=
  let trimmed := trim text
  if trimmed.isEmpty || trimmed == "\x7b\x7d" then .ok []
  else
    let converted := Shell.normalize trimmed
    (readStrict converted).mapError fun fault => ⟨fault, text, converted⟩

end BulkSweep

import BulkSweep.Text.Hex
import BulkSweep.Text.Hidden

/-!
# Quoted text

How a message shows a text that somebody else wrote: in double quotes, with short escapes for the
common controls, the quote and the backslash, and numbers for characters without a visible form.
-/

set_option autoImplicit false

namespace BulkSweep.Text

/-- A character inside a quoted text. -/
def quotedChar (c : Char) : String :=
  if c = '"' then "\\\""
  else if c = '\\' then "\\\\"
  else if c = '\n' then "\\n"
  else if c = '\r' then "\\r"
  else if c = '\t' then "\\t"
  else if c.toNat = 0 then "\\0"
  else if 0x20 ≤ c.toNat ∧ c.toNat < 0x7F then String.singleton c
  else if isHidden c then "\\u\x7b" ++ hexNumber c.toNat ++ "\x7d"
  else String.singleton c

/-- A text in double quotes. -/
def quoted (s : String) : String :=
  "\"" ++ String.join (s.toList.map quotedChar) ++ "\""

/-- Texts in double quotes, separated by commas, in brackets. -/
def quotedList (texts : List String) : String :=
  "[" ++ ", ".intercalate (texts.map quoted) ++ "]"

end BulkSweep.Text

import BulkSweep.Numeric.Notation
import BulkSweep.Text.Hex

/-!
# JSON

JSON values and their compact text.  Integers and fractions are kept apart, since they become numbers
of different types.  The members of an object are in order, no two with one name.
-/

set_option autoImplicit false

namespace BulkSweep

open BulkSweep.Numeric BulkSweep.Text

/-- A JSON number. -/
inductive Json.Number where
  /-- a number written without point and exponent, at most 64 bits wide -/
  | integer (n : Int)
  /-- any other number -/
  | fraction (x : Binary64)
  deriving DecidableEq, Repr, Inhabited

/-- A JSON value. -/
inductive Json where
  /-- the null value -/
  | null
  /-- a truth value -/
  | bool (b : Bool)
  /-- a number -/
  | number (n : Json.Number)
  /-- a text -/
  | string (s : String)
  /-- a list of values -/
  | array (items : List Json)
  /-- named values -/
  | object (members : List (String × Json))
  deriving Repr, Inhabited

namespace Json

/-- Sets a member.  A member that is there keeps its place, a new one goes to the end. -/
def setMember : List (String × Json) → String → Json → List (String × Json)
  | [], name, value => [(name, value)]
  | (key, old) :: rest, name, value =>
    if key = name then (key, value) :: rest else (key, old) :: setMember rest name value

/-! ## Text -/

/-- A character inside a JSON string. -/
def escapeChar (c : Char) : String :=
  if c = '"' then "\\\""
  else if c = '\\' then "\\\\"
  else if c = '\n' then "\\n"
  else if c = '\r' then "\\r"
  else if c = '\t' then "\\t"
  else if c.toNat = 8 then "\\b"
  else if c.toNat = 12 then "\\f"
  else if c.toNat < 0x20 then
    "\\u00" ++ String.ofList [hexDigit (c.toNat / 16), hexDigit (c.toNat % 16)]
  else String.singleton c

/-- A JSON string with its quotes. -/
def stringText (s : String) : String :=
  "\"" ++ String.join (s.toList.map escapeChar) ++ "\""

/-- A JSON number. -/
def Number.text : Number → String
  | integer n => toString n
  | fraction x => documentLayout.write x

mutual

/-- The compact text of a value. -/
def text : Json → String
  | null => "null"
  | bool b => if b then "true" else "false"
  | number n => n.text
  | string s => stringText s
  | array items => "[" ++ ",".intercalate (itemTexts items) ++ "]"
  | object members => "\x7b" ++ ",".intercalate (memberTexts members) ++ "\x7d"

/-- The compact texts of the items of a list. -/
def itemTexts : List Json → List String
  | [] => []
  | item :: rest => text item :: itemTexts rest

/-- The compact texts of the members of an object. -/
def memberTexts : List (String × Json) → List String
  | [] => []
  | (key, value) :: rest => (stringText key ++ ":" ++ text value) :: memberTexts rest

end

end Json

end BulkSweep

import BulkSweep.Json.Basic
import BulkSweep.Text.Quoted

/-!
# Faults of Extended JSON

Extended JSON writes values that JSON lacks as objects with one tag, such as `$oid`.  This module
says why such an object denotes no value, and words it.
-/

set_option autoImplicit false

namespace BulkSweep.Extended

open BulkSweep.Numeric BulkSweep.Text

/-- What was found in the place of something else. -/
inductive Found where
  /-- the null value -/
  | null
  /-- a truth value -/
  | bool (b : Bool)
  /-- an integer -/
  | integer (n : Int)
  /-- a fraction -/
  | fraction (x : Binary64)
  /-- a text -/
  | string (s : String)
  /-- a list -/
  | list
  /-- an object -/
  | object
  /-- bytes, read from a text -/
  | bytes
  deriving DecidableEq, Repr, Inhabited

/-- What a JSON value is, where another was expected. -/
def Found.ofJson : Json → Found
  | .null => .null
  | .bool b => .bool b
  | .number (.integer n) => .integer n
  | .number (.fraction x) => .fraction x
  | .string s => .string s
  | .array _ => .list
  | .object _ => .object

/-- The wording of what was found. -/
def Found.text : Found → String
  | null => "null"
  | bool b => "boolean `" ++ (if b then "true" else "false") ++ "`"
  | integer n => "integer `" ++ toString n ++ "`"
  | fraction x => "floating point `" ++ documentLayout.write x ++ "`"
  | string s => "string " ++ quoted s
  | list => "sequence"
  | object => "map"
  | bytes => "byte array"

/-- Why an object with a tag denotes no value. -/
inductive Fault where
  /-- a member that does not belong there -/
  | unknownMember (name : String) (expected : List String)
  /-- a member that is not there -/
  | missingMember (name : String)
  /-- a value of the wrong type -/
  | wrongType (found : Found) (wanted : String)
  /-- a value of the right type that is refused -/
  | wrongValue (found : Found) (wanted : String)
  /-- a list of the wrong length in the place of an object -/
  | wrongLength (length : Nat) (wanted : String)
  /-- a date in no known form -/
  | unknownDate
  /-- an object id whose text has the wrong length -/
  | idLength (length : Nat)
  /-- an object id with a byte that is no hexadecimal digit -/
  | idCharacter (byte : UInt8) (index : Nat)
  /-- a text with a zero character where none may stand -/
  | zeroInside (text : String)
  deriving DecidableEq, Repr, Inhabited

/-- The wording of a list of member names. -/
def nameList (names : List String) : String :=
  " or ".intercalate (names.map fun name => "`" ++ name ++ "`")

/-- The wording of a fault that lies in the shape of an object or the value of a member. -/
def Fault.detail : Fault → String
  | unknownMember name expected => "unknown field `" ++ name ++ "`, expected " ++ nameList expected
  | missingMember name => "missing field `" ++ name ++ "`"
  | wrongType found wanted => "invalid type: " ++ found.text ++ ", expected " ++ wanted
  | wrongValue found wanted => "invalid value: " ++ found.text ++ ", expected " ++ wanted
  | wrongLength length wanted => "invalid length " ++ toString length ++ ", expected " ++ wanted
  | unknownDate => "data did not match any variant of untagged enum DateTimeBody"
  | idLength length => "invalid hex string length " ++ toString length
  | idCharacter byte index =>
    "invalid character '" ++ String.singleton (Char.ofNat byte.toNat) ++ "' encountered at index "
      ++ toString index
  | zeroInside text => "cstring with interior null: " ++ quoted text

/-- The message of a fault. -/
def Fault.message (f : Fault) : String :=
  "BSON error. Kind: " ++ (match f with
    | idLength _ | idCharacter _ _ => "An ObjectId-related error occurred: "
    | zeroInside _ => "Malformed BSON bytes. Message: "
    | _ => "A deserialization-related error occurred. Message: ") ++ f.detail ++ "."

end BulkSweep.Extended

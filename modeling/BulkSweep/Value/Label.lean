import BulkSweep.Numeric.Notation
import BulkSweep.Text.Base64
import BulkSweep.Value.Basic
import BulkSweep.Value.Calendar

/-!
# Labels of values

The text under which a value is known as the id of a document.  Two ids are taken to be the same when
their labels are.  Texts stand between quotes as they are, without escapes.
-/

set_option autoImplicit false

namespace BulkSweep

open BulkSweep.Numeric BulkSweep.Text

mutual

/-- The label of a value. -/
def Value.label : Value → String
  | .double x => plainLayout.write x
  | .int32 n => toString n.toInt
  | .int64 n => toString n.toInt
  | .decimal d => d.text
  | .string s => "\"" ++ s ++ "\""
  | .boolean b => if b then "true" else "false"
  | .null => "null"
  | .array items => "[" ++ ", ".intercalate (Value.itemLabels items) ++ "]"
  | .document fields =>
    if fields.isEmpty then "\x7b\x7d"
    else "\x7b " ++ ", ".intercalate (Value.fieldLabels fields) ++ " \x7d"
  | .objectId id => "ObjectId(\"" ++ id.hex ++ "\")"
  | .date millis => "DateTime(\"" ++ Calendar.spacedText millis.toInt ++ "\")"
  | .timestamp seconds increment =>
    "Timestamp(" ++ toString seconds.toNat ++ ", " ++ toString increment.toNat ++ ")"
  | .binary subtype bytes =>
    "Binary(0x" ++ hexNumber subtype.toNat ++ ", " ++ base64Text bytes ++ ")"
  | .regex pattern options => "/" ++ pattern ++ "/" ++ options
  | .code text => text
  | .codeWithScope text _ => text
  | .symbol s => "Symbol(\"" ++ s ++ "\")"
  | .dbPointer collection id => "DbPointer(" ++ collection ++ ", " ++ id.hex ++ ")"
  | .undefined => "undefined"
  | .minKey => "MinKey"
  | .maxKey => "MaxKey"

/-- The labels of the items of a list. -/
def Value.itemLabels : List Value → List String
  | [] => []
  | item :: rest => Value.label item :: Value.itemLabels rest

/-- The fields of a document, each a quoted name with the label of its value. -/
def Value.fieldLabels : List (String × Value) → List String
  | [] => []
  | (key, value) :: rest => ("\"" ++ key ++ "\": " ++ Value.label value) :: Value.fieldLabels rest

end

end BulkSweep

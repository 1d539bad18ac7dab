import BulkSweep.Json.Basic
import BulkSweep.Text.Base64
import BulkSweep.Value.Basic
import BulkSweep.Value.Calendar

/-!
# Values as Extended JSON

Two forms of one value.  The relaxed form writes numbers as JSON numbers, and is what people see.  The
stored form differs in that 64-bit integers keep their tag, so that reading them back does not make
them narrower.
-/

set_option autoImplicit false

namespace BulkSweep.Extended

open BulkSweep.Numeric BulkSweep.Text

/-! ## Tagged objects -/

/-- An object with one member. -/
def tagged (name : String) (body : Json) : Json :=
  .object [(name, body)]

/-- A double: a number if it is finite. -/
def encodeDouble (x : Binary64) : Json :=
  if x.isFinite then .number (.fraction x)
  else tagged "$numberDouble" (.string (documentLayout.write x))

/-- A point in time: its internet form from 1970 on, a tagged integer before. -/
def encodeDate (millis : Int) : Json :=
  tagged "$date" <|
    if 0 ≤ millis then .string (Calendar.internetText millis)
    else tagged "$numberLong" (.string (toString millis))

/-- An object id. -/
def encodeId (id : ObjectId) : Json :=
  tagged "$oid" (.string id.hex)

/-- Two hexadecimal digits of a byte. -/
def byteText (b : UInt8) : String :=
  hexText [b]

/-! ## Relaxed form -/

mutual

/-- The relaxed form of a value. -/
def relaxed : Value → Json
  | .double x => encodeDouble x
  | .int32 n => .number (.integer n.toInt)
  | .int64 n => .number (.integer n.toInt)
  | .decimal d => tagged "$numberDecimal" (.string d.text)
  | .string s => .string s
  | .boolean b => .bool b
  | .null => .null
  | .array items => .array (relaxedItems items)
  | .document fields => .object (relaxedFields fields)
  | .objectId id => encodeId id
  | .date millis => encodeDate millis.toInt
  | .timestamp seconds increment =>
    tagged "$timestamp" (.object
      [("t", .number (.integer seconds.toNat)), ("i", .number (.integer increment.toNat))])
  | .binary subtype bytes =>
    tagged "$binary" (.object
      [("base64", .string (base64Text bytes)), ("subType", .string (byteText subtype))])
  | .regex pattern options =>
    tagged "$regularExpression" (.object [("pattern", .string pattern), ("options", .string options)])
  | .code text => tagged "$code" (.string text)
  | .codeWithScope text scope =>
    .object [("$code", .string text), ("$scope", .object (relaxedFields scope))]
  | .symbol s => tagged "$symbol" (.string s)
  | .dbPointer collection id =>
    tagged "$dbPointer" (.object [("$ref", .string collection), ("$id", encodeId id)])
  | .undefined => tagged "$undefined" (.bool true)
  | .minKey => tagged "$minKey" (.number (.integer 1))
  | .maxKey => tagged "$maxKey" (.number (.integer 1))

/-- The relaxed forms of the items of a list. -/
def relaxedItems : List Value → List Json
  | [] => []
  | item :: rest => relaxed item :: relaxedItems rest

/-- The fields of a document with the relaxed forms of their values. -/
def relaxedFields : List (String × Value) → List (String × Json)
  | [] => []
  | (key, value) :: rest => (key, relaxed value) :: relaxedFields rest

end

/-! ## Stored form -/

mutual

/-- The stored form of a value. -/
def stored : Value → Json
  | .int64 n => tagged "$numberLong" (.string (toString n.toInt))
  | .array items => .array (storedItems items)
  | .document fields => .object (storedFields fields)
  | other => relaxed other

/-- The stored forms of the items of a list. -/
def storedItems : List Value → List Json
  | [] => []
  | item :: rest => stored item :: storedItems rest

/-- The fields of a document with the stored forms of their values. -/
def storedFields : List (String × Value) → List (String × Json)
  | [] => []
  | (key, value) :: rest => (key, stored value) :: storedFields rest

end

/-- The compact relaxed text of a document. -/
def relaxedText (d : Document) : String :=
  (relaxed (.document d)).text

/-- The line that stores a document, without its line end. -/
def storedLine (d : Document) : String :=
  (stored (.document d)).text

end BulkSweep.Extended

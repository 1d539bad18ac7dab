import BulkSweep.Extended.Shape
import BulkSweep.Text.Base64
import BulkSweep.Value.Basic
import BulkSweep.Value.Calendar

/-!
# Values of Extended JSON

Turns JSON into values.  An object that has one of the tags, wherever among its members, denotes the
value of that tag or nothing; the outermost object is always a document.
-/

set_option autoImplicit false

namespace BulkSweep.Extended

open BulkSweep.Numeric BulkSweep.Text

/-! ## Tags -/

/-- The tags, each with the value that it announces. -/
inductive Tag where
  /-- an object id -/
  | oid
  /-- a symbol -/
  | symbol
  /-- a regular expression -/
  | regularExpression
  /-- a 32-bit integer -/
  | numberInt
  /-- a 64-bit integer -/
  | numberLong
  /-- a double -/
  | numberDouble
  /-- a decimal -/
  | numberDecimal
  /-- bytes -/
  | binary
  /-- bytes of a universally unique id -/
  | uuid
  /-- program text -/
  | code
  /-- a timestamp -/
  | timestamp
  /-- a point in time -/
  | date
  /-- the lowest value -/
  | minKey
  /-- the highest value -/
  | maxKey
  /-- a reference to a document -/
  | dbPointer
  /-- the undefined value -/
  | undefined
  deriving DecidableEq, Repr, Inhabited

/-- The member name of a tag. -/
def Tag.name : Tag → String
  | oid => "$oid"
  | symbol => "$symbol"
  | regularExpression => "$regularExpression"
  | numberInt => "$numberInt"
  | numberLong => "$numberLong"
  | numberDouble => "$numberDouble"
  | numberDecimal => "$numberDecimal"
  | binary => "$binary"
  | uuid => "$uuid"
  | code => "$code"
  | timestamp => "$timestamp"
  | date => "$date"
  | minKey => "$minKey"
  | maxKey => "$maxKey"
  | dbPointer => "$dbPointer"
  | undefined => "$undefined"

/-- The tags in the order in which they are looked for. -/
def Tag.all : List Tag :=
  [oid, symbol, regularExpression, numberInt, numberLong, numberDouble, numberDecimal, binary, uuid,
   code, timestamp, date, minKey, maxKey, dbPointer, undefined]

/-- The tag that decides what an object denotes, if it has any. -/
def Tag.of? (members : List (String × Json)) : Option Tag :=
  Tag.all.find? fun tag => members.any fun (key, _) => key == tag.name

/-! ## Texts of tagged values -/

/-- A text read as a value, or the fault that names what was wanted. -/
def readText {α : Type} (read : String → Option α) (wanted text : String) : Except Fault α :=
  match read text with
  | some x => .ok x
  | none => .error (.wrongValue (.string text) wanted)

/-- The first byte that is no hexadecimal digit. -/
def badHexByte : Nat → List UInt8 → Option (UInt8 × Nat)
  | _, [] => none
  | index, b :: bs =>
    if (hexValue (Char.ofNat b.toNat)).isSome then badHexByte (index + 1) bs else some (b, index)

/-- An object id from its hexadecimal text.  The bytes of the text are counted and looked at. -/
def readObjectId (text : String) : Except Fault ObjectId :=
  let bytes := text.toUTF8.toList
  if bytes.length % 2 = 1 then .error (.idLength bytes.length)
  else
    match badHexByte 0 bytes with
    | some (byte, index) => .error (.idCharacter byte index)
    | none =>
      if bytes.length = 24 then .ok (.ofBytes ((readHex text.toList).getD []))
      else .error (.idLength (bytes.length / 2))

/-- The hexadecimal digits of a universally unique id with hyphens. -/
def hyphenated (s : List Char) : Option (List Char) :=
  let part (start length : Nat) := (s.drop start).take length
  let hyphens := [8, 13, 18, 23].all fun i => s[i]? == some '-'
  if s.length = 36 && hyphens then
    some (part 0 8 ++ part 9 4 ++ part 14 4 ++ part 19 4 ++ part 24 12)
  else none

/-- A universally unique id: 32 digits, the form with hyphens, and that form in braces or with its
resource name in letters of either case. -/
def readUuid (text : String) : Option (List UInt8) := do
  let s := text.toList
  let digits ←
    if s.length = 32 then some s
    else if s.length = 38 ∧ s.head? = some '{' ∧ s.getLast? = some '}' then
      hyphenated ((s.drop 1).take 36)
    else if s.length = 45 ∧ (s.take 9).map Char.toLower = "urn:uuid:".toList then
      hyphenated (s.drop 9)
    else hyphenated s
  readHex digits

/-- The characters of a text in rising order. -/
def sortedText (s : String) : String :=
  String.ofList (s.toList.mergeSort fun a b => a.toNat ≤ b.toNat)

/-- A text without zero characters. -/
def zeroFree (s : String) : Except Fault String :=
  if s.toList.contains '\x00' then .error (.zeroInside s) else .ok s

/-- A subtype from its hexadecimal text. -/
def readSubtype (text : String) : Except Fault UInt8 := do
  match ← readText (fun s => readHex s.toList) "hexadecimal number as a string" text with
  | [b] => return b
  | _ => .error (.wrongValue .bytes "one byte subtype")

/-- A 64-bit integer from its text. -/
def readInt64 (text : String) : Except Fault Int64 :=
  (readText (fun s => readSized 64 s.toList) "i64 as a string" text).map Int64.ofInt

/-- The ways to write a point in time. -/
inductive WrittenDate where
  /-- the text of a 64-bit integer, in an inner object or list -/
  | millisText (s : String)
  /-- the internet form -/
  | internet (s : String)
  /-- a bare 64-bit integer -/
  | millis (n : Int)
  deriving DecidableEq, Repr, Inhabited

/-- A member that holds a point in time, written in one of the ways. -/
def dateMember : Member WrittenDate
  | .object [("$numberLong", .string s)] => .ok (.millisText s)
  | .array [.string s] => .ok (.millisText s)
  | .string s => .ok (.internet s)
  | .number (.integer n) =>
    if -(2 ^ 63) ≤ n ∧ n < 2 ^ 63 then .ok (.millis n) else .error .unknownDate
  | _ => .error .unknownDate

/-- The milliseconds of a written point in time. -/
def WrittenDate.read : WrittenDate → Except Fault Int64
  | millisText s => readInt64 s
  | internet s =>
    (readText Calendar.readInternet "rfc3339 formatted utc datetime" s).map Int64.ofInt
  | millis n => .ok (.ofInt n)

/-- A member that must hold the number one. -/
def readOne (tag : Tag) (members : List (String × Json)) : Except Fault Unit := do
  let n ← oneMember tag.name (boundedMember 256 "u8") members
  if n = 1 then return ()
  else .error (.wrongValue (.integer n) ("value of " ++ tag.name ++ " should always be 1"))

/-- The value of an object with a tag, program text apart, which can hold further values. -/
def readTagged (tag : Tag) (members : List (String × Json)) : Except Fault Value :=
  let text : Except Fault String := oneMember tag.name textMember members
  match tag with
  | .oid => do return .objectId (← readObjectId (← text))
  | .symbol => do return .symbol (← text)
  | .regularExpression => do
    let (pattern, options) ← oneMember tag.name
      (innerTwo "RegexBody" "pattern" textMember "options" textMember) members
    let pattern ← zeroFree pattern
    let options ← zeroFree (sortedText options)
    return .regex pattern options
  | .numberInt => do
    let n ← readText (fun s => readSized 32 s.toList) "i32 as a string" (← text)
    return .int32 (.ofInt n)
  | .numberLong => do return .int64 (← readInt64 (← text))
  | .numberDouble => do
    return .double (← readText (fun s => readBinary64 s.toList) "bson double as string" (← text))
  | .numberDecimal => do
    return .decimal (← readText Decimal128.read "bson decimal128 as string" (← text))
  | .binary => do
    let (base64, subtype) ← oneMember tag.name
      (innerTwo "BinaryBody" "base64" textMember "subType" textMember) members
    let bytes ← readText (fun s => readBase64 s.toList) "base64 encoded bytes" base64
    return .binary (← readSubtype subtype) bytes
  | .uuid => do
    let bytes ← readText readUuid
      "$uuid value does not follow RFC 4122 format regarding length and hyphens" (← text)
    return .binary 4 bytes
  | .timestamp => do
    let word := boundedMember (2 ^ 32) "u32"
    let (seconds, increment) ← oneMember tag.name (innerTwo "TimestampBody" "t" word "i" word) members
    return .timestamp (.ofNat seconds) (.ofNat increment)
  | .date => do return .date (← (← oneMember tag.name dateMember members).read)
  | .minKey => do
    readOne tag members
    return .minKey
  | .maxKey => do
    readOne tag members
    return .maxKey
  | .dbPointer => do
    let (collection, id) ← oneMember tag.name
      (innerTwo "DbPointerBody" "$ref" textMember "$id" (innerOne "ObjectId" "$oid" textMember))
      members
    return .dbPointer collection (← readObjectId id)
  | .undefined => do
    let b ← oneMember tag.name boolMember members
    if b then return .undefined
    else .error (.wrongValue (.bool b) "$undefined should always be true")
  | .code => do return .code (← text)

/-- The type of an integer is the narrowest that holds it; beyond 64 bits it is a double. -/
def ofNumber : Json.Number → Value
  | .integer n =>
    if -(2 ^ 31) ≤ n ∧ n < 2 ^ 31 then .int32 (.ofInt n)
    else if -(2 ^ 63) ≤ n ∧ n < 2 ^ 63 then .int64 (.ofInt n)
    else .double (.ofInt n)
  | .fraction x => .double x

/-- The text of an object with program text, once its members fit the shape. -/
def readCode (members : List (String × Json)) : Except Fault String := do
  let (text, _) ← takeTwo "$code" textMember "$scope" (optionalMember mapMember) none none members
  match text with
  | some text => return text
  | none => .error (.missingMember "$code")

mutual

/-- The value that a JSON value denotes. -/
def decode : Json → Except Fault Value
  | .null => .ok .null
  | .bool b => .ok (.boolean b)
  | .number n => .ok (ofNumber n)
  | .string s => .ok (.string s)
  | .array items => do return .array (← decodeItems items)
  | .object members =>
    match Tag.of? members with
    | none => do return .document (← decodeMembers members)
    | some .code => do
      let text ← readCode members
      match ← decodeScope members with
      | some scope => return .codeWithScope text scope
      | none => return .code text
    | some tag => readTagged tag members

/-- The values of the items of a list; the first fault wins. -/
def decodeItems : List Json → Except Fault (List Value)
  | [] => .ok []
  | item :: rest => do
    let value ← decode item
    let values ← decodeItems rest
    return value :: values

/-- The members of an object as fields of a document; the first fault wins. -/
def decodeMembers : List (String × Json) → Except Fault (List (String × Value))
  | [] => .ok []
  | (key, json) :: rest => do
    let value ← decode json
    let fields ← decodeMembers rest
    return (key, value) :: fields

/-- The variables that a program text sees, as a document. -/
def decodeScope : List (String × Json) → Except Fault (Option (List (String × Value)))
  | [] => .ok none
  | (key, json) :: rest =>
    if key = "$scope" then
      match json with
      | .object members => do return some (← decodeMembers members)
      | _ => .ok none
    else decodeScope rest

end

/-- The document of an outermost object. -/
def decodeDocument (members : List (String × Json)) : Except Fault Document :=
  decodeMembers members

end BulkSweep.Extended

import BulkSweep.Numeric.Decimal128
import BulkSweep.Text.Hex

/-!
# Values and documents

A document is an ordered list of fields, and a value is anything that a field can hold.  The order of
the fields is kept and shown, but two documents with the same fields in another order are equal.
-/

set_option autoImplicit false

namespace BulkSweep

open BulkSweep.Numeric BulkSweep.Text

/-! ## Object ids -/

/-- A twelve-byte object id. -/
structure ObjectId where
  /-- the bytes, the first one highest -/
  bits : BitVec 96
  deriving DecidableEq, Repr, Inhabited

namespace ObjectId

/-- The id of twelve bytes, the first one highest. -/
def ofBytes (bytes : List UInt8) : ObjectId :=
  ⟨BitVec.ofNat 96 (bytes.foldl (fun n b => 256 * n + b.toNat) 0)⟩

/-- The bytes, the first one highest. -/
def toBytes (id : ObjectId) : List UInt8 :=
  (List.range 12).map fun i => UInt8.ofNat (id.bits.toNat / 256 ^ (11 - i))

/-- The twenty-four hexadecimal digits. -/
def hex (id : ObjectId) : String :=
  hexText id.toBytes

end ObjectId

/-! ## Values -/

/-- What a field of a document holds. -/
inductive Value where
  /-- a double -/
  | double (x : Binary64)
  /-- a 32-bit integer -/
  | int32 (n : Int32)
  /-- a 64-bit integer -/
  | int64 (n : Int64)
  /-- a decimal number of up to 34 digits -/
  | decimal (d : Decimal128)
  /-- a text -/
  | string (s : String)
  /-- a truth value -/
  | boolean (b : Bool)
  /-- the null value -/
  | null
  /-- a list of values -/
  | array (items : List Value)
  /-- a nested document -/
  | document (fields : List (String × Value))
  /-- an object id -/
  | objectId (id : ObjectId)
  /-- a point in time, in milliseconds since the beginning of 1970 -/
  | date (millis : Int64)
  /-- an internal timestamp of seconds and increment -/
  | timestamp (seconds increment : UInt32)
  /-- bytes with their kind -/
  | binary (subtype : UInt8) (bytes : List UInt8)
  /-- a regular expression with its options -/
  | regex (pattern options : String)
  /-- program text -/
  | code (text : String)
  /-- program text with the variables it sees -/
  | codeWithScope (text : String) (scope : List (String × Value))
  /-- a symbol -/
  | symbol (s : String)
  /-- a reference to a document of a collection -/
  | dbPointer (collection : String) (id : ObjectId)
  /-- the undefined value -/
  | undefined
  /-- the value below all others -/
  | minKey
  /-- the value above all others -/
  | maxKey
  deriving Repr, Inhabited

/-- A document: fields in order, no two with one name. -/
abbrev Document : Type :=
  List (String × Value)

/-! ## Fields of a document -/

namespace Document

/-- The value of a field. -/
def get? (d : Document) (name : String) : Option Value :=
  List.lookup name d

/-- Sets a field.  A field that is there keeps its place, a new one goes to the end. -/
def insert : Document → String → Value → Document
  | [], name, value => [(name, value)]
  | (key, old) :: rest, name, value =>
    if key = name then (key, value) :: rest else (key, old) :: insert rest name value

/-- Removes a field; the others keep their order. -/
def erase : Document → String → Document
  | [], _ => []
  | (key, old) :: rest, name => if key = name then rest else (key, old) :: erase rest name

/-- The names of the fields, in order. -/
def keys (d : Document) : List String :=
  d.map Prod.fst

theorem get?_insert_self (d : Document) (name : String) (value : Value) :
    get? (insert d name value) name = some value := by
  induction d with
  | nil => simp [insert, get?]
  | cons field rest ih =>
    obtain ⟨key, old⟩ := field
    by_cases h : key = name
    · simp [insert, get?, h]
    · have h' : (name == key) = false := by simp [Ne.symm h]
      simpa [insert, get?, h, List.lookup_cons, h'] using ih

theorem get?_insert_of_ne (d : Document) {name other : String} (value : Value)
    (h : other ≠ name) : get? (insert d name value) other = get? d other := by
  induction d with
  | nil =>
    have h' : (other == name) = false := by simp [h]
    simp [insert, get?, List.lookup_cons, h']
  | cons field rest ih =>
    obtain ⟨key, old⟩ := field
    by_cases hk : key = name
    · subst hk
      have h' : (other == key) = false := by simp [h]
      simp [insert, get?, List.lookup_cons, h']
    · by_cases ho : other = key
      · simp [insert, get?, hk, ho]
      · have h' : (other == key) = false := by simp [ho]
        simpa [insert, get?, hk, List.lookup_cons, h'] using ih

end Document

end BulkSweep

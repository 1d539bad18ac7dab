import BulkSweep.Value.Basic

/-!
# Order of values

Numbers of all types are ordered by the doubles nearest to them.  Texts, truth values, dates, object
ids and timestamps are ordered among their own kind.  All other pairs are ordered by type alone.
-/

set_option autoImplicit false

namespace BulkSweep

open BulkSweep.Numeric

namespace Value

/-- Whether a value is a number. -/
def isNumber : Value → Bool
  | int32 _ | int64 _ | double _ | decimal _ => true
  | _ => false

/-- The double nearest to a number, if the value is one. -/
def toBinary64? : Value → Option Binary64
  | int32 n => some (.ofInt n.toInt)
  | int64 n => some (.ofInt n.toInt)
  | double x => some x
  | decimal d => some d.toBinary64
  | _ => none

/-- The double nearest to a number; any other value counts as no number. -/
def toBinary64 (v : Value) : Binary64 :=
  v.toBinary64?.getD (.nan false)

/-- The place of a type among all types. -/
def typeRank : Value → Nat
  | minKey => 0
  | null | undefined => 1
  | int32 _ | int64 _ | double _ | decimal _ => 2
  | string _ | symbol _ => 3
  | document _ => 4
  | array _ => 5
  | binary _ _ => 6
  | objectId _ => 7
  | boolean _ => 8
  | date _ => 9
  | timestamp _ _ => 10
  | regex _ _ => 11
  | dbPointer _ _ => 12
  | code _ | codeWithScope _ _ => 13
  | maxKey => 255

/-- The order of two values. -/
def order (a b : Value) : Ordering :=
  match a.toBinary64?, b.toBinary64? with
  | some x, some y => x.totalOrder y
  | _, _ =>
    match a, b with
    | string x, string y => compare x y
    | boolean x, boolean y => compare x y
    | date x, date y => compare x.toInt y.toInt
    | objectId x, objectId y => compare x.bits.toNat y.bits.toNat
    | timestamp s i, timestamp t j => (compare s.toNat t.toNat).then (compare i.toNat j.toNat)
    | _, _ => compare a.typeRank b.typeRank

end Value

end BulkSweep

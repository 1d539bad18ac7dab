import BulkSweep.Value.Basic

/-!
# Equality of values

Values are equal when they are of one type and hold the same.  Two documents are equal when they
have the same fields, in whatever order; doubles are compared as numbers, so a NaN differs from
itself and the two zeros are equal.
-/

set_option autoImplicit false

namespace BulkSweep

mutual

/-- Equality of two values. -/
def Value.beq : Value → Value → Bool
  | .double a, .double b => a.sameNumber b
  | .int32 a, .int32 b => a == b
  | .int64 a, .int64 b => a == b
  | .decimal a, .decimal b => a == b
  | .string a, .string b => a == b
  | .boolean a, .boolean b => a == b
  | .null, .null => true
  | .array a, .array b => Value.beqItems a b
  | .document a, .document b => a.length == b.length && Value.beqFields a b
  | .objectId a, .objectId b => a == b
  | .date a, .date b => a == b
  | .timestamp a i, .timestamp b j => a == b && i == j
  | .binary s a, .binary t b => s == t && a == b
  | .regex a i, .regex b j => a == b && i == j
  | .code a, .code b => a == b
  | .codeWithScope a s, .codeWithScope b t => a == b && s.length == t.length && Value.beqFields s t
  | .symbol a, .symbol b => a == b
  | .dbPointer a i, .dbPointer b j => a == b && i == j
  | .undefined, .undefined => true
  | .minKey, .minKey => true
  | .maxKey, .maxKey => true
  | _, _ => false

/-- Equality of two lists of values. -/
def Value.beqItems : List Value → List Value → Bool
  | [], [] => true
  | a :: as, b :: bs => Value.beq a b && Value.beqItems as bs
  | _, _ => false

/-- Whether every field of the first document is in the second one with an equal value. -/
def Value.beqFields : List (String × Value) → List (String × Value) → Bool
  | [], _ => true
  | (key, a) :: rest, other =>
    (match List.lookup key other with
      | some b => Value.beq a b
      | none => false) && Value.beqFields rest other

end

instance : BEq Value := ⟨Value.beq⟩

/-- Equality of two documents: the same fields with equal values. -/
def Document.same (a b : Document) : Bool :=
  a.length == b.length && Value.beqFields a b

end BulkSweep

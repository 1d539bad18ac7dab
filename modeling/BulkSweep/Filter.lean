import BulkSweep.Path
import BulkSweep.Value.Equality
import BulkSweep.Value.Order

/-!
# Filters

A filter is a document of conditions, all of which must hold.  A condition stands under the path of
the value that it is about; it is a value to compare with, or a document of operators, which is told
by its first name.  The operators `$and`, `$or` and `$nor` join whole filters.  An operator that does
not exist never holds.
-/

set_option autoImplicit false

namespace BulkSweep.Filter

/-! ## Comparing one value -/

/-- Equality of numbers across their types. -/
def sameNumber (a b : Value) : Bool :=
  a.isNumber && b.isNumber && a.order b == .eq

/-- Equality with a value itself. -/
def equalsItself (v target : Value) : Bool :=
  v == target || sameNumber v target

/-- Equality with a value or, for a list, with one of its items. -/
def equals (v target : Value) : Bool :=
  equalsItself v target ||
    match v with
    | .array items => items.any (equalsItself · target)
    | _ => false

/-- The most members of a set that are looked at. -/
def maxSetSize : Nat := 1000

/-- Whether a value equals a member of a set. -/
def inSet (v set : Value) : Bool :=
  match set with
  | .array items => (items.take maxSetSize).any (equals v ·)
  | _ => false

/-- Whether a value counts as true. -/
def truthy : Value → Bool
  | .boolean b => b
  | .null => false
  | .int32 n => n != 0
  | .int64 n => n != 0
  | .double x => !x.isZero
  | _ => true

/-! ## Operators -/

/-- The operators on one value, negation apart. -/
inductive Operator where
  /-- equal -/
  | eq
  /-- not equal, or absent -/
  | ne
  /-- greater -/
  | gt
  /-- not less -/
  | gte
  /-- less -/
  | lt
  /-- not greater -/
  | lte
  /-- equal to a member of a set -/
  | isIn
  /-- equal to no member of a set, or absent -/
  | notIn
  /-- present, or absent -/
  | existing
  deriving DecidableEq, Repr, Inhabited

/-- The operator of a name. -/
def Operator.ofName? : String → Option Operator
  | "$eq" => some eq
  | "$ne" => some ne
  | "$gt" => some gt
  | "$gte" => some gte
  | "$lt" => some lt
  | "$lte" => some lte
  | "$in" => some isIn
  | "$nin" => some notIn
  | "$exists" => some existing
  | _ => none

/-- Whether an operator holds of a value that may be absent. -/
def Operator.holds (op : Operator) (value : Option Value) (argument : Value) : Bool :=
  match op with
  | eq => value.any (equals · argument)
  | ne => !value.any (equals · argument)
  | gt => value.any (·.order argument == .gt)
  | gte => value.any (·.order argument != .lt)
  | lt => value.any (·.order argument == .lt)
  | lte => value.any (·.order argument != .gt)
  | isIn => value.any (inSet · argument)
  | notIn => !value.any (inSet · argument)
  | existing => value.isSome == truthy argument

/-- Whether a name is an operator's rather than a path. -/
def isOperatorName (name : String) : Bool :=
  name.toList.head? == some '$'

/-- Whether a condition's document holds operators; its first name tells. -/
def isOperatorDocument (fields : Document) : Bool :=
  match fields with
  | [] => false
  | (name, _) :: _ => isOperatorName name

mutual

/-- Whether a condition holds of a value that may be absent. -/
def conditionHolds (value : Option Value) : Value → Bool
  | .document fields =>
    if isOperatorDocument fields then operatorsHold value fields
    else value.any (equals · (.document fields))
  | condition => value.any (equals · condition)

/-- Whether all operators of a condition hold. -/
def operatorsHold (value : Option Value) : List (String × Value) → Bool
  | [] => true
  | (name, argument) :: rest =>
    (if name = "$not" then !conditionHolds value argument
      else
        match Operator.ofName? name with
        | some op => op.holds value argument
        | none => false) && operatorsHold value rest

end

/-! ## Whole filters -/

/-- Whether a value is a list of filters, with at least one of them. -/
def isClauseList : Value → Bool
  | .array items =>
    !items.isEmpty && items.all fun
      | .document _ => true
      | _ => false
  | _ => false

mutual

/-- Whether a document satisfies every condition of a filter. -/
def accepts (doc : Document) : List (String × Value) → Bool
  | [] => true
  | (name, condition) :: rest => acceptsField doc name condition && accepts doc rest

/-- Whether a document satisfies one condition of a filter. -/
def acceptsField (doc : Document) (name : String) : Value → Bool
  | .array clauses =>
    if name = "$and" then isClauseList (.array clauses) && acceptsAll doc clauses
    else if name = "$or" then isClauseList (.array clauses) && acceptsAny doc clauses
    else if name = "$nor" then isClauseList (.array clauses) && !acceptsAny doc clauses
    else if isOperatorName name then false
    else conditionHolds (Path.lookup doc name) (.array clauses)
  | condition =>
    if isOperatorName name then false
    else conditionHolds (Path.lookup doc name) condition

/-- Whether a document satisfies all filters of a list. -/
def acceptsAll (doc : Document) : List Value → Bool
  | [] => true
  | .document clause :: rest => accepts doc clause && acceptsAll doc rest
  | _ :: _ => false

/-- Whether a document satisfies one filter of a list. -/
def acceptsAny (doc : Document) : List Value → Bool
  | [] => false
  | .document clause :: rest => accepts doc clause || acceptsAny doc rest
  | _ :: rest => acceptsAny doc rest

end

end BulkSweep.Filter

import BulkSweep.Path
import BulkSweep.Value.Equality
import BulkSweep.Value.Order

/-!
# Updates

An update is a document of operators, each with a document of paths and arguments.  Its changes are
made one after another on a copy; the document stays as it was when one of them fails, and also when
none of them changes a value.
-/

set_option autoImplicit false

namespace BulkSweep.Update

open BulkSweep.Numeric

/-! ## Operators -/

/-- The operators that can be applied. -/
inductive Operator where
  /-- gives a field a value -/
  | set
  /-- removes a field -/
  | unset
  /-- adds to a number -/
  | inc
  deriving DecidableEq, Repr, Inhabited

/-- The operator of a name. -/
def Operator.ofName? : String → Option Operator
  | "$set" => some set
  | "$unset" => some unset
  | "$inc" => some inc
  | _ => none

/-- The operators whose effect grows when they are applied again. -/
def compoundingNames : List String :=
  ["$inc", "$mul", "$push", "$pop", "$pull", "$pullAll", "$addToSet"]

/-- The operators of an update that are not safe to apply again. -/
def compounding (update : Document) : List String :=
  update.keys.filter fun name => compoundingNames.contains name

/-! ## Validity -/

/-- Why an update is refused before it is applied to any document. -/
inductive Invalid where
  /-- it has no operator -/
  | empty
  /-- an operator that cannot be applied -/
  | unsupported (name : String)
  /-- an operator whose argument is no document -/
  | notDocument (name : String)
  /-- an increment that is no number -/
  | notNumeric (path : String)
  deriving DecidableEq, Repr, Inhabited

/-- The message of a refusal. -/
def Invalid.message : Invalid → String
  | empty => "update document is empty"
  | unsupported name => "unsupported update operator '" ++ name ++ "'"
  | notDocument name => "'" ++ name ++ "' expects a document argument"
  | notNumeric path => "$inc requires a numeric value for '" ++ path ++ "'"

/-- The path of the first increment that is no number. -/
def badIncrement? (fields : Document) : Option String :=
  (fields.find? fun (_, value) => value.toBinary64.isNaN).map Prod.fst

/-- Checks one operator with its argument. -/
def checkOperator (name : String) (argument : Value) : Except Invalid Unit :=
  match Operator.ofName? name with
  | none => .error (.unsupported name)
  | some op =>
    match argument with
    | .document fields =>
      match op, badIncrement? fields with
      | .inc, some path => .error (.notNumeric path)
      | _, _ => .ok ()
    | _ => .error (.notDocument name)

/-- Checks the operators of an update in order. -/
def checkOperators : List (String × Value) → Except Invalid Unit
  | [] => .ok ()
  | (name, argument) :: rest => do
    checkOperator name argument
    checkOperators rest

/-- Checks that an update has operators, all of which can be applied. -/
def validate (update : Document) : Except Invalid Unit :=
  if update.isEmpty then .error .empty else checkOperators update

/-! ## Errors -/

/-- Why an update cannot be applied to a document. -/
inductive Error where
  /-- an increment of a value that is no number -/
  | typeMismatch (path kind : String)
  /-- a path that runs through a value which is no document -/
  | pathNotViable (field parent kind : String)
  deriving DecidableEq, Repr, Inhabited

/-- The message of an error. -/
def Error.message : Error → String
  | typeMismatch path kind =>
    "Cannot apply $inc to a value of non-numeric type: field '" ++ path ++ "' has " ++ kind
  | pathNotViable field parent kind =>
    "Cannot create field '" ++ field ++ "' in element \x7b" ++ parent ++ ": " ++ kind ++ "\x7d"

/-- The code of an error, as a server reports it. -/
def Error.code : Error → Int
  | typeMismatch _ _ => 14
  | pathNotViable _ _ _ => 28

/-- What a value is called in an error. -/
def kindOf : Value → String
  | .string _ => "a string"
  | .array _ => "an array"
  | .boolean _ => "a boolean"
  | .null => "null"
  | .objectId _ => "an ObjectId"
  | .date _ => "a date"
  | .document _ => "a document"
  | _ => "a non-numeric value"

/-! ## Changes of one field -/

/-- A document after a change, and whether any value differs from before. -/
abbrev Changed : Type :=
  Document × Bool

/-- Gives the field `leaf` under the documents `parents` a value.  Documents that are missing on the
way are made. -/
def setAt (leaf : String) (value : Value) : List String → Document → Except Error Changed
  | [], d =>
    .ok (d.insert leaf value, match d.get? leaf with
      | some old => !(old == value)
      | none => true)
  | name :: more, d =>
    match d.get? name with
    | none => do
      let (inner, changed) ← setAt leaf value more []
      return (d.insert name (.document inner), changed)
    | some (.document inner) => do
      let (inner, changed) ← setAt leaf value more inner
      return (d.insert name (.document inner), changed)
    | some other => .error (.pathNotViable leaf name (kindOf other))

/-- Gives the field at a path a value. -/
def setPath (d : Document) (path : String) (value : Value) : Except Error Changed :=
  setAt (Path.leaf path) value (Path.parents path) d

/-- Removes the field `leaf` under the documents `parents`; `none` when it is not there. -/
def unsetAt (leaf : String) : List String → Document → Option Document
  | [], d => if (d.get? leaf).isSome then some (d.erase leaf) else none
  | name :: more, d =>
    match d.get? name with
    | some (.document inner) =>
      (unsetAt leaf more inner).map fun inner => d.insert name (.document inner)
    | _ => none

/-- Removes the field at a path, if it is there. -/
def unsetPath (d : Document) (path : String) : Changed :=
  match unsetAt (Path.leaf path) (Path.parents path) d with
  | some d => (d, true)
  | none => (d, false)

/-- An integer within the range of 64 bits. -/
def clamp64 (n : Int) : Int64 :=
  .ofInt (max (-(2 ^ 63)) (min (2 ^ 63 - 1) n))

/-- The sum of a value and an increment; `none` when the value is no number.  Integers stay integers:
a 32-bit sum grows to 64 bits, a 64-bit sum stops at the ends of its range.  All else is added as
doubles. -/
def sum (current increment : Value) : Option Value :=
  match current, increment with
  | .int32 a, .int32 b =>
    let n := a.toInt + b.toInt
    some (if -(2 ^ 31) ≤ n ∧ n < 2 ^ 31 then .int32 (.ofInt n) else .int64 (.ofInt n))
  | .int32 a, .int64 b => some (.int64 (clamp64 (a.toInt + b.toInt)))
  | .int64 a, .int32 b => some (.int64 (clamp64 (a.toInt + b.toInt)))
  | .int64 a, .int64 b => some (.int64 (clamp64 (a.toInt + b.toInt)))
  | current, increment =>
    current.toBinary64?.map fun x => .double (x.add increment.toBinary64)

/-- Adds to the number at a path; what is absent counts as zero. -/
def incPath (d : Document) (path : String) (increment : Value) : Except Error Changed :=
  let current := (Path.lookup d path).getD (.int32 0)
  match sum current increment with
  | some next => setPath d path next
  | none => .error (.typeMismatch path (kindOf current))

/-! ## Whole updates -/

/-- Makes the change of one operator at one path. -/
def Operator.applyAt (op : Operator) (d : Document) (path : String) (argument : Value) :
    Except Error Changed :=
  match op with
  | set => setPath d path argument
  | unset => .ok (unsetPath d path)
  | inc => incPath d path argument

/-- Makes the changes of one operator at all of its paths, in order. -/
def applyFields (op : Operator) : List (String × Value) → Document → Except Error Changed
  | [], d => .ok (d, false)
  | (path, argument) :: rest, d => do
    let (d, changed) ← op.applyAt d path argument
    let (d, later) ← applyFields op rest d
    return (d, changed || later)

/-- Makes the changes of all operators, in order.  What is no operator changes nothing. -/
def applyOperators : List (String × Value) → Document → Except Error Changed
  | [], d => .ok (d, false)
  | (name, argument) :: rest, d => do
    let (d, changed) ← match Operator.ofName? name, argument with
      | some op, .document fields => applyFields op fields d
      | _, _ => .ok (d, false)
    let (d, later) ← applyOperators rest d
    return (d, changed || later)

/-- Applies an update.  The document comes back as it was unless some value of it changed. -/
def apply (update d : Document) : Except Error Changed := do
  let (next, changed) ← applyOperators update d
  return (if changed then next else d, changed)

end BulkSweep.Update

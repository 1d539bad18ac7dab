import BulkSweep.Extended.Fault

/-!
# Shapes of tagged objects

A tagged object has exactly the members of its shape.  Members are taken in the order in which they
stand, and the first fault wins; missing members come last.  An inner object may also be written as
the list of its members' values, in the order of the shape.
-/

set_option autoImplicit false

namespace BulkSweep.Extended

/-! ## Simple members -/

/-- A reader for the value of a member. -/
abbrev Member (α : Type) : Type :=
  Json → Except Fault α

/-- A member that holds a text. -/
def textMember : Member String
  | .string s => .ok s
  | other => .error (.wrongType (.ofJson other) "a string")

/-- A member that holds a truth value. -/
def boolMember : Member Bool
  | .bool b => .ok b
  | other => .error (.wrongType (.ofJson other) "a boolean")

/-- A member that holds a natural number below a bound. -/
def boundedMember (bound : Nat) (wanted : String) : Member Nat
  | .number (.integer n) =>
    if 0 ≤ n ∧ n < bound then .ok n.toNat else .error (.wrongValue (.integer n) wanted)
  | other => .error (.wrongType (.ofJson other) wanted)

/-- A member that holds members of its own. -/
def mapMember : Member (List (String × Json))
  | .object members => .ok members
  | other => .error (.wrongType (.ofJson other) "a map")

/-- A member that may be null. -/
def optionalMember {α : Type} (member : Member α) : Member (Option α)
  | .null => .ok none
  | other => (member other).map some

/-! ## Shapes with one member -/

/-- Takes the members of a shape with one name. -/
def takeOne {α : Type} (name : String) (member : Member α) :
    Option α → List (String × Json) → Except Fault (Option α)
  | found, [] => .ok found
  | _, (key, value) :: rest =>
    if key = name then do takeOne name member (some (← member value)) rest
    else .error (.unknownMember key [name])

/-- An object with one member. -/
def oneMember {α : Type} (name : String) (member : Member α) (members : List (String × Json)) :
    Except Fault α := do
  match ← takeOne name member none members with
  | some x => return x
  | none => .error (.missingMember name)

/-- An inner object with one member, or a list of one item. -/
def innerOne {α : Type} (shape name : String) (member : Member α) : Member α
  | .object members => oneMember name member members
  | .array [] => .error (.wrongLength 0 ("struct " ++ shape ++ " with 1 element"))
  | .array (item :: more) => do
    let x ← member item
    if more.isEmpty then return x
    else .error (.wrongLength (more.length + 1) "fewer elements in array")
  | other => .error (.wrongType (.ofJson other) ("struct " ++ shape))

/-! ## Shapes with two members -/

/-- Takes the members of a shape with two names. -/
def takeTwo {α β : Type} (first : String) (one : Member α) (second : String) (two : Member β) :
    Option α → Option β → List (String × Json) → Except Fault (Option α × Option β)
  | a, b, [] => .ok (a, b)
  | a, b, (key, value) :: rest =>
    if key = first then do takeTwo first one second two (some (← one value)) b rest
    else if key = second then do takeTwo first one second two a (some (← two value)) rest
    else .error (.unknownMember key [first, second])

/-- An inner object with two members, or a list of two items. -/
def innerTwo {α β : Type} (shape first : String) (one : Member α) (second : String)
    (two : Member β) : Member (α × β)
  | .object members => do
    match ← takeTwo first one second two none none members with
    | (some a, some b) => return (a, b)
    | (none, _) => .error (.missingMember first)
    | (_, none) => .error (.missingMember second)
  | .array [] => .error (.wrongLength 0 ("struct " ++ shape ++ " with 2 elements"))
  | .array [item] => do
    let _ ← one item
    .error (.wrongLength 1 ("struct " ++ shape ++ " with 2 elements"))
  | .array (item :: next :: more) => do
    let a ← one item
    let b ← two next
    if more.isEmpty then return (a, b)
    else .error (.wrongLength (more.length + 2) "fewer elements in array")
  | other => .error (.wrongType (.ofJson other) ("struct " ++ shape))

end BulkSweep.Extended

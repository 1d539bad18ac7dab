/-!
# TOML documents

The values of a TOML document, and how its tables grow line by line.  A table is made by a header, by
a longer header, by a dotted key or in braces; which of these it was decides whether a later line may
still add to it.
-/

set_option autoImplicit false

namespace BulkSweep

/-- How a table came to be. -/
inductive Toml.Origin where
  /-- on the way of a longer header -/
  | implied
  /-- by its own header -/
  | header
  /-- on the way of a dotted key -/
  | dotted
  /-- in braces -/
  | braces
  deriving DecidableEq, Repr, Inhabited

/-- A TOML value. -/
inductive Toml where
  /-- a text -/
  | text (s : String)
  /-- an integer of any size -/
  | integer (n : Int)
  /-- a number with a fraction or an exponent -/
  | float
  /-- a truth value -/
  | boolean (b : Bool)
  /-- a date, a time or both -/
  | moment
  /-- a list in brackets -/
  | array (items : List Toml)
  /-- a table -/
  | table (origin : Toml.Origin) (fields : List (String × Toml))
  /-- tables that a doubled header lists -/
  | tables (items : List (List (String × Toml)))
  deriving Repr, Inhabited

namespace Toml

/-- The fields of a table. -/
abbrev Fields : Type :=
  List (String × Toml)

/-! ## Fields -/

/-- Gives a field a value; a new one goes to the end. -/
def setField : Fields → String → Toml → Fields
  | [], key, value => [(key, value)]
  | (k, old) :: rest, key, value =>
    if k = key then (k, value) :: rest else (k, old) :: setField rest key value

/-- Changes the table in which a path ends.  Tables on the way are made if needed.  A dotted key may
only go through tables that no header made; nothing goes through braces or brackets.  `here` is how
the table at hand came to be. -/
def descend (byKey : Bool) (act : Origin → Fields → Option Fields) :
    List String → Origin → Fields → Option Fields
  | [], here, fields => act here fields
  | key :: path, _, fields =>
    match fields.lookup key with
    | none => do
      let made := if byKey then Origin.dotted else Origin.implied
      let inner ← descend byKey act path made []
      return setField fields key (.table made inner)
    | some (.table origin inner) =>
      if origin = .braces || (byKey && origin = .header) then none
      else do
        let inner ← descend byKey act path origin inner
        return setField fields key (.table origin inner)
    | some (.tables items) =>
      match items.reverse with
      | [] => none
      | last :: before => do
        let inner ← descend byKey act path .header last
        return setField fields key (.tables (before.reverse ++ [inner]))
    | some _ => none

/-- Adds a field that is not there yet. -/
def addNew (key : String) (value : Toml) (fields : Fields) : Option Fields :=
  match fields.lookup key with
  | some _ => none
  | none => some (fields ++ [(key, value)])

/-- Adds a value under a key of one or more parts.  A plain key does not add to a table that dotted
keys made, nor a dotted key to one that they did not make. -/
def addValue (path : List String) (key : String) (value : Toml) (origin : Origin)
    (fields : Fields) : Option Fields :=
  descend true
    (fun here inner =>
      if (here = .dotted) = path.isEmpty then none else addNew key value inner)
    path origin fields

/-- Opens the table of a header. -/
def openTable (path : List String) (key : String) (root : Fields) : Option Fields :=
  descend false
    (fun _ inner =>
      match inner.lookup key with
      | none => some (inner ++ [(key, .table .header [])])
      | some (.table .implied fields) => some (setField inner key (.table .header fields))
      | some _ => none)
    path .header root

/-- Adds a table to the list of a doubled header. -/
def openItem (path : List String) (key : String) (root : Fields) : Option Fields :=
  descend false
    (fun _ inner =>
      match inner.lookup key with
      | none => some (inner ++ [(key, .tables [[]])])
      | some (.tables items) => some (setField inner key (.tables (items ++ [[]])))
      | some _ => none)
    path .header root

/-- Adds a value in the table of the current header. -/
def addAt (current path : List String) (key : String) (value : Toml) (root : Fields) :
    Option Fields :=
  descend false (fun here inner => addValue path key value here inner) current .header root

end Toml

end BulkSweep

import BulkSweep.Filter

/-!
# Conditions and clauses

A filter with one condition on one path says of a document what the condition says of the value at the
path (`accepts_path`): an operator holds or fails of this value, and `$not` turns any condition round.
All operators of a condition have to hold, all conditions of a filter, and all or some of the clauses that
are joined (`operatorsHold_eq_all`, `accepts_eq_all`, `acceptsAll_eq_all`, `acceptsAny_eq_any`).
-/

set_option autoImplicit false

namespace BulkSweep.Filter

/-- The names of the operators that join filters. -/
def joins : List String :=
  ["$and", "$or", "$nor"]

variable {doc : Document} {path name : String}

/-! ## One after another -/

/-- Whether one operator of a condition holds. -/
def operatorHolds (found : Option Value) (field : String × Value) : Bool :=
  if field.1 = "$not" then !conditionHolds found field.2
  else
    match Operator.ofName? field.1 with
    | some op => op.holds found field.2
    | none => false

theorem operatorsHold_eq_all (found : Option Value) (fields : Document) :
    operatorsHold found fields = fields.all (operatorHolds found) := by
  induction fields with
  | nil => rfl
  | cons field rest ih =>
      rw [operatorsHold, List.all_cons, ih]
      rfl

theorem accepts_eq_all (doc filter : Document) :
    accepts doc filter = filter.all fun field => acceptsField doc field.1 field.2 := by
  induction filter with
  | nil => rfl
  | cons field rest ih => rw [accepts, List.all_cons, ih]

/-- Whether a clause accepts a document; what is no filter does not. -/
def clauseAccepts (doc : Document) : Value → Bool
  | .document clause => accepts doc clause
  | _ => false

theorem acceptsAll_eq_all (doc : Document) (clauses : List Value) :
    acceptsAll doc clauses = clauses.all (clauseAccepts doc) := by
  induction clauses with
  | nil => rfl
  | cons clause rest ih =>
      cases clause with
      | document => rw [acceptsAll, List.all_cons, ih, clauseAccepts]
      | _ => rfl

theorem acceptsAny_eq_any (doc : Document) (clauses : List Value) :
    acceptsAny doc clauses = clauses.any (clauseAccepts doc) := by
  induction clauses with
  | nil => rfl
  | cons clause rest ih =>
      cases clause with
      | document => rw [acceptsAny, List.any_cons, ih, clauseAccepts]
      | _ => exact ih

/-! ## Conditions on a path -/

theorem isOperatorName_of_joins (h : name ∈ joins) : isOperatorName name = true := by
  have hall : ∀ name ∈ joins, isOperatorName name = true := by decide
  exact hall name h

/-- Under a name that joins no filters stands a condition on the value at a path; the name of an operator
is no path. -/
theorem acceptsField_of_not_joins (h : name ∉ joins) (condition : Value) :
    acceptsField doc name condition
      = (!isOperatorName name && conditionHolds (Path.lookup doc name) condition) := by
  have hand : name ≠ "$and" := fun hname => h (hname ▸ by decide)
  have hor : name ≠ "$or" := fun hname => h (hname ▸ by decide)
  have hnor : name ≠ "$nor" := fun hname => h (hname ▸ by decide)
  cases condition with
  | array clauses =>
      rw [acceptsField, if_neg hand, if_neg hor, if_neg hnor]
      cases isOperatorName name <;> rfl
  | _ =>
      unfold acceptsField
      cases isOperatorName name <;> rfl

/-- The condition on a path is one on the value at the path. -/
theorem accepts_path (hpath : isOperatorName path = false) (condition : Value) :
    accepts doc [(path, condition)] = conditionHolds (Path.lookup doc path) condition := by
  have hjoins : path ∉ joins := by
    intro h
    rw [isOperatorName_of_joins h] at hpath
    cases hpath
  rw [accepts, accepts, Bool.and_true, acceptsField_of_not_joins hjoins, hpath, Bool.not_false,
    Bool.true_and]

/-- Operators under the name of an operator are no condition on a path, and nothing satisfies them. -/
theorem accepts_operatorName {name : String} (hname : isOperatorName name = true)
    (fields : Document) : accepts doc [(name, .document fields)] = false := by
  rw [accepts, acceptsField, hname, if_pos rfl, Bool.false_and]
  exact nofun

/-- A condition of one operator. -/
theorem conditionHolds_single (hname : isOperatorName name = true) (found : Option Value)
    (argument : Value) : conditionHolds found (.document [(name, argument)])
      = operatorHolds found (name, argument) := by
  have hdocument : isOperatorDocument [(name, argument)] = true := hname
  rw [conditionHolds, hdocument, if_pos rfl, operatorsHold_eq_all, List.all_cons, List.all_nil,
    Bool.and_true]

/-- An operator on a path holds or fails of the value at the path. -/
theorem accepts_operator (hpath : isOperatorName path = false) {name : String} {op : Operator}
    (hname : isOperatorName name = true) (hop : Operator.ofName? name = some op) (b : Value) :
    accepts doc [(path, .document [(name, b)])] = op.holds (Path.lookup doc path) b := by
  have hnot : name ≠ "$not" := by
    rintro rfl
    cases hop
  rw [accepts_path hpath, conditionHolds_single hname, operatorHolds, if_neg hnot, hop]

theorem accepts_not (hpath : isOperatorName path = false) (condition : Value) :
    accepts doc [(path, .document [("$not", condition)])] = !accepts doc [(path, condition)] := by
  have hname : isOperatorName "$not" = true := by decide
  rw [accepts_path hpath, accepts_path hpath, conditionHolds_single hname, operatorHolds, if_pos rfl]

end BulkSweep.Filter

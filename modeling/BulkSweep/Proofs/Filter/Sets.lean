import BulkSweep.Proofs.Filter.Conditions

/-!
# Filters on sets

To be in a set is to be equal to one of its members, and to be in none of them is the contrary, whatever
the value at the path is: a list is in a set if it is a member or one of its items is.  Only as many
members are looked at as `maxSetSize` says (`accepts_sets`); those behind them might as well be missing
(`accepts_set_beginning`).
-/

set_option autoImplicit false

namespace BulkSweep.Filter

variable {doc : Document} {path : String}

/-- A value is in a set if it equals a member at its beginning. -/
theorem holds_isIn (value : Option Value) (set : List Value) :
    Operator.isIn.holds value (.array set)
      = (set.take maxSetSize).any fun member => Operator.eq.holds value member := by
  cases value with
  | none => exact (List.any_eq_false.mpr fun _ _ => Bool.false_ne_true).symm
  | some v => rfl

/-- What is in a set equals a member at its beginning. -/
theorem accepts_in (doc : Document) (path : String) (set : List Value) :
    accepts doc [(path, .document [("$in", .array set)])]
      = (set.take maxSetSize).any fun member =>
        accepts doc [(path, .document [("$eq", member)])] := by
  cases hpath : isOperatorName path with
  | true =>
      simp only [accepts_operatorName hpath]
      exact (List.any_eq_false.mpr fun _ _ => Bool.false_ne_true).symm
  | false =>
      have heq (member : Value) : accepts doc [(path, .document [("$eq", member)])]
          = Operator.eq.holds (Path.lookup doc path) member :=
        accepts_operator hpath (by decide) rfl member
      simp only [heq]
      rw [accepts_operator hpath (by decide) rfl, holds_isIn]

/-- On a path, to be in no set is the contrary of being in it. -/
theorem accepts_notIn (hpath : isOperatorName path = false) (set : List Value) :
    accepts doc [(path, .document [("$nin", .array set)])]
      = !accepts doc [(path, .document [("$in", .array set)])] := by
  rw [accepts_operator hpath (by decide) rfl, accepts_operator hpath (by decide) rfl]
  rfl

/-- What is in a set equals one of its first members, and what is not in a set equals none of them.  The
name of an operator is no path, and no document is accepted by either. -/
theorem accepts_sets (doc : Document) (path : String) (set : List Value) :
    (accepts doc [(path, .document [("$in", .array set)])] = true ↔
        ∃ member ∈ set.take maxSetSize,
          accepts doc [(path, .document [("$eq", member)])] = true) ∧
      (accepts doc [(path, .document [("$nin", .array set)])] = true ↔
        isOperatorName path = false ∧ ∀ member ∈ set.take maxSetSize,
          accepts doc [(path, .document [("$eq", member)])] = false) := by
  constructor
  · rw [accepts_in, List.any_eq_true]
  · cases hpath : isOperatorName path with
    | true => simp [accepts_operatorName hpath]
    | false =>
        rw [accepts_notIn hpath, accepts_in, Bool.not_eq_true', List.any_eq_false]
        simp

/-- A member behind `maxSetSize` others is not found, and a filter that is to spare it does not. -/
theorem accepts_set_beginning :
    let set := List.replicate maxSetSize (.int32 0) ++ [.int32 1]
    .int32 1 ∈ set ∧ accepts [("n", .int32 1)] [("n", .document [("$eq", .int32 1)])] = true ∧
      accepts [("n", .int32 1)] [("n", .document [("$in", .array set)])] = false ∧
      accepts [("n", .int32 1)] [("n", .document [("$nin", .array set)])] = true := by
  intro set
  have hin : accepts [("n", .int32 1)] [("n", .document [("$in", .array set)])] = false := by
    have hbeginning : set.take maxSetSize = List.replicate maxSetSize (.int32 0) :=
      List.take_left' List.length_replicate
    rw [accepts_in, hbeginning, List.any_eq_false]
    intro member hmember
    rw [List.eq_of_mem_replicate hmember]
    decide
  refine ⟨List.mem_append_right _ (List.mem_singleton_self _), by decide, hin, ?_⟩
  rw [accepts_notIn (by decide), hin]
  rfl

end BulkSweep.Filter

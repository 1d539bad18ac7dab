import BulkSweep.Proofs.Filter.Conditions
import BulkSweep.Proofs.Value.Coherence

/-!
# Ranges

A range is what a filter with `$gt` or `$lt` accepts.  As the order of values is coherent, ranges lie one
within another: what is above a value is above all that this value is above, and likewise below
(`ranges_nested`).
-/

set_option autoImplicit false

namespace BulkSweep.Filter

variable {b c : Value} {doc : Document} {path : String}

/-- What is greater than a value is greater than what this value is greater than. -/
theorem gt_holds_of_gt (h : b.order c = .gt) {value : Option Value}
    (hb : Operator.gt.holds value b = true) : Operator.gt.holds value c = true := by
  cases value with
  | none => cases hb
  | some v =>
      have hv : v.order b = .gt := eq_of_beq hb
      exact beq_iff_eq.mpr (Value.order_trans hv h)

/-- What is less than a value is less than what this value is less than. -/
theorem lt_holds_of_lt (h : b.order c = .lt) {value : Option Value}
    (hb : Operator.lt.holds value b = true) : Operator.lt.holds value c = true := by
  cases value with
  | none => cases hb
  | some v =>
      have hv : v.order b = .lt := eq_of_beq hb
      rw [← Std.OrientedCmp.gt_iff_lt] at h hv
      exact beq_iff_eq.mpr (Std.OrientedCmp.gt_iff_lt.mp (Value.order_trans h hv))

/-- If an operator holds for one argument wherever it holds for another, so do conditions on any path. -/
theorem accepts_mono {name : String} {op : Operator} (hname : isOperatorName name = true)
    (hop : Operator.ofName? name = some op)
    (h : ∀ value, op.holds value b = true → op.holds value c = true)
    (hb : accepts doc [(path, .document [(name, b)])] = true) :
    accepts doc [(path, .document [(name, c)])] = true := by
  cases hpath : isOperatorName path with
  | true =>
      rw [accepts_operatorName hpath] at hb
      cases hb
  | false =>
      rw [accepts_operator hpath hname hop] at hb ⊢
      exact h _ hb

/-- The order of values turns round with them, every value is equal to itself, and what is greater than a
greater value is greater.  Hence the ranges above a value and below it lie within those of every value
further down or up, at any path of any document. -/
theorem ranges_nested (a b c : Value) :
    b.order a = (a.order b).swap ∧ a.order a = .eq ∧
    (a.order b = .gt → b.order c = .gt → a.order c = .gt) ∧
    (b.order c = .gt → ∀ doc path, accepts doc [(path, .document [("$gt", b)])] = true →
      accepts doc [(path, .document [("$gt", c)])] = true) ∧
    (b.order c = .lt → ∀ doc path, accepts doc [(path, .document [("$lt", b)])] = true →
      accepts doc [(path, .document [("$lt", c)])] = true) := by
  have hgt : isOperatorName "$gt" = true := by decide
  have hlt : isOperatorName "$lt" = true := by decide
  refine ⟨Value.order_swap a b, Std.ReflCmp.compare_self, Value.order_trans, ?_, ?_⟩
  · intro horder doc path
    exact accepts_mono hgt rfl fun value => gt_holds_of_gt horder
  · intro horder doc path
    exact accepts_mono hlt rfl fun value => lt_holds_of_lt horder

/-- A decimal that is no number is above zero, and zero is above negative zero. -/
theorem ranges_nested_of_zeros :
    (Value.decimal (.nan false false)).order (.double .zero) = .gt ∧
      (Value.double .zero).order (.double (.ofParts true 0)) = .gt ∧
      accepts [("k", .decimal (.nan false false))] [("k", .document [("$gt", .double .zero)])] = true ∧
      (Value.decimal (.nan false false)).order (.double (.ofParts true 0)) = .gt ∧
      accepts [("k", .decimal (.nan false false))]
        [("k", .document [("$gt", .double (.ofParts true 0))])] = true := by
  obtain ⟨-, -, htrans, hgt, -⟩ :=
    ranges_nested (.decimal (.nan false false)) (.double .zero) (.double (.ofParts true 0))
  have habove : (Value.decimal (.nan false false)).order (.double .zero) = .gt := by decide
  have hzeros : (Value.double .zero).order (.double (.ofParts true 0)) = .gt := by decide
  have hfound : accepts [("k", .decimal (.nan false false))]
      [("k", .document [("$gt", .double .zero)])] = true := by decide
  exact ⟨habove, hzeros, hfound, htrans habove hzeros, hgt hzeros _ _ hfound⟩

/-- Being equal is not handed on: a symbol is equal to two texts of which one is greater. -/
example : (Value.string "b").order (.symbol "s") = .eq ∧ (Value.symbol "s").order (.string "a") = .eq ∧
    (Value.string "b").order (.string "a") = .gt := by
  decide

end BulkSweep.Filter

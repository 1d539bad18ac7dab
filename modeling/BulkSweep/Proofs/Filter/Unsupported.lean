import BulkSweep.Proofs.Filter.Conditions

/-!
# Operators that do not exist

An operator that does not exist holds of nothing.  So a filter accepts no document as long as it demands
one (`Demands`): in a condition on a path, in place of a path, in a clause of `$and`, or in all clauses of
`$or`.  But it is no error: it counts as false, and what is false is turned round by a negation.  Under
`$not` such a condition holds of everything, and a clause of `$nor` that demands it rules nothing out
(`accepts_unsupported`, `negation_accepts_unsupported`).
-/

set_option autoImplicit false

namespace BulkSweep.Filter

/-- A name that is not the one of an operator on a value. -/
def Unsupported (name : String) : Prop :=
  name ≠ "$not" ∧ Operator.ofName? name = none

/-- Operators on a value one of which does not exist. -/
structure Unmeetable (operators : Document) : Prop where
  /-- they are operators -/
  isOperators : isOperatorDocument operators = true
  /-- one of them does not exist -/
  unsupported : ∃ field ∈ operators, Unsupported field.1

/-- A filter that demands an operator which does not exist. -/
inductive Demands : Document → Prop where
  /-- in a condition on a path -/
  | condition {filter operators : Document} {path : String}
      (hfield : (path, .document operators) ∈ filter) (hoperators : Unmeetable operators) :
      Demands filter
  /-- in place of a path -/
  | name {filter : Document} {name : String} {argument : Value}
      (hfield : (name, argument) ∈ filter) (hname : isOperatorName name = true)
      (hjoins : name ∉ joins) : Demands filter
  /-- in a filter among those that all have to accept -/
  | every {filter clause : Document} {clauses : List Value}
      (hfield : ("$and", .array clauses) ∈ filter) (hclause : .document clause ∈ clauses)
      (hdemands : Demands clause) : Demands filter
  /-- in each filter of those one of which has to accept -/
  | one {filter : Document} {clauses : List Value} (hfield : ("$or", .array clauses) ∈ filter)
      (hdemands : ∀ clause, .document clause ∈ clauses → Demands clause) : Demands filter

/-- A condition under so many negations. -/
def negated : Nat → Value → Value
  | 0, condition => condition
  | depth + 1, condition => .document [("$not", negated depth condition)]

variable {doc filter clause operators : Document} {clauses before after : List Value}
  {path name : String} {argument : Value}

/-! ## Conditions -/

theorem operatorsHold_unsupported (value : Option Value)
    (h : ∃ field ∈ operators, Unsupported field.1) : operatorsHold value operators = false := by
  obtain ⟨field, hfield, hnot, hname⟩ := h
  have hrefused : operatorHolds value field = false := by
    rw [operatorHolds, if_neg hnot, hname]
  rw [operatorsHold_eq_all, List.all_eq_false]
  exact ⟨field, hfield, ne_true_of_eq_false hrefused⟩

theorem Unmeetable.conditionHolds_eq_false (h : Unmeetable operators) (value : Option Value) :
    Filter.conditionHolds value (.document operators) = false := by
  rw [Filter.conditionHolds, h.isOperators, if_pos rfl, operatorsHold_unsupported value h.unsupported]

/-! ## Whole filters -/

/-- A filter accepts nothing that one of its conditions refuses. -/
theorem accepts_of_field (hmem : (name, argument) ∈ filter)
    (hfield : acceptsField doc name argument = false) : accepts doc filter = false := by
  rw [accepts_eq_all, List.all_eq_false]
  exact ⟨(name, argument), hmem, ne_true_of_eq_false hfield⟩

theorem acceptsAll_of_mem (hclause : .document clause ∈ clauses)
    (hrefused : accepts doc clause = false) : acceptsAll doc clauses = false := by
  rw [acceptsAll_eq_all, List.all_eq_false]
  exact ⟨.document clause, hclause, ne_true_of_eq_false hrefused⟩

theorem acceptsAny_append (doc : Document) (before after : List Value) :
    acceptsAny doc (before ++ after) = (acceptsAny doc before || acceptsAny doc after) := by
  rw [acceptsAny_eq_any, acceptsAny_eq_any, acceptsAny_eq_any, List.any_append]

/-- A clause that does not accept is no help to the others. -/
theorem acceptsAny_without (hrefused : accepts doc clause = false) :
    acceptsAny doc (before ++ .document clause :: after) = acceptsAny doc (before ++ after) := by
  rw [acceptsAny_append, acceptsAny_append, acceptsAny, hrefused, Bool.false_or]

theorem acceptsAny_of_forall
    (h : ∀ clause, .document clause ∈ clauses → accepts doc clause = false) :
    acceptsAny doc clauses = false := by
  rw [acceptsAny_eq_any, List.any_eq_false]
  intro clause hclause
  cases clause with
  | document fields => exact ne_true_of_eq_false (h fields hclause)
  | _ => exact Bool.false_ne_true

/-- Outside the operators that join filters, the name of an operator accepts nothing. -/
theorem acceptsField_operatorName (hname : isOperatorName name = true) (hjoins : name ∉ joins)
    (argument : Value) : acceptsField doc name argument = false := by
  rw [acceptsField_of_not_joins hjoins, hname, Bool.not_true, Bool.false_and]

/-- A filter that demands an operator which does not exist accepts nothing. -/
theorem Demands.not_accepts (h : Demands filter) (doc : Document) : accepts doc filter = false := by
  induction h with
  | @condition filter operators path hfield hoperators =>
      refine accepts_of_field hfield ?_
      rw [acceptsField]
      · split
        · rfl
        · exact hoperators.conditionHolds_eq_false _
      · intro _ heq
        cases heq
  | name hfield hname hjoins =>
      exact accepts_of_field hfield (acceptsField_operatorName hname hjoins _)
  | every hfield hclause _ ih =>
      refine accepts_of_field hfield ?_
      rw [acceptsField, if_pos rfl, acceptsAll_of_mem hclause ih, Bool.and_false]
  | one hfield _ ih =>
      refine accepts_of_field hfield ?_
      rw [acceptsField, if_neg (by decide), if_pos rfl, acceptsAny_of_forall ih, Bool.and_false]

/-- A negation turns round what a condition says of a path; on the name of an operator nothing does. -/
theorem accepts_negated (h : Unmeetable operators) (doc : Document) (path : String) (depth : Nat) :
    accepts doc [(path, negated depth (.document operators))]
      = (!isOperatorName path && decide (depth % 2 = 1)) := by
  have hnone : accepts doc [(path, .document operators)] = false :=
    (Demands.condition (List.mem_singleton_self _) h).not_accepts doc
  cases hpath : isOperatorName path with
  | true =>
      cases depth with
      | zero => exact hnone
      | succ depth => exact accepts_operatorName hpath _
  | false =>
      induction depth with
      | zero => exact hnone
      | succ depth ih =>
          rw [negated, accepts_not hpath, ih, Bool.not_false, Bool.true_and, Bool.true_and,
            ← decide_not, decide_eq_decide]
          omega

/-- An operator that does not exist counts as false.  A filter that demands one accepts no document.
Under negations such a condition on a path holds of every document if their number is odd and of none if
it is even, and among the clauses of `$nor` a filter that demands such an operator might as well be
missing. -/
theorem accepts_unsupported (doc : Document) :
    (∀ filter, Demands filter → accepts doc filter = false) ∧
      (∀ operators, Unmeetable operators → ∀ path depth,
        accepts doc [(path, negated depth (.document operators))]
          = (!isOperatorName path && decide (depth % 2 = 1))) ∧
      ∀ clause, Demands clause → ∀ before after,
        accepts doc [("$nor", .array (before ++ .document clause :: after))]
          = (isClauseList (.array (before ++ .document clause :: after)) &&
              !acceptsAny doc (before ++ after)) := by
  refine ⟨fun filter h => h.not_accepts doc, fun operators h path depth =>
    accepts_negated h doc path depth, fun clause h before after => ?_⟩
  rw [accepts, accepts, Bool.and_true, acceptsField, if_neg (by decide), if_neg (by decide),
    if_pos rfl, acceptsAny_without (h.not_accepts doc)]

/-- A regular expression beside an operator that exists, and a condition in place of a path. -/
theorem accepts_unsupported_of_pattern :
    let pattern : Document := [("$exists", .boolean true), ("$regex", .string "^x")]
    let doc : Document := [("a", .int32 1)]
    accepts doc [("$or", .array [.document [("a", .document pattern)],
        .document [("$where", .string "true")]])] = false ∧
      accepts doc [("a", negated 2 (.document pattern))] = false ∧
      accepts doc [("$nor", .array [.document [("$where", .string "true")],
        .document [("a", .int32 1)]])] = false := by
  intro pattern doc
  have hpattern : Unmeetable pattern :=
    ⟨by decide, ("$regex", .string "^x"), by simp [pattern], by decide, rfl⟩
  have hwhere : Demands [("$where", .string "true")] :=
    .name (List.mem_singleton_self _) (by decide) (by decide)
  have hboth : Demands [("$or", .array [.document [("a", .document pattern)],
      .document [("$where", .string "true")]])] := by
    refine .one (List.mem_singleton_self _) fun clause hclause => ?_
    rcases List.mem_cons.mp hclause with heq | hclause
    · cases heq
      exact .condition (List.mem_singleton_self _) hpattern
    · cases List.mem_singleton.mp hclause
      exact hwhere
  obtain ⟨hnone, hnegated, hnor⟩ := accepts_unsupported doc
  exact ⟨hnone _ hboth, hnegated _ hpattern "a" 2,
    (hnor _ hwhere [] [.document [("a", .int32 1)]]).trans (by decide)⟩

/-- A negation accepts documents on the ground of an operator that does not exist. -/
theorem negation_accepts_unsupported :
    let pattern : Document := [("$regex", .string "^x")]
    Unmeetable pattern ∧ "$where" ∉ joins ∧
      accepts [("a", .int32 1)] [("a", .document [("$not", .document pattern)])] = true ∧
      accepts [("a", .int32 1)] [("$nor", .array [.document [("a", .document pattern)]])] = true ∧
      accepts [("a", .int32 1)]
        [("$nor", .array [.document [("$where", .string "true")]])] = true := by
  refine ⟨⟨by decide, _, List.mem_singleton_self _, by decide, rfl⟩, by decide, by decide, by decide,
    by decide⟩

end BulkSweep.Filter

import BulkSweep.Proofs.Filter.Unsupported
import BulkSweep.Proofs.Value.Reordering

/-!
# Filters on fields in other places

What a filter says of a document depends neither on the order of the document's fields nor on that of its
own (`accepts_reordering`).  Only the first name of a condition tells whether the condition holds
operators, so a filter must not have a condition in which operators and other names are mixed (`Uniform`).
-/

set_option autoImplicit false

namespace BulkSweep.Filter

/-! ## Conditions of one kind -/

/-- A condition that holds operators alone or none, and so do those that it negates. -/
inductive UniformCondition : Value → Prop where
  /-- only operators -/
  | operators {fields : Document} (hnames : ∀ field ∈ fields, isOperatorName field.1 = true)
      (hnegated : ∀ argument, ("$not", argument) ∈ fields → UniformCondition argument) :
      UniformCondition (.document fields)
  /-- a document to compare with, without operators -/
  | literal {fields : Document} (hnames : ∀ field ∈ fields, isOperatorName field.1 = false) :
      UniformCondition (.document fields)
  /-- any other value to compare with -/
  | other {condition : Value} (hother : ∀ fields, condition ≠ .document fields) :
      UniformCondition condition

/-- A filter in which no condition mixes operators with other names, at any depth of clauses. -/
inductive Uniform : Document → Prop where
  /-- each condition under a path is of one kind, and so are those in the clauses that are joined -/
  | intro {filter : Document}
      (hconditions : ∀ field ∈ filter, isOperatorName field.1 = false → UniformCondition field.2)
      (hclauses : ∀ name ∈ joins, ∀ clauses, (name, .array clauses) ∈ filter →
        ∀ clause, .document clause ∈ clauses → Uniform clause) : Uniform filter

variable {v v' target target' set set' argument argument' condition condition' : Value}
  {found found' : Option Value} {doc doc' filter filter' fields : Document} {name : String}

/-! ## Comparing one value -/

theorem sameNumber_reordering (hv : v.Reordering v') (htarget : target.Reordering target') :
    sameNumber v target = sameNumber v' target' := by
  rw [sameNumber, sameNumber, hv.isNumber_eq, htarget.isNumber_eq, Value.order_reordering hv htarget]

theorem equalsItself_reordering (hv : v.Reordering v') (htarget : target.Reordering target') :
    equalsItself v target = equalsItself v' target' := by
  have hbeq : (v == target) = (v' == target') := Value.beq_reordering hv htarget
  rw [equalsItself, equalsItself, hbeq, sameNumber_reordering hv htarget]

theorem equals_reordering (hv : v.Reordering v') (htarget : target.Reordering target') :
    equals v target = equals v' target' := by
  unfold equals
  rw [equalsItself_reordering hv htarget]
  cases v with
  | array items =>
      obtain ⟨items', rfl, hitems⟩ := hv.array_left
      exact congrArg _ (Value.any_eq_of_forall₂ hitems fun _ _ hitem =>
        equalsItself_reordering hitem htarget)
  | _ => cases hv.reordered <;> rfl

theorem inSet_reordering (hv : v.Reordering v') (hset : set.Reordering set') :
    inSet v set = inSet v' set' := by
  cases set with
  | array items =>
      obtain ⟨items', rfl, hitems⟩ := hset.array_left
      exact Value.any_eq_of_forall₂ (List.forall₂_take _ hitems) fun _ _ hitem =>
        equals_reordering hv hitem
  | _ => cases hset.reordered <;> rfl

theorem truthy_reordering (hv : v.Reordering v') : truthy v = truthy v' := by
  cases hv.reordered <;> rfl

/-! ## Operators -/

theorem Operator.holds_reordering (op : Operator) (hfound : Option.Rel Value.Reordering found found')
    (hargument : argument.Reordering argument') :
    op.holds found argument = op.holds found' argument' := by
  have hequals : found.any (equals · argument) = found'.any (equals · argument') :=
    Value.any_eq_of_rel hfound fun _ _ hv => equals_reordering hv hargument
  have hset : found.any (inSet · argument) = found'.any (inSet · argument') :=
    Value.any_eq_of_rel hfound fun _ _ hv => inSet_reordering hv hargument
  have horder (accepted : Ordering → Bool) :
      found.any (fun v => accepted (v.order argument))
        = found'.any (fun v => accepted (v.order argument')) :=
    Value.any_eq_of_rel hfound fun _ _ hv => congrArg accepted (Value.order_reordering hv hargument)
  have hsome : found.isSome = found'.isSome := by
    cases hfound <;> rfl
  cases op with
  | eq => exact hequals
  | ne => exact congrArg not hequals
  | gt => exact horder (· == .gt)
  | gte => exact horder (· != .lt)
  | lt => exact horder (· == .lt)
  | lte => exact horder (· != .gt)
  | isIn => exact hset
  | notIn => exact congrArg not hset
  | existing => rw [holds, holds, hsome, truthy_reordering hargument]

theorem operatorHolds_reordering (hfound : Option.Rel Value.Reordering found found')
    (hargument : argument.Reordering argument')
    (hnot : name = "$not" → conditionHolds found argument = conditionHolds found' argument') :
    operatorHolds found (name, argument) = operatorHolds found' (name, argument') := by
  unfold operatorHolds
  split
  · rename_i hname
    rw [hnot hname]
  · cases Operator.ofName? name with
    | none => rfl
    | some op => exact op.holds_reordering hfound hargument

/-! ## Conditions -/

/-- Where all names are of one kind any of them tells which. -/
theorem isOperatorDocument_of_forall {b : Bool} (h : ∀ field ∈ fields, isOperatorName field.1 = b) :
    isOperatorDocument fields = (b && !fields.isEmpty) := by
  cases fields with
  | nil => exact (Bool.and_false b).symm
  | cons field rest => exact (h field List.mem_cons_self).trans (Bool.and_true b).symm

theorem isOperatorDocument_reordering {d e : Document} {b : Bool} (h : d.Reordering e)
    (hnames : ∀ field ∈ d, isOperatorName field.1 = b) :
    isOperatorDocument d = isOperatorDocument e := by
  have hother : ∀ field ∈ e, isOperatorName field.1 = b := by
    intro field hfield
    have hkey : field.1 ∈ Document.keys d :=
      h.keys_perm.mem_iff.mpr (List.mem_map_of_mem hfield)
    obtain ⟨own, hown, hsame⟩ := List.mem_map.mp hkey
    exact hsame ▸ hnames own hown
  have hempty : d.isEmpty = e.isEmpty := by
    rw [Bool.eq_iff_iff, List.isEmpty_iff_length_eq_zero, List.isEmpty_iff_length_eq_zero, h.length_eq]
  rw [isOperatorDocument_of_forall hnames, isOperatorDocument_of_forall hother, hempty]

theorem conditionHolds_of_ne (h : ∀ fields, condition ≠ .document fields) (found : Option Value) :
    conditionHolds found condition = found.any (equals · condition) := by
  cases condition with
  | document fields => exact absurd rfl (h fields)
  | _ => simp [conditionHolds]

/-- A condition of one kind says the same of a value and of its reordering. -/
theorem conditionHolds_reordering (huniform : UniformCondition condition)
    (hfound : Option.Rel Value.Reordering found found') (h : condition.Reordering condition') :
    conditionHolds found condition = conditionHolds found' condition' := by
  have hequals {condition condition' : Value} (h : condition.Reordering condition') :
      found.any (equals · condition) = found'.any (equals · condition') :=
    Value.any_eq_of_rel hfound fun _ _ hv => equals_reordering hv h
  induction huniform generalizing condition' with
  | @operators fields hnames _ ih =>
      obtain ⟨fields', rfl, hfields⟩ := h.document_left
      have hoperators : operatorsHold found fields = operatorsHold found' fields' := by
        rw [operatorsHold_eq_all, operatorsHold_eq_all]
        refine hfields.all_eq fun name argument argument' hfield hargument => ?_
        refine operatorHolds_reordering hfound hargument fun hnot => ?_
        exact ih argument (hnot ▸ hfield) hargument
      rw [conditionHolds, conditionHolds, ← isOperatorDocument_reordering hfields hnames, hequals h,
        hoperators]
  | literal hnames =>
      obtain ⟨fields', rfl, hfields⟩ := h.document_left
      have hliteral := isOperatorDocument_of_forall hnames
      rw [conditionHolds, conditionHolds, ← isOperatorDocument_reordering hfields hnames, hliteral]
      exact hequals h
  | other hother =>
      have hother' : ∀ fields, condition' ≠ .document fields := by
        rintro fields rfl
        cases h.reordered with
        | refl | document => exact hother _ rfl
      rw [conditionHolds_of_ne hother, conditionHolds_of_ne hother', hequals h]

/-! ## Whole filters -/

theorem isClauseList_reordering {clauses clauses' : List Value}
    (h : List.Forall₂ Value.Reordering clauses clauses') :
    isClauseList (.array clauses) = isClauseList (.array clauses') := by
  have hempty : clauses.isEmpty = clauses'.isEmpty := by
    cases h <;> rfl
  simp only [isClauseList]
  rw [hempty]
  refine congrArg _ (Value.all_eq_of_forall₂ h fun clause clause' hclause => ?_)
  cases hclause.reordered <;> rfl

/-- What stands under one name says the same of a document and of its reordering, if all clauses in it
do. -/
theorem acceptsField_reordering (hdoc : doc.Reordering doc') (h : condition.Reordering condition')
    (huniform : isOperatorName name = false → UniformCondition condition)
    (hclauses : name ∈ joins → ∀ clauses, condition = .array clauses → ∀ clause ∈ clauses,
      ∀ clause', clause.Reordering clause' → clauseAccepts doc clause = clauseAccepts doc' clause') :
    acceptsField doc name condition = acceptsField doc' name condition' := by
  by_cases hjoins : name ∈ joins
  · have hname := isOperatorName_of_joins hjoins
    cases condition with
    | array clauses =>
        obtain ⟨clauses', rfl, hitems⟩ := h.array_left
        have hverdicts : List.Forall₂ (fun clause clause' =>
            clauseAccepts doc clause = clauseAccepts doc' clause') clauses clauses' :=
          ((List.forall₂_and_left clauses clauses').mpr ⟨hclauses hjoins clauses rfl, hitems⟩).imp
            fun clause clause' hclause => hclause.1 clause' hclause.2
        have hall : acceptsAll doc clauses = acceptsAll doc' clauses' := by
          rw [acceptsAll_eq_all, acceptsAll_eq_all]
          exact Value.all_eq_of_forall₂ hverdicts fun _ _ hverdict => hverdict
        have hany : acceptsAny doc clauses = acceptsAny doc' clauses' := by
          rw [acceptsAny_eq_any, acceptsAny_eq_any]
          exact Value.any_eq_of_forall₂ hverdicts fun _ _ hverdict => hverdict
        simp only [acceptsField, isClauseList_reordering hitems, hall, hany, hname, if_true]
    | _ => cases h.reordered <;> simp [acceptsField, hname]
  · rw [acceptsField_of_not_joins hjoins, acceptsField_of_not_joins hjoins]
    cases hname : isOperatorName name with
    | true => rfl
    | false => rw [conditionHolds_reordering (huniform hname) (hdoc.lookup_rel name) h]

/-- A filter says the same of a document and of its reordering, in whatever order its own fields are. -/
theorem accepts_reordering (huniform : Uniform filter) (hdoc : doc.Reordering doc')
    (hfilter : filter.Reordering filter') : accepts doc filter = accepts doc' filter' := by
  induction huniform generalizing filter' with
  | intro hconditions _ ih =>
      rw [accepts_eq_all, accepts_eq_all]
      refine hfilter.all_eq fun name condition condition' hfield hcondition => ?_
      refine acceptsField_reordering hdoc hcondition (hconditions (name, condition) hfield) ?_
      rintro hjoins clauses rfl clause hclause clause' hreordering
      cases clause with
      | document fields =>
          obtain ⟨fields', rfl, hfields⟩ := hreordering.document_left
          exact ih name hjoins clauses hfield fields hclause hfields
      | _ => cases hreordering.reordered <;> rfl

/-- Two orders of a document with a document in it, and of a filter with operators under a negation in a
clause. -/
theorem accepts_reordering_of_negation :
    let person : Document := [("name", .string "ann"), ("age", .int32 30)]
    let person' : Document := [("age", .int32 30), ("name", .string "ann")]
    let range : Document := [("$lt", .int32 0), ("$gt", .int32 9)]
    let range' : Document := [("$gt", .int32 9), ("$lt", .int32 0)]
    let clause : Document := [("n", .document [("$not", .document range), ("$exists", .boolean true)])]
    let clause' : Document := [("n", .document [("$exists", .boolean true), ("$not", .document range')])]
    let doc : Document := [("n", .int32 5), ("user", .document person)]
    let doc' : Document := [("user", .document person'), ("n", .int32 5)]
    let filter : Document := [("$and", .array [.document clause]), ("user", .document person)]
    let filter' : Document := [("user", .document person), ("$and", .array [.document clause'])]
    Uniform filter ∧ doc.Reordering doc' ∧ filter.Reordering filter' ∧
      accepts doc filter = true ∧ accepts doc' filter' = true := by
  intro person person' range range' clause clause' doc doc' filter filter'
  have hpair {first second : String} {v w : Value} (hnames : [first, second].Nodup)
      (hv : v.Distinct) (hw : w.Distinct) : (Value.document [(first, v), (second, w)]).Distinct :=
    .document hnames (List.forall_mem_cons.mpr ⟨hv, List.forall_mem_singleton.mpr hw⟩)
  have hperson : (Value.document person).Distinct := hpair (by decide) (.atom rfl) (.atom rfl)
  have hrange : (Value.document range).Distinct := hpair (by decide) (.atom rfl) (.atom rfl)
  have hclause : (Value.document clause).Distinct :=
    .document (by decide)
      (List.forall_mem_singleton.mpr (hpair (by decide) hrange (.atom rfl)))
  have hdoc : doc.Reordering doc' := by
    refine ⟨hpair (by decide) (.atom rfl) hperson, ?_⟩
    refine .document (.cons (.refl _) (.cons ?_ .nil)) (.swap _ _ _)
    exact .document (.refl .refl person) (.swap _ _ _)
  have hfilter : filter.Reordering filter' := by
    have hclauses : (Value.array [.document clause]).Distinct :=
      .array (List.forall_mem_singleton.mpr hclause)
    refine ⟨hpair (by decide) hclauses hperson, ?_⟩
    refine .document (.cons ?_ (.cons (.refl _) .nil)) (.swap _ _ _)
    refine .array (.cons (.document (.cons ?_ .nil) (.refl _)) .nil)
    refine .document (.cons ?_ (.cons (.refl _) .nil)) (.swap _ _ _)
    exact .document (.refl .refl range) (.swap _ _ _)
  have huniform : Uniform filter := by
    have hrange : UniformCondition (.document range) := .operators (by decide) (by simp [range])
    have hcondition : UniformCondition
        (.document [("$not", .document range), ("$exists", .boolean true)]) :=
      .operators (by decide) (by simp [hrange])
    have hclause : Uniform clause :=
      .intro (by simp [clause, hcondition]) (by simp [clause, joins])
    have hand : isOperatorName "$and" = true := by decide
    have hperson : UniformCondition (.document person) := .literal (by decide)
    exact .intro (by simp [filter, hand, hperson]) (by simp [filter, joins, hclause])
  have haccepts : accepts doc filter = true := by decide
  exact ⟨huniform, hdoc, hfilter, haccepts,
    (accepts_reordering huniform hdoc hfilter).symm.trans haccepts⟩

/-- Where operators and other names are mixed the order tells what the condition is. -/
example :
    let doc : Document := [("a", .document [("b", .int32 2), ("$gt", .int32 1)])]
    accepts doc [("a", .document [("b", .int32 2), ("$gt", .int32 1)])] = true ∧
      accepts doc [("a", .document [("$gt", .int32 1), ("b", .int32 2)])] = false := by
  decide

end BulkSweep.Filter

import BulkSweep.Value.Order

/-!
# Coherence of the order of values

Values of one kind are ordered by what they hold, all others by their types alone (`Peers`,
`order_of_not_peers`).  So the order of two values turns round with them (`order_swap`), and what is
greater than a greater value is greater (`order_trans`), whatever three types meet.  Being equal is not
handed on like this: a symbol is equal to every text, as it shares their place among the types.
-/

set_option autoImplicit false

namespace BulkSweep

open BulkSweep.Numeric

instance : Std.TransCmp Binary64.totalOrder :=
  inferInstanceAs (Std.TransCmp (compareOn Binary64.rank))

namespace Value

variable {a b c : Value} {o o' : Ordering}

/-! ## Values of one kind -/

/-- Two values of a kind that is ordered by what its values hold, and how they are ordered by it. -/
inductive Peers : Value → Value → Ordering → Prop
  | number {a b : Value} (x y : Binary64) (ha : a.toBinary64? = some x) (hb : b.toBinary64? = some y) :
      Peers a b (x.totalOrder y)
  | string (x y : String) : Peers (string x) (string y) (compare x y)
  | boolean (x y : Bool) : Peers (boolean x) (boolean y) (compare x y)
  | date (x y : Int64) : Peers (date x) (date y) (compare x.toInt y.toInt)
  | objectId (x y : ObjectId) :
      Peers (objectId x) (objectId y) (compare x.bits.toNat y.bits.toNat)
  | timestamp (s i t j : UInt32) : Peers (timestamp s i) (timestamp t j)
      ((compare s.toNat t.toNat).then (compare i.toNat j.toNat))

theorem Peers.order_eq (h : Peers a b o) : a.order b = o := by
  cases h with
  | number x y ha hb =>
      unfold order
      rw [ha, hb]
  | _ => rfl

/-- Values of two kinds, and those of a kind that does not look inside, are ordered by their types. -/
theorem order_of_not_peers (h : ∀ o, ¬Peers a b o) :
    a.order b = compare a.typeRank b.typeRank := by
  fun_cases order a b with
  | case1 _ _ x y hb ha => exact absurd (.number x y ha hb) (h _)
  | case2 x y => exact absurd (.string x y) (h _)
  | case3 x y => exact absurd (.boolean x y) (h _)
  | case4 x y => exact absurd (.date x y) (h _)
  | case5 x y => exact absurd (.objectId x y) (h _)
  | case6 s i t j => exact absurd (.timestamp s i t j) (h _)
  | case7 => rfl

theorem typeRank_of_number {x : Binary64} (h : a.toBinary64? = some x) : a.typeRank = 2 := by
  cases a with
  | int32 | int64 | double | decimal => rfl
  | _ => cases h

/-- Values of one kind have one place among the types. -/
theorem Peers.typeRank_eq (h : Peers a b o) : a.typeRank = b.typeRank := by
  cases h with
  | number x y ha hb => rw [typeRank_of_number ha, typeRank_of_number hb]
  | _ => rfl

theorem Peers.swap (h : Peers a b o) : Peers b a o.swap := by
  cases h with
  | number x y ha hb =>
      rw [← Std.OrientedCmp.eq_swap]
      exact .number y x hb ha
  | timestamp s i t j =>
      rw [Ordering.swap_then, ← Std.OrientedOrd.eq_swap, ← Std.OrientedOrd.eq_swap]
      exact .timestamp t j s i
  | _ =>
      rw [← Std.OrientedOrd.eq_swap]
      constructor

/-- Among three values of one kind, being greater is handed on. -/
theorem Peers.trans (h : Peers a b o) (h' : Peers b c o') :
    ∃ o'', Peers a c o'' ∧ (o = .gt → o' = .gt → o'' = .gt) := by
  cases h with
  | number x y ha hb =>
      cases h' with
      | number y' z hb' hc =>
          obtain rfl : y = y' := Option.some.inj (hb.symm.trans hb')
          exact ⟨_, .number x z ha hc, Std.TransCmp.gt_trans⟩
      | _ => cases hb
  | timestamp s i t j =>
      cases h' with
      | number _ _ hb => cases hb
      | timestamp _ _ u k =>
          have htrans := @Std.TransCmp.gt_trans _ (compareLex (compareOn Prod.fst) (compareOn Prod.snd)) _
            (s.toNat, i.toNat) (t.toNat, j.toNat) (u.toNat, k.toNat)
          exact ⟨_, .timestamp s i u k, htrans⟩
  | _ =>
      cases h' with
      | number _ _ hb => cases hb
      | _ =>
          refine ⟨_, ?_, Std.TransCmp.gt_trans⟩
          constructor

/-! ## All values -/

/-- The order of two values turns round with them. -/
theorem order_swap (a b : Value) : b.order a = (a.order b).swap := by
  by_cases h : ∃ o, Peers a b o
  · obtain ⟨o, ho⟩ := h
    rw [ho.order_eq, ho.swap.order_eq]
  · rw [not_exists] at h
    rw [order_of_not_peers h, order_of_not_peers fun o ho => h o.swap ho.swap]
    exact Std.OrientedOrd.eq_swap

instance : Std.OrientedCmp order where
  eq_swap := order_swap _ _

/-- Of two values one is greater if its type is, or if the two are of one kind and it is greater there. -/
theorem order_eq_gt_iff : a.order b = .gt ↔ b.typeRank < a.typeRank ∨ Peers a b .gt := by
  constructor
  · intro hgt
    by_cases h : ∃ o, Peers a b o
    · obtain ⟨o, ho⟩ := h
      obtain rfl : o = .gt := ho.order_eq.symm.trans hgt
      exact .inr ho
    · rw [order_of_not_peers (not_exists.mp h)] at hgt
      exact .inl (Nat.compare_eq_gt.mp hgt)
  · rintro (hrank | hpeers)
    · rw [order_of_not_peers fun o ho => Nat.ne_of_gt hrank ho.typeRank_eq]
      exact Nat.compare_eq_gt.mpr hrank
    · exact hpeers.order_eq

/-- What is greater than a greater value is greater. -/
theorem order_trans (hab : a.order b = .gt) (hbc : b.order c = .gt) : a.order c = .gt := by
  rw [order_eq_gt_iff] at hab hbc ⊢
  -- Values of one kind share their place, so a step to another type decides wherever it is.
  rcases hab with hab | hab <;> rcases hbc with hbc | hbc
  · exact .inl (Nat.lt_trans hbc hab)
  · exact .inl (hbc.typeRank_eq ▸ hab)
  · exact .inl (hab.typeRank_eq ▸ hbc)
  · obtain ⟨o, hac, hgt⟩ := hab.trans hbc
    exact .inr (hgt rfl rfl ▸ hac)

end Value

end BulkSweep

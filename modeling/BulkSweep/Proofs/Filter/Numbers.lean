import BulkSweep.Proofs.Filter.Conditions
import BulkSweep.Proofs.Numeric.Places

/-!
# Filters on numbers

A filter compares two numbers by the doubles nearest to them, whatever their types are
(`accepts_numbers`).  It therefore takes two long integers for equal if they have one nearest double
(`accepts_inexactly`), but it never sees two numbers the wrong way round, and it is exact where
both numbers are doubles or integers of at most fifty-three bits, zeros of different signs apart.
-/

set_option autoImplicit false

namespace BulkSweep

open BulkSweep.Numeric

/-! ## Numbers -/

namespace Value

/-- The exact value of an integer or of a finite double, as a multiple of the least positive double. -/
def units? : Value → Option Int
  | int32 n => some (Binary64.integer n.toInt)
  | int64 n => some (Binary64.integer n.toInt)
  | double x => if x.isFinite then some x.units else none
  | _ => none

/-- The zero below zero, which is ordered before every other zero. -/
def IsNegativeZero : Value → Prop
  | double x => x.IsNegativeZero
  | _ => False

/-- If both numbers are zero, both are negative zero or neither is. -/
def ZerosAlike (a b : Value) : Prop :=
  a.units? = some 0 → b.units? = some 0 → (a.IsNegativeZero ↔ b.IsNegativeZero)

/-- Whether the value of a number is that of its nearest double for sure: a long integer must not have
more than fifty-three bits. -/
def isShort : Value → Bool
  | int64 n => n.toInt.natAbs ≤ 2 ^ 53
  | _ => true

variable {a b : Value} {x y : Int}

theorem units?_double {d : Binary64} (h : (double d).units? = some x) : d.units = x := by
  change (if d.isFinite then some d.units else none) = some x at h
  split at h
  · exact Option.some.inj h
  · cases h

/-- What the double nearest to a number has of it: the rounded value, and zeros with their signs. -/
structure NearestTo (a : Value) (x : Int) (d : Binary64) : Prop where
  /-- it is found -/
  found : a.toBinary64? = some d
  /-- it has the rounded value -/
  units : d.units = Binary64.nearestUnits x
  /-- only zero is rounded to zero -/
  zero : d.magnitude = 0 → x = 0
  /-- only negative zero is rounded to negative zero -/
  negativeZero : d.IsNegativeZero ↔ a.IsNegativeZero

theorem nearestTo_ofInt {n : Int} (hsize : n.natAbs < 2 ^ 64)
    (hfound : a.toBinary64? = some (Binary64.ofInt n)) (hplain : ¬a.IsNegativeZero) :
    a.NearestTo (Binary64.integer n) (Binary64.ofInt n) where
  found := hfound
  units := Binary64.units_ofInt hsize
  zero := fun hzero => Binary64.integer_eq_zero.mpr (Binary64.eq_zero_of_magnitude_ofInt hsize hzero)
  negativeZero := iff_of_false (Binary64.ofInt_not_negativeZero hsize) hplain

/-- There is a double nearest to a number. -/
theorem exists_nearestTo (h : a.units? = some x) : ∃ d, a.NearestTo x d := by
  cases a with
  | int32 n =>
      cases h
      have hlow := n.le_toInt
      have hhigh := n.toInt_lt
      exact ⟨_, nearestTo_ofInt (by omega) rfl id⟩
  | int64 n =>
      cases h
      have hlow := n.le_toInt
      have hhigh := n.toInt_lt
      exact ⟨_, nearestTo_ofInt (by omega) rfl id⟩
  | double d =>
      obtain rfl := units?_double h
      exact ⟨d, rfl, (Binary64.nearestUnits_units d).symm,
        fun hzero => Binary64.units_of_isZero (beq_iff_eq.mpr hzero), Iff.rfl⟩
  | _ => cases h

/-- The doubles nearest to numbers are zeros of different signs only if the numbers are. -/
theorem NearestTo.zerosAlike {d e : Binary64} (hd : a.NearestTo x d) (he : b.NearestTo y e)
    (ha : a.units? = some x) (hb : b.units? = some y) (h : a.ZerosAlike b) : d.ZerosAlike e := by
  intro hdzero hezero
  have hsigns : d.IsNegativeZero ↔ e.IsNegativeZero := by
    rw [hd.negativeZero, he.negativeZero]
    exact h (hd.zero hdzero ▸ ha) (he.zero hezero ▸ hb)
  have hiff : d.negative = true ↔ e.negative = true :=
    ⟨fun hneg => (hsigns.mp ⟨hneg, hdzero⟩).1, fun hneg => (hsigns.mpr ⟨hneg, hezero⟩).1⟩
  exact Bool.eq_iff_iff.mpr hiff

/-- Where one of the numbers is not zero, nothing is asked of zeros. -/
theorem zerosAlike_of_ne (ha : a.units? = some x) (hb : b.units? = some y) (hne : x ≠ 0 ∨ y ≠ 0) :
    a.ZerosAlike b := by
  intro hazero hbzero
  have hx : x = 0 := Option.some.inj (ha.symm.trans hazero)
  have hy : y = 0 := Option.some.inj (hb.symm.trans hbzero)
  exact absurd hne (by simp [hx, hy])

theorem isNumber_of_units? (h : a.units? = some x) : a.isNumber = true := by
  cases a with
  | int32 | int64 | double => rfl
  | _ => cases h

/-- Numbers are ordered as the doubles nearest to them. -/
theorem order_eq (ha : a.units? = some x) (hb : b.units? = some y) (hzeros : a.ZerosAlike b) :
    a.order b = compare (Binary64.nearestUnits x) (Binary64.nearestUnits y) := by
  obtain ⟨d, hd⟩ := exists_nearestTo ha
  obtain ⟨e, he⟩ := exists_nearestTo hb
  have horder : a.order b = d.totalOrder e := by
    unfold order
    rw [hd.found, he.found]
  rw [horder, ← hd.units, ← he.units, Binary64.totalOrder_eq (hd.zerosAlike he ha hb hzeros)]

/-- Numbers of one type that are equal have one value. -/
theorem eq_of_beq (hsame : (a == b) = true) (ha : a.units? = some x) (hb : b.units? = some y) :
    x = y := by
  change Value.beq a b = true at hsame
  cases a with
  | int32 n =>
      cases b with
      | int32 m =>
          obtain rfl : n = m := of_decide_eq_true hsame
          exact Option.some.inj (ha.symm.trans hb)
      | _ => cases hsame
  | int64 n =>
      cases b with
      | int64 m =>
          obtain rfl : n = m := of_decide_eq_true hsame
          exact Option.some.inj (ha.symm.trans hb)
      | _ => cases hsame
  | double d =>
      cases b with
      | double e =>
          rw [← units?_double ha, ← units?_double hb]
          exact Binary64.units_of_sameNumber hsame
      | _ => cases hsame
  | _ => cases ha

/-- The value of a short number is not rounded. -/
theorem nearestUnits_of_isShort (hshort : a.isShort = true) (ha : a.units? = some x) :
    Binary64.nearestUnits x = x := by
  cases a with
  | int32 n =>
      cases ha
      have hlow := n.le_toInt
      have hhigh := n.toInt_lt
      exact Binary64.nearestUnits_integer (by omega)
  | int64 n =>
      cases ha
      exact Binary64.nearestUnits_integer (of_decide_eq_true hshort)
  | double d =>
      obtain rfl := units?_double ha
      exact Binary64.nearestUnits_units d
  | _ => cases ha

end Value

/-! ## Conditions -/

namespace Filter

variable {a b : Value} {x y : Int} {doc : Document} {path : String}

/-- Equality of numbers is that of their nearest doubles. -/
theorem equals_numbers (ha : a.units? = some x) (hb : b.units? = some y) (hzeros : a.ZerosAlike b) :
    equals a b = (compare (Binary64.nearestUnits x) (Binary64.nearestUnits y) == .eq) := by
  have hnumber : sameNumber a b
      = (compare (Binary64.nearestUnits x) (Binary64.nearestUnits y) == .eq) := by
    rw [sameNumber, Value.isNumber_of_units? ha, Value.isNumber_of_units? hb, Value.order_eq ha hb hzeros]
    rfl
  have hitself : equalsItself a b = sameNumber a b := by
    unfold equalsItself
    cases hsame : a == b with
    | false => rfl
    | true =>
        rw [hnumber, Value.eq_of_beq hsame ha hb, Int.compare_eq_eq.mpr rfl]
        rfl
  unfold equals
  rw [hitself, hnumber]
  cases a with
  | array items => cases ha
  | _ => exact Bool.or_false _

/-- A document is accepted by the conditions on a number as the number at a path is ordered to it. -/
structure ComparesBy (doc : Document) (path : String) (b : Value) (order : Ordering) : Prop where
  /-- the number itself as a condition -/
  bare : accepts doc [(path, b)] = (order == .eq)
  /-- equal -/
  eq : accepts doc [(path, .document [("$eq", b)])] = (order == .eq)
  /-- not equal -/
  ne : accepts doc [(path, .document [("$ne", b)])] = (order != .eq)
  /-- greater -/
  gt : accepts doc [(path, .document [("$gt", b)])] = (order == .gt)
  /-- not less -/
  gte : accepts doc [(path, .document [("$gte", b)])] = (order != .lt)
  /-- less -/
  lt : accepts doc [(path, .document [("$lt", b)])] = (order == .lt)
  /-- not greater -/
  lte : accepts doc [(path, .document [("$lte", b)])] = (order != .gt)
  /-- the negation of any condition -/
  not : ∀ condition, accepts doc [(path, .document [("$not", condition)])]
    = !accepts doc [(path, condition)]

/-- Exactly one of less, equal and greater holds. -/
theorem ComparesBy.exactly_one {order : Ordering} (h : ComparesBy doc path b order) :
    (["$lt", "$eq", "$gt"].countP fun name => accepts doc [(path, .document [(name, b)])]) = 1 := by
  simp only [List.countP_cons, List.countP_nil, h.lt, h.eq, h.gt]
  cases order <;> rfl

/-- Conditions on a number see a number at a path as the doubles nearest to the two are ordered. -/
theorem comparesBy_nearest (hpath : isOperatorName path = false)
    (hlookup : Path.lookup doc path = some a) (ha : a.units? = some x) (hb : b.units? = some y)
    (hzeros : a.ZerosAlike b) :
    ComparesBy doc path b (compare (Binary64.nearestUnits x) (Binary64.nearestUnits y)) := by
  have hequals := equals_numbers ha hb hzeros
  have horder := Value.order_eq ha hb hzeros
  have hbare : accepts doc [(path, b)] = equals a b := by
    rw [accepts_path hpath, hlookup]
    cases b with
    | document fields => cases hb
    | _ => rfl
  have hop {name : String} {op : Operator} (hname : isOperatorName name = true)
      (hop : Operator.ofName? name = some op) :
      accepts doc [(path, .document [(name, b)])] = op.holds (some a) b := by
    rw [accepts_operator hpath hname hop, hlookup]
  constructor
  · rw [hbare, hequals]
  · rw [hop (by decide) rfl, Operator.holds, Option.any_some, hequals]
  · rw [hop (by decide) rfl, Operator.holds, Option.any_some, hequals]
    rfl
  · rw [hop (by decide) rfl, Operator.holds, Option.any_some, horder]
  · rw [hop (by decide) rfl, Operator.holds, Option.any_some, horder]
  · rw [hop (by decide) rfl, Operator.holds, Option.any_some, horder]
  · rw [hop (by decide) rfl, Operator.holds, Option.any_some, horder]
  · exact accepts_not hpath

/-- A filter compares a number at a path with another number by the doubles nearest to them, and exactly
one of less, equal and greater holds, unless both are zeros and just one of them is negative zero.  Short
numbers are their own nearest doubles, so that filters are exact for them.  No two numbers are ever seen
the wrong way round: at most, different numbers with one nearest double are taken for equal. -/
theorem accepts_numbers (doc : Document) (path : String) (a b : Value) (x y : Int)
    (hpath : isOperatorName path = false) (hlookup : Path.lookup doc path = some a)
    (ha : a.units? = some x) (hb : b.units? = some y) (hzeros : a.ZerosAlike b) :
    ∃ d e : Binary64, a.toBinary64? = some d ∧ b.toBinary64? = some e ∧
      ComparesBy doc path b (compare d.units e.units) ∧
      (["$lt", "$eq", "$gt"].countP fun name => accepts doc [(path, .document [(name, b)])]) = 1 ∧
      (a.isShort = true → b.isShort = true → ComparesBy doc path b (compare x y)) ∧
      (x = y → d.units = e.units) ∧
      (d.units ≠ e.units → compare d.units e.units = compare x y) := by
  obtain ⟨d, hd⟩ := Value.exists_nearestTo ha
  obtain ⟨e, he⟩ := Value.exists_nearestTo hb
  have hnearest := comparesBy_nearest hpath hlookup ha hb hzeros
  refine ⟨d, e, hd.found, he.found, ?_⟩
  rw [hd.units, he.units]
  refine ⟨hnearest, hnearest.exactly_one, fun hashort hbshort => ?_, congrArg Binary64.nearestUnits,
    fun hne => Binary64.compare_nearestUnits (hne ∘ Int.compare_eq_eq.mp)⟩
  rwa [Value.nearestUnits_of_isShort hashort ha, Value.nearestUnits_of_isShort hbshort hb] at hnearest

/-- A long integer in a nested document is compared with a double below it, and negative zero with one. -/
theorem accepts_numbers_of_long :
    accepts [("o", .document [("n", .int64 9007199254740993)])]
        [("o.n", .document [("$gt", .double ⟨0x4330000000000000⟩)])] = true ∧
      accepts [("n", .double (.ofParts true 0))] [("n", .document [("$lt", .int32 1)])] = true := by
  constructor
  · obtain ⟨d, e, hd, he, hcompares, -⟩ :=
      accepts_numbers [("o", .document [("n", .int64 9007199254740993)])] "o.n"
        (.int64 9007199254740993) (.double ⟨0x4330000000000000⟩) _ _ (by decide) rfl rfl rfl
        (Value.zerosAlike_of_ne rfl rfl (.inl (mt Binary64.integer_eq_zero.mp (by decide))))
    obtain rfl := Option.some.inj hd
    obtain rfl := Option.some.inj he
    rw [hcompares.gt]
    decide +kernel
  · obtain ⟨d, e, hd, he, -, -, hshort, -⟩ :=
      accepts_numbers [("n", .double (.ofParts true 0))] "n" (.double (.ofParts true 0)) (.int32 1)
        _ _ (by decide) rfl rfl rfl
        (Value.zerosAlike_of_ne rfl rfl (.inr (mt Binary64.integer_eq_zero.mp (by decide))))
    rw [(hshort rfl rfl).lt]
    decide +kernel

/-- Two long integers that differ are taken for equal, as they have one nearest double.  Negative zero is
both equal to zero and less, and is not equal to the integer zero. -/
theorem accepts_inexactly :
    (accepts [("n", .int64 9007199254740993)] [("n", .int64 9007199254740992)] = true ∧
      accepts [("n", .int64 9007199254740993)]
        [("n", .document [("$gt", .int64 9007199254740992)])] = false ∧
      (9007199254740992 : Int64) < 9007199254740993) ∧
    accepts [("n", .double (.ofParts true 0))] [("n", .document [("$eq", .double .zero)])] = true ∧
    accepts [("n", .double (.ofParts true 0))] [("n", .document [("$lt", .double .zero)])] = true ∧
    accepts [("n", .double (.ofParts true 0))] [("n", .int32 0)] = false := by
  decide

end Filter

end BulkSweep

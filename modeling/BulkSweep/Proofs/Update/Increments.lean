import BulkSweep.Proofs.Update.Edits
import BulkSweep.Proofs.Update.Passage

/-!
# Increments

An increment of integers adds to what it finds at its path, and to zero where it finds nothing
(`apply_increment`).  It looks for the old value as a filter does, only along paths of a limited length,
and sets the sum along paths of any length: behind the limits a number is replaced by its increment
(`increment_resets_deep_value`).
-/

set_option autoImplicit false

namespace BulkSweep

/-! ## Integers -/

namespace Value

/-- The number that an integer of either width is. -/
def integer? : Value → Option Int
  | int32 n => some n.toInt
  | int64 n => some n.toInt
  | _ => none

/-- Whether a value is an integer of 32 bits. -/
def isInt32 : Value → Bool
  | int32 _ => true
  | _ => false

/-- An integer is equal to no other value. -/
theorem eq_of_beq_integer {a b : Value} {n : Int} (hb : b.integer? = some n) (h : (a == b) = true) :
    a = b := by
  change Value.beq a b = true at h
  cases b with
  | int32 b =>
      cases a with
      | int32 a =>
          unfold Value.beq at h
          rw [beq_iff_eq.mp h]
      | _ => simp [Value.beq] at h
  | int64 b =>
      cases a with
      | int64 a =>
          unfold Value.beq at h
          rw [beq_iff_eq.mp h]
      | _ => simp [Value.beq] at h
  | _ => cases hb

end Value

/-! ## Paths that are looked up -/

namespace Path

/-- A path short enough to be looked up. -/
def Readable (path : String) : Prop :=
  path ≠ "" ∧ path.utf8ByteSize ≤ maxBytes ∧ (segments path).length ≤ maxDepth

theorem lookup_of_readable {d : Document} {path : String} (h : Readable path) :
    lookup d path = follow (segments path) d := by
  obtain ⟨hsome, hbytes, hnames⟩ := h
  have hempty : path.isEmpty = false := by simpa using hsome
  unfold lookup
  rw [if_neg]
  simp [hempty, hbytes, hnames]

theorem lookup_of_not_readable {d : Document} {path : String} (h : ¬Readable path) :
    lookup d path = none := by
  unfold lookup
  rw [if_pos]
  by_contra hno
  simp only [Bool.or_eq_true, decide_eq_true_eq, not_or, Nat.not_lt] at hno
  obtain ⟨⟨hsome, hbytes⟩, hnames⟩ := hno
  exact h ⟨by simpa using hsome, hbytes, hnames⟩

end Path

namespace Update

open BulkSweep.Path

variable {d : Document} {path : String} {a b : Value} {m n : Int}

/-! ## Sums -/

/-- Integers whose sum has at most 64 bits are added exactly.  The sum has 32 bits if both of them have
and it fits. -/
theorem sum_integers (ha : a.integer? = some m) (hb : b.integer? = some n)
    (hfits : -(2 ^ 63) ≤ m + n ∧ m + n < 2 ^ 63) :
    ∃ total, sum a b = some total ∧ total.integer? = some (m + n) ∧
      (total.isInt32 = true ↔ a.isInt32 = true ∧ b.isInt32 = true ∧
        -(2 ^ 31) ≤ m + n ∧ m + n < 2 ^ 31) := by
  have hexact : (Int64.ofInt (m + n)).toInt = m + n := Int64.toInt_ofInt_of_le hfits.1 hfits.2
  have hclamp : (clamp64 (m + n)).toInt = m + n := by
    have hwithin : max (-(2 ^ 63)) (min (2 ^ 63 - 1) (m + n)) = m + n := by omega
    rw [clamp64, hwithin, hexact]
  cases a with
  | int32 a =>
      cases ha
      cases b with
      | int32 b =>
          cases hb
          by_cases hnarrow : -(2 ^ 31) ≤ a.toInt + b.toInt ∧ a.toInt + b.toInt < 2 ^ 31
          · refine ⟨.int32 (.ofInt (a.toInt + b.toInt)), ?_, ?_, ?_⟩
            · simp only [sum, if_pos hnarrow]
            · simp only [Value.integer?, Int32.toInt_ofInt_of_le hnarrow.1 hnarrow.2]
            · exact ⟨fun _ => ⟨rfl, rfl, hnarrow⟩, fun _ => rfl⟩
          · refine ⟨.int64 (.ofInt (a.toInt + b.toInt)), ?_, ?_, ?_⟩
            · simp only [sum, if_neg hnarrow]
            · simp only [Value.integer?, hexact]
            · simpa [Value.isInt32] using hnarrow
      | int64 b =>
          cases hb
          exact ⟨_, rfl, congrArg some hclamp, by simp [Value.isInt32]⟩
      | _ => cases hb
  | int64 a =>
      cases ha
      cases b with
      | int32 b =>
          cases hb
          exact ⟨_, rfl, congrArg some hclamp, by simp [Value.isInt32]⟩
      | int64 b =>
          cases hb
          exact ⟨_, rfl, congrArg some hclamp, by simp [Value.isInt32]⟩
      | _ => cases hb
  | _ => cases ha

/-! ## Increments of a document -/

/-- What an increment at a path adds to. -/
inductive AddsTo (d : Document) (path : String) : Value → Prop where
  /-- the value that is there -/
  | present {a : Value} : Readable path → follow (segments path) d = some a → AddsTo d path a
  /-- zero, where nothing is and a value can be set -/
  | absent : follow (segments path) d = none → Passable (parents path) d →
      AddsTo d path (.int32 0)
  /-- zero, where a value can be set at a path that is too long to be looked up -/
  | unread : ¬Readable path → Passable (parents path) d → AddsTo d path (.int32 0)

theorem AddsTo.getD (h : AddsTo d path a) : (lookup d path).getD (.int32 0) = a := by
  cases h with
  | present hreadable hvalue => rw [lookup_of_readable hreadable, hvalue, Option.getD_some]
  | absent hnone _ =>
      by_cases hreadable : Readable path
      · rw [lookup_of_readable hreadable, hnone, Option.getD_none]
      · rw [lookup_of_not_readable hreadable, Option.getD_none]
  | unread hreadable _ => rw [lookup_of_not_readable hreadable, Option.getD_none]

theorem AddsTo.passable (h : AddsTo d path a) : Passable (parents path) d := by
  cases h with
  | present _ hvalue =>
      rw [← parents_append_leaf] at hvalue
      exact passable_of_follow hvalue
  | absent _ hpassable => exact hpassable
  | unread _ hpassable => exact hpassable

theorem edits_single (path : String) (argument : Value) :
    edits [("$inc", .document [(path, argument)])] = [⟨.inc, path, argument⟩] := by
  rfl

/-- An increment of an integer by an integer is carried out if the sum has at most 64 bits.  Its path
then leads to the exact sum, which has 32 bits if both integers have and it fits; a path that is apart
from it leads where it led before. -/
theorem apply_increment (hadds : AddsTo d path a) (ha : a.integer? = some m)
    (hb : b.integer? = some n) (hfits : -(2 ^ 63) ≤ m + n ∧ m + n < 2 ^ 63) :
    ∃ d' changed total, apply [("$inc", .document [(path, b)])] d = .ok (d', changed) ∧
      follow (segments path) d' = some total ∧ total.integer? = some (m + n) ∧
      (total.isInt32 = true ↔ a.isInt32 = true ∧ b.isInt32 = true ∧
        -(2 ^ 31) ≤ m + n ∧ m + n < 2 ^ 31) ∧
      ∀ q, Apart (segments path) q → follow q d' = follow q d := by
  obtain ⟨total, hsum, htotal, hwidth⟩ := sum_integers ha hb hfits
  obtain ⟨⟨next, changed⟩, hset⟩ : ∃ result, setPath d path total = .ok result :=
    exists_setAt hadds.passable
  have hedit : Operator.applyAt .inc d path b = .ok (next, changed) := by
    change incPath d path b = _
    unfold incPath
    dsimp only
    rw [hadds.getD, hsum]
    exact hset
  have hedits : applyEdits (edits [("$inc", .document [(path, b)])]) d = .ok (next, changed) := by
    rw [edits_single, applyEdits, hedit]
    change Except.ok (next, changed || false) = _
    rw [Bool.or_false]
  refine ⟨if changed then next else d, changed, total, apply_eq_ok.mpr ⟨next, hedits, rfl⟩, ?_, htotal,
    hwidth, ?_⟩
  · cases changed with
    | true =>
        rw [if_pos rfl, ← parents_append_leaf]
        exact follow_setAt hset
    | false =>
        -- without a change the sum was there before
        have hold := changed_setAt hset
        rw [parents_append_leaf, Bool.false_eq, Bool.not_eq_false'] at hold
        change follow (segments path) d = some total
        cases hvalue : follow (segments path) d with
        | none =>
            rw [hvalue] at hold
            cases hold
        | some old =>
            rw [hvalue] at hold
            rw [Value.eq_of_beq_integer htotal hold]
  · intro q hapart
    cases changed with
    | true =>
        rw [← parents_append_leaf] at hapart
        exact follow_setAt_of_apart hset hapart
    | false => rfl

/-- A sum that does not fit into 32 bits has 64, and another field stays as it is. -/
theorem apply_increment_of_widening :
    let d : Document := [("a", .document [("n", .int32 2147483647)]), ("b", .null)]
    AddsTo d "a.n" (.int32 2147483647) ∧
      ∃ d' changed total, apply [("$inc", .document [("a.n", .int32 1)])] d = .ok (d', changed) ∧
        follow ["a", "n"] d' = some total ∧ total.integer? = some 2147483648 ∧
        total.isInt32 = false ∧ follow ["b"] d' = some .null := by
  intro d
  have hnames : segments "a.n" = ["a", "n"] := by decide
  have hadds : AddsTo d "a.n" (.int32 2147483647) := by
    refine .present ⟨by decide, by decide, by decide⟩ ?_
    rw [hnames]
    rfl
  obtain ⟨d', changed, total, happly, hvalue, htotal, hwidth, hothers⟩ :=
    apply_increment (b := .int32 1) hadds rfl rfl (by decide)
  rw [hnames] at hvalue hothers
  refine ⟨hadds, d', changed, total, happly, hvalue, htotal, ?_, ?_⟩
  · rw [Bool.eq_false_iff]
    intro hnarrow
    exact absurd (hwidth.mp hnarrow).2.2.2 (by decide)
  · rw [hothers ["b"] (apart_of_head_ne (by decide))]
    rfl

/-- An increment by one at a path of thirty-three names makes a five that is there a one. -/
theorem increment_resets_deep_value :
    let path := "a.a.a.a.a.a.a.a.a.a.a.a.a.a.a.a.a.a.a.a.a.a.a.a.a.a.a.a.a.a.a.a.a"
    let nest (names : List String) (value : Value) : Value :=
      names.foldr (fun name value => .document [(name, value)]) value
    let d (n : Int32) : Document := [("a", nest (List.replicate 32 "a") (.int32 n))]
    follow (segments path) (d 5) = some (.int32 5) ∧
      apply [("$inc", .document [(path, .int32 1)])] (d 5) = .ok (d 1, true) ∧
      follow (segments path) (d 1) = some (.int32 1) := by
  intro path nest d
  have hnames : segments path = List.replicate 33 "a" := by decide
  have hlong : ¬Readable path := by
    intro hreadable
    have hshort := hreadable.2.2
    rw [hnames] at hshort
    exact absurd hshort (by decide)
  have hset : setPath (d 5) path (.int32 1) = .ok (d 1, true) := by
    have hparents : parents path = List.replicate 32 "a" := by rw [parents, hnames]; rfl
    have hleaf : leaf path = "a" := by rw [leaf, hnames]; rfl
    rw [setPath, hparents, hleaf]
    rfl
  have hedit : Operator.applyAt .inc (d 5) path (.int32 1) = .ok (d 1, true) := by
    change incPath (d 5) path (.int32 1) = _
    rw [incPath, lookup_of_not_readable hlong]
    exact hset
  refine ⟨?_, apply_eq_ok.mpr ⟨d 1, ?_, rfl⟩, ?_⟩
  · rw [hnames]
    rfl
  · rw [edits_single, applyEdits, hedit]
    rfl
  · rw [hnames]
    rfl

end Update

end BulkSweep

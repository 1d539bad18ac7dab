/-!
# Batches

The ids of a cursor are handled in batches of one size.  What is left after the last full batch is a
batch of its own only when the cursor ended by itself; otherwise it will be read again.
-/

set_option autoImplicit false

namespace BulkSweep

variable {α : Type}

/-- Cuts a list into full batches; the second part is what is left over. -/
def batches (size : Nat) (ids : List α) : List (List α) × List α :=
  match _ : ids.drop (size - 1) with
  | [] => ([], ids)
  | _ :: rest =>
    let (full, left) := batches size rest
    (ids.take size :: full, left)
termination_by ids.length
decreasing_by
  have shorter := congrArg List.length ‹ids.drop (size - 1) = _›
  simp only [List.length_drop, List.length_cons] at shorter
  omega

/-- Less than a batch is left over as it is. -/
theorem batches_of_short {size : Nat} {ids : List α} (short : ids.length < size) :
    batches size ids = ([], ids) := by
  unfold batches
  split
  · rfl
  · rename_i split
    have long := congrArg List.length split
    simp only [List.length_drop, List.length_cons] at long
    omega

/-- A batch in front is the first one. -/
theorem batches_append {size : Nat} (positive : 0 < size) {batch : List α}
    (full : batch.length = size) (rest : List α) :
    batches size (batch ++ rest) = (batch :: (batches size rest).1, (batches size rest).2) := by
  have behind : (batch ++ rest).drop size = rest := by rw [← full, List.drop_left]
  have before : (batch ++ rest).take size = batch := by rw [← full, List.take_left]
  rw [batches]
  split
  · rename_i short
    have := List.drop_eq_nil_iff.mp short
    rw [List.length_append] at this
    omega
  · rename_i head tail split
    have : (batch ++ rest).drop (size - 1 + 1) = tail := by rw [← List.drop_drop, split]; simp
    rw [Nat.sub_add_cancel positive, behind] at this
    rw [before, this]

/-- What is left over is less than a batch. -/
theorem batches_left_length (size : Nat) (positive : 0 < size) (ids : List α) :
    (batches size ids).2.length < size := by
  fun_induction batches size ids with
  | case1 ids short =>
    have := List.drop_eq_nil_iff.mp short
    simp only
    omega
  | case2 ids head rest split full left step ih => simpa [step] using ih

/-- Full batches are full. -/
theorem batches_full_length (size : Nat) (positive : 0 < size) (ids : List α) :
    ∀ batch ∈ (batches size ids).1, batch.length = size := by
  fun_induction batches size ids with
  | case1 => simp
  | case2 ids head rest split full left step ih =>
    intro batch member
    have long := congrArg List.length split
    simp only [List.length_drop, List.length_cons] at long
    simp only [List.mem_cons] at member
    rcases member with rfl | member
    · rw [List.length_take]
      omega
    · exact ih batch (by simpa [step] using member)

/-- Batches of one size hold as many ids as their number says. -/
theorem length_flatten_of_full {size : Nat} {full : List (List α)}
    (h : ∀ batch ∈ full, batch.length = size) : full.flatten.length = full.length * size := by
  induction full with
  | nil => exact (Nat.zero_mul size).symm
  | cons batch rest ih =>
    rw [List.flatten_cons, List.length_append, List.length_cons, Nat.succ_mul,
      h batch List.mem_cons_self, ih fun other hother => h other (List.mem_cons_of_mem batch hother),
      Nat.add_comm]

/-- Nothing is lost and nothing changes its place. -/
theorem batches_flatten (size : Nat) (positive : 0 < size) (ids : List α) :
    (batches size ids).1.flatten ++ (batches size ids).2 = ids := by
  fun_induction batches size ids with
  | case1 => simp
  | case2 ids head rest split full left step ih =>
    have tail : ids.drop size = rest := by
      have : ids.drop (size - 1 + 1) = rest := by rw [← List.drop_drop, split]; simp
      rwa [Nat.sub_add_cancel positive] at this
    rw [step] at ih
    simp only [List.flatten_cons, List.append_assoc, ih]
    rw [← tail, List.take_append_drop]

end BulkSweep

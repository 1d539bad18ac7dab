import BulkSweep.Proofs.Run.Steps
import BulkSweep.Run.Batches

/-!
# What passes lead to

The buffer of a run is explained away here: reading the ids of a cursor one by one comes to the same
as cutting them into batches first (`leads_drain`), so a pass is the batches of its cursor one after
another, and then what its fault makes of it (`leads_pass`).
-/

set_option autoImplicit false

namespace BulkSweep

variable {σ W : Type}

/-! ## Batches of a cursor -/

/-- The batches that come of a cursor: the full ones, and what is left over unless an error ends the
cursor. -/
def Cursor.batches (c : Cursor) (size : Nat) : List (List Value) :=
  let (full, left) := BulkSweep.batches size c.ids
  if c.fault.isSome || left.isEmpty then full else full ++ [left]

/-- The ids that are still waiting when a cursor has ended by an error. -/
def Cursor.leftover (c : Cursor) (size : Nat) : List Value :=
  (BulkSweep.batches size c.ids).2

/-- The batches of a cursor that fails hold less than its ids. -/
theorem Cursor.batches_flatten_append {c : Cursor} {size : Nat} (positive : 0 < size)
    {cause : ConnError} (hfault : c.fault = some cause) :
    (c.batches size).flatten ++ c.leftover size = c.ids := by
  simp only [batches, leftover, hfault, Option.isSome_some, Bool.true_or, if_true]
  exact batches_flatten size positive c.ids

/-- The batches of a cursor that ends by itself hold its ids. -/
theorem Cursor.batches_flatten {c : Cursor} {size : Nat} (positive : 0 < size)
    (hfault : c.fault = none) : (c.batches size).flatten = c.ids := by
  have hall := BulkSweep.batches_flatten size positive c.ids
  simp only [batches, hfault, Option.isSome_none, Bool.false_or]
  split
  · rename_i hempty
    rw [List.isEmpty_iff.mp hempty, List.append_nil] at hall
    exact hall
  · simpa using hall

/-- The batches of a cursor hold ids of it, in order. -/
theorem Cursor.batches_sublist {c : Cursor} {size : Nat} (positive : 0 < size) :
    List.Sublist (c.batches size).flatten c.ids := by
  cases hfault : c.fault with
  | none => simp only [batches_flatten positive hfault, List.Sublist.refl]
  | some cause =>
      rw [← batches_flatten_append positive hfault]
      exact List.sublist_append_left _ _

/-- No batch of a cursor is empty, and none is larger than it may be. -/
theorem Cursor.batches_length {c : Cursor} {size : Nat} (positive : 0 < size) :
    ∀ batch ∈ c.batches size, 0 < batch.length ∧ batch.length ≤ size := by
  intro batch hmem
  have hfull := batches_full_length size positive c.ids
  have hleft := batches_left_length size positive c.ids
  simp only [batches] at hmem
  split at hmem
  · have := hfull batch hmem
    omega
  · rename_i hleftover
    simp only [Bool.or_eq_true, not_or, List.isEmpty_iff] at hleftover
    rcases List.mem_append.mp hmem with hmem | hmem
    · have := hfull batch hmem
      omega
    · rw [List.mem_singleton.mp hmem]
      have := List.length_pos_iff.mpr hleftover.2
      omega

/-- Only the last batch of a cursor may be less than full. -/
theorem Cursor.batches_full {c : Cursor} {size : Nat} (positive : 0 < size)
    {before after : List (List Value)} {batch : List Value}
    (hbatches : c.batches size = before ++ batch :: after) :
    ∀ other ∈ before, other.length = size := by
  intro other hmem
  refine batches_full_length size positive c.ids other ?_
  have hlast : other ∈ (c.batches size).dropLast := by
    rw [hbatches, List.dropLast_append_cons]
    exact List.mem_append_left _ hmem
  simp only [batches] at hlast
  split at hlast
  · exact List.dropLast_subset _ hlast
  · rwa [List.dropLast_concat] at hlast

/-- How many batches come of a cursor that ends by itself. -/
theorem Cursor.batches_count {c : Cursor} {size : Nat} (positive : 0 < size)
    (hfault : c.fault = none) :
    (c.batches size).length = (c.ids.length + size - 1) / size := by
  have hfull := length_flatten_of_full (batches_full_length size positive c.ids)
  have hall := congrArg List.length (BulkSweep.batches_flatten size positive c.ids)
  rw [List.length_append, hfull] at hall
  have hleft := batches_left_length size positive c.ids
  symm
  simp only [batches, hfault, Option.isSome_none, Bool.false_or]
  split
  · rename_i hempty
    rw [List.isEmpty_iff.mp hempty, List.length_nil] at hall
    refine Nat.div_eq_of_lt_le ?_ ?_
    · omega
    · rw [Nat.succ_mul]
      omega
  · rename_i hsome
    have hpositive := List.length_pos_iff.mpr (fun hnil => hsome (List.isEmpty_iff.mpr hnil))
    rw [List.length_append, List.length_singleton]
    refine Nat.div_eq_of_lt_le ?_ ?_
    · rw [Nat.succ_mul]
      omega
    · rw [Nat.succ_mul, Nat.succ_mul]
      omega

theorem Job.batchLength_pos (job : Job) : 0 < job.batchLength :=
  Nat.lt_of_lt_of_le Nat.zero_lt_one (Nat.le_max_right _ _)

/-- The number of ids that fill a batch. -/
def Bench.size {m : Type → Type} (b : Bench m) : Nat :=
  b.plan.job.batchLength

theorem Bench.size_pos {m : Type → Type} (b : Bench m) : 0 < b.size :=
  b.plan.job.batchLength_pos

variable {b : Bench (StateT W (StateM σ))} {t : Tally} {w : W}

/-! ## Batch after batch -/

/-- From a tally and `w`, batches done one after another, until one of them stops the run, end in an
answer, a tally and a state of which `post` holds. -/
def LeadsThrough (b : Bench (StateT W (StateM σ))) (t : Tally) (w : W) (batches : List (List Value))
    (post : Except Stop Unit → Tally → W → Prop) : Prop :=
  match batches with
  | [] => post (.ok ()) t w
  | ids :: rest =>
      Leads b.batch (t.fill ids) w fun answer t' w' =>
        match answer with
        | .error stop => post (.error stop) t' w'
        | .ok _ => LeadsThrough b t' w' rest post

theorem LeadsThrough.mono {batches : List (List Value)}
    {post post' : Except Stop Unit → Tally → W → Prop} (h : LeadsThrough b t w batches post)
    (himp : ∀ answer t' w', post answer t' w' → post' answer t' w') :
    LeadsThrough b t w batches post' := by
  induction batches generalizing t w with
  | nil => exact himp _ _ _ h
  | cons ids rest ih =>
      refine Leads.mono h fun answer t' w' hanswer => ?_
      cases answer with
      | error stop => exact himp _ _ _ hanswer
      | ok _ => exact ih hanswer

/-- Batches in a row are done when the first of them are done and then the others. -/
theorem leadsThrough_append {before after : List (List Value)}
    {post : Except Stop Unit → Tally → W → Prop} :
    LeadsThrough b t w (before ++ after) post ↔
      LeadsThrough b t w before fun answer t' w' =>
        match answer with
        | .error stop => post (.error stop) t' w'
        | .ok _ => LeadsThrough b t' w' after post := by
  induction before generalizing t w with
  | nil => rfl
  | cons ids rest ih =>
      constructor
      · intro h
        refine Leads.mono h fun answer t' w' hanswer => ?_
        cases answer with
        | error stop => exact hanswer
        | ok _ => exact ih.mp hanswer
      · intro h
        refine Leads.mono h fun answer t' w' hanswer => ?_
        cases answer with
        | error stop => exact hanswer
        | ok _ => exact ih.mpr hanswer

/-- Batches that are all done leave no id waiting, if none was waiting before. -/
theorem leadsThrough_empties (hhost : b.host.StandsBy) {batches : List (List Value)}
    {post : Except Stop Unit → Tally → W → Prop} (hempty : t.buffer = #[])
    (h : LeadsThrough b t w batches post) :
    LeadsThrough b t w batches fun answer t' w' =>
      post answer t' w' ∧ (answer = .ok () → t'.buffer = #[]) := by
  induction batches generalizing t w with
  | nil => exact ⟨h, fun _ => hempty⟩
  | cons ids rest ih =>
      refine (Leads.and h (leads_batch_empties hhost)).mono fun answer t' w' hanswer => ?_
      cases answer with
      | error stop => exact ⟨hanswer.1, nofun⟩
      | ok _ => exact ih (hanswer.2 rfl) hanswer.1

/-! ## Reading a cursor -/

/-- Reading ids one by one into a buffer with room comes to the same as doing the batches into which
they are cut, with what is left over in the buffer afterwards. -/
theorem leads_drain {post : Except Stop Unit → Tally → W → Prop} (hhost : b.host.StandsBy)
    {ids : List Value} (hroom : t.buffer.size < b.size)
    (h : LeadsThrough b t w (batches b.size (t.buffer.toList ++ ids)).1 fun answer t' w' =>
      match answer with
      | .error stop => post (.error stop) t' w'
      | .ok _ => post (.ok ()) (t'.fill (batches b.size (t.buffer.toList ++ ids)).2) w') :
    Leads (b.drain ids) t w post := by
  induction ids generalizing t w with
  | nil =>
      rw [List.append_nil, batches_of_short (by simpa using hroom)] at h
      exact leads_pure h
  | cons id rest ih =>
      have hread : t.buffer.toList ++ id :: rest = (t.push id).buffer.toList ++ rest := by
        simp [Tally.push]
      rw [hread] at h
      refine leads_modify_bind (leads_get_bind ?_)
      split
      · rename_i hfull
        have hlength : (t.push id).buffer.toList.length = b.size := by
          have : (t.push id).buffer.size = t.buffer.size + 1 := Array.size_push _
          change b.size ≤ _ at hfull
          rw [Array.length_toList]
          omega
        rw [batches_append b.size_pos hlength rest] at h
        refine leads_bind ((Leads.and h (leads_batch_empties hhost)).mono ?_)
        intro answer t' w' hanswer
        cases answer with
        | error stop => exact leads_pure hanswer.1
        | ok _ =>
            -- the batch has emptied the buffer, so there is room for what follows
            have hempty : t'.buffer = #[] := hanswer.2 rfl
            refine ih (by rw [hempty]; exact b.size_pos) ?_
            rw [hempty]
            exact hanswer.1
      · rename_i hshort
        refine ih (Nat.lt_of_not_le hshort) ?_
        cases hcut : (batches b.size ((t.push id).buffer.toList ++ rest)).1 with
        | nil =>
            rw [hcut] at h
            exact h
        | cons head tail =>
            rw [hcut] at h
            exact h

/-- What is left when a cursor has ended by itself is one more batch. -/
theorem leads_finishPass {post : Retry.Attempt Unit Stop Stop → Tally → W → Prop}
    {left : List Value} (hempty : t.buffer = #[])
    (h : LeadsThrough b t w (if left.isEmpty then [] else [left]) fun answer t' w' =>
      match answer with
      | .error stop => post (.fatal stop) t' w'
      | .ok _ => post (.done ()) t' w') :
    Leads b.finishPass (t.fill left) w post := by
  refine leads_get_bind ?_
  cases left with
  | nil =>
      have hsame : t.fill [] = t := by rw [← Tally.clear_eq_fill, Tally.clear, ← hempty]
      rw [hsame, hempty]
      exact leads_pure h
  | cons id rest =>
      refine leads_bind (Leads.mono h fun answer t' w' hanswer => ?_)
      cases answer with
      | error stop => exact leads_pure hanswer
      | ok _ => exact leads_pure hanswer

/-- A pass is the opening of a cursor, then its batches, then what its fault makes of it. -/
theorem leads_pass {post : Retry.Attempt Unit Stop Stop → Tally → W → Prop}
    (hhost : b.host.StandsBy)
    (h : Yields (b.connection.openCursor b.target b.plan.filter) w fun answer w =>
      match answer with
      | .error cause => post (t.beginPass.fault cause).1 (t.beginPass.fault cause).2 w
      | .ok cursor =>
          LeadsThrough b t.beginPass.clear w (cursor.batches b.size) fun answer t' w' =>
            match answer, cursor.fault with
            | .error stop, _ => post (.fatal stop) t' w'
            | .ok _, none => post (.done ()) t' w'
            | .ok _, some cause =>
                post ((t'.fill (cursor.leftover b.size)).fault cause).1
                  ((t'.fill (cursor.leftover b.size)).fault cause).2 w') :
    Leads b.pass t w post := by
  refine leads_modify_bind (leads_lift_bind (h.mono fun answer w hopen => ?_))
  cases answer with
  | error cause => exact leads_cursorFailure hhost hopen
  | ok cursor =>
      refine leads_modify_bind (leads_bind (leads_drain hhost b.size_pos ?_))
      rw [show t.beginPass.clear.buffer.toList ++ cursor.ids = cursor.ids from rfl]
      obtain ⟨ids, fault⟩ := cursor
      cases fault with
      | some cause =>
          have hcut : Cursor.batches ⟨ids, some cause⟩ b.size = (batches b.size ids).1 := by
            simp [Cursor.batches]
          dsimp only at hopen
          rw [hcut] at hopen
          refine hopen.mono fun answer t' w' hanswer => ?_
          cases answer with
          | error stop => exact leads_pure hanswer
          | ok _ => exact leads_cursorFailure hhost hanswer
      | none =>
          -- what is left over is one more batch behind those that were cut while reading
          have hcut : Cursor.batches ⟨ids, none⟩ b.size = (batches b.size ids).1 ++
              if (batches b.size ids).2.isEmpty then [] else [(batches b.size ids).2] := by
            simp only [Cursor.batches, Option.isSome_none, Bool.false_or]
            split <;> simp
          dsimp only at hopen
          rw [hcut, leadsThrough_append] at hopen
          refine (leadsThrough_empties hhost rfl hopen).mono fun answer t' w' hanswer => ?_
          cases answer with
          | error stop => exact leads_pure hanswer.1
          | ok _ =>
              refine leads_finishPass (hanswer.2 rfl) (hanswer.1.mono fun answer t' w' hend => ?_)
              cases answer with
              | error stop => exact hend
              | ok _ => exact hend

end BulkSweep

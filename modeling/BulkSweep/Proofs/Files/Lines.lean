import BulkSweep.Files.Content

/-!
# Lines

Lines that are written one after another, each with a line break behind it, are found again as they
were written exactly if none of them has a line break inside (`pieces_join_iff`).
-/

set_option autoImplicit false

namespace BulkSweep

/-- A text without line breaks. -/
def Unbroken (text : String) : Prop :=
  '\n' ∉ text.toList

theorem unbroken_append {a b : String} : Unbroken (a ++ b) ↔ Unbroken a ∧ Unbroken b := by
  simp [Unbroken]

namespace Content

section

variable {α : Type} [BEq α] [LawfulBEq α] {separator : α}

theorem not_mem_addToPieces {c : α} {found : List (List α × Bool)}
    (h : ∀ piece ∈ found, separator ∉ piece.1) :
    ∀ piece ∈ addToPieces separator c found, separator ∉ piece.1 := by
  intro piece hmem
  unfold addToPieces at hmem
  split at hmem
  · split at hmem
    · rw [List.mem_singleton.mp hmem]
      exact List.not_mem_nil
    · rename_i hother
      rw [List.mem_singleton.mp hmem]
      exact fun hin => hother (beq_iff_eq.mpr (List.mem_singleton.mp hin).symm)
  · rename_i first ended more
    obtain ⟨hfirst, hmore⟩ := List.forall_mem_cons.mp h
    split at hmem
    · rcases List.mem_cons.mp hmem with rfl | hmem
      · exact List.not_mem_nil
      · exact h piece hmem
    · rename_i hother
      rcases List.mem_cons.mp hmem with rfl | hmem
      · intro hin
        rcases List.mem_cons.mp hin with hsame | hin
        · exact hother (beq_iff_eq.mpr hsame.symm)
        · exact hfirst hin
      · exact hmore piece hmem

/-- No separator is inside of a piece. -/
theorem not_mem_piece (cs : List α) : ∀ piece ∈ pieces separator cs, separator ∉ piece.1 := by
  induction cs with
  | nil => exact fun _ hmem => absurd hmem List.not_mem_nil
  | cons c cs ih => exact not_mem_addToPieces ih

end

/-- A line is the first piece of a text that begins with it. -/
theorem pieces_append {line rest : List Char} (h : '\n' ∉ line) :
    pieces '\n' (line ++ '\n' :: rest) = (line, true) :: pieces '\n' rest := by
  have hend : pieces '\n' ('\n' :: rest) = ([], true) :: pieces '\n' rest := by
    unfold pieces
    rw [List.foldr_cons]
    cases List.foldr (addToPieces '\n') [] rest <;> rfl
  induction line with
  | nil => exact hend
  | cons c line ih =>
      obtain ⟨hc, hline⟩ := not_or.mp (mt List.mem_cons.mpr h)
      have hother : (c == '\n') = false := beq_eq_false_iff_ne.mpr (Ne.symm hc)
      have hrest := ih hline
      rw [pieces] at hrest ⊢
      rw [List.cons_append, List.foldr_cons, hrest, addToPieces, hother]
      rfl

theorem pieces_join {lines : List String} (h : ∀ line ∈ lines, Unbroken line) :
    pieces '\n' (String.join (lines.map (· ++ "\n"))).toList
      = lines.map fun line => (line.toList, true) := by
  induction lines with
  | nil => rfl
  | cons line lines ih =>
      obtain ⟨hline, hlines⟩ := List.forall_mem_cons.mp h
      rw [List.map_cons, String.join_cons, String.toList_append, String.toList_append,
        List.append_assoc]
      exact (pieces_append hline).trans (congrArg _ (ih hlines))

/-- Lines are found as they were written if there are no line breaks in them, and only then. -/
theorem pieces_join_iff {lines : List String} :
    (pieces '\n' (String.join (lines.map (· ++ "\n"))).toList
      = lines.map fun line => (line.toList, true)) ↔ ∀ line ∈ lines, Unbroken line := by
  refine ⟨fun h line hline => ?_, pieces_join⟩
  have hpiece : (line.toList, true) ∈
      pieces '\n' (String.join (lines.map (· ++ "\n"))).toList := by
    rw [h]
    exact List.mem_map.mpr ⟨line, hline, rfl⟩
  exact not_mem_piece _ _ hpiece

end Content

end BulkSweep

import Mathlib.Data.List.Perm.Subperm
import BulkSweep.Proofs.Update.Passage

/-!
# Values that equal themselves

A value equals itself unless a NaN is in it, if its documents have no name twice (`beq_self`).  Paths
lead to equal values in equal documents (`alike_follow`), so a document differs from one in which some
path leads elsewhere.
-/

set_option autoImplicit false

namespace BulkSweep

/-! ## Regular values -/

mutual

/-- There is no NaN in a value, and no document with two fields of one name. -/
def Value.Regular : Value → Prop
  | .double x => x.isNaN = false
  | .array items => Value.ItemsRegular items
  | .document fields => (Document.keys fields).Nodup ∧ Document.FieldsRegular fields
  | .codeWithScope _ scope => (Document.keys scope).Nodup ∧ Document.FieldsRegular scope
  | _ => True

/-- All items of a list are regular. -/
def Value.ItemsRegular : List Value → Prop
  | [] => True
  | item :: rest => item.Regular ∧ Value.ItemsRegular rest

/-- The values of all fields are regular. -/
def Document.FieldsRegular : List (String × Value) → Prop
  | [] => True
  | (_, value) :: rest => value.Regular ∧ Document.FieldsRegular rest

end

/-- No NaN is in a document, and no name twice in it or in a document within it. -/
def Document.Regular (d : Document) : Prop :=
  Value.Regular (.document d)

namespace Document

variable {d e : Document} {name : String} {value : Value}

theorem Regular.fields (h : Regular d) : FieldsRegular d := by
  unfold Regular Value.Regular at h
  exact h.2

theorem FieldsRegular.mem (h : FieldsRegular d) (hfield : (name, value) ∈ d) : value.Regular := by
  induction d with
  | nil => cases hfield
  | cons field rest ih =>
      unfold FieldsRegular at h
      rcases List.mem_cons.mp hfield with rfl | hrest
      · exact h.1
      · exact ih h.2 hrest

end Document

mutual

/-- A regular value is proper. -/
theorem Value.Regular.proper : ∀ {v : Value}, v.Regular → v.Proper
  | .document fields, h => by
      unfold Value.Regular at h
      unfold Value.Proper
      exact ⟨h.1, Document.FieldsRegular.proper h.2⟩
  | .double _, _ | .int32 _, _ | .int64 _, _ | .decimal _, _ | .string _, _ | .boolean _, _
  | .null, _ | .array _, _ | .objectId _, _ | .date _, _ | .timestamp _ _, _ | .binary _ _, _
  | .regex _ _, _ | .code _, _ | .codeWithScope _ _, _ | .symbol _, _ | .dbPointer _ _, _
  | .undefined, _ | .minKey, _ | .maxKey, _ => by simp [Value.Proper]

theorem Document.FieldsRegular.proper : ∀ {fields : List (String × Value)},
    Document.FieldsRegular fields → Document.FieldsProper fields
  | [], _ => by simp [Document.FieldsProper]
  | (_, _) :: _, h => by
      unfold Document.FieldsRegular at h
      unfold Document.FieldsProper
      exact ⟨h.1.proper, Document.FieldsRegular.proper h.2⟩

end

theorem Document.Regular.proper {d : Document} (h : d.Regular) : d.Proper :=
  Value.Regular.proper h

/-! ## Equality with itself -/

theorem Numeric.Binary64.sameNumber_self {x : Numeric.Binary64} (h : x.isNaN = false) :
    x.sameNumber x = true := by
  simp [Numeric.Binary64.sameNumber, h]

mutual

/-- A regular value equals itself. -/
theorem Value.beq_self : ∀ {v : Value}, v.Regular → Value.beq v v = true
  | .double x, h => by
      unfold Value.Regular at h
      unfold Value.beq
      exact Numeric.Binary64.sameNumber_self h
  | .array items, h => by
      unfold Value.Regular at h
      unfold Value.beq
      exact Value.beqItems_self h
  | .document fields, h => by
      unfold Value.Regular at h
      unfold Value.beq
      rw [beq_self_eq_true, Bool.true_and]
      exact Value.beqFields_self h.2 fun field hfield => Document.get?_of_mem h.1 hfield
  | .codeWithScope text scope, h => by
      unfold Value.Regular at h
      unfold Value.beq
      rw [beq_self_eq_true, beq_self_eq_true, Bool.true_and, Bool.true_and]
      exact Value.beqFields_self h.2 fun field hfield => Document.get?_of_mem h.1 hfield
  | .int32 _, _ | .int64 _, _ | .decimal _, _ | .string _, _ | .boolean _, _ | .null, _
  | .objectId _, _ | .date _, _ | .timestamp _ _, _ | .binary _ _, _ | .regex _ _, _ | .code _, _
  | .symbol _, _ | .dbPointer _ _, _ | .undefined, _ | .minKey, _ | .maxKey, _ => by
      simp [Value.beq]

theorem Value.beqItems_self : ∀ {items : List Value}, Value.ItemsRegular items →
    Value.beqItems items items = true
  | [], _ => by simp [Value.beqItems]
  | _ :: _, h => by
      unfold Value.ItemsRegular at h
      unfold Value.beqItems
      rw [Value.beq_self h.1, Value.beqItems_self h.2, Bool.true_and]

/-- Regular fields are among those of a document in which they are found. -/
theorem Value.beqFields_self : ∀ {fields : List (String × Value)} {d : Document},
    Document.FieldsRegular fields → (∀ field ∈ fields, d.get? field.1 = some field.2) →
    Value.beqFields fields d = true
  | [], _, _, _ => by simp [Value.beqFields]
  | (name, value) :: rest, d, h, hfound => by
      unfold Document.FieldsRegular at h
      obtain ⟨hthis, hothers⟩ := List.forall_mem_cons.mp hfound
      have hlookup : List.lookup name d = some value := hthis
      unfold Value.beqFields
      rw [hlookup, Value.beqFields_self h.2 hothers]
      simp [Value.beq_self h.1]

end

namespace Document

variable {d e : Document} {name : String} {value : Value}

theorem same_self (h : Regular d) : same d d = true := by
  have hself := Value.beq_self h
  unfold Value.beq at hself
  exact hself

/-! ## Equal documents -/

/-- A field of a document is in an equal one, with an equal value. -/
theorem get?_of_same (h : same d e = true) (hvalue : get? d name = some value) :
    ∃ other, get? e name = some other ∧ Value.beq value other = true := by
  have hfields : Value.beqFields d e = true := (Bool.and_eq_true_iff.mp h).2
  clear h
  induction d with
  | nil => cases hvalue
  | cons field rest ih =>
      obtain ⟨key, own⟩ := field
      unfold Value.beqFields at hfields
      obtain ⟨hthis, hrest⟩ := Bool.and_eq_true_iff.mp hfields
      rw [get?, List.lookup_cons] at hvalue
      by_cases hkey : name = key
      · rw [hkey, beq_self_eq_true] at hvalue
        cases hvalue
        rw [hkey]
        cases hother : List.lookup key e with
        | none =>
            rw [hother] at hthis
            cases hthis
        | some other =>
            rw [hother] at hthis
            exact ⟨other, hother, hthis⟩
      · rw [beq_eq_false_iff_ne.mpr hkey] at hvalue
        exact ih hvalue hrest

/-- A field that is missing in a document is missing in an equal one: both have as many. -/
theorem get?_none_of_same (hkeys : (keys d).Nodup) (h : same d e = true)
    (hnone : get? d name = none) : get? e name = none := by
  have hsubset : keys d ⊆ keys e := by
    intro key hkey
    obtain ⟨field, hfield, rfl⟩ := List.mem_map.mp hkey
    obtain ⟨other, hother, -⟩ := get?_of_same h (get?_of_mem hkeys hfield)
    exact mem_keys_of_get? hother
  have hlength : d.length = e.length := eq_of_beq (Bool.and_eq_true_iff.mp h).1
  have hperm : List.Perm (keys d) (keys e) := by
    refine (List.subperm_of_subset hkeys hsubset).perm_of_length_le ?_
    simp [keys, hlength]
  cases hvalue : get? e name with
  | none => rfl
  | some other =>
      have hmem : name ∈ keys d := hperm.mem_iff.mpr (mem_keys_of_get? hvalue)
      obtain ⟨field, hfield, rfl⟩ := List.mem_map.mp hmem
      rw [get?_of_mem hkeys hfield] at hnone
      cases hnone

end Document

/-- What equals a document is an equal document. -/
theorem Value.beq_document {inner : Document} {other : Value}
    (h : Value.beq (.document inner) other = true) :
    ∃ inner', other = .document inner' ∧ Document.same inner inner' = true := by
  cases other with
  | document inner' =>
      unfold Value.beq at h
      exact ⟨inner', rfl, h⟩
  | _ => simp [Value.beq] at h

/-- Only a document equals a document. -/
theorem Value.exists_document_of_beq {inner : Document} {value : Value}
    (h : Value.beq value (.document inner) = true) : ∃ inner', value = .document inner' := by
  cases value with
  | document inner' => exact ⟨inner', rfl⟩
  | _ => simp [Value.beq] at h

/-- A path leads to equal values in equal documents. -/
theorem Path.alike_follow {d e : Document} (hproper : d.Proper) (h : Document.same d e = true)
    (q : List String) : Value.alike (follow q d) (follow q e) = true := by
  induction q generalizing d e with
  | nil => rfl
  | cons name more ih =>
      cases hvalue : d.get? name with
      | none =>
          have hother : e.get? name = none := Document.get?_none_of_same hproper.keys h hvalue
          rw [follow_of_absent hvalue, follow_of_absent hother]
          rfl
      | some value =>
          obtain ⟨other, hother, hbeq⟩ := Document.get?_of_same h hvalue
          by_cases hmore : more = []
          · subst hmore
            change Value.alike (d.get? name) (e.get? name) = true
            rw [hvalue, hother]
            exact hbeq
          · by_cases hdocument : ∃ inner, value = .document inner
            · obtain ⟨inner, rfl⟩ := hdocument
              obtain ⟨inner', rfl, hinner⟩ := Value.beq_document hbeq
              rw [follow_inner hvalue hmore, follow_inner hother hmore]
              exact ih (hproper.inner hvalue) hinner
            · have hleft : ∀ inner, d.get? name ≠ some (.document inner) := by
                intro inner hinner
                rw [hvalue] at hinner
                exact hdocument ⟨inner, Option.some.inj hinner⟩
              have hright : ∀ inner, e.get? name ≠ some (.document inner) := by
                intro inner hinner
                rw [hother] at hinner
                rw [Option.some.inj hinner] at hbeq
                exact hdocument (Value.exists_document_of_beq hbeq)
              rw [follow_none hleft hmore, follow_none hright hmore]
              rfl

end BulkSweep

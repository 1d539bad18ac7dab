import Mathlib.Data.List.Nodup
import BulkSweep.Value.Basic

/-!
# Fields of documents

When a field is found by its name, and what setting and removing one field does to the other fields and to
the names of all fields.  A document is proper when no name comes twice, in itself and in the documents in
it.
-/

set_option autoImplicit false

namespace BulkSweep

/-! ## Fields -/

namespace Document

variable {d : Document} {name other : String} {value : Value}

theorem mem_of_get? (h : get? d name = some value) : (name, value) ∈ d := by
  obtain ⟨before, after, rfl, -⟩ := List.lookup_eq_some_iff.mp h
  exact List.mem_append_right _ List.mem_cons_self

theorem mem_keys_of_get? (h : get? d name = some value) : name ∈ keys d :=
  List.mem_map_of_mem (mem_of_get? h)

theorem get?_eq_none (h : name ∉ keys d) : get? d name = none := by
  cases hvalue : get? d name with
  | none => rfl
  | some value => exact absurd (mem_keys_of_get? hvalue) h

/-- Where no name comes twice a field is found by its name. -/
theorem get?_of_mem (hkeys : (keys d).Nodup) (hfield : (name, value) ∈ d) :
    get? d name = some value := by
  induction d with
  | nil => cases hfield
  | cons field rest ih =>
      obtain ⟨hfresh, hrest⟩ := List.nodup_cons.mp hkeys
      rcases List.mem_cons.mp hfield with rfl | hmem
      · exact List.lookup_cons_self
      · have hne : (name == field.1) = false := by
          rw [beq_eq_false_iff_ne]
          intro hsame
          exact hfresh (hsame ▸ List.mem_map_of_mem (f := Prod.fst) hmem)
        rw [get?, List.lookup_cons, hne]
        exact ih hrest hmem

theorem get?_eq_some_iff (h : (keys d).Nodup) : get? d name = some value ↔ (name, value) ∈ d :=
  ⟨mem_of_get?, get?_of_mem h⟩

/-- A field that holds the value already does not change. -/
theorem insert_of_get? (h : get? d name = some value) : insert d name value = d := by
  induction d with
  | nil => cases h
  | cons field rest ih =>
      obtain ⟨key, old⟩ := field
      unfold insert
      by_cases hkey : key = name
      · rw [if_pos hkey]
        rw [get?, hkey, List.lookup_cons_self] at h
        rw [Option.some.inj h]
      · rw [if_neg hkey]
        have hne : (name == key) = false := by simp [Ne.symm hkey]
        rw [get?, List.lookup_cons, hne] at h
        rw [ih h]

theorem get?_erase_of_ne (h : other ≠ name) : get? (erase d name) other = get? d other := by
  induction d with
  | nil => rfl
  | cons field rest ih =>
      obtain ⟨key, old⟩ := field
      unfold erase
      by_cases hkey : key = name
      · rw [if_pos hkey]
        have hne : (other == key) = false := by simp [hkey, h]
        rw [get?, get?, List.lookup_cons, hne]
      · rw [if_neg hkey, get?, get?, List.lookup_cons, List.lookup_cons]
        cases other == key with
        | true => rfl
        | false => exact ih

/-- A field that is removed is gone. -/
theorem get?_erase_self (h : (keys d).Nodup) : get? (erase d name) name = none := by
  induction d with
  | nil => rfl
  | cons field rest ih =>
      obtain ⟨key, old⟩ := field
      obtain ⟨hfresh, hrest⟩ := List.nodup_cons.mp h
      unfold erase
      by_cases hkey : key = name
      · rw [if_pos hkey]
        exact get?_eq_none (hkey ▸ hfresh)
      · rw [if_neg hkey, get?, List.lookup_cons]
        have hne : (name == key) = false := by simp [Ne.symm hkey]
        rw [hne]
        exact ih hrest

theorem keys_erase_sublist : List.Sublist (keys (erase d name)) (keys d) := by
  induction d with
  | nil => exact List.Sublist.slnil
  | cons field rest ih =>
      obtain ⟨key, old⟩ := field
      unfold erase
      by_cases hkey : key = name
      · rw [if_pos hkey]
        exact List.sublist_cons_self key (keys rest)
      · rw [if_neg hkey]
        exact List.Sublist.cons_cons key ih

theorem mem_keys_insert {key : String} :
    key ∈ keys (insert d name value) ↔ key ∈ keys d ∨ key = name := by
  induction d with
  | nil => simp [insert, keys]
  | cons field rest ih =>
      obtain ⟨first, old⟩ := field
      unfold insert
      by_cases hfirst : first = name
      · rw [if_pos hfirst]
        simp only [keys, List.map_cons, List.mem_cons, hfirst]
        tauto
      · rw [if_neg hfirst]
        change key ∈ first :: keys (insert rest name value) ↔ key ∈ first :: keys rest ∨ key = name
        rw [List.mem_cons, List.mem_cons, ih, or_assoc]

theorem keys_insert_nodup (h : (keys d).Nodup) : (keys (insert d name value)).Nodup := by
  induction d with
  | nil => exact List.nodup_singleton name
  | cons field rest ih =>
      obtain ⟨key, old⟩ := field
      obtain ⟨hfresh, hrest⟩ := List.nodup_cons.mp h
      unfold insert
      by_cases hkey : key = name
      · rw [if_pos hkey]
        exact h
      · rw [if_neg hkey]
        refine List.nodup_cons.mpr ⟨fun hmem => ?_, ih hrest⟩
        rcases mem_keys_insert.mp hmem with hmem | hsame
        · exact hfresh hmem
        · exact hkey hsame

end Document

/-! ## Names that do not repeat -/

mutual

/-- No document has two fields of one name, those in lists and scopes apart. -/
def Value.Proper : Value → Prop
  | .document fields => (Document.keys fields).Nodup ∧ Document.FieldsProper fields
  | _ => True

/-- The values of all fields are proper. -/
def Document.FieldsProper : List (String × Value) → Prop
  | [] => True
  | (_, value) :: rest => Value.Proper value ∧ Document.FieldsProper rest

end

namespace Document

variable {d : Document} {name : String} {value : Value}

/-- No document in a document, itself included, has two fields of one name. -/
def Proper (d : Document) : Prop :=
  Value.Proper (.document d)

theorem Proper.keys (h : Proper d) : (Document.keys d).Nodup := by
  unfold Proper Value.Proper at h
  exact h.1

theorem Proper.fields (h : Proper d) : FieldsProper d := by
  unfold Proper Value.Proper at h
  exact h.2

theorem proper_mk (hkeys : (Document.keys d).Nodup) (hfields : FieldsProper d) : Proper d := by
  unfold Proper Value.Proper
  exact ⟨hkeys, hfields⟩

theorem FieldsProper.mem (h : FieldsProper d) (hfield : (name, value) ∈ d) : value.Proper := by
  induction d with
  | nil => cases hfield
  | cons field rest ih =>
      obtain ⟨key, old⟩ := field
      unfold FieldsProper at h
      rcases List.mem_cons.mp hfield with hsame | hrest
      · cases hsame
        exact h.1
      · exact ih h.2 hrest

theorem FieldsProper.get? (h : FieldsProper d) (hvalue : Document.get? d name = some value) :
    value.Proper :=
  h.mem (mem_of_get? hvalue)

theorem FieldsProper.insert (h : FieldsProper d) (hvalue : value.Proper) :
    FieldsProper (Document.insert d name value) := by
  induction d with
  | nil =>
      unfold Document.insert FieldsProper FieldsProper
      exact ⟨hvalue, trivial⟩
  | cons field rest ih =>
      obtain ⟨key, old⟩ := field
      unfold FieldsProper at h
      unfold Document.insert
      split
      · unfold FieldsProper
        exact ⟨hvalue, h.2⟩
      · unfold FieldsProper
        exact ⟨h.1, ih h.2⟩

theorem FieldsProper.erase (h : FieldsProper d) : FieldsProper (Document.erase d name) := by
  induction d with
  | nil => exact h
  | cons field rest ih =>
      obtain ⟨key, old⟩ := field
      unfold FieldsProper at h
      unfold Document.erase
      split
      · exact h.2
      · unfold FieldsProper
        exact ⟨h.1, ih h.2⟩

theorem Proper.insert (h : Proper d) (hvalue : value.Proper) :
    Proper (Document.insert d name value) :=
  proper_mk (keys_insert_nodup h.keys) (h.fields.insert hvalue)

theorem Proper.erase (h : Proper d) : Proper (Document.erase d name) :=
  proper_mk (h.keys.sublist keys_erase_sublist) h.fields.erase

/-- A document in a proper document is proper. -/
theorem Proper.inner {inner : Document} (h : Proper d)
    (hinner : Document.get? d name = some (.document inner)) : Proper inner :=
  h.fields.get? hinner

end Document

end BulkSweep

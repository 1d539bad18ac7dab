import BulkSweep.Proofs.Filter.Numbers
import BulkSweep.Proofs.Run.Leads
import BulkSweep.Proofs.Store.Identity
import BulkSweep.Proofs.Value.Labels
import BulkSweep.Store

/-!
# Deletion by ids

A store deletes the documents whose ids have the label of a given one, and leaves all else as it is
(`deleteByIds_labels`).  No document with one of the given ids stays.  A document with another id goes
only if the label of this id tells neither its kind nor its value: where both ids are told by their
labels, they are the same or integers of one value.  Program text is not told by its label, so that a
document may go for the id of another one (`delete_takes_lookalikes`).
-/

set_option autoImplicit false

namespace BulkSweep

open BulkSweep.Numeric

/-! ## Likeness of ids -/

/-- Two ids are alike when they are the same, or numbers of one exact value. -/
def Value.Alike (own id : Value) : Prop :=
  own = id ∨ ∃ x, own.units? = some x ∧ id.units? = some x

theorem Value.units?_widened (v : Value) : v.widened.units? = v.units? := by
  cases v with
  | int32 n =>
      change some (Binary64.integer n.toInt64.toInt) = some (Binary64.integer n.toInt)
      rw [Int32.toInt_toInt64]
  | _ => rfl

/-- Only integers are widened. -/
theorem Value.widened_cases (v : Value) : v.widened = v ∨ ∃ x, v.units? = some x := by
  cases v with
  | int32 n => exact .inr ⟨_, rfl⟩
  | _ => exact .inl rfl

/-- Ids that are told by their labels and have one label are alike. -/
theorem Value.alike_of_label {own id : Value} (hown : own.hasOwnLabel = true)
    (hid : id.hasOwnLabel = true) (h : own.label = id.label) : own.Alike id := by
  have hwide := Value.widened_eq_of_label hown hid h
  have hexact : own.units? = id.units? := by
    rw [← Value.units?_widened own, hwide, Value.units?_widened id]
  rcases own.widened_cases with hsame | ⟨x, hx⟩
  · rcases id.widened_cases with hsame' | ⟨x, hx⟩
    · exact .inl (hsame.symm.trans (hwide.trans hsame'))
    · exact .inr ⟨x, hexact.trans hx, hx⟩
  · exact .inr ⟨x, hx, hexact.symm.trans hx⟩

/-! ## Documents that go -/

namespace Collection

variable {docs : Collection} {ids : List Value} {d : Document} {own : Value}

/-- Whether a deletion of the given ids leaves a document. -/
def stays (ids : List Value) (d : Document) : Bool :=
  !ids.any fun id => d.label? == some id.label

theorem stays_eq_false : stays ids d = false ↔ ∃ id ∈ ids, d.label? = some id.label := by
  simp [stays]

theorem delete_eq_filter : docs.delete ids = docs.filter (stays ids) :=
  delete_eq_without

/-- The documents that go are those that do not stay. -/
theorem length_sub_delete :
    docs.length - (docs.delete ids).length = docs.countP fun d => !stays ids d := by
  have hsplit := docs.length_eq_countP_add_countP (stays ids)
  rw [delete_eq_filter, ← List.countP_eq_length_filter]
  simp only [Bool.not_eq_true, Bool.decide_eq_false] at hsplit
  omega

/-- A document without id stays. -/
theorem stays_of_unnamed (h : Document.id? d = none) : stays ids d = true := by
  refine (Bool.not_eq_false _).mp fun hgoes => ?_
  obtain ⟨id, -, hlabel⟩ := stays_eq_false.mp hgoes
  rw [Document.label?, h] at hlabel
  cases hlabel

/-- A document whose id is given goes. -/
theorem goes_of_mem (h : Document.id? d = some own) (hmem : own ∈ ids) : stays ids d = false := by
  refine stays_eq_false.mpr ⟨own, hmem, ?_⟩
  rw [Document.label?, h]
  rfl

/-- A document that goes has the label of a given id, and a like id if labels tell both of them. -/
theorem alike_of_goes (h : Document.id? d = some own) (hgoes : stays ids d = false) :
    ∃ id ∈ ids, own.label = id.label ∧
      (own.hasOwnLabel = true → id.hasOwnLabel = true → own.Alike id) := by
  obtain ⟨id, hid, hlabel⟩ := stays_eq_false.mp hgoes
  rw [Document.label?, h, Option.map_some, Option.some.injEq] at hlabel
  exact ⟨id, hid, hlabel, fun hown hid' => Value.alike_of_label hown hid' hlabel⟩

end Collection

/-! ## Stores -/

namespace Store

variable {σ : Type}

/-- From any store, a deletion by ids leaves all documents but some, as they are and in order, and tells
how many went; other collections are not touched.  A document without id stays, and one whose id is
given goes.  Any other document that goes has the label of a given id, and if both ids are told by their
labels, they are alike. -/
theorem deleteByIds_removes (store : Store) (target : Namespace) (ids : List Value) :
    Yields (Store.connection.deleteByIds target ids : StateT Store (StateM σ) _) store
      fun answer after => ∃ stays : Document → Bool,
        after.documents target.collection
            = (store.documents target.collection).filter stays ∧
          answer = .ok ((store.documents target.collection).countP fun d => !stays d) ∧
          (∀ name, name ≠ target.collection → after.documents name = store.documents name) ∧
          (∀ d, Document.id? d = none → stays d = true) ∧
          ∀ d own, Document.id? d = some own →
            (own ∈ ids → stays d = false) ∧
            (stays d = false → ∃ id ∈ ids, own.label = id.label ∧
              (own.hasOwnLabel = true → id.hasOwnLabel = true → own.Alike id)) := by
  refine yields_get_bind (yields_modify_bind (yields_pure ⟨Collection.stays ids, ?_, ?_, ?_, ?_, ?_⟩))
  · rw [documents_setDocuments_self]
    exact Collection.delete_eq_filter
  · exact congrArg Except.ok Collection.length_sub_delete
  · exact fun name hname => documents_setDocuments_of_ne store hname _
  · exact fun d h => Collection.stays_of_unnamed h
  · exact fun d own h => ⟨Collection.goes_of_mem h, Collection.alike_of_goes h⟩

end Store

/-- Program text has the label of a number, and a list of one text that of a list of two, so that
documents go though their ids are neither given nor numbers. -/
theorem Collection.delete_takes_lookalikes :
    Collection.delete [[(idField, .code "5")], [(idField, .array [.string "a\", \"b"])]]
        [.int32 5, .array [.string "a", .string "b"]] = [] ∧
      ¬Value.Alike (.code "5") (.int32 5) ∧
      ¬Value.Alike (.array [.string "a\", \"b"]) (.array [.string "a", .string "b"]) := by
  refine ⟨?_, ?_, ?_⟩
  · rw [Collection.delete_eq_filter]
    decide
  · rintro (hsame | ⟨x, hx, -⟩)
    · cases hsame
    · cases hx
  · rintro (hsame | ⟨x, hx, -⟩)
    · have hlength := congrArg List.length (Value.array.inj hsame)
      cases hlength
    · cases hx

end BulkSweep

import BulkSweep.Proofs.Files.Tree
import BulkSweep.Proofs.Text.Hex

/-!
# Files that grow

What is added to a file stands behind what it held before (`read_append`), byte by byte
(`bytes_append`).  A file that can be read can be added to (`append_of_read`), and what cannot be added
changes nothing (`append_of_error`).
-/

set_option autoImplicit false

namespace BulkSweep

open Text (toList_byteArray)

/-! ## Contents -/

namespace Content

theorem bytes_ofBytes (bytes : ByteArray) : (ofBytes bytes).bytes = bytes.toList := by
  unfold ofBytes String.fromUTF8?
  split
  · rename_i text htext
    split at htext
    · rw [← Option.some.inj htext]
      rfl
    · cases htext
  · rfl

/-- What is added stands behind the bytes that were there. -/
theorem bytes_append (c : Content) (more : String) :
    (c.append more).bytes = c.bytes ++ more.toUTF8.toList := by
  cases c with
  | text s =>
      simp [append, bytes, toList_byteArray]
  | raw bytes =>
      rw [append, bytes_ofBytes, toList_byteArray]
      rfl

end Content

namespace FileTree

variable {t : FileTree} {path text : String}

/-! ## What a file holds -/

/-- What can be read at a path; nothing if nothing can be. -/
def held (t : FileTree) (path : String) : Content :=
  match t.read path with
  | .ok content => content
  | .error _ => .text ""

theorem held_of_read {content : Content} (h : t.read path = .ok content) : t.held path = content := by
  rw [held, h]

/-! ## Adding to a file -/

theorem appendAt_eq_ok {trail : Trail} (h : (t.appendAt trail text).2 = .ok ()) :
    (∀ entries, t.nodeAt trail ≠ some (.folder entries)) ∧
      ∀ path, t.locate path = .ok trail →
        (t.appendAt trail text).1 = t.put trail.place (.file ((t.held path).append text)) := by
  unfold appendAt at h ⊢
  split at h
  · cases h
  · rename_i content hfile
    refine ⟨fun entries hfolder => ?_, fun path hlocate => ?_⟩
    · rw [hfile] at hfolder
      cases hfolder
    · have hread : t.read path = .ok content := by rw [read, find, hlocate]; simp only [hfile]
      rw [held_of_read hread]
  · rename_i hnone
    refine ⟨fun entries hfolder => ?_, fun path hlocate => ?_⟩
    · rw [hnone] at hfolder
      cases hfolder
    · have hread : t.read path = .error .notFound := by rw [read, find, hlocate]; simp only [hnone]
      rw [held, hread]
      simp [Content.append]

theorem append_eq_ok (h : (t.append path text).2 = .ok ()) :
    Route.withoutTrailing path = path ∧
      ∃ trail, t.locate path = .ok trail ∧ t.append path text = t.appendAt trail text := by
  unfold append at h ⊢
  dsimp only at h ⊢
  split at h
  · rename_i hshort
    rw [if_pos hshort]
    rw [hshort] at h ⊢
    split at h
    · cases h
    · rename_i trail hlocate
      exact ⟨rfl, trail, hlocate, rfl⟩
  · split at h
    · cases h
    · cases h

/-- What was added to a file is read behind what it held. -/
theorem read_append (h : (t.append path text).2 = .ok ()) :
    (t.append path text).1.read path = .ok ((t.held path).append text) := by
  obtain ⟨-, trail, hlocate, happend⟩ := append_eq_ok h
  rw [happend] at h ⊢
  obtain ⟨hfree, hput⟩ := appendAt_eq_ok h
  rw [hput path hlocate]
  exact read_put hlocate hfree _

/-- A file that can be read can be added to, unless its path asks for a folder. -/
theorem append_of_read (hshort : Route.withoutTrailing path = path) {content : Content}
    (h : t.read path = .ok content) (text : String) : (t.append path text).2 = .ok () := by
  unfold read find at h
  cases hlocate : t.locate path with
  | error e => rw [hlocate] at h; cases h
  | ok trail =>
      rw [hlocate] at h
      unfold locate at hlocate
      unfold append
      dsimp only
      rw [if_pos hshort, hshort, hlocate]
      dsimp only [appendAt]
      split
      · rename_i entries hfolder
        simp only [hfolder] at h
        cases h
      · rfl
      · rfl

theorem appendAt_of_error {trail : Trail} {cause : FileError}
    (h : (t.appendAt trail text).2 = .error cause) : (t.appendAt trail text).1 = t := by
  unfold appendAt at h ⊢
  split
  · rfl
  · rename_i hfile
    rw [hfile] at h
    cases h
  · rename_i hnone
    rw [hnone] at h
    cases h

/-- What cannot be added changes nothing. -/
theorem append_of_error {cause : FileError} (h : (t.append path text).2 = .error cause) :
    (t.append path text).1 = t := by
  unfold append at h ⊢
  dsimp only at h ⊢
  split
  · rename_i hshort
    rw [if_pos hshort] at h
    split
    · rfl
    · rename_i trail hfollow
      rw [hfollow] at h
      exact appendAt_of_error h
  · split <;> rfl

end FileTree

end BulkSweep

import BulkSweep.Proofs.Json.Form

/-!
# Objects without members

The reader answers an object without members for two braces with white space between them and around
them, and for nothing else (`read_empty`): every member that it reads stays in the object.
-/

set_option autoImplicit false

namespace BulkSweep.Json

/-! ## Answers -/

theorem bind_eq_ok {ε α β : Type} {answer : Except ε α} {next : α → Except ε β} {b : β}
    (h : answer >>= next = .ok b) : ∃ a, answer = .ok a ∧ next a = .ok b := by
  cases answer with
  | error e => cases h
  | ok a => exact ⟨a, rfl, h⟩

theorem failNext_ne_ok {α : Type} {c : Cursor} {fault : Fault} {a : α} :
    (c.failNext fault : Except Failure α) ≠ .ok a := by
  intro h
  unfold Cursor.failNext at h
  split at h <;> cases h

/-! ## White space -/

/-- What is skipped is white space. -/
theorem exists_space (c : Cursor) : ∃ space : Form.Space, c.rest = space.chars ++ c.skipSpace.rest := by
  obtain ⟨m, s⟩ := c
  induction s generalizing m with
  | nil => exact ⟨.none, rfl⟩
  | cons d ds ih =>
      cases hd : Cursor.isSpace d with
      | false => exact ⟨.none, by simp [Cursor.skipSpace, Cursor.skipSpaceFrom, hd, Form.Space.none]⟩
      | true =>
          obtain ⟨⟨chars, hchars⟩, heq⟩ := ih (m.past d)
          refine ⟨⟨d :: chars, ?_⟩, ?_⟩
          · exact List.forall_mem_cons.mpr ⟨hd, hchars⟩
          · simp only [Cursor.skipSpace, Cursor.skipSpaceFrom, hd, if_true, List.cons_append,
              List.cons.injEq, true_and] at heq ⊢
            exact heq

/-! ## Members -/

theorem setMember_ne_nil (members : List (String × Json)) (name : String) (value : Json) :
    setMember members name value ≠ [] := by
  cases members with
  | nil => exact nofun
  | cons first rest =>
      rw [setMember]
      split <;> exact nofun

theorem members_eq_nil {members : List (String × Json)}
    (h : members.foldl (fun all (name, value) => setMember all name value) [] = []) : members = [] := by
  rcases members.eq_nil_or_concat with hnil | ⟨front, last, rfl⟩
  · exact hnil
  · rw [List.concat_eq_append, List.foldl_append] at h
    exact absurd h (setMember_ne_nil _ last.1 last.2)

/-- An object ends at its closing brace. -/
theorem nextMember_eq_none {first : Bool} {c c' : Cursor} (h : nextMember first c = .ok (none, c')) :
    ∃ inside : Form.Space, c.rest = inside.chars ++ '}' :: c'.rest := by
  obtain ⟨inside, heq⟩ := exists_space c
  refine ⟨inside, heq.trans (congrArg (inside.chars ++ ·) ?_)⟩
  rw [nextMember] at h
  split at h
  · exact absurd h failNext_ne_ok
  · rename_i cs hbrace
    cases h
    generalize c.skipSpace = c at hbrace
    obtain ⟨m, s⟩ := c
    simp only at hbrace
    rw [hbrace, Cursor.advance]
  · split at h
    · exact absurd h failNext_ne_ok
    · simp only at h
      split at h
      · exact absurd h failNext_ne_ok
      · exact absurd h failNext_ne_ok
      · cases h
  · split at h
    · cases h
    · exact absurd h failNext_ne_ok

/-- Without members there is nothing but white space before the closing brace. -/
theorem readMembers_eq_nil {fuel depth : Nat} {first : Bool} {c c' : Cursor}
    (h : readMembers fuel depth first c = .ok ([], c')) :
    ∃ inside : Form.Space, c.rest = inside.chars ++ '}' :: c'.rest := by
  cases fuel with
  | zero => exact absurd h failNext_ne_ok
  | succ fuel =>
      rw [readMembers] at h
      obtain ⟨⟨next, after⟩, hnext, h⟩ := bind_eq_ok h
      cases next with
      | none =>
          cases h
          exact nextMember_eq_none hnext
      | some c =>
          obtain ⟨-, -, h⟩ := bind_eq_ok h
          obtain ⟨⟨name, c₁⟩, -, h⟩ := bind_eq_ok h
          obtain ⟨c₂, -, h⟩ := bind_eq_ok h
          obtain ⟨⟨value, c₃⟩, -, h⟩ := bind_eq_ok h
          obtain ⟨⟨members, c₄⟩, -, h⟩ := bind_eq_ok h
          cases h

/-! ## Values -/

theorem readWord_value {letters : List Char} {value value' : Json} {c c' : Cursor}
    (h : readWord letters value c = .ok (value', c')) : value' = value := by
  induction letters generalizing c with
  | nil =>
      cases h
      rfl
  | cons letter more ih =>
      rw [readWord] at h
      split at h
      · cases h
      · split at h
        · exact ih h
        · exact absurd h failNext_ne_ok

/-- The value of an object without members is written as two braces. -/
theorem readValue_eq_empty {fuel depth : Nat} {c c' : Cursor}
    (h : readValue fuel depth c = .ok (.object [], c')) :
    ∃ lead inside : Form.Space, c.rest = lead.chars ++ '{' :: (inside.chars ++ '}' :: c'.rest) := by
  obtain ⟨lead, heq⟩ := exists_space c
  cases fuel with
  | zero => exact absurd h failNext_ne_ok
  | succ fuel =>
      rw [readValue] at h
      generalize c.skipSpace = c at h heq
      obtain ⟨m, s⟩ := c
      simp only at h heq
      -- Words, strings, lists and numbers are other values: an object begins with its brace.
      split at h
      · exact absurd h failNext_ne_ok
      · cases readWord_value h
      · cases readWord_value h
      · cases readWord_value h
      · obtain ⟨⟨text, c₁⟩, -, h⟩ := bind_eq_ok h
        cases h
      · split at h
        · exact absurd h failNext_ne_ok
        · obtain ⟨⟨items, c₁⟩, -, h⟩ := bind_eq_ok h
          cases h
      · split at h
        · exact absurd h failNext_ne_ok
        · obtain ⟨⟨members, c₁⟩, hmembers, h⟩ := bind_eq_ok h
          obtain ⟨hfold, rfl⟩ := Prod.mk.inj (Except.ok.inj h)
          cases members_eq_nil (Json.object.inj hfold)
          obtain ⟨inside, hinside⟩ := readMembers_eq_nil hmembers
          exact ⟨lead, inside, by rw [heq, ← hinside]; rfl⟩
      · split at h
        · obtain ⟨⟨n, c₁⟩, -, h⟩ := bind_eq_ok h
          cases h
        · exact absurd h failNext_ne_ok

/-- Only two braces are read as the object without members. -/
theorem read_empty {text : String} (h : read text = .ok (.object [])) :
    ∃ lead inside trail : Form.Space,
      text.toList = lead.chars ++ '{' :: (inside.chars ++ '}' :: trail.chars) := by
  obtain ⟨⟨value, c⟩, hvalue, h⟩ := bind_eq_ok h
  obtain ⟨trail, htrail⟩ := exists_space c
  simp only at h
  split at h
  · rename_i hend
    cases h
    obtain ⟨lead, inside, heq⟩ := readValue_eq_empty hvalue
    rw [hend, List.append_nil] at htrail
    exact ⟨lead, inside, trail, by rw [← htrail]; exact heq⟩
  · exact absurd h failNext_ne_ok

end BulkSweep.Json

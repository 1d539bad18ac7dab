import BulkSweep.Proofs.Json.Doubles
import BulkSweep.Proofs.Json.Reading

/-!
# JSON that is read again

A value is writable if its numbers can be written as JSON numbers and no object has a name twice.  Its
compact text is the text of a form without white space, and the form denotes the value as it was, except
that a fraction may be another one after it was read (`exists_form_of_writable`).  It denotes nothing if the
value is nested too deeply.  A plain value has no fractions and comes back as it was (`exists_form`).
-/

set_option autoImplicit false

namespace BulkSweep.Json

open BulkSweep.Numeric BulkSweep.Text

/-! ## Writable values -/

mutual

/-- Whole numbers have at most 64 bits, fractions are finite, and no object has two members of one name. -/
def Writable : Json → Prop
  | .number (.integer n) => -(2 ^ 63) ≤ n ∧ n < 2 ^ 64
  | .number (.fraction x) => x.isFinite = true
  | .array items => WritableItems items
  | .object members => (members.map Prod.fst).Nodup ∧ WritableMembers members
  | _ => True

/-- All items of a list are writable. -/
def WritableItems : List Json → Prop
  | [] => True
  | item :: rest => item.Writable ∧ WritableItems rest

/-- The values of all members are writable. -/
def WritableMembers : List (String × Json) → Prop
  | [] => True
  | (_, value) :: rest => value.Writable ∧ WritableMembers rest

end

mutual

/-- Puts other fractions in place of the fractions of a value. -/
def mapFractions (f : Binary64 → Binary64) : Json → Json
  | .number (.fraction x) => .number (.fraction (f x))
  | .array items => .array (mapItems f items)
  | .object members => .object (mapMembers f members)
  | other => other

/-- Puts other fractions in place of those of all items. -/
def mapItems (f : Binary64 → Binary64) : List Json → List Json
  | [] => []
  | item :: rest => item.mapFractions f :: mapItems f rest

/-- Puts other fractions in place of those of all members' values. -/
def mapMembers (f : Binary64 → Binary64) : List (String × Json) → List (String × Json)
  | [] => []
  | (name, value) :: rest => (name, value.mapFractions f) :: mapMembers f rest

end

theorem keys_mapMembers (f : Binary64 → Binary64) (members : List (String × Json)) :
    (mapMembers f members).map Prod.fst = members.map Prod.fst := by
  induction members with
  | nil => rfl
  | cons member rest ih => exact congrArg (member.1 :: ·) ih

mutual

/-- A plain value is writable and has no fractions. -/
theorem Plain.writable : ∀ {j : Json} (f : Binary64 → Binary64) (_ : j.Plain),
    j.Writable ∧ j.mapFractions f = j
  | .null, _, _ | .bool _, _, _ | .string _, _, _ => ⟨trivial, rfl⟩
  | .number (.integer _), _, h => ⟨h, rfl⟩
  | .number (.fraction _), _, h => h.elim
  | .array items, f, h => by
      have hplain : PlainItems items := h
      obtain ⟨hitems, hsame⟩ := hplain.writable f
      exact ⟨hitems, congrArg Json.array hsame⟩
  | .object members, f, h => by
      obtain ⟨hmembers, hsame⟩ := PlainMembers.writable f h.2
      exact ⟨⟨h.1, hmembers⟩, congrArg Json.object hsame⟩

theorem PlainItems.writable : ∀ {items : List Json} (f : Binary64 → Binary64) (_ : PlainItems items),
    WritableItems items ∧ mapItems f items = items
  | [], _, _ => ⟨trivial, rfl⟩
  | item :: rest, f, h => by
      obtain ⟨hitem, hsame⟩ := Plain.writable f h.1
      obtain ⟨hrest, hothers⟩ := PlainItems.writable f h.2
      refine ⟨⟨hitem, hrest⟩, ?_⟩
      rw [mapItems, hsame, hothers]

theorem PlainMembers.writable : ∀ {members : List (String × Json)} (f : Binary64 → Binary64)
    (_ : PlainMembers members), WritableMembers members ∧ mapMembers f members = members
  | [], _, _ => ⟨trivial, rfl⟩
  | (name, value) :: rest, f, h => by
      obtain ⟨hvalue, hsame⟩ := Plain.writable f h.1
      obtain ⟨hrest, hothers⟩ := PlainMembers.writable f h.2
      refine ⟨⟨hvalue, hrest⟩, ?_⟩
      rw [mapMembers, hsame, hothers]

end

/-! ## Fractions -/

/-- The double that a reader makes of the text of a double. -/
def reread (x : Binary64) : Binary64 :=
  match readNumber (.start (documentLayout.write x).toList) with
  | .ok (.fraction y, _) => y
  | _ => x

/-- What is written for a finite double denotes the double that is read. -/
theorem exists_figures_reread {x : Binary64} (h : x.isFinite = true) :
    ∃ figures : Form.Figures, figures.text = (documentLayout.write x).toList ∧
      figures.value? = some (.fraction (reread x)) := by
  obtain ⟨figures, htext, y, hvalue⟩ := exists_figures_double h
  have hread := readNumber_text figures (show NoFigure [] from nofun) .start
  rw [hvalue, List.append_nil, htext] at hread
  obtain ⟨m, hanswer⟩ := hread
  have hsame : reread x = y := by
    unfold reread Cursor.start
    rw [hanswer]
  exact ⟨figures, htext, hsame ▸ hvalue⟩

/-! ## Values -/

/-- What is there within some levels is there within one level more, with a list or an object around it. -/
theorem guarded_level {α β : Type} (depth levels : Nat) (x : α) (g : α → β) :
    (if levels ≤ 1 then none else (if depth < levels - 1 then some x else none).map g)
      = if depth + 1 < levels then some (g x) else none := by
  by_cases hfits : depth + 1 < levels
  · rw [if_neg (by omega), if_pos (by omega), if_pos hfits, Option.map_some]
  · by_cases hone : levels ≤ 1
    · rw [if_pos hone, if_neg hfits]
    · rw [if_neg hone, if_neg (by omega), if_neg hfits, Option.map_none]

/-- Two things are there within the levels of the deeper one. -/
theorem guarded_pair {α β γ : Type} (depth depth' levels : Nat) (x : α) (y : β) (g : α → β → γ) :
    ((if depth < levels then some x else none).bind fun a =>
        (if depth' < levels then some y else none).map (g a))
      = if max depth depth' < levels then some (g x y) else none := by
  simp only [Nat.max_lt]
  by_cases hfirst : depth < levels
  · by_cases hsecond : depth' < levels
    · rw [if_pos hfirst, if_pos hsecond, if_pos ⟨hfirst, hsecond⟩, Option.bind_some, Option.map_some]
    · rw [if_pos hfirst, if_neg hsecond, if_neg (mt And.right hsecond), Option.bind_some, Option.map_none]
  · rw [if_neg hfirst, if_neg (mt And.left hfirst), Option.bind_none]

mutual

/-- The text of a writable value is that of a form which denotes it with its fractions as they are read.  It
denotes nothing if fewer levels are allowed than the value has. -/
theorem exists_form_of_writable : ∀ (j : Json) (_ : j.Writable),
    ∃ form : Form, form.text = j.text.toList ∧ ∀ levels, 0 < levels →
      form.value? levels = if j.depth < levels then some (j.mapFractions reread) else none
  | .null, _ => ⟨.null, rfl, fun _ hpos => (if_pos hpos).symm⟩
  | .bool true, _ => ⟨.bool true, rfl, fun _ hpos => (if_pos hpos).symm⟩
  | .bool false, _ => ⟨.bool false, rfl, fun _ hpos => (if_pos hpos).symm⟩
  | .number (.integer n), h => by
      obtain ⟨figures, htext, hvalue⟩ := exists_figures h.1 h.2
      refine ⟨.number figures, htext, fun levels hpos => ?_⟩
      rw [Form.value?, hvalue]
      exact (if_pos hpos).symm
  | .number (.fraction x), h => by
      obtain ⟨figures, htext, hvalue⟩ := exists_figures_reread h
      refine ⟨.number figures, htext, fun levels hpos => ?_⟩
      rw [Form.value?, hvalue]
      exact (if_pos hpos).symm
  | .string s, _ => by
      obtain ⟨literal, htext, hvalue⟩ := exists_literal s
      refine ⟨.string literal, htext, fun levels hpos => ?_⟩
      rw [Form.value?, hvalue, Option.map_some, String.ofList_toList]
      exact (if_pos hpos).symm
  | .array [], _ => by
      refine ⟨.emptyList .none, rfl, fun levels _ => ?_⟩
      rw [Form.value?, depth, depthItems, mapFractions, mapItems]
      by_cases hone : levels ≤ 1
      · rw [if_pos hone, if_neg (by omega)]
      · rw [if_neg hone, if_pos (by omega)]
  | .array (item :: rest), h => by
      obtain ⟨items, htext, hvalues⟩ := exists_items item rest h
      refine ⟨.list items, ?_, fun levels _ => ?_⟩
      · simp [Form.text, htext, Json.text]
      · rw [depth, mapFractions, ← guarded_level, Form.value?]
        by_cases hone : levels ≤ 1
        · rw [if_pos hone, if_pos hone]
        · rw [if_neg hone, if_neg hone, hvalues (levels - 1) (by omega)]
  | .object [], _ => by
      refine ⟨.emptyObject .none, rfl, fun levels _ => ?_⟩
      rw [Form.value?, depth, depthMembers, mapFractions, mapMembers]
      by_cases hone : levels ≤ 1
      · rw [if_pos hone, if_neg (by omega)]
      · rw [if_neg hone, if_pos (by omega)]
  | .object ((name, value) :: rest), h => by
      obtain ⟨members, htext, hvalues⟩ := exists_members name value rest h.2
      have hnames : ((mapMembers reread ((name, value) :: rest)).map Prod.fst).Nodup := by
        rw [keys_mapMembers]
        exact h.1
      refine ⟨.object members, ?_, fun levels _ => ?_⟩
      · simp [Form.text, htext, Json.text]
      · have hlevel := guarded_level (depthMembers ((name, value) :: rest)) levels
          (mapMembers reread ((name, value) :: rest))
          fun all => Json.object (all.foldl (fun all (name, value) => setMember all name value) [])
        rw [foldl_setMember hnames] at hlevel
        rw [depth, mapFractions, ← hlevel, Form.value?]
        by_cases hone : levels ≤ 1
        · rw [if_pos hone, if_pos hone]
        · rw [if_neg hone, if_neg hone, hvalues (levels - 1) (by omega)]
  termination_by j => sizeOf j

theorem exists_items : ∀ (item : Json) (rest : List Json) (_ : WritableItems (item :: rest)),
    ∃ items : Form.Items, items.text = (",".intercalate (itemTexts (item :: rest))).toList ∧
      ∀ levels, 0 < levels → items.values? levels
        = if depthItems (item :: rest) < levels then some (mapItems reread (item :: rest)) else none
  | item, [], h => by
      obtain ⟨form, htext, hvalue⟩ := exists_form_of_writable item h.1
      refine ⟨.last .none form .none, ?_, fun levels hpos => ?_⟩
      · simp [Form.Items.text, Form.Space.none, htext, itemTexts]
      · rw [Form.Items.values?, hvalue levels hpos, depthItems, depthItems, Nat.max_zero]
        by_cases hfits : item.depth < levels
        · rw [if_pos hfits, if_pos hfits]
          rfl
        · rw [if_neg hfits, if_neg hfits]
          rfl
  | item, next :: rest, h => by
      obtain ⟨form, htext, hvalue⟩ := exists_form_of_writable item h.1
      obtain ⟨items, hitems, hvalues⟩ := exists_items next rest h.2
      refine ⟨.more .none form .none items, ?_, fun levels hpos => ?_⟩
      · rw [itemTexts, itemTexts, String.intercalate_cons_cons, ← itemTexts]
        simp only [Form.Items.text, Form.Space.none, htext, hitems, String.toList_append]
        simp
      · rw [Form.Items.values?, hvalue levels hpos, hvalues levels hpos, depthItems, mapItems]
        exact guarded_pair _ _ levels _ _ List.cons
  termination_by item rest => sizeOf (item :: rest)

theorem exists_members : ∀ (name : String) (value : Json) (rest : List (String × Json))
    (_ : WritableMembers ((name, value) :: rest)), ∃ members : Form.Members,
      members.text = (",".intercalate (memberTexts ((name, value) :: rest))).toList ∧
      ∀ levels, 0 < levels → members.values? levels
        = if depthMembers ((name, value) :: rest) < levels then
            some (mapMembers reread ((name, value) :: rest))
          else none
  | name, value, [], h => by
      obtain ⟨literal, hname, hdenotes⟩ := exists_literal name
      obtain ⟨form, htext, hvalue⟩ := exists_form_of_writable value h.1
      refine ⟨.last ⟨.none, literal, .none⟩ .none form .none, ?_, fun levels hpos => ?_⟩
      · simp [Form.Members.text, Form.Label.text, Form.Space.none, hname, htext, memberTexts]
      · rw [Form.Members.values?, hvalue levels hpos, depthMembers, depthMembers, Nat.max_zero, hdenotes,
          Option.bind_some, String.ofList_toList]
        by_cases hfits : value.depth < levels
        · rw [if_pos hfits, if_pos hfits]
          rfl
        · rw [if_neg hfits, if_neg hfits]
          rfl
  | name, value, (next, other) :: rest, h => by
      obtain ⟨literal, hname, hdenotes⟩ := exists_literal name
      obtain ⟨form, htext, hvalue⟩ := exists_form_of_writable value h.1
      obtain ⟨members, hmembers, hvalues⟩ := exists_members next other rest h.2
      refine ⟨.more ⟨.none, literal, .none⟩ .none form .none members, ?_, fun levels hpos => ?_⟩
      · rw [memberTexts, memberTexts, String.intercalate_cons_cons, ← memberTexts]
        simp only [Form.Members.text, Form.Label.text, Form.Space.none, hname, htext, hmembers,
          String.toList_append]
        simp
      · rw [Form.Members.values?, hvalue levels hpos, hvalues levels hpos, depthMembers, mapMembers, hdenotes,
          Option.bind_some, String.ofList_toList]
        exact guarded_pair _ _ levels _ _ fun value rest => (name, value) :: rest
  termination_by name value rest => sizeOf ((name, value) :: rest)

end

/-- The text of a plain value is that of a form which denotes it, if so many levels are allowed. -/
theorem exists_form (j : Json) (levels : Nat) (h : j.Plain) (hdepth : j.depth < levels) :
    ∃ form : Form, form.text = j.text.toList ∧ form.value? levels = some j := by
  obtain ⟨hwritable, hsame⟩ := h.writable reread
  obtain ⟨form, htext, hvalue⟩ := exists_form_of_writable j hwritable
  refine ⟨form, htext, ?_⟩
  rw [hvalue levels (by omega), if_pos hdepth, hsame]

end BulkSweep.Json

import BulkSweep.Json.Reader
import BulkSweep.Proofs.Json.Braces

/-!
# Names of members

However often a text repeats the name of a member, no object that is read has two members of one name
(`distinct_of_read`): a later value takes the place of an earlier one.
-/

set_option autoImplicit false

namespace BulkSweep.Json

mutual

/-- No object has two members of one name. -/
def Distinct : Json → Prop
  | .array items => DistinctItems items
  | .object members => (members.map Prod.fst).Nodup ∧ DistinctMembers members
  | _ => True

/-- All items of a list are such values. -/
def DistinctItems : List Json → Prop
  | [] => True
  | item :: rest => item.Distinct ∧ DistinctItems rest

/-- The values of all members are such values. -/
def DistinctMembers : List (String × Json) → Prop
  | [] => True
  | (_, value) :: rest => value.Distinct ∧ DistinctMembers rest

end

/-- Setting a member adds no other name. -/
theorem mem_keys_setMember {members : List (String × Json)} {name key : String} {value : Json}
    (h : key ∈ (setMember members name value).map Prod.fst) :
    key = name ∨ key ∈ members.map Prod.fst := by
  induction members with
  | nil => exact .inl (List.mem_singleton.mp h)
  | cons member rest ih =>
      obtain ⟨first, old⟩ := member
      rw [setMember] at h
      split at h
      · exact .inr h
      · rcases List.mem_cons.mp h with heq | hrest
        · exact .inr (List.mem_cons.mpr (.inl heq))
        · rcases ih hrest with heq | hmem
          · exact .inl heq
          · exact .inr (List.mem_cons_of_mem _ hmem)

theorem distinct_setMember {members : List (String × Json)} {value : Json} (name : String)
    (h : (Json.object members).Distinct) (hvalue : value.Distinct) :
    (Json.object (setMember members name value)).Distinct := by
  induction members with
  | nil => exact ⟨List.nodup_cons.mpr ⟨List.not_mem_nil, List.nodup_nil⟩, hvalue, trivial⟩
  | cons member rest ih =>
      obtain ⟨key, old⟩ := member
      obtain ⟨hnames, hold, hrest⟩ := h
      obtain ⟨hkey, hnames⟩ := List.nodup_cons.mp hnames
      rw [setMember]
      split
      · exact ⟨List.nodup_cons.mpr ⟨hkey, hnames⟩, hvalue, hrest⟩
      · rename_i hother
        obtain ⟨hset, hvalues⟩ := ih ⟨hnames, hrest⟩
        refine ⟨List.nodup_cons.mpr ⟨fun hmem => ?_, hset⟩, hold, hvalues⟩
        rcases mem_keys_setMember hmem with heq | hmem
        · exact hother heq
        · exact hkey hmem

theorem distinct_foldl {given : List (String × Json)} (hgiven : DistinctMembers given)
    {members : List (String × Json)} (h : (Json.object members).Distinct) :
    (Json.object (given.foldl (fun all (name, value) => setMember all name value) members)).Distinct := by
  induction given generalizing members with
  | nil => exact h
  | cons member rest ih => exact ih hgiven.2 (distinct_setMember member.1 h hgiven.1)

/-- What the readers of values, items and members answer has no name twice: with so much fuel, and so with
any. -/
theorem distinct_of_fuel (fuel : Nat) :
    (∀ depth c j c', readValue fuel depth c = .ok (j, c') → j.Distinct) ∧
      (∀ depth first c items c', readItems fuel depth first c = .ok (items, c') → DistinctItems items) ∧
      ∀ depth first c members c', readMembers fuel depth first c = .ok (members, c') →
        DistinctMembers members := by
  induction fuel with
  | zero => exact ⟨fun _ _ _ _ h => absurd h failNext_ne_ok, fun _ _ _ _ _ h => absurd h failNext_ne_ok,
      fun _ _ _ _ _ h => absurd h failNext_ne_ok⟩
  | succ fuel ih =>
      obtain ⟨hvalues, hitems, hmembers⟩ := ih
      refine ⟨fun depth c j c' h => ?_, fun depth first c items c' h => ?_,
        fun depth first c members c' h => ?_⟩
      · rw [readValue] at h
        simp only at h
        split at h
        · exact absurd h failNext_ne_ok
        · rw [readWord_value h]
          trivial
        · rw [readWord_value h]
          trivial
        · rw [readWord_value h]
          trivial
        · obtain ⟨⟨text, c₁⟩, -, h⟩ := bind_eq_ok h
          cases h
          trivial
        · split at h
          · exact absurd h failNext_ne_ok
          · obtain ⟨⟨items, c₁⟩, hread, h⟩ := bind_eq_ok h
            cases h
            exact hitems _ _ _ _ _ hread
        · split at h
          · exact absurd h failNext_ne_ok
          · obtain ⟨⟨members, c₁⟩, hread, h⟩ := bind_eq_ok h
            cases h
            exact distinct_foldl (hmembers _ _ _ _ _ hread) ⟨List.nodup_nil, trivial⟩
        · split at h
          · obtain ⟨⟨n, c₁⟩, -, h⟩ := bind_eq_ok h
            cases h
            trivial
          · exact absurd h failNext_ne_ok
      · rw [readItems] at h
        obtain ⟨⟨next, after⟩, -, h⟩ := bind_eq_ok h
        cases next with
        | none =>
            cases h
            trivial
        | some start =>
            obtain ⟨⟨item, c₁⟩, hitem, h⟩ := bind_eq_ok h
            obtain ⟨⟨others, c₂⟩, hothers, h⟩ := bind_eq_ok h
            cases h
            exact ⟨hvalues _ _ _ _ hitem, hitems _ _ _ _ _ hothers⟩
      · rw [readMembers] at h
        obtain ⟨⟨next, after⟩, -, h⟩ := bind_eq_ok h
        cases next with
        | none =>
            cases h
            trivial
        | some start =>
            obtain ⟨-, -, h⟩ := bind_eq_ok h
            obtain ⟨⟨name, c₁⟩, -, h⟩ := bind_eq_ok h
            obtain ⟨c₂, -, h⟩ := bind_eq_ok h
            obtain ⟨⟨value, c₃⟩, hvalue, h⟩ := bind_eq_ok h
            obtain ⟨⟨others, c₄⟩, hothers, h⟩ := bind_eq_ok h
            cases h
            exact ⟨hvalues _ _ _ _ hvalue, hmembers _ _ _ _ _ hothers⟩

/-- What is read from a text has no name twice. -/
theorem distinct_of_read {text : String} {j : Json} (h : read text = .ok j) : j.Distinct := by
  obtain ⟨⟨value, c⟩, hvalue, h⟩ := bind_eq_ok h
  simp only at h
  split at h
  · cases h
    exact (distinct_of_fuel _).1 _ _ _ _ hvalue
  · exact absurd h failNext_ne_ok

end BulkSweep.Json

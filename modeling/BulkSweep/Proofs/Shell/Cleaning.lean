import BulkSweep.Proofs.Shell.Calls

/-!
# Keys get quotes and trailing commas go

Tidying a text quotes the bare keys of a tree, drops its trailing commas, and changes nothing else.
After a comma or an opening brace the scan looks ahead for a key: an item of a list is not taken for
one, since a comma or a bracket follows it and never a colon.
-/

set_option autoImplicit false

namespace BulkSweep.Shell

open BulkSweep.Text
open BulkSweep.Json (Form)

/-! ## Runs of text -/

/-- A run of text becomes another run, whatever follows it. -/
def Tidies (run out : List Char) : Prop :=
  ∀ rest, tidyText (run ++ rest) = out ++ tidyText rest

theorem Tidies.append {run run' out out' : List Char} (h : Tidies run out) (h' : Tidies run' out') :
    Tidies (run ++ run') (out ++ out') := by
  intro rest
  rw [List.append_assoc, h, h', List.append_assoc]

theorem tidies_nil : Tidies [] [] :=
  fun _ => rfl

theorem tidies_char {c : Char} (h : c ∉ ['"', ',', '{']) : Tidies [c] [c] := by
  simp only [List.mem_cons, List.not_mem_nil, or_false, not_or] at h
  exact tidyText_other h.1 h.2.1 h.2.2

/-- A run without quotes, commas and opening braces is left alone. -/
theorem tidies_self {s : List Char} (h : ∀ c ∈ s, c ∉ ['"', ',', '{']) : Tidies s s := by
  induction s with
  | nil => exact tidies_nil
  | cons c cs ih =>
      exact (tidies_char (h c List.mem_cons_self)).append
        (ih fun d hd => h d (List.mem_cons_of_mem c hd))

theorem tidies_inert {s : List Char} (h : ∀ c ∈ s, Inert c) : Tidies s s :=
  tidies_self fun c hc hmem => h c hc (List.Sublist.subset (by decide) hmem)

theorem tidies_space (space : Form.Space) : Tidies space.chars space.chars :=
  tidies_inert (inert_space space)

theorem tidies_literal (s : Form.Literal) : Tidies s.text s.text :=
  (isLiteral_text s).tidyText

/-! ## Keys -/

/-- What is no start of a key begins none. -/
theorem readBareKey_of_head {s : List Char} {c : Char} {cs : List Char} (h : dropBlank s = c :: cs)
    (hstart : isKeyStart c = false) (hdollar : c ≠ '$') : readBareKey s = none := by
  have hkey : readKey (c :: cs) = none := by
    rw [readKey]
    · rw [readKeyName, hstart]
      rfl
    · rintro ds ⟨⟩
      exact hdollar rfl
  simp only [readBareKey, h, hkey, Option.bind_eq_bind, Option.bind_none]

theorem closesNext_of_head {s : List Char} {c : Char} {cs : List Char} (h : dropBlank s = c :: cs) :
    closesNext s = (c == '}' || c == ']') := by
  rw [closesNext, h]

theorem readKeyName_append {first : Char} {key : List Char} (hfirst : isKeyStart first = true)
    (hkey : ∀ c ∈ key, isKeyChar c = true) {rest : List Char}
    (hrest : ∀ c ∈ rest.head?, isKeyChar c = false) :
    readKeyName (first :: (key ++ rest)) = some (first :: key, rest) := by
  have htake : rest.takeWhile isKeyChar = [] ∧ rest.dropWhile isKeyChar = rest := by
    cases rest with
    | nil => exact ⟨rfl, rfl⟩
    | cons c cs =>
        have hc := hrest c rfl
        simp [hc]
  rw [readKeyName, if_pos hfirst, List.takeWhile_append_of_pos hkey,
    List.dropWhile_append_of_pos hkey, htake.1, htake.2, List.append_nil]

theorem readKey_name (n : Name) {rest : List Char} (hrest : ∀ c ∈ rest.head?, isKeyChar c = false) :
    readKey (n.text ++ rest) = some (n.text, rest) := by
  obtain ⟨dollar, first, key, hfirst, hkey⟩ := n
  have hname := readKeyName_append hfirst hkey hrest
  cases dollar with
  | true =>
      change (readKeyName (first :: (key ++ rest))).map _ = _
      rw [hname]
      rfl
  | false =>
      change readKey (first :: (key ++ rest)) = some (first :: key, rest)
      rw [readKey]
      · exact hname
      · rintro ds ⟨⟩
        exact absurd hfirst (by decide)

theorem isKeyChar_of_isSpace {c : Char} (h : Json.Cursor.isSpace c = true) :
    isKeyChar c = false := by
  simp only [Json.Cursor.isSpace, Bool.or_eq_true, beq_iff_eq] at h
  rcases h with ((rfl | rfl) | rfl) | rfl <;> decide

/-- White space and a sign do not continue a key. -/
theorem noKeyChar_space (space : Form.Space) {c : Char} (h : isKeyChar c = false)
    (cs : List Char) : ∀ d ∈ (space.chars ++ c :: cs).head?, isKeyChar d = false := by
  cases hspace : space.chars with
  | nil =>
      rintro d ⟨⟩
      exact h
  | cons e es =>
      rintro d ⟨⟩
      exact isKeyChar_of_isSpace (space.isSpace e (hspace ▸ List.mem_cons_self))

theorem dropBlank_name (n : Name) (rest : List Char) :
    ∃ c cs, isKeyChar c = true ∧ n.text ++ rest = c :: cs ∧ dropBlank (n.text ++ rest) = c :: cs := by
  cases htext : n.text with
  | nil =>
      have hne : n.text ≠ [] := by simp [Name.text]
      exact absurd htext hne
  | cons c cs =>
      have hc := n.isKeyChar c (htext ▸ List.mem_cons_self)
      exact ⟨c, cs ++ rest, hc, rfl, dropBlank_cons (isBlank_of_isKeyChar hc) _⟩

theorem readBareKey_label (lead gap : Form.Space) (n : Name) (rest : List Char) :
    readBareKey (lead.chars ++ (n.text ++ (gap.chars ++ ':' :: rest))) = some (n.text, rest) := by
  obtain ⟨c, cs, -, htext, hdrop⟩ := dropBlank_name n (gap.chars ++ ':' :: rest)
  rw [← htext] at hdrop
  have hcolon : dropBlank (':' :: rest) = ':' :: rest := dropBlank_cons (by decide) rest
  have hkey := readKey_name n (noKeyChar_space gap (c := ':') (by decide) rest)
  simp only [readBareKey, dropBlank_space, hdrop, hkey, Option.bind_eq_bind, Option.bind_some, hcolon]

/-- The key of a member gets quotes, and the white space around it goes. -/
theorem tidies_label {c : Char} (hc : c = '{' ∨ c = ',') (label : Label) :
    Tidies (c :: label.text .expanded) (c :: label.text .tidied) := by
  intro rest
  cases label with
  | quoted lead name gap =>
      have htext : c :: (Label.quoted lead name gap).text .expanded ++ rest
          = c :: (lead.chars ++ (name.literal.text ++ (gap.chars ++ ':' :: rest))) := by
        simp [Label.text, Quoted.text]
      have hdrop : dropBlank (lead.chars ++ (name.literal.text ++ (gap.chars ++ ':' :: rest)))
          = '"' :: (name.literal.body ++ '"' :: (gap.chars ++ ':' :: rest)) := by
        rw [dropBlank_space, Json.Form.Literal.text_append]
        exact dropBlank_cons (by decide) _
      rw [htext, tidyText_noKey hc (fun _ => closesNext_of_head hdrop)
        (readBareKey_of_head hdrop (by decide) (by decide)), tidies_space, tidies_literal, tidies_space,
        tidyText_other (by decide) (by decide) (by decide)]
      simp [Label.text, Label.form, Form.Label.text]
  | bare lead name gap =>
      have htext : c :: (Label.bare lead name gap).text .expanded ++ rest
          = c :: (lead.chars ++ (name.text ++ (gap.chars ++ ':' :: rest))) := by
        simp [Label.text]
      have hclose : closesNext (lead.chars ++ (name.text ++ (gap.chars ++ ':' :: rest))) = false := by
        obtain ⟨d, ds, hd, -, hdrop⟩ := dropBlank_name name (gap.chars ++ ':' :: rest)
        rw [closesNext_of_head (by rw [dropBlank_space]; exact hdrop)]
        have hne : d ≠ '}' ∧ d ≠ ']' := by
          constructor <;> rintro rfl <;> revert hd <;> decide
        simp [hne.1, hne.2]
      rw [htext, tidyText_key hc (fun _ => hclose) (readBareKey_label lead gap name rest)]
      simp [Label.text, Label.form, bareLabel, Form.Label.text, Form.Space.none, Name.literal,
        text_plainLiteral]

/-! ## Items -/

/-- A text that neither closes what is open nor begins with a key. -/
def Goes (s : List Char) : Prop :=
  closesNext s = false ∧ readBareKey s = none

theorem goes_of_head {s cs : List Char} {c : Char} (h : dropBlank s = c :: cs)
    (hstart : isKeyStart c = false) (hc : c ∉ ['}', ']', '$']) : Goes s := by
  simp only [List.mem_cons, List.not_mem_nil, or_false, not_or] at hc
  refine ⟨?_, readBareKey_of_head h hstart hc.2.2⟩
  rw [closesNext_of_head h]
  simp [hc.1, hc.2.1]

/-- A word with a sign behind it that is no colon. -/
theorem goes_of_word {first : Char} (word : List Char) (hfirst : isKeyStart first = true)
    (hword : ∀ c ∈ word, isKeyChar c = true) (lead trail : Form.Space) {c : Char}
    (hc : c = ',' ∨ c = ']') (cs : List Char) :
    Goes (lead.chars ++ (first :: (word ++ (trail.chars ++ c :: cs)))) := by
  have hdrop : dropBlank (lead.chars ++ (first :: (word ++ (trail.chars ++ c :: cs))))
      = first :: (word ++ (trail.chars ++ c :: cs)) := by
    rw [dropBlank_space]
    exact dropBlank_cons (isBlank_of_isKeyChar (isKeyChar_of_isKeyStart hfirst)) _
  have hsign : isKeyChar c = false ∧ isBlank c = false ∧ c ≠ ':' := by
    rcases hc with rfl | rfl <;> decide
  have hname := readKeyName_append hfirst hword (noKeyChar_space trail hsign.1 cs)
  have hkey : readKey (first :: (word ++ (trail.chars ++ c :: cs)))
      = some (first :: word, trail.chars ++ c :: cs) := by
    rw [readKey]
    · exact hname
    · rintro ds ⟨⟩
      exact absurd hfirst (by decide)
  refine ⟨?_, ?_⟩
  · rw [closesNext_of_head hdrop]
    have hne : first ≠ '}' ∧ first ≠ ']' := by
      constructor <;> rintro rfl <;> revert hfirst <;> decide
    simp [hne.1, hne.2]
  · simp only [readBareKey, hdrop, hkey, Option.bind_eq_bind, Option.bind_some, dropBlank_space,
      dropBlank_cons hsign.2.1]
    split
    · rename_i heq
      exact absurd (List.head_eq_of_cons_eq heq) hsign.2.2
    · rfl

theorem isKeyStart_of_isDigit {c : Char} (h : c.isDigit = true) : isKeyStart c = false := by
  rw [Bool.eq_false_iff]
  intro hstart
  have hdigit := toNat_of_isDigit h
  simp only [isKeyStart, Bool.or_eq_true, beq_iff_eq] at hstart
  rcases hstart with hstart | rfl
  · have halpha := toNat_of_isAlpha hstart
    omega
  · exact absurd h (by decide)

/-- A call stands for an object. -/
theorem Invocation.form_object (i : Invocation) : ∃ members, i.form = .object members := by
  cases i <;> exact ⟨_, rfl⟩

/-- An item goes on with its list, and it is not taken for a key. -/
theorem goes_item (t : Tree) (lead trail : Form.Space) {c : Char} (hc : c = ',' ∨ c = ']')
    (cs : List Char) :
    Goes (lead.chars ++ (t.text .expanded ++ (trail.chars ++ c :: cs))) := by
  have hsign {d : Char} {ds : List Char} (hblank : isBlank d = false) (hstart : isKeyStart d = false)
      (hd : d ∉ ['}', ']', '$']) : Goes (lead.chars ++ d :: ds) := by
    have hdrop : dropBlank (lead.chars ++ d :: ds) = d :: ds := by
      rw [dropBlank_space]
      exact dropBlank_cons hblank ds
    exact goes_of_head hdrop hstart hd
  cases t with
  | null => exact goes_of_word "ull".toList (by decide) (by decide) lead trail hc cs
  | bool b =>
      cases b with
      | true => exact goes_of_word "rue".toList (by decide) (by decide) lead trail hc cs
      | false => exact goes_of_word "alse".toList (by decide) (by decide) lead trail hc cs
  | number n =>
      obtain ⟨d, ds, htext, hd⟩ := n.text_head
      rw [Tree.text, htext]
      rcases hd with rfl | hd
      · exact hsign (d := '-') (by decide) (by decide) (by decide)
      · refine hsign (isBlank_of_isDigit hd) (isKeyStart_of_isDigit hd) ?_
        simp [Json.ne_of_isDigit hd]
  | string s => exact hsign (d := '"') (by decide) (by decide) (by decide)
  | call call =>
      obtain ⟨members, hform⟩ := call.invocation.form_object
      have htext : (Tree.call call).text .expanded = '{' :: (members.text ++ ['}']) := by
        change call.invocation.form.text = _
        rw [hform]
        rfl
      rw [htext]
      exact hsign (d := '{') (by decide) (by decide) (by decide)
  | emptyList inside => exact hsign (d := '[') (by decide) (by decide) (by decide)
  | list items => exact hsign (d := '[') (by decide) (by decide) (by decide)
  | emptyObject inside => exact hsign (d := '{') (by decide) (by decide) (by decide)
  | object members => exact hsign (d := '{') (by decide) (by decide) (by decide)

/-! ## Calls -/

theorem tidies_member {c : Char} (hc : c = '{' ∨ c = ',') (tag : Form.Literal) {value : Form}
    (h : Tidies value.text value.text) :
    Tidies (c :: ((bareLabel tag).text ++ value.text)) (c :: ((bareLabel tag).text ++ value.text)) :=
  (tidies_label hc (.quoted .none (.double tag) .none)).append h

theorem tidies_tagged (tag : Form.Literal) {value : Form} (h : Tidies value.text value.text) :
    Tidies (tagged tag value).text (tagged tag value).text := by
  have htext : (tagged tag value).text = '{' :: ((bareLabel tag).text ++ value.text) ++ ['}'] := by
    simp [tagged, Form.text, Form.Members.text, Form.Space.none]
  rw [htext]
  exact (tidies_member (.inl rfl) tag h).append (tidies_char (by decide))

theorem tidies_pair (tag tag' : Form.Literal) {value value' : Form} (h : Tidies value.text value.text)
    (h' : Tidies value'.text value'.text) {pair : Form}
    (hpair : pair = .object (.more (bareLabel tag) .none value .none
      (.last (bareLabel tag') .none value' .none))) : Tidies pair.text pair.text := by
  have htext : pair.text = '{' :: ((bareLabel tag).text ++ value.text)
      ++ ',' :: ((bareLabel tag').text ++ value'.text) ++ ['}'] := by
    simp [hpair, Form.text, Form.Members.text, Form.Space.none]
  rw [htext]
  exact ((tidies_member (.inl rfl) tag h).append (tidies_member (.inr rfl) tag' h')).append
    (tidies_char (by decide))

theorem tidies_wholeNumber (w : Form.Whole) : Tidies (wholeNumber w).text (wholeNumber w).text := by
  rw [text_wholeNumber]
  exact tidies_inert (inert_whole w)

/-- What a call stands for is tidy already. -/
theorem tidies_invocation (i : Invocation) : Tidies i.form.text i.form.text := by
  cases i with
  | text callee kind argument => exact tidies_tagged _ (tidies_literal _)
  | integer callee kind argument => exact tidies_tagged _ (tidies_literal _)
  | timestamp seconds before after increment =>
      exact tidies_tagged _ (tidies_pair _ _ (tidies_wholeNumber seconds)
        (tidies_wholeNumber increment) rfl)

/-! ## Values -/

theorem tidyText_bracket {c : Char} (hc : c = ']' ∨ c = '}') (rest : List Char) :
    tidyText (c :: rest) = c :: tidyText rest := by
  rcases hc with rfl | rfl <;> exact tidyText_other (by decide) (by decide) (by decide) rest

/-- A trailing comma goes, with the white space after it. -/
theorem tidyText_trailing (comma : Option Form.Space) {c : Char} (hc : c = ']' ∨ c = '}')
    (rest : List Char) :
    tidyText (commaText .expanded comma ++ c :: rest) = c :: tidyText rest := by
  cases comma with
  | none => exact tidyText_bracket hc rest
  | some space =>
      have hblank : isBlank c = false := by rcases hc with rfl | rfl <;> decide
      have hdrop : dropBlank (space.chars ++ c :: rest) = c :: rest := by
        rw [dropBlank_space]
        exact dropBlank_cons hblank rest
      have hclose : closesNext (space.chars ++ c :: rest) = true := by
        rw [closesNext_of_head hdrop]
        rcases hc with rfl | rfl <;> decide
      change tidyText (',' :: (space.chars ++ c :: rest)) = _
      rw [tidyText_comma hclose, hdrop]
      exact tidyText_bracket hc rest

/-- What follows a comma between items is not taken for a key. -/
theorem goes_items (items : Items) (rest : List Char) :
    Goes (items.text .expanded ++ ']' :: rest) := by
  cases items with
  | last lead item trail comma =>
      have htext : (Items.last lead item trail comma).text .expanded ++ ']' :: rest
          = lead.chars ++ (item.text .expanded
            ++ (trail.chars ++ (commaText .expanded comma ++ ']' :: rest))) := by
        simp [Items.text]
      rw [htext]
      cases comma with
      | none => exact goes_item item lead trail (.inr rfl) rest
      | some space => exact goes_item item lead trail (.inl rfl) _
  | more lead item trail more =>
      have htext : (Items.more lead item trail more).text .expanded ++ ']' :: rest
          = lead.chars ++ (item.text .expanded
            ++ (trail.chars ++ ',' :: (more.text .expanded ++ ']' :: rest))) := by
        simp [Items.text]
      rw [htext]
      exact goes_item item lead trail (.inl rfl) _

/-- An object without members has no key. -/
theorem tidies_emptyObject (inside : Form.Space) :
    Tidies ('{' :: inside.chars ++ ['}']) ('{' :: inside.chars ++ ['}']) := by
  intro rest
  have htext : '{' :: inside.chars ++ ['}'] ++ rest = '{' :: (inside.chars ++ '}' :: rest) := by simp
  have hdrop : dropBlank (inside.chars ++ '}' :: rest) = '}' :: rest := by
    rw [dropBlank_space]
    exact dropBlank_cons (by decide) rest
  rw [htext, tidyText_noKey (.inl rfl) nofun (readBareKey_of_head hdrop (by decide) (by decide)),
    tidies_space, tidyText_bracket (.inr rfl)]
  simp

mutual

/-- The bare keys of a value are quoted, its trailing commas are dropped, and all else stays. -/
theorem tidies_tree : ∀ t : Tree, Tidies (t.text .expanded) (t.text .tidied)
  | .null => tidies_self (s := "null".toList) (by decide)
  | .bool true => tidies_self (s := "true".toList) (by decide)
  | .bool false => tidies_self (s := "false".toList) (by decide)
  | .number n => tidies_inert (inert_figures n)
  | .string s => tidies_literal s.literal
  | .call c => tidies_invocation c.invocation
  | .emptyList inside =>
      ((tidies_char (c := '[') (by decide)).append (tidies_space inside)).append
        (tidies_char (by decide))
  | .list items => by
      intro rest
      have htext (stage : Stage) : (Tree.list items).text stage ++ rest
          = '[' :: (items.text stage ++ ']' :: rest) := by simp [Tree.text]
      rw [htext, tidyText_other (by decide) (by decide) (by decide), tidyText_items]
      simp [Tree.text]
  | .emptyObject inside => tidies_emptyObject inside
  | .object members => by
      intro rest
      have htext : (Tree.object members).text .expanded ++ rest
          = '{' :: (members.text .expanded ++ '}' :: rest) := by simp [Tree.text]
      rw [htext, tidyText_members members (.inl rfl)]
      simp [Tree.text]

/-- The items of a list are tidied up to its closing bracket. -/
theorem tidyText_items : ∀ (items : Items) (rest : List Char),
    tidyText (items.text .expanded ++ ']' :: rest) = items.text .tidied ++ ']' :: tidyText rest
  | .last lead item trail comma, rest => by
      have hitem := ((tidies_space lead).append (tidies_tree item)).append (tidies_space trail)
      rw [Items.text, List.append_assoc, hitem, tidyText_trailing comma (.inl rfl)]
      simp [Items.text, commaText]
  | .more lead item trail more, rest => by
      have hitem := ((tidies_space lead).append (tidies_tree item)).append (tidies_space trail)
      have hgoes := goes_items more rest
      rw [Items.text, List.append_assoc, hitem, List.cons_append,
        tidyText_noKey (.inr rfl) (fun _ => hgoes.1) hgoes.2, tidyText_items more rest]
      simp [Items.text]

/-- The members of an object are tidied up to its closing brace. -/
theorem tidyText_members : ∀ (members : Members) {c : Char} (_ : c = '{' ∨ c = ',')
    (rest : List Char),
    tidyText (c :: (members.text .expanded ++ '}' :: rest))
      = c :: (members.text .tidied ++ '}' :: tidyText rest)
  | .last label lead value trail comma, c, hc, rest => by
      have hmember := (((tidies_label hc label).append (tidies_space lead)).append
        (tidies_tree value)).append (tidies_space trail)
      have htext : c :: ((Members.last label lead value trail comma).text .expanded ++ '}' :: rest)
          = c :: label.text .expanded ++ lead.chars ++ value.text .expanded ++ trail.chars
            ++ (commaText .expanded comma ++ '}' :: rest) := by simp [Members.text]
      rw [htext, hmember, tidyText_trailing comma (.inr rfl)]
      simp [Members.text, commaText]
  | .more label lead value trail more, c, hc, rest => by
      have hmember := (((tidies_label hc label).append (tidies_space lead)).append
        (tidies_tree value)).append (tidies_space trail)
      have htext : c :: ((Members.more label lead value trail more).text .expanded ++ '}' :: rest)
          = c :: label.text .expanded ++ lead.chars ++ value.text .expanded ++ trail.chars
            ++ ',' :: (more.text .expanded ++ '}' :: rest) := by simp [Members.text]
      rw [htext, hmember, tidyText_members more (.inr rfl) rest]
      simp [Members.text]

end

/-- A value without calls is tidied. -/
theorem tidyText_text (t : Tree) : tidyText (t.text .expanded) = t.text .tidied := by
  have h := tidies_tree t []
  rw [List.append_nil, tidyText, List.append_nil] at h
  exact h

end BulkSweep.Shell

import BulkSweep.Proofs.Json.Reading
import BulkSweep.Proofs.Shell.Literals
import BulkSweep.Proofs.Shell.Tree

/-!
# How calls are spelled

A constructor call is a name and its arguments between parentheses, with blanks around these parts.  This
is the grammar of calls, as they are typed and with one kind of quote.  With one kind of quote it says
just what is read as a call, and what is left of the text then (`read_iff`).
-/

set_option autoImplicit false

namespace BulkSweep.Shell

open BulkSweep.Text
open BulkSweep.Json (Form NoDigit)

/-! ## Blanks -/

theorem isBlank_of_isKeyChar {c : Char} (h : isKeyChar c = true) : isBlank c = false := by
  have hrange := toNat_of_isKeyChar h
  rw [isBlank, List.contains_eq_mem, decide_eq_false_iff_not]
  simp only [blankCodes, List.mem_cons, List.not_mem_nil, or_false]
  omega

theorem isBlank_of_isDigit {c : Char} (h : c.isDigit = true) : isBlank c = false := by
  refine isBlank_of_isKeyChar ?_
  simp [isKeyChar, Char.isAlphanum, h]

theorem isWordChar_of_isBlank {c : Char} (h : isBlank c = true) : isWordChar c = false := by
  refine Bool.eq_false_iff.mpr fun hword => ?_
  have hkey : isKeyChar c = true := by
    simp only [isWordChar, isKeyChar, Bool.or_eq_true] at hword ⊢
    rcases hword with (hword | hword) | hword
    · exact .inl (.inl (.inl hword))
    · exact .inl (.inl (.inr hword))
    · exact .inr hword
  rw [isBlank_of_isKeyChar hkey] at h
  cases h

/-- Blanks put in front of a text keep what holds of its first character, if it holds of blanks. -/
theorem Blanks.head {p : Char → Prop} (hblank : ∀ c, isBlank c = true → p c) {blanks rest : List Char}
    (h : Blanks blanks) (hrest : ∀ c ∈ rest.head?, p c) : ∀ c ∈ (blanks ++ rest).head?, p c := by
  cases blanks with
  | nil => exact hrest
  | cons c cs =>
      rintro d ⟨⟩
      exact hblank c (h c List.mem_cons_self)

theorem Blanks.noDigit {blanks rest : List Char} (h : Blanks blanks) (hrest : NoDigit rest) :
    NoDigit (blanks ++ rest) := by
  refine h.head (fun c hc => Bool.eq_false_iff.mpr fun hdigit => ?_) hrest
  rw [isBlank_of_isDigit hdigit] at hc
  cases hc

/-! ## Cuts -/

/-- A cut through two texts goes through the first one, or it goes through the second. -/
theorem cut_append {α : Type} {s t front behind : List α} {c : α} (h : s ++ t = front ++ c :: behind) :
    (∃ rest, s = front ++ c :: rest) ∨ ∃ middle, front = s ++ middle ∧ t = middle ++ c :: behind := by
  rcases List.append_eq_append_iff.mp h with ⟨middle, hfront, ht⟩ | ⟨rest, hs, hrest⟩
  · exact .inr ⟨middle, hfront, ht⟩
  · cases rest with
    | nil => exact .inr ⟨[], by simpa using hs.symm, hrest.symm⟩
    | cons d ds =>
        cases hrest
        exact .inl ⟨ds, hs⟩

theorem mem_of_cut {α : Type} {s front rest : List α} {c : α} (h : s = front ++ c :: rest) : c ∈ s := by
  rw [h]
  exact List.mem_append_right front List.mem_cons_self

/-! ## The grammar -/

/-- The names by which a call begins. -/
inductive Named : Callee → List Char → Prop
  /-- a single word -/
  | word {callee : Callee} {name : List Char} (h : (name, callee) ∈ calleeNames) : Named callee name
  /-- `new Date`, with blanks between the two words -/
  | newDate {gap : List Char} (hgap : Blanks gap) (ne_nil : gap ≠ []) :
      Named .date ("new".toList ++ gap ++ "Date".toList)

/-- A text in quotes.  As it is typed, a single quote between two others has a backslash in front. -/
def Quote.enclose : Stage → Quote → List Char → List Char
  | .typed, .single, text =>
    '\'' :: text.flatMap (fun c => if c = '\'' then ['\\', c] else [c]) ++ ['\'']
  | _, _, text => '"' :: text ++ ['"']

/-- How a text is written as an argument: in quotes.  It must not be empty and holds neither double quotes
nor backslashes. -/
def TextArgument (stage : Stage) (text s : List Char) : Prop :=
  text ≠ [] ∧ (∀ c ∈ text, isPlain c = true) ∧ ∃ kind : Quote, s = kind.enclose stage text

/-- How an integer is written as an argument: bare or in quotes. -/
def IntegerArgument (stage : Stage) (digits s : List Char) : Prop :=
  (∃ n : IntText, digits = n.text) ∧ (s = digits ∨ ∃ kind : Quote, s = kind.enclose stage digits)

/-- How two numbers are written as arguments. -/
def PairArgument (first second s : List Char) : Prop :=
  ∃ (a b : Form.Digits) (before after : List Char), first = a.text ∧ second = b.text ∧
    Blanks before ∧ Blanks after ∧ s = a.text ++ before ++ ',' :: after ++ b.text

/-- The name of a call. -/
def Call.callee : Call → Callee
  | .date _ => .date
  | .objectId _ => .objectId
  | .long _ => .long
  | .int _ => .int
  | .decimal _ => .decimal
  | .timestamp _ _ => .timestamp

/-- How the arguments of a call are written at a stage. -/
def Call.Arguments (stage : Stage) : Call → List Char → Prop
  | .date text | .objectId text | .decimal text => TextArgument stage text
  | .long digits | .int digits => IntegerArgument stage digits
  | .timestamp seconds increment => PairArgument seconds increment

/-- How a call is written at a stage, as it is typed or with one kind of quote. -/
inductive Spelled (stage : Stage) (call : Call) : List Char → Prop
  | intro {name gap lead arguments trail : List Char} (hname : Named call.callee name)
      (hgap : Blanks gap) (hlead : Blanks lead) (harguments : call.Arguments stage arguments)
      (htrail : Blanks trail) :
      Spelled stage call (name ++ gap ++ '(' :: lead ++ arguments ++ trail ++ [')'])

/-! ## Names -/

theorem stripLead_append (word rest : List Char) : stripLead word (word ++ rest) = some rest := by
  induction word with
  | nil => rfl
  | cons w ws ih => rw [List.cons_append, stripLead, if_pos rfl, ih]

theorem eq_append_of_stripLead {word s rest : List Char} (h : stripLead word s = some rest) :
    s = word ++ rest := by
  induction word generalizing s with
  | nil =>
      cases h
      rfl
  | cons w ws ih =>
      cases s with
      | nil => cases h
      | cons c cs =>
          rw [stripLead] at h
          split at h
          · rename_i heq
            rw [ih h, heq]
            rfl
          · cases h

/-- The end of a word: what follows does not go on with it. -/
def EndsWord (rest : List Char) : Prop :=
  ∀ c ∈ rest.head?, isWordChar c = false

theorem readWord_append (word : List Char) {rest : List Char} (h : EndsWord rest) :
    readWord word (word ++ rest) = some rest := by
  rw [readWord, stripLead_append]
  cases rest with
  | nil => rfl
  | cons c cs => exact if_neg (Bool.eq_false_iff.mp (h c rfl))

theorem eq_append_of_readWord {word s rest : List Char} (h : readWord word s = some rest) :
    s = word ++ rest := by
  unfold readWord at h
  split at h
  · rename_i c cs hstrip
    split at h
    · cases h
    · cases h
      exact eq_append_of_stripLead hstrip
  · exact eq_append_of_stripLead h

/-- Two words of which neither begins with the other. -/
def Apart (word word' : List Char) : Prop :=
  ¬word <+: word' ∧ ¬word' <+: word

instance (word word' : List Char) : Decidable (Apart word word') :=
  inferInstanceAs (Decidable (_ ∧ _))

theorem stripLead_apart {word word' : List Char} (h : Apart word word') (rest : List Char) :
    stripLead word (word' ++ rest) = none := by
  induction word generalizing word' with
  | nil => exact absurd List.nil_prefix h.1
  | cons w ws ih =>
      cases word' with
      | nil => exact absurd List.nil_prefix h.2
      | cons v vs =>
          rw [List.cons_append, stripLead]
          split
          · rename_i heq
            subst heq
            refine ih ⟨fun hle => h.1 ?_, fun hle => h.2 ?_⟩
            · exact List.cons_prefix_cons.mpr ⟨rfl, hle⟩
            · exact List.cons_prefix_cons.mpr ⟨rfl, hle⟩
          · rfl

theorem readWord_apart {word word' : List Char} (h : Apart word word') (rest : List Char) :
    readWord word (word' ++ rest) = none := by
  rw [readWord, stripLead_apart h]

/-- Of names that are pairwise apart, the one that stands at the front is found. -/
theorem readNamed_append {names : List (List Char × Callee)} {word rest : List Char} {callee : Callee}
    (happart : names.Pairwise fun a b => Apart a.1 b.1) (hword : (word, callee) ∈ names)
    (h : EndsWord rest) : readNamed names (word ++ rest) = some (callee, rest) := by
  induction names with
  | nil => cases hword
  | cons name more ih =>
      obtain ⟨hfirst, hmore⟩ := List.pairwise_cons.mp happart
      obtain ⟨first, called⟩ := name
      rcases List.mem_cons.mp hword with heq | hword
      · cases heq
        rw [readNamed, readWord_append word h]
      · rw [readNamed, readWord_apart (hfirst _ hword)]
        exact ih hmore hword

theorem exists_name_of_readNamed {names : List (List Char × Callee)} {s rest : List Char}
    {callee : Callee} (h : readNamed names s = some (callee, rest)) :
    ∃ name, (name, callee) ∈ names ∧ s = name ++ rest := by
  induction names with
  | nil => cases h
  | cons first more ih =>
      rw [readNamed] at h
      split at h
      · rename_i hread
        cases h
        exact ⟨first.1, List.mem_cons_self, eq_append_of_readWord hread⟩
      · obtain ⟨name, hname, heq⟩ := ih h
        exact ⟨name, List.mem_cons_of_mem first hname, heq⟩

/-- A name is read as it is written. -/
theorem Named.readCallee {callee : Callee} {name rest : List Char} (h : Named callee name)
    (hrest : EndsWord rest) : Shell.readCallee (name ++ rest) = some (callee, rest) := by
  cases h with
  | word h =>
      have hnew : ∀ other ∈ calleeNames, Apart "new".toList other.1 := by decide
      rw [Shell.readCallee, readWord_apart (hnew _ h)]
      exact readNamed_append (by decide) h hrest
  | @newDate gap hgap ne_nil =>
      have hword : EndsWord (gap ++ ("Date".toList ++ rest)) := by
        obtain ⟨c, cs, rfl⟩ := List.exists_cons_of_ne_nil ne_nil
        rintro d ⟨⟩
        exact isWordChar_of_isBlank (hgap c List.mem_cons_self)
      have hdate : FirmStart "Date".toList := ⟨'D', ['a', 't', 'e'], rfl, by decide⟩
      have hdrop : dropBlank (gap ++ ("Date".toList ++ rest)) = "Date".toList ++ rest := by
        rw [dropBlank_append hgap, hdate.dropBlank]
      have hshort : ("Date".toList ++ rest).length ≠ (gap ++ ("Date".toList ++ rest)).length := by
        have hpos := List.length_pos_iff.mpr ne_nil
        have hlength : (gap ++ ("Date".toList ++ rest)).length
            = gap.length + ("Date".toList ++ rest).length := List.length_append
        omega
      rw [List.append_assoc, List.append_assoc, Shell.readCallee, readWord_append _ hword]
      simp only [hdrop, if_neg hshort, readWord_append _ hrest, Option.map_some]

theorem exists_name {callee : Callee} {s rest : List Char} (h : readCallee s = some (callee, rest)) :
    ∃ name, Named callee name ∧ s = name ++ rest := by
  unfold readCallee at h
  split at h
  · rename_i behind hnew
    simp only at h
    split at h
    · cases h
    · rename_i hshort
      obtain ⟨after, hdate, heq⟩ := Option.map_eq_some_iff.mp h
      cases heq
      obtain ⟨gap, hgap, hbehind⟩ := exists_blanks behind
      have ne_nil : gap ≠ [] := by
        rintro rfl
        exact hshort (congrArg List.length hbehind).symm
      refine ⟨"new".toList ++ gap ++ "Date".toList, .newDate hgap ne_nil, ?_⟩
      rw [eq_append_of_readWord hnew, hbehind, eq_append_of_readWord hdate]
      simp
  · obtain ⟨name, hname, heq⟩ := exists_name_of_readNamed h
    exact ⟨name, .word hname, heq⟩

/-! ## Arguments -/

theorem readChar_cons (c : Char) (cs : List Char) : readChar c (c :: cs) = some cs := by
  rw [readChar, if_pos rfl]

theorem readChar_of_ne {c d : Char} (h : d ≠ c) (ds : List Char) : readChar c (d :: ds) = none := by
  rw [readChar, if_neg h]

theorem eq_cons_of_readChar {c : Char} {s rest : List Char} (h : readChar c s = some rest) :
    s = c :: rest := by
  cases s with
  | nil => cases h
  | cons d ds =>
      rw [readChar] at h
      split at h
      · rename_i heq
        cases h
        rw [heq]
      · cases h

theorem readDigits_append (d : Form.Digits) {rest : List Char} (h : NoDigit rest) :
    readDigits (d.text ++ rest) = some (d.text, rest) := by
  obtain ⟨htake, hdrop⟩ := h.takeWhile
  rw [readDigits]
  simp only [List.takeWhile_append_of_pos d.isDigit, List.dropWhile_append_of_pos d.isDigit, htake,
    hdrop, List.append_nil]
  rfl

theorem exists_digits {s digits rest : List Char} (h : readDigits s = some (digits, rest)) :
    ∃ d : Form.Digits, digits = d.text ∧ s = d.text ++ rest := by
  simp only [readDigits] at h
  split at h
  · cases h
  · rename_i hsome
    cases h
    have hall : ∀ c ∈ s.takeWhile Char.isDigit, c.isDigit = true := fun c hc =>
      List.all_eq_true.mp List.all_takeWhile c hc
    have hsplit := List.takeWhile_append_dropWhile (p := Char.isDigit) (l := s)
    cases htake : s.takeWhile Char.isDigit with
    | nil => simp [htake] at hsome
    | cons c cs =>
        rw [htake] at hall hsplit
        exact ⟨⟨c, cs, hall c List.mem_cons_self, fun d hd => hall d (List.mem_cons_of_mem c hd)⟩, rfl,
          hsplit.symm⟩

theorem readInteger_append (n : IntText) {rest : List Char} (h : NoDigit rest) :
    readInteger (n.text ++ rest) = some (n.text, rest) := by
  obtain ⟨negative, digits⟩ := n
  have hread := readDigits_append digits h
  cases negative with
  | true =>
      change readInteger ('-' :: (digits.text ++ rest)) = some ('-' :: digits.text, rest)
      rw [readInteger, readChar_cons]
      simp only [hread, Option.map_some]
  | false =>
      change readInteger (digits.text ++ rest) = some (digits.text, rest)
      have hminus : digits.first ≠ '-' := Json.ne_of_isDigit digits.first_isDigit (by decide)
      have hnone : readChar '-' (digits.text ++ rest) = none := readChar_of_ne hminus _
      rw [readInteger, hnone]
      exact hread

theorem exists_integer {s digits rest : List Char} (h : readInteger s = some (digits, rest)) :
    ∃ n : IntText, digits = n.text ∧ s = n.text ++ rest := by
  rw [readInteger] at h
  split at h
  · rename_i behind hminus
    obtain ⟨⟨figures, after⟩, hread, heq⟩ := Option.map_eq_some_iff.mp h
    cases heq
    obtain ⟨d, rfl, rfl⟩ := exists_digits hread
    exact ⟨⟨true, d⟩, rfl, eq_cons_of_readChar hminus⟩
  · obtain ⟨d, hd, heq⟩ := exists_digits h
    exact ⟨⟨false, d⟩, hd, heq⟩

theorem IntText.firmStart (n : IntText) : FirmStart n.text := by
  obtain ⟨negative, digits⟩ := n
  cases negative with
  | true => exact ⟨'-', digits.text, rfl, by decide⟩
  | false => exact ⟨digits.first, digits.rest, rfl, isBlank_of_isDigit digits.first_isDigit⟩

theorem IntText.head_ne_quote (n : IntText) (rest : List Char) :
    readChar '"' (n.text ++ rest) = none := by
  obtain ⟨negative, digits⟩ := n
  cases negative with
  | true => exact readChar_of_ne (c := '"') (d := '-') (by decide) _
  | false => exact readChar_of_ne (Json.ne_of_isDigit digits.first_isDigit (by decide)) _

theorem enclose_unified (kind : Quote) (text : List Char) :
    kind.enclose .unified text = '"' :: text ++ ['"'] := by
  cases kind <;> rfl

theorem readQuotableInteger_append {digits s rest : List Char}
    (h : IntegerArgument .unified digits s) (hrest : NoDigit rest) :
    readQuotableInteger (s ++ rest) = some (digits, rest) := by
  obtain ⟨⟨n, rfl⟩, rfl | ⟨kind, rfl⟩⟩ := h
  · rw [readQuotableInteger, n.head_ne_quote]
    exact readInteger_append n hrest
  · have hquote : NoDigit ('"' :: rest) := NoDigit.cons (by decide) rest
    have htext : kind.enclose .unified n.text ++ rest = '"' :: (n.text ++ '"' :: rest) := by
      simp [enclose_unified]
    rw [htext, readQuotableInteger, readChar_cons]
    simp only [readInteger_append n hquote, Option.bind_eq_bind, Option.bind_some, readChar_cons,
      Option.pure_def]

theorem exists_integerArgument {s digits rest : List Char}
    (h : readQuotableInteger s = some (digits, rest)) :
    ∃ text, IntegerArgument .unified digits text ∧ s = text ++ rest := by
  rw [readQuotableInteger] at h
  split at h
  · rename_i inner hopen
    simp only [Option.bind_eq_bind, Option.bind_eq_some_iff, Option.pure_def, Option.some.injEq,
      Prod.mk.injEq] at h
    obtain ⟨⟨figures, behind⟩, hread, after, hclose, rfl, rfl⟩ := h
    obtain ⟨n, rfl, rfl⟩ := exists_integer hread
    have hbehind : behind = '"' :: after := eq_cons_of_readChar hclose
    refine ⟨'"' :: n.text ++ ['"'], ⟨⟨n, rfl⟩, .inr ⟨.double, rfl⟩⟩, ?_⟩
    rw [eq_cons_of_readChar hopen, hbehind]
    simp
  · obtain ⟨n, rfl, rfl⟩ := exists_integer h
    exact ⟨n.text, ⟨⟨n, rfl⟩, .inl rfl⟩, rfl⟩

theorem readPlain_append {text s : List Char} (h : TextArgument .unified text s) (rest : List Char) :
    readPlain (s ++ rest) = some (text, rest) := by
  obtain ⟨ne_nil, hplain, kind, rfl⟩ := h
  have htext : kind.enclose .unified text ++ rest = '"' :: (text ++ '"' :: rest) := by
    simp [enclose_unified]
  have htake : (text ++ '"' :: rest).takeWhile isPlain = text := by
    rw [List.takeWhile_append_of_pos hplain, List.takeWhile_cons_of_neg (by decide), List.append_nil]
  have hdrop : (text ++ '"' :: rest).dropWhile isPlain = '"' :: rest := by
    rw [List.dropWhile_append_of_pos hplain, List.dropWhile_cons_of_neg (by decide)]
  have hsome : text.isEmpty = false := List.isEmpty_eq_false_iff.mpr ne_nil
  simp only [htext, readPlain, readChar_cons, Option.bind_eq_bind, Option.bind_some, htake, hdrop,
    hsome, Bool.false_eq_true, if_false, Option.pure_def]

theorem exists_textArgument {s text rest : List Char} (h : readPlain s = some (text, rest)) :
    ∃ argument, TextArgument .unified text argument ∧ s = argument ++ rest := by
  simp only [readPlain, Option.bind_eq_bind, Option.bind_eq_some_iff] at h
  obtain ⟨inner, hopen, h⟩ := h
  split at h
  · cases h
  · rename_i hsome
    simp only [Option.bind_eq_some_iff, Option.pure_def, Option.some.injEq, Prod.mk.injEq] at h
    obtain ⟨after, hclose, rfl, rfl⟩ := h
    have hplain : ∀ c ∈ inner.takeWhile isPlain, isPlain c = true := fun c hc =>
      List.all_eq_true.mp List.all_takeWhile c hc
    have hsplit := List.takeWhile_append_dropWhile (p := isPlain) (l := inner)
    rw [eq_cons_of_readChar hclose] at hsplit
    refine ⟨'"' :: inner.takeWhile isPlain ++ ['"'], ⟨?_, hplain, .double, rfl⟩, ?_⟩
    · exact fun hnil => hsome (by rw [hnil]; rfl)
    · rw [eq_cons_of_readChar hopen]
      exact (congrArg ('"' :: ·) hsplit.symm).trans (by simp)

/-- No arguments begin with a blank. -/
theorem Call.Arguments.firmStart {call : Call} {s : List Char} (h : call.Arguments .unified s) :
    FirmStart s := by
  have hquoted (kind : Quote) (text : List Char) : FirmStart (kind.enclose .unified text) :=
    ⟨'"', text ++ ['"'], enclose_unified kind text, by decide⟩
  cases call with
  | date | objectId | decimal =>
      obtain ⟨-, -, kind, rfl⟩ := h
      exact hquoted kind _
  | long | int =>
      obtain ⟨⟨n, rfl⟩, rfl | ⟨kind, rfl⟩⟩ := h
      · exact n.firmStart
      · exact hquoted kind _
  | timestamp =>
      obtain ⟨a, b, before, after, -, -, -, -, rfl⟩ := h
      exact ⟨a.first, _, rfl, isBlank_of_isDigit a.first_isDigit⟩

/-- Arguments are read as they are written. -/
theorem readArguments_append {call : Call} {s rest : List Char} (h : call.Arguments .unified s)
    (hrest : NoDigit rest) : call.callee.readArguments (s ++ rest) = some (call, rest) := by
  cases call with
  | date | objectId | decimal =>
      simp only [Call.callee, Callee.readArguments, readPlain_append h, Option.map_some]
  | long | int =>
      simp only [Call.callee, Callee.readArguments, readQuotableInteger_append h hrest, Option.map_some]
  | timestamp =>
      obtain ⟨a, b, before, after, rfl, rfl, hbefore, hafter, rfl⟩ := h
      have hfirst : NoDigit (before ++ ',' :: (after ++ (b.text ++ rest))) :=
        hbefore.noDigit (NoDigit.cons (by decide) _)
      have hcomma : dropBlank (before ++ ',' :: (after ++ (b.text ++ rest)))
          = ',' :: (after ++ (b.text ++ rest)) := by
        rw [dropBlank_append hbefore, dropBlank_cons (by decide)]
      have hsecond : dropBlank (after ++ (b.text ++ rest)) = b.text ++ rest := by
        rw [dropBlank_append hafter]
        exact dropBlank_cons (isBlank_of_isDigit b.first_isDigit) _
      have htext : a.text ++ before ++ ',' :: after ++ b.text ++ rest
          = a.text ++ (before ++ ',' :: (after ++ (b.text ++ rest))) := by simp
      simp only [Call.callee, htext, Callee.readArguments, readDigits_append a hfirst,
        Option.bind_eq_bind, Option.bind_some, hcomma, readChar_cons, hsecond,
        readDigits_append b hrest, Option.pure_def]

theorem exists_arguments {callee : Callee} {s rest : List Char} {call : Call}
    (h : callee.readArguments s = some (call, rest)) :
    callee = call.callee ∧ ∃ text, call.Arguments .unified text ∧ s = text ++ rest := by
  cases callee with
  | date | objectId | decimal =>
      obtain ⟨⟨text, after⟩, hread, heq⟩ := Option.map_eq_some_iff.mp h
      cases heq
      exact ⟨rfl, exists_textArgument hread⟩
  | long | int =>
      obtain ⟨⟨digits, after⟩, hread, heq⟩ := Option.map_eq_some_iff.mp h
      cases heq
      exact ⟨rfl, exists_integerArgument hread⟩
  | timestamp =>
      simp only [Callee.readArguments, Option.bind_eq_bind, Option.bind_eq_some_iff, Option.pure_def,
        Option.some.injEq, Prod.mk.injEq] at h
      obtain ⟨⟨first, r1⟩, hfirst, r2, hcomma, ⟨second, r3⟩, hsecond, rfl, rfl⟩ := h
      obtain ⟨a, ha, rfl⟩ := exists_digits hfirst
      obtain ⟨before, hbefore, hr1⟩ := exists_blanks r1
      obtain ⟨after, hafter, hr2⟩ := exists_blanks r2
      obtain ⟨b, hb, hdrop⟩ := exists_digits hsecond
      refine ⟨rfl, _, ⟨a, b, before, after, ha, hb, hbefore, hafter, rfl⟩, ?_⟩
      rw [hr1, eq_cons_of_readChar hcomma, hr2, hdrop]
      simp

/-! ## Whole calls -/

/-- A call is read as it is written, whatever follows it. -/
theorem Spelled.read {call : Call} {s : List Char} (h : Spelled .unified call s) (rest : List Char) :
    Call.read (s ++ rest) = some (call, rest) := by
  obtain @⟨name, gap, lead, arguments, trail, hname, hgap, hlead, harguments, htrail⟩ := h
  have hend : EndsWord (gap ++ '(' :: (lead ++ (arguments ++ (trail ++ ')' :: rest)))) := by
    refine hgap.head (fun c => isWordChar_of_isBlank) ?_
    rintro d ⟨⟩
    rfl
  have hopen (cs : List Char) : dropBlank ('(' :: cs) = '(' :: cs := dropBlank_cons (by decide) cs
  have hclose (cs : List Char) : dropBlank (')' :: cs) = ')' :: cs := dropBlank_cons (by decide) cs
  have hdigit : NoDigit (trail ++ ')' :: rest) := htrail.noDigit (NoDigit.cons (by decide) rest)
  have htext : name ++ gap ++ '(' :: lead ++ arguments ++ trail ++ [')'] ++ rest
      = name ++ (gap ++ '(' :: (lead ++ (arguments ++ (trail ++ ')' :: rest)))) := by simp
  rw [htext, Call.read, hname.readCallee hend]
  simp only [Option.bind_eq_bind, Option.bind_some, dropBlank_append hgap, hopen, readChar_cons,
    dropBlank_append hlead, harguments.firmStart.dropBlank, readArguments_append harguments hdigit,
    dropBlank_append htrail, hclose, Option.pure_def]

/-- A call stands at the front of a text if and only if one is spelled there. -/
theorem read_iff {call : Call} {s rest : List Char} :
    Call.read s = some (call, rest) ↔ ∃ text, Spelled .unified call text ∧ s = text ++ rest := by
  constructor
  · intro h
    simp only [Call.read, Option.bind_eq_bind, Option.bind_eq_some_iff, Option.pure_def,
      Option.some.injEq, Prod.mk.injEq] at h
    obtain ⟨⟨callee, r1⟩, hcallee, r2, hopen, ⟨call', r3⟩, harguments, r4, hclose, rfl, rfl⟩ := h
    obtain ⟨name, hname, rfl⟩ := exists_name hcallee
    obtain ⟨gap, hgap, hr1⟩ := exists_blanks r1
    obtain ⟨lead, hlead, hr2⟩ := exists_blanks r2
    obtain ⟨rfl, arguments, hwritten, hdrop⟩ := exists_arguments harguments
    obtain ⟨trail, htrail, hr3⟩ := exists_blanks r3
    refine ⟨_, .intro hname hgap hlead hwritten htrail, ?_⟩
    rw [hr1, eq_cons_of_readChar hopen, hr2, hdrop, hr3, eq_cons_of_readChar hclose]
    simp
  · rintro ⟨text, hspelled, rfl⟩
    exact hspelled.read rest

/-! ## First characters -/

theorem Named.head {callee : Callee} {name : List Char} (h : Named callee name) :
    ∃ c cs, name = c :: cs ∧ c ∈ ['n', 'I', 'O', 'N', 'T'] := by
  cases h with
  | word h =>
      have hheads : ∀ entry ∈ calleeNames, entry.1.head? ∈ ['n', 'I', 'O', 'N', 'T'].map some := by
        decide
      obtain ⟨c, hc, hhead⟩ := List.mem_map.mp (hheads _ h)
      obtain ⟨cs, hcs⟩ := List.head?_eq_some_iff.mp hhead.symm
      exact ⟨c, cs, hcs, hc⟩
  | newDate => exact ⟨'n', _, rfl, by decide⟩

theorem Spelled.head {stage : Stage} {call : Call} {s : List Char} (h : Spelled stage call s) :
    ∃ c cs, s = c :: cs ∧ c ∈ ['n', 'I', 'O', 'N', 'T'] := by
  obtain ⟨hname, -⟩ := h
  obtain ⟨c, cs, rfl, hc⟩ := hname.head
  exact ⟨c, _, rfl, hc⟩

theorem Named.isWordChar_or_isBlank {callee : Callee} {name : List Char} (h : Named callee name) :
    ∀ c ∈ name, isWordChar c = true ∨ isBlank c = true := by
  intro c hc
  cases h with
  | word h =>
      have hwords : ∀ entry ∈ calleeNames, ∀ d ∈ entry.1, isWordChar d = true := by decide
      exact .inl (hwords _ h c hc)
  | newDate hgap =>
      have hnew : ∀ d ∈ "new".toList, isWordChar d = true := by decide
      have hdate : ∀ d ∈ "Date".toList, isWordChar d = true := by decide
      simp only [List.mem_append] at hc
      rcases hc with (hc | hc) | hc
      · exact .inl (hnew c hc)
      · exact .inr (hgap c hc)
      · exact .inl (hdate c hc)

/-- Of all signs a parenthesis comes first. -/
theorem Spelled.parenthesis {stage : Stage} {call : Call} {s : List Char} (h : Spelled stage call s) :
    ∃ front behind, s = front ++ '(' :: behind ∧ ∀ c ∈ front, c ≠ '(' ∧ c ≠ ':' := by
  obtain @⟨name, gap, lead, arguments, trail, hname, hgap, -, -, -⟩ := h
  refine ⟨name ++ gap, lead ++ arguments ++ trail ++ [')'], by simp, fun c hc => ?_⟩
  have hchars : isWordChar c = true ∨ isBlank c = true := by
    rcases List.mem_append.mp hc with hc | hc
    · exact hname.isWordChar_or_isBlank c hc
    · exact .inr (hgap c hc)
  constructor <;> rintro rfl <;> exact absurd hchars (by decide)

end BulkSweep.Shell

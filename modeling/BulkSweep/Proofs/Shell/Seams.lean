import BulkSweep.Proofs.Shell.Expanding
import BulkSweep.Proofs.Shell.Trimming

/-!
# Where two texts meet

Calls are looked for from left to right, and a call that begins in one text can go on in the text behind
it.  For that the second text has to begin with something that a call needs just there.  At any other
place the two texts are rid of their calls each by itself (`substituteAfter_append`).
-/

set_option autoImplicit false

namespace BulkSweep.Shell

open BulkSweep.Text
open BulkSweep.Json (Form)

/-! ## Last characters -/

theorem getLast?_cons_or {α : Type} (a : α) (s : List α) (previous : Option α) :
    (a :: s).getLast?.or previous = s.getLast?.or (some a) := by
  rw [List.getLast?_cons]
  cases s.getLast? <;> rfl

/-- The last character that is no blank. -/
def lastSolid (s : List Char) : Option Char :=
  (s.filter fun c => !isBlank c).getLast?

theorem lastSolid_append (s t : List Char) : lastSolid (s ++ t) = (lastSolid t).or (lastSolid s) := by
  simp [lastSolid]

theorem lastSolid_blanks {s : List Char} (h : Blanks s) : lastSolid s = none := by
  have hnil : (s.filter fun c => !isBlank c) = [] :=
    List.filter_eq_nil_iff.mpr fun c hc => by simp [h c hc]
  rw [lastSolid, hnil, List.getLast?_nil]

/-! ## Calls are closed -/

theorem Blanks.unquoted {s : List Char} (h : Blanks s) : ∀ c ∈ s, c ≠ '\'' ∧ c ≠ '"' := by
  intro c hc
  constructor <;> rintro rfl <;> exact absurd (h _ hc) (by decide)

theorem Named.unquoted {callee : Callee} {name : List Char} (h : Named callee name) :
    ∀ c ∈ name, c ≠ '\'' ∧ c ≠ '"' := by
  intro c hc
  constructor <;> rintro rfl <;> exact absurd (h.isWordChar_or_isBlank _ hc) (by decide)

theorem Blanks.noQuote {s : List Char} (h : Blanks s) : '"' ∉ s :=
  fun hmem => (h.unquoted _ hmem).2 rfl

theorem Named.noQuote {callee : Callee} {name : List Char} (h : Named callee name) : '"' ∉ name :=
  fun hmem => (h.unquoted _ hmem).2 rfl

theorem IntText.noQuote (n : IntText) : '"' ∉ n.text :=
  fun hmem => (n.isPlain '"' hmem).1 rfl

theorem Call.Arguments.closed {call : Call} {s : List Char} (h : call.Arguments .unified s) :
    Closed s := by
  cases call with
  | date | objectId | decimal =>
      obtain ⟨-, hplain, kind, rfl⟩ := h
      rw [enclose_unified]
      exact IsLiteral.closed ⟨_, inside_of_plain hplain, rfl⟩
  | long | int =>
      obtain ⟨⟨n, rfl⟩, rfl | ⟨kind, rfl⟩⟩ := h
      · exact closed_of_noQuote n.noQuote
      · rw [enclose_unified]
        have hplain : ∀ c ∈ n.text, isPlain c = true := fun c hc =>
          isPlain_iff.mpr ⟨(n.isPlain c hc).1, (n.isPlain c hc).2.1⟩
        exact IsLiteral.closed ⟨_, inside_of_plain hplain, rfl⟩
  | timestamp =>
      obtain ⟨a, b, before, after, -, -, hbefore, hafter, rfl⟩ := h
      have hdigits (d : Form.Digits) : '"' ∉ d.text := fun hmem =>
        absurd (d.isDigit '"' hmem) (by decide)
      exact closed_of_noQuote (by simp [hdigits, hbefore.noQuote, hafter.noQuote])

theorem Spelled.closed {call : Call} {s : List Char} (h : Spelled .unified call s) : Closed s := by
  obtain @⟨name, gap, lead, arguments, trail, hname, hgap, hlead, harguments, htrail⟩ := h
  have hbefore : Closed (name ++ gap ++ '(' :: lead) :=
    closed_of_noQuote (by simp [hname.noQuote, hgap.noQuote, hlead.noQuote])
  have hbehind : Closed (trail ++ [')']) := closed_of_noQuote (by simp [htrail.noQuote])
  rw [List.append_assoc]
  exact (hbefore.append harguments.closed).append hbehind

theorem Spelled.getLast? {stage : Stage} {call : Call} {s : List Char} (h : Spelled stage call s) :
    s.getLast? = some ')' := by
  obtain ⟨⟩ := h
  rw [List.getLast?_append]
  rfl

/-! ## Seams -/

/-- Whether a call that has begun in a text, and of whose literals none has been left open, can go on with
a character. -/
def Joins (front : List Char) (c : Char) : Prop :=
  isBlank c = true ∨ c.isDigit = true ∨ c ∈ ['(', ')', ',', '-', 'D'] ∨
    (c = '"' ∧ lastSolid front = some '(') ∨
    (isWordChar c = true ∧ ∃ d ∈ front.getLast?, isWordChar d = true)

/-- A place between two texts that no call goes across. -/
def Seam (front tail : List Char) : Prop :=
  ∀ c ∈ tail.head?, ¬Joins front c

theorem Joins.append {front : List Char} {c : Char} (h : Joins front c) (before : List Char) :
    Joins (before ++ front) c := by
  rcases h with h | h | h | ⟨hquote, hopen⟩ | ⟨hc, d, hd, hword⟩
  · exact .inl h
  · exact .inr (.inl h)
  · exact .inr (.inr (.inl h))
  · exact .inr (.inr (.inr (.inl ⟨hquote, by rw [lastSolid_append, hopen, Option.some_or]⟩)))
  · refine .inr (.inr (.inr (.inr ⟨hc, d, ?_, hword⟩)))
    rw [List.getLast?_append, Option.mem_def.mp hd]
    rfl

theorem Seam.of_append {before front tail : List Char} (h : Seam (before ++ front) tail) :
    Seam front tail :=
  fun c hc hjoins => h c hc (hjoins.append before)

theorem Seam.of_cons {d : Char} {front tail : List Char} (h : Seam (d :: front) tail) :
    Seam front tail :=
  fun c hc hjoins => h c hc (hjoins.append [d])

/-! ## Cuts through calls -/

theorem joins_of_word {front rest : List Char} {c : Char}
    (h : ∀ d ∈ front ++ c :: rest, isWordChar d = true) (hne : front ≠ []) : Joins front c := by
  refine .inr (.inr (.inr (.inr ⟨h c (by simp), front.getLast hne, ?_, ?_⟩)))
  · exact List.getLast?_eq_some_getLast hne
  · exact h _ (List.mem_append_left _ (List.getLast_mem hne))

theorem Named.joins {callee : Callee} {name front rest : List Char} {c : Char} (h : Named callee name)
    (hcut : name = front ++ c :: rest) (hne : front ≠ []) : Joins front c := by
  cases h with
  | word h =>
      have hwords : ∀ entry ∈ calleeNames, ∀ d ∈ entry.1, isWordChar d = true := by decide
      have hword := hwords _ h
      subst hcut
      exact joins_of_word hword hne
  | @newDate gap hgap ne_nil =>
      rw [List.append_assoc] at hcut
      rcases cut_append hcut with ⟨rest, hnew⟩ | ⟨middle, rfl, hbehind⟩
      · have hword : ∀ d ∈ "new".toList, isWordChar d = true := by decide
        rw [hnew] at hword
        exact joins_of_word hword hne
      · rcases cut_append hbehind with ⟨rest, hgap'⟩ | ⟨last, rfl, hdate⟩
        · exact .inl (hgap c (mem_of_cut hgap'))
        · cases last with
          | nil =>
              have hD : 'D' = c := List.head_eq_of_cons_eq hdate
              exact .inr (.inr (.inl (hD ▸ by decide)))
          | cons d ds =>
              have hword : ∀ d ∈ "Date".toList, isWordChar d = true := by decide
              rw [hdate] at hword
              exact ((joins_of_word hword (List.cons_ne_nil d ds)).append gap).append _

theorem not_closed_quote {s : List Char} (h : ∀ c ∈ s, isPlain c = true) : ¬Closed ('"' :: s) := by
  intro hclosed
  obtain ⟨inside, rest, -, -, rfl⟩ := hclosed.of_quote
  exact absurd (h '"' (by simp)) (by decide)

/-- A text in quotes is cut at its first quote, or in the middle of a literal. -/
theorem cut_quoted {text front rest : List Char} {c : Char} (h : ∀ d ∈ text, isPlain d = true)
    (hcut : '"' :: text ++ ['"'] = front ++ c :: rest) : front = [] ∧ c = '"' ∨ ¬Closed front := by
  cases front with
  | nil => exact .inl ⟨rfl, (List.head_eq_of_cons_eq hcut).symm⟩
  | cons d ds =>
      obtain ⟨hd, hcut⟩ := List.cons.inj hcut
      refine .inr (hd ▸ not_closed_quote fun e he => h e ?_)
      rcases cut_append hcut with ⟨rest, rfl⟩ | ⟨middle, rfl, hlast⟩
      · exact List.mem_append_left _ he
      · cases middle with
        | nil => simpa using he
        | cons m ms => simp at hlast

theorem IntText.isDigit_or (n : IntText) : ∀ c ∈ n.text, c.isDigit = true ∨ c = '-' := by
  obtain ⟨negative, digits⟩ := n
  intro c hc
  rcases List.mem_append.mp hc with hc | hc
  · cases negative with
    | true => exact .inr (List.mem_singleton.mp hc)
    | false => cases hc
  · exact .inl (digits.isDigit c hc)

theorem Call.Arguments.joins {call : Call} {s front rest : List Char} {c : Char}
    (h : call.Arguments .unified s) (hcut : s = front ++ c :: rest) :
    Joins front c ∨ front = [] ∧ c = '"' ∨ ¬Closed front := by
  have hmem : c ∈ s := mem_of_cut hcut
  cases call with
  | date | objectId | decimal =>
      obtain ⟨-, hplain, kind, rfl⟩ := h
      rw [enclose_unified] at hcut
      exact .inr (cut_quoted hplain hcut)
  | long | int =>
      obtain ⟨⟨n, rfl⟩, rfl | ⟨kind, rfl⟩⟩ := h
      · rcases n.isDigit_or c hmem with hdigit | rfl
        · exact .inl (.inr (.inl hdigit))
        · exact .inl (.inr (.inr (.inl (by decide))))
      · rw [enclose_unified] at hcut
        refine .inr (cut_quoted (fun d hd => isPlain_iff.mpr ?_) hcut)
        obtain ⟨hquote, hslash, -⟩ := n.isPlain d hd
        exact ⟨hquote, hslash⟩
  | timestamp =>
      obtain ⟨a, b, before, after, -, -, hbefore, hafter, rfl⟩ := h
      simp only [List.mem_append, List.mem_cons] at hmem
      rcases hmem with ((hmem | hmem) | rfl | hmem) | hmem
      · exact .inl (.inr (.inl (a.isDigit c hmem)))
      · exact .inl (.inl (hbefore c hmem))
      · exact .inl (.inr (.inr (.inl (by decide))))
      · exact .inl (.inl (hafter c hmem))
      · exact .inl (.inr (.inl (b.isDigit c hmem)))

/-- Where a call is cut behind its first character and between its literals, its first part can go on. -/
theorem Spelled.joins {call : Call} {s front behind : List Char} {c : Char}
    (h : Spelled .unified call s) (hcut : s = front ++ c :: behind) (hne : front ≠ [])
    (hclosed : Closed front) : Joins front c := by
  obtain @⟨name, gap, lead, arguments, trail, hname, hgap, hlead, harguments, htrail⟩ := h
  have hparts : name ++ (gap ++ (['('] ++ (lead ++ (arguments ++ (trail ++ [')'])))))
      = front ++ c :: behind := by
    rw [← hcut]
    simp
  rcases cut_append hparts with ⟨rest, hin⟩ | ⟨fromGap, hfront, hafterName⟩
  · exact hname.joins hin hne
  rcases cut_append hafterName with ⟨rest, hin⟩ | ⟨fromOpen, rfl, hafterGap⟩
  · exact .inl (hgap c (mem_of_cut hin))
  rcases cut_append hafterGap with ⟨rest, hin⟩ | ⟨fromLead, rfl, hafterOpen⟩
  · rw [List.mem_singleton.mp (mem_of_cut hin)]
    exact .inr (.inr (.inl (by decide)))
  rcases cut_append hafterOpen with ⟨rest, hin⟩ | ⟨fromArguments, rfl, hafterLead⟩
  · exact .inl (hlead c (mem_of_cut hin))
  have hbefore : front = name ++ gap ++ '(' :: lead ++ fromArguments := by simp [hfront]
  rw [hbefore] at hclosed ⊢
  rcases cut_append hafterLead with ⟨rest, hin⟩ | ⟨fromTrail, rfl, hafterArguments⟩
  · rcases harguments.joins hin with hjoins | ⟨rfl, rfl⟩ | hopen
    · exact hjoins.append _
    · refine .inr (.inr (.inr (.inl ⟨rfl, ?_⟩)))
      have hsolid : lastSolid ('(' :: lead) = some '(' := by
        rw [← List.singleton_append, lastSolid_append, lastSolid_blanks hlead]
        rfl
      rw [List.append_nil, lastSolid_append, hsolid, Option.some_or]
    · -- The cut would leave the literal of the argument open.
      have hquiet : '"' ∉ name ++ gap ++ '(' :: lead := by
        simp [hname.noQuote, hgap.noQuote, hlead.noQuote]
      exact absurd ((closed_of_noQuote hquiet).of_append hclosed) hopen
  rcases cut_append hafterArguments with ⟨rest, hin⟩ | ⟨fromClose, rfl, hafterTrail⟩
  · exact .inl (htrail c (mem_of_cut hin))
  · rw [List.mem_singleton.mp (mem_of_cut hafterTrail)]
    exact .inr (.inr (.inl (by decide)))

/-! ## Reading before a seam -/

/-- Before a seam the same call is read as at the end of the text, or none. -/
theorem read_append {s tail : List Char} (hs : Closed s) (hne : s ≠ []) (h : Seam s tail) :
    Call.read (s ++ tail) = (Call.read s).map fun (call, rest) => (call, rest ++ tail) := by
  cases hread : Call.read s with
  | some found =>
      obtain ⟨call, rest⟩ := found
      obtain ⟨text, hspelled, rfl⟩ := read_iff.mp hread
      rw [List.append_assoc]
      exact hspelled.read (rest ++ tail)
  | none =>
      cases hlong : Call.read (s ++ tail) with
      | none => rfl
      | some found =>
          exfalso
          obtain ⟨call, rest⟩ := found
          obtain ⟨text, hspelled, heq⟩ := read_iff.mp hlong
          have hshort : ∀ behind, s ≠ text ++ behind := by
            rintro behind rfl
            rw [hspelled.read behind] at hread
            cases hread
          rcases List.append_eq_append_iff.mp heq with ⟨more, htext, htail⟩ | ⟨behind, hs', -⟩
          · cases more with
            | nil => exact hshort [] (by simp [htext])
            | cons c more =>
                refine h c ?_ (hspelled.joins htext hne hs)
                rw [htail]
                rfl
          · exact hshort behind hs'

/-! ## Calls before a seam -/

/-- Of the character in front only that it belongs to a word matters. -/
theorem substituteAfter_congr {previous previous' : Option Char}
    (h : previous.any isWordChar = previous'.any isWordChar) (s : List Char) :
    substituteAfter previous s = substituteAfter previous' s := by
  cases s with
  | nil => rw [substituteAfter_nil, substituteAfter_nil]
  | cons c cs => rw [substituteAfter, substituteAfter, h]

/-- A character that continues a word is copied. -/
theorem substituteAfter_word {previous : Option Char} (h : previous.any isWordChar = true) {c : Char}
    (hquote : c ≠ '"') (cs : List Char) :
    substituteAfter previous (c :: cs) = c :: substituteAfter (some c) cs := by
  rw [substituteAfter, if_neg hquote, if_pos h]

/-- Before a seam a closed text is rid of its calls by itself. -/
theorem substituteAfter_append {s tail : List Char} (hs : Closed s) (h : Seam s tail)
    (previous : Option Char) :
    substituteAfter previous (s ++ tail)
      = substituteAfter previous s ++ substituteAfter (s.getLast?.or previous) tail := by
  fun_induction substituteAfter previous s with
  | case1 => rfl
  | case2 previous cs parts ih =>
      obtain ⟨inside, rest, hinside, hrest, rfl⟩ := hs.of_quote
      have hparts : parts = (inside ++ ['"'], rest) := splitLiteral_inside hinside rest
      rw [hparts] at ih ⊢
      have hseam : Seam rest tail := by
        refine Seam.of_append (?_ : Seam (('"' :: inside ++ ['"']) ++ rest) tail)
        simpa using h
      have hlast : ('"' :: (inside ++ '"' :: rest)).getLast?.or previous = rest.getLast?.or (some '"') := by
        rw [getLast?_cons_or, List.getLast?_append, getLast?_cons_or, Option.or_assoc, Option.some_or]
      rw [List.cons_append, List.append_assoc, List.cons_append, substituteAfter_quote,
        splitLiteral_inside hinside, ih hrest hseam, hlast]
      simp
  | case3 previous c cs hquote hword ih =>
      rw [List.cons_append, substituteAfter_word hword hquote, ih (hs.of_cons hquote) h.of_cons,
        getLast?_cons_or]
      rfl
  | case4 previous c cs hquote hword call rest hread ih =>
      obtain ⟨text, hspelled, heq⟩ := read_iff.mp hread
      rw [heq] at hs h ⊢
      have hlast : ((text ++ rest).getLast?.or previous).any isWordChar
          = (rest.getLast?.or (some '}')).any isWordChar := by
        rw [List.getLast?_append, hspelled.getLast?]
        cases rest.getLast? <;> rfl
      rw [List.append_assoc, substituteAfter_call (Bool.eq_false_iff.mpr hword) (hspelled.read _),
        ih (hspelled.closed.of_append hs) h.of_append, substituteAfter_congr hlast, List.append_assoc]
  | case5 previous c cs hquote hword hread ih =>
      have hcopy : Call.read (c :: (cs ++ tail)) = none := by
        rw [← List.cons_append, read_append hs (List.cons_ne_nil c cs) h, hread]
        rfl
      rw [List.cons_append, substituteAfter_copy previous hquote hcopy,
        ih (hs.of_cons hquote) h.of_cons, getLast?_cons_or]
      rfl

/-! ## Texts without calls -/

/-- A text that no scan changes: literals, and characters between them that neither are quotes nor begin a
call. -/
inductive Settled : List Char → Prop
  | nil : Settled []
  | char {c : Char} {s : List Char} (hquotes : c ≠ '\'' ∧ c ≠ '"')
      (hcall : c ∉ ['n', 'I', 'O', 'N', 'T']) (h : Settled s) : Settled (c :: s)
  | literal {t s : List Char} (ht : IsLiteral t) (h : Settled s) : Settled (t ++ s)

theorem Settled.append {s t : List Char} (hs : Settled s) (ht : Settled t) : Settled (s ++ t) := by
  induction hs with
  | nil => exact ht
  | char hquotes hcall _ ih => exact .char hquotes hcall ih
  | literal hliteral _ ih =>
      rw [List.append_assoc]
      exact .literal hliteral ih

theorem settled_of_inert {s : List Char} (h : ∀ c ∈ s, Inert c) : Settled s := by
  induction s with
  | nil => exact .nil
  | cons c cs ih =>
      have hc := h c List.mem_cons_self
      refine .char ?_ (fun hmem => hc (List.Sublist.subset (by decide) hmem))
        (ih fun d hd => h d (List.mem_cons_of_mem c hd))
      simp only [Inert, List.mem_cons, not_or] at hc
      exact ⟨hc.2.1, hc.1⟩

theorem Settled.closed {s : List Char} (h : Settled s) : Closed s := by
  induction h with
  | nil => exact .nil
  | char hquotes _ _ ih => exact .plain hquotes.2 ih
  | literal hliteral _ ih => exact hliteral.closed.append ih

theorem Settled.unifies {s : List Char} (h : Settled s) : Unifies .outside s s .outside := by
  induction h with
  | nil => exact unifies_nil _
  | @char c s hquotes _ _ ih =>
      have hchar : Unifies .outside [c] [c] .outside :=
        unifies_outside fun d hd => List.mem_singleton.mp hd ▸ hquotes
      exact hchar.append ih
  | literal hliteral _ ih => exact hliteral.unifies.append ih

theorem Settled.substituteAfter {s : List Char} (h : Settled s) (previous : Option Char)
    (rest : List Char) :
    Shell.substituteAfter previous (s ++ rest)
      = s ++ Shell.substituteAfter (s.getLast?.or previous) rest := by
  induction h generalizing previous with
  | nil => rfl
  | @char c s hquotes hcall _ ih =>
      rw [List.cons_append, substituteAfter_copy previous hquotes.2 (no_call_of_head hcall _), ih,
        getLast?_cons_or]
      rfl
  | @literal t s hliteral _ ih =>
      have hlast : t.getLast? = some '"' := by
        obtain ⟨inside, -, rfl⟩ := hliteral
        rw [List.getLast?_append]
        rfl
      rw [List.append_assoc, hliteral.substituteAfter, ih, List.getLast?_append, Option.or_assoc, hlast,
        List.append_assoc]
      rfl

theorem settled_quoted {text : List Char} (h : ∀ c ∈ text, isPlain c = true) :
    Settled ('"' :: text ++ ['"']) := by
  have hliteral : IsLiteral ('"' :: text ++ ['"']) := ⟨text, inside_of_plain h, rfl⟩
  have hsettled := Settled.literal hliteral .nil
  rwa [List.append_nil] at hsettled

theorem settled_taggedText (tag : String) (htag : ∀ c ∈ '$' :: tag.toList, isPlain c = true)
    {text : List Char} (h : ∀ c ∈ text, isPlain c = true) : Settled (taggedText tag text) := by
  have hopen : Settled ['{'] := .char (by decide) (by decide) .nil
  have htext : taggedText tag text = ['{'] ++ ('"' :: '$' :: tag.toList ++ ['"']) ++ [':']
      ++ ('"' :: text ++ ['"']) ++ ['}'] := by simp [taggedText]
  rw [htext]
  exact (((hopen.append (settled_quoted htag)).append (settled_of_inert (by decide))).append
    (settled_quoted h)).append (settled_of_inert (by decide))

/-- The form of a call is settled. -/
theorem Call.Arguments.settled {stage : Stage} {call : Call} {s : List Char}
    (h : call.Arguments stage s) : Settled call.extended := by
  have hinteger (n : IntText) : ∀ c ∈ n.text, isPlain c = true := fun c hc =>
    isPlain_iff.mpr ⟨(n.isPlain c hc).1, (n.isPlain c hc).2.1⟩
  cases call with
  | date => exact settled_taggedText "date" (by decide) h.2.1
  | objectId => exact settled_taggedText "oid" (by decide) h.2.1
  | decimal => exact settled_taggedText "numberDecimal" (by decide) h.2.1
  | long =>
      obtain ⟨⟨n, rfl⟩, -⟩ := h
      exact settled_taggedText "numberLong" (by decide) (hinteger n)
  | int =>
      obtain ⟨⟨n, rfl⟩, -⟩ := h
      exact settled_taggedText "numberInt" (by decide) (hinteger n)
  | timestamp =>
      obtain ⟨a, b, before, after, rfl, rfl, -⟩ := h
      have hopen : Settled ['{'] := .char (by decide) (by decide) .nil
      have hcomma : Settled [','] := .char (by decide) (by decide) .nil
      have hcolon : Settled [':'] := settled_of_inert (by decide)
      have hname (name : String) (hname : ∀ c ∈ name.toList, isPlain c = true) :
          Settled (('"' :: name.toList ++ ['"']) ++ [':']) := (settled_quoted hname).append hcolon
      have htext : (Call.timestamp a.text b.text).extended
          = ['{'] ++ (('"' :: "$timestamp".toList ++ ['"']) ++ [':']) ++ ['{']
            ++ (('"' :: "t".toList ++ ['"']) ++ [':']) ++ a.text ++ [',']
            ++ (('"' :: "i".toList ++ ['"']) ++ [':']) ++ b.text ++ ['}', '}'] := by
        rw [extended_timestamp]
        simp
      rw [htext]
      exact (((((((hopen.append (hname "$timestamp" (by decide))).append hopen).append
        (hname "t" (by decide))).append (settled_of_inert (inert_digits a))).append hcomma).append
          (hname "i" (by decide))).append (settled_of_inert (inert_digits b))).append
            (settled_of_inert (by decide))

theorem extended_getLast? (call : Call) : call.extended.getLast? = some '}' := by
  have hone : "\"\x7d".toList.getLast? = some '}' := by decide
  have htwo : "\x7d\x7d".toList.getLast? = some '}' := by decide
  cases call with
  | timestamp => rw [extended_timestamp, List.getLast?_append, htwo, Option.some_or]
  | date text | objectId text | decimal text | long text | int text =>
      change (taggedText _ text).getLast? = _
      rw [taggedText, List.getLast?_append, hone, Option.some_or]

theorem Spelled.settled {stage : Stage} {call : Call} {s : List Char} (h : Spelled stage call s) :
    Settled call.extended := by
  obtain ⟨-, -, -, harguments, -⟩ := h
  exact harguments.settled

/-- The literals of a closed text stay closed. -/
theorem closed_substituteAfter {s : List Char} (hs : Closed s) (previous : Option Char) :
    Closed (substituteAfter previous s) := by
  fun_induction substituteAfter previous s with
  | case1 => exact .nil
  | case2 previous cs parts ih =>
      obtain ⟨inside, rest, hinside, hrest, rfl⟩ := hs.of_quote
      have hparts : parts = (inside ++ ['"'], rest) := splitLiteral_inside hinside rest
      rw [hparts] at ih ⊢
      simpa using Closed.literal hinside (ih hrest)
  | case3 previous c cs hquote hword ih => exact .plain hquote (ih (hs.of_cons hquote))
  | case4 previous c cs hquote hword call rest hread ih =>
      obtain ⟨text, hspelled, heq⟩ := read_iff.mp hread
      rw [heq] at hs
      exact hspelled.settled.closed.append (ih (hspelled.closed.of_append hs))
  | case5 previous c cs hquote hword hread ih => exact .plain hquote (ih (hs.of_cons hquote))

end BulkSweep.Shell

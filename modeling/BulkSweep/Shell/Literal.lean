/-!
# Quoted literals of shell text

A literal is a run between two quotes of one kind, in which a backslash takes the next character
along.  Three readings of the same idea stand here: turning single-quoted literals into
double-quoted ones, cutting text into literals and the runs between them, and measuring the literal
at the front of a text.  A literal that is never closed runs to the end of the text.
-/

set_option autoImplicit false

namespace BulkSweep.Shell

/-! ## Where a scan stands -/

/-- The place of a scan relative to the literals of a text. -/
inductive Place where
  /-- between literals -/
  | outside
  /-- inside a double-quoted literal; `escaped` right after a backslash -/
  | inDouble (escaped : Bool)
  /-- inside a single-quoted literal; `escaped` right after a backslash -/
  | inSingle (escaped : Bool)
  deriving DecidableEq, Repr, Inhabited

namespace Place

/-- The place after one more character. -/
def next : Place → Char → Place
  | outside, c => if c = '"' then inDouble false else if c = '\'' then inSingle false else outside
  | inDouble true, _ => inDouble false
  | inDouble false, c => if c = '\\' then inDouble true else if c = '"' then outside else inDouble false
  | inSingle true, _ => inSingle false
  | inSingle false, c => if c = '\\' then inSingle true else if c = '\'' then outside else inSingle false

/-- What a character becomes when every literal is written in double quotes. -/
def written : Place → Char → List Char
  | outside, c => if c = '\'' then ['"'] else [c]
  | inDouble _, c => [c]
  | inSingle true, c => if c = '\'' then [c] else ['\\', c]
  | inSingle false, c =>
    if c = '\\' then [] else if c = '"' then ['\\', '"'] else if c = '\'' then ['"'] else [c]

/-- What the end of the text adds: a backslash that is still waiting for its character. -/
def ending : Place → List Char
  | inSingle true => ['\\']
  | _ => []

/-- The place after a whole text. -/
def after (p : Place) (s : List Char) : Place :=
  s.foldl next p

end Place

/-! ## One kind of quote -/

/-- Puts the literals of a text in double quotes, from a given place on. -/
def unifyFrom : Place → List Char → List Char
  | p, [] => p.ending
  | p, c :: cs => p.written c ++ unifyFrom (p.next c) cs

/-- Turns single-quoted literals into double-quoted ones.  Inside them an escaped single quote
loses its backslash and a bare double quote gains one; all else is kept. -/
def unifyQuotes (s : List Char) : List Char :=
  unifyFrom .outside s

/-! ## Spans -/

/-- A run of text: a whole double-quoted literal with its quotes, or the text between two. -/
structure Span where
  /-- the characters of the run -/
  text : List Char
  /-- whether the run is a literal -/
  isString : Bool
  deriving DecidableEq, Repr, Inhabited

/-- The run collected so far, last character first, unless it is empty. -/
def Span.close (collected : List Char) (isString : Bool) : List Span :=
  if collected.isEmpty then [] else [⟨collected.reverse, isString⟩]

mutual

/-- The spans of a text that begins between literals. -/
def spansOutside (collected : List Char) : List Char → List Span
  | [] => Span.close collected false
  | c :: cs =>
    if c = '"' then Span.close collected false ++ spansInside ['"'] false cs
    else spansOutside (c :: collected) cs

/-- The spans of a text that begins inside a literal. -/
def spansInside (collected : List Char) (escaped : Bool) : List Char → List Span
  | [] => Span.close collected true
  | c :: cs =>
    if escaped then spansInside (c :: collected) false cs
    else if c = '\\' then spansInside (c :: collected) true cs
    else if c = '"' then Span.close (c :: collected) true ++ spansOutside [] cs
    else spansInside (c :: collected) false cs

end

/-- Cuts a text into its double-quoted literals and the runs between them. -/
def spans (s : List Char) : List Span :=
  spansOutside [] s

/-! ## The literal at the front -/

/-- Splits the inside of a literal from what follows it; the closing quote stays with the literal. -/
def splitLiteral : Bool → List Char → List Char × List Char
  | _, [] => ([], [])
  | true, c :: cs => ((splitLiteral false cs).map (c :: ·) id)
  | false, c :: cs =>
    if c = '"' then ([c], cs)
    else ((splitLiteral (c = '\\') cs).map (c :: ·) id)

theorem splitLiteral_length_le (escaped : Bool) (s : List Char) :
    (splitLiteral escaped s).2.length ≤ s.length := by
  induction s generalizing escaped with
  | nil => simp [splitLiteral]
  | cons c cs ih =>
    cases escaped with
    | true => simpa [splitLiteral] using Nat.le_succ_of_le (ih false)
    | false =>
      rw [splitLiteral]
      split
      · exact Nat.le_succ _
      · simpa using Nat.le_succ_of_le (ih _)

/-- The two parts make up the text. -/
theorem splitLiteral_append (escaped : Bool) (s : List Char) :
    (splitLiteral escaped s).1 ++ (splitLiteral escaped s).2 = s := by
  induction s generalizing escaped with
  | nil => simp [splitLiteral]
  | cons c cs ih =>
    cases escaped with
    | true => simpa [splitLiteral] using ih false
    | false =>
      rw [splitLiteral]
      split
      · simp
      · simpa using ih _

end BulkSweep.Shell

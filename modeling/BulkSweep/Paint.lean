/-!
# Coloured text

Terminal colours as escape sequences.  An empty text stays empty, and without colours every text
stays as it is.
-/

set_option autoImplicit false

namespace BulkSweep

/-- The colours in use. -/
inductive Colour where
  /-- what the operator gave, and what was done -/
  | green
  /-- what the operator should notice -/
  | yellow
  /-- headings -/
  | cyan
  /-- how much is at stake -/
  | brightRed
  deriving DecidableEq, Repr, Inhabited

/-- The number of a colour in an escape sequence. -/
def Colour.code : Colour → String
  | green => "32"
  | yellow => "33"
  | cyan => "36"
  | brightRed => "91"

/-- Whether texts are coloured. -/
structure Palette where
  /-- colours are on -/
  coloured : Bool
  deriving DecidableEq, Repr, Inhabited

/-- Whether a variable of the environment is set, and not to zero. -/
def isOn (value : Option String) : Option Bool :=
  value.map (· != "0")

/-- The palette that an environment asks for.  Colours can be forced; else any word against them
turns them off; else they are for terminals, unless the environment says no. -/
def Palette.ofEnvironment (env : String → Option String) (isTerminal : Bool) : Palette :=
  if isOn (env "CLICOLOR_FORCE") == some true then ⟨true⟩
  else if (env "NO_COLOR").isSome then ⟨false⟩
  else ⟨(isOn (env "CLICOLOR")).getD true && isTerminal⟩

/-- The sequence that turns a colour on. -/
def Colour.opening (c : Colour) : String :=
  "\x1b[" ++ c.code ++ "m"

/-- The sequence that turns colours off. -/
def colourClosing : String :=
  "\x1b[0m"

/-- A text in a colour.  Where the text itself turns colours off, the colour is turned on again. -/
def Palette.paint (p : Palette) (c : Colour) (text : String) : String :=
  if p.coloured && !text.isEmpty then
    c.opening ++ (colourClosing ++ c.opening).intercalate (text.splitOn colourClosing)
      ++ colourClosing
  else text

end BulkSweep

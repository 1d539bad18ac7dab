/-!
# Blank characters

The white space of expression text, and the cuts that remove it.  The class is the Unicode property
`White_Space`, which is wider than the class of the core library: it also holds the vertical tab,
the form feed, the next-line control and the spaces outside ASCII.
-/

set_option autoImplicit false

namespace BulkSweep.Text

/-! ## The class -/

/-- The code points with the property `White_Space`. -/
def blankCodes : List Nat :=
  [0x09, 0x0A, 0x0B, 0x0C, 0x0D, 0x20, 0x85, 0xA0, 0x1680,
   0x2000, 0x2001, 0x2002, 0x2003, 0x2004, 0x2005, 0x2006, 0x2007, 0x2008, 0x2009, 0x200A,
   0x2028, 0x2029, 0x202F, 0x205F, 0x3000]

/-- Whether a character counts as white space. -/
def isBlank (c : Char) : Bool :=
  blankCodes.contains c.toNat

/-! ## Cuts -/

/-- The text without its leading blanks. -/
def dropBlank : List Char → List Char
  | [] => []
  | c :: cs => if isBlank c then dropBlank cs else c :: cs

/-- The text without its blanks at either end. -/
def trimBlank (s : List Char) : List Char :=
  (dropBlank (dropBlank s).reverse).reverse

/-- The string without its blanks at either end. -/
def trim (s : String) : String :=
  String.ofList (trimBlank s.toList)

theorem dropBlank_length_le (s : List Char) : (dropBlank s).length ≤ s.length := by
  induction s with
  | nil => simp [dropBlank]
  | cons c cs ih =>
    rw [dropBlank]
    split
    · exact Nat.le_succ_of_le ih
    · exact Nat.le_refl _

/-- What remains does not begin with a blank. -/
theorem dropBlank_head {s r : List Char} {c : Char} (h : dropBlank s = c :: r) :
    isBlank c = false := by
  induction s with
  | nil => simp [dropBlank] at h
  | cons d ds ih =>
    rw [dropBlank] at h
    split at h
    · exact ih h
    · rename_i hd
      simp only [List.cons.injEq] at h
      rw [← h.1]
      simpa using hd

end BulkSweep.Text

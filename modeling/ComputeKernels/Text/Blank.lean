/-!
# Blank characters

The characters with the property White_Space of the Unicode standard, and the removal of such
characters from the ends of a text.

Main results:

- Theorem `isBlank_of_isWhitespace`: every ASCII blank is blank.
-/

namespace ComputeKernels.Text

/-- Whether a character has the property White_Space. -/
def isBlank (c : Char) : Bool :=
  let n := c.toNat
  (0x09 ≤ n && n ≤ 0x0d) || n == 0x20 || n == 0x85 || n == 0xa0 || n == 0x1680 ||
    (0x2000 ≤ n && n ≤ 0x200a) || n == 0x2028 || n == 0x2029 || n == 0x202f || n == 0x205f ||
    n == 0x3000

/-- Every ASCII blank is blank. -/
theorem isBlank_of_isWhitespace {c : Char} (h : c.isWhitespace = true) : isBlank c = true := by
  simp only [Char.isWhitespace, Bool.or_eq_true, decide_eq_true_eq] at h
  rcases h with ((rfl | rfl) | rfl) | rfl <;> rfl

/-- Characters without the blanks at the end. -/
def dropBlankEnd (cs : List Char) : List Char := (cs.reverse.dropWhile isBlank).reverse

/-- Characters without the blanks at both ends. -/
def dropBlankEnds (cs : List Char) : List Char := dropBlankEnd (cs.dropWhile isBlank)

/-- Text without the blanks at its end. -/
def trimEnd (s : String) : String := String.ofList (dropBlankEnd s.toList)

/-- Text without the blanks at both ends. -/
def trim (s : String) : String := String.ofList (dropBlankEnds s.toList)

end ComputeKernels.Text

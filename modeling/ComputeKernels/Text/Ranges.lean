/-!
# Ranges of characters

Kinds of characters beyond ASCII are given by tables of ranges of code points.
-/

namespace ComputeKernels.Text

/-- First and last code points of some ranges. -/
abbrev Ranges := List (Nat × Nat)

/-- Whether the code point of a character is in one of the ranges. -/
def inRanges (ranges : Ranges) (c : Char) : Bool :=
  ranges.any fun (first, last) => first ≤ c.toNat && c.toNat ≤ last

end ComputeKernels.Text

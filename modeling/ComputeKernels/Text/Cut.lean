/-!
# Cutting a text

A text can be cut at a position that is counted in the bytes of its UTF-8 form, unless the position
falls inside a character.
-/

namespace ComputeKernels.Text

/-- Number of bytes of a list of characters. -/
def byteCount : List Char → Nat
  | [] => 0
  | c :: cs => c.utf8Size + byteCount cs

/-- Characters after a number of bytes. -/
def dropBytes? : List Char → Nat → Option (List Char)
  | cs, 0 => some cs
  | [], _ + 1 => none
  | c :: cs, n + 1 => if c.utf8Size ≤ n + 1 then dropBytes? cs (n + 1 - c.utf8Size) else none

/-- Characters that make up a number of bytes. -/
def takeBytes? : List Char → Nat → Option (List Char)
  | _, 0 => some []
  | [], _ + 1 => none
  | c :: cs, n + 1 =>
    if c.utf8Size ≤ n + 1 then (takeBytes? cs (n + 1 - c.utf8Size)).map (c :: ·) else none

/-- Characters between two positions. -/
def cut? (cs : List Char) (start stop : Nat) : Option (List Char) :=
  (dropBytes? cs start).bind (takeBytes? · (stop - start))

end ComputeKernels.Text

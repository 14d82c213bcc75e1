/-!
# Ceiling roots

The least number whose power reaches a bound.  A candidate found bit by bit is passed through two
correcting loops, downward while a smaller number suffices and upward while the candidate falls
short, so that the result does not depend on how good the candidate was.  Powers that do not fit
64 bits count as large enough.
-/

namespace ComputeKernels.Root

/-- Numbers that fit 64 bits are below this. -/
def wordLimit : Nat := UInt64.size

/-- Adds to a root, from the given bit downward, every bit that keeps its power below a bound. -/
def climb (k bound : Nat) : Nat → Nat → Nat
  | 0, root => root
  | bit + 1, root =>
    if Nat.pow (root + Nat.pow 2 bit) k < bound then climb k bound bit (root + Nat.pow 2 bit)
    else climb k bound bit root

/-- Lowers a candidate while the next smaller positive number still reaches the bound. -/
def lower (k bound : Nat) : Nat → Nat
  | 0 => 0
  | root + 1 =>
    if 0 < root ∧ Nat.pow root k < wordLimit ∧ bound ≤ Nat.pow root k then lower k bound root else root + 1

/-- Raises a candidate while it falls short of the bound. -/
def raise (k bound root : Nat) : Nat :=
  if h : root < bound ∧ Nat.pow root k < wordLimit ∧ Nat.pow root k < bound then raise k bound (root + 1)
  else root
termination_by bound - root
decreasing_by omega

/-- Corrects a candidate for the least number whose power reaches a bound. -/
def settle (k bound candidate : Nat) : Nat :=
  raise k bound (lower k bound candidate)

/-- Least number whose power with exponent `k` reaches `n`. -/
def ceilRoot (n k : Nat) : Nat :=
  if n ≤ 1 then n else settle k n (climb k n (Nat.log2 n + 1) 0 + 1)

end ComputeKernels.Root

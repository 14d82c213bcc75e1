import ComputeKernels.Word

/-!
# Shapes

A shape is the list of a tensor's extents, outermost first.  Elements are stored in row-major order:
the stride of an axis is the product of the extents inside it.

Current gaps:

- Strides and flat indices are numbers without a bound.  They differ from machine numbers only where
  the product of some of the extents does not fit 64 bits.
-/

namespace ComputeKernels

/-- Extents of a tensor, outermost axis first. -/
abbrev Shape := List Nat

namespace Shape

/-- Highest number of axes that generated code can address. -/
def maxRank : Nat := 4

/-- Number of elements. -/
def size (s : Shape) : Nat := s.foldr (· * ·) 1

@[simp]
theorem size_nil : size [] = 1 :=
  rfl

@[simp]
theorem size_cons (d : Nat) (s : Shape) : size (d :: s) = d * size s :=
  rfl

/-- Number of elements as the host computes it, every partial product in a machine number. -/
def count (s : Shape) : Nat := s.foldl (fun n d => Word.wrap (n * d)) 1

/-- Whether a partial product of the extents, times a number, does not fit a machine number. -/
def overflowsFrom (n : Nat) : Shape → Bool
  | [] => false
  | d :: s => decide (UInt64.size ≤ n * d) || overflowsFrom (n * d) s

/-- Whether the number of elements cannot be computed without losing bits. -/
def overflows (s : Shape) : Bool := overflowsFrom 1 s

/-- Row-major strides of all axes but the innermost, whose stride is always one. -/
def outerStrides : Shape → List Nat
  | [] => []
  | [_] => []
  | _ :: s@(_ :: _) => size s :: outerStrides s

/-- There is one stride per axis, less the innermost. -/
theorem length_outerStrides (s : Shape) : (outerStrides s).length = s.length - 1 := by
  fun_induction outerStrides s with
  | case1 => rfl
  | case2 => rfl
  | case3 d e s ih => simp [ih]

end Shape

end ComputeKernels

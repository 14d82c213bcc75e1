import ComputeKernels.Text.Sequence

/-!
# Axis layouts

A compute grid has three dimensions.  A layout says which axes of the output each of them
enumerates.  The flat layout, in which the first dimension runs over all axes in order, is the usual
one.
-/

namespace ComputeKernels

/-! ## Triples -/

/-- One number per grid dimension. -/
structure Grid where
  x : Nat
  y : Nat
  z : Nat
deriving DecidableEq

namespace Grid

/-- The three numbers in order. -/
def toList (g : Grid) : List Nat := [g.x, g.y, g.z]

/-- Number of cells of a grid with these extents. -/
def volume (g : Grid) : Nat := g.x * g.y * g.z

/-- Whether every number is at most a limit. -/
def fits (g : Grid) (limit : Nat) : Bool := g.toList.all (· ≤ limit)

/-- Text of a triple. -/
def text (g : Grid) : String := Text.sequence g.toList

end Grid

/-! ## Layouts -/

/-- Output axes enumerated by each grid dimension. -/
structure AxisLayout where
  x : List Nat
  y : List Nat
  z : List Nat
deriving DecidableEq

namespace AxisLayout

/-- All axes of an output on the first dimension, in order. -/
def flat (rank : Nat) : AxisLayout := ⟨List.range rank, [], []⟩

/-- Whether a layout is the flat one. -/
def isFlat (l : AxisLayout) (rank : Nat) : Bool := l == flat rank

/-- The axes of each dimension, in order. -/
def dims (l : AxisLayout) : List (List Nat) := [l.x, l.y, l.z]

/-- Every assigned axis, dimension by dimension. -/
def axes (l : AxisLayout) : List Nat := l.x ++ l.y ++ l.z

/-- Whether only the first dimension has axes, so that a grid may be folded. -/
def usesOnlyX (l : AxisLayout) : Bool := l.y.isEmpty && l.z.isEmpty

/-- Text of a layout, as in `x[0, 1]y[]z[2]`. -/
def text (l : AxisLayout) : String :=
  "x" ++ Text.sequence l.x ++ "y" ++ Text.sequence l.y ++ "z" ++ Text.sequence l.z

end AxisLayout

end ComputeKernels

import ComputeKernels.Shape.Basic

/-!
# Coordinates and flat indices

The row-major correspondence between the coordinates of an element and its flat index.  Going from
an index to coordinates divides by the strides, which fails where a stride is zero; the other
direction is defined for every pair of lists.

Current gaps:

- Products and sums are numbers without a bound.  For coordinates within a shape that fits a machine
  number they fit as well.
-/

namespace ComputeKernels.Shape

/-- Coordinates of the element at a flat index; none where a stride to divide by is zero. -/
def coordsAt? (s : Shape) (index : Nat) : Option (List Nat) :=
  match s with
  | [] => some []
  | [_] => some [index]
  | _ :: inner@(_ :: _) =>
    let stride := size inner
    if stride = 0 then none
    else (coordsAt? inner (index % stride)).map (index / stride :: ·)

/-- Flat index of the element at some coordinates: the innermost coordinate plus every outer one
times its stride. -/
def offsetOf (s : Shape) (coords : List Nat) : Nat :=
  (coords.zip s.outerStrides).foldr (fun p total => p.1 * p.2 + total) (coords.getLast?.getD 0)

end ComputeKernels.Shape

import ComputeKernels.Error

/-!
# Symbolic strides

Generated code does not know the extents of its output.  The stride of an axis within a list of axes
is therefore named: it is the product of the extents of the axes after it.
-/

namespace ComputeKernels

/-- Names of the components of a vector, in axis order. -/
def componentNames : List String := ["x", "y", "z", "w"]

/-- Product of the output extents of some axes. -/
structure SymbolicStride where
  axes : List Nat
deriving DecidableEq

namespace SymbolicStride

/-- Text of a stride over the components of a variable; none where a vector has no such component. -/
def text? (s : SymbolicStride) (subject : String) : Option String :=
  if s.axes.isEmpty then some "1"
  else do
    let factors ← s.axes.mapM fun axis => (componentNames[axis]?).map fun c => subject ++ "." ++ c
    return " * ".intercalate factors

/-- Strides of a list of axes: each is the product over the axes after it. -/
def ofTails : List Nat → List SymbolicStride
  | [] => []
  | _ :: rest => ⟨rest⟩ :: ofTails rest

/-- Strides over the given output axes, innermost last; every axis must be addressable. -/
def ofAxes (axes : List Nat) : Except KernelError (List SymbolicStride) :=
  match axes.find? (Shape.maxRank ≤ ·) with
  | some axis => .error (.unsupportedRank (axis + 1) .symbolicStrides)
  | none => .ok (ofTails axes)

end SymbolicStride

end ComputeKernels

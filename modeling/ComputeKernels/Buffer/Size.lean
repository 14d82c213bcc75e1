import ComputeKernels.Word

/-!
# Buffer sizes

No buffer is empty: a storage buffer holds at least one word, a uniform buffer at least one block of
sixteen bytes, and both are whole multiples of these.

Current gaps:

- Rounding up is exact.  It would not fit a machine number only for a byte count in the last block below
  2^64, which neither a tensor of whole words nor a uniform block has.
-/

namespace ComputeKernels.Buffer

/-- Bytes allocated for a storage or staging buffer. -/
def storageSize (byteCount : Nat) : Nat := alignUp 4 (max byteCount 4)

/-- Bytes allocated for a uniform buffer. -/
def uniformSize (byteCount : Nat) : Nat := alignUp 16 (max byteCount 16)

end ComputeKernels.Buffer

import ComputeKernels.Table
import ComputeKernels.Device.Command

/-!
# Device memory

A buffer has a size and bytes; bytes that were never written are zero.  Only a front part that holds
everything written so far is stored.
-/

namespace ComputeKernels.Device

/-! ## Contents of one buffer -/

/-- Bytes from the start of a buffer; all later ones are zero. -/
abbrev Contents := List UInt8

namespace Contents

/-- Contents with new bytes at the front. -/
def overwrite (bytes : List UInt8) (c : Contents) : Contents := bytes ++ c.drop bytes.length

/-- The first bytes of a buffer. -/
def read (c : Contents) (size : Nat) : List UInt8 :=
  c.take size ++ List.replicate (size - c.length) 0

@[simp]
theorem length_read (c : Contents) (size : Nat) : (read c size).length = size := by
  simp only [read, List.length_append, List.length_take, List.length_replicate]
  omega

end Contents

/-! ## Memory -/

/-- A buffer on a device. -/
structure Cell where
  key : Buffer.PoolKey
  contents : Contents := []
deriving DecidableEq

/-- Buffers by number. -/
abbrev Memory := Table Buffer.BufferId Cell

namespace Memory

/-- Contents of a buffer. -/
def contents (m : Memory) (buffer : Buffer.BufferId) : Contents :=
  ((m.get? buffer).map Cell.contents).getD []

/-- Changes the contents of a buffer that exists. -/
def change (m : Memory) (buffer : Buffer.BufferId) (f : Cell → Contents) : Memory :=
  match m.get? buffer with
  | some cell => m.set buffer { cell with contents := f cell }
  | none => m

/-- Writes bytes to the start of a buffer, as far as they fit. -/
def write (m : Memory) (buffer : Buffer.BufferId) (bytes : List UInt8) : Memory :=
  m.change buffer fun cell => cell.contents.overwrite (bytes.take cell.key.size)

/-- Carries out work that was submitted. -/
def execute (m : Memory) : Work → Memory
  | .compute pass =>
    match pass.bindings with
    | output :: _ => m.write output pass.stores
    | [] => m
  | .copy source target size => m.write target ((m.contents source).read size)

end Memory

end ComputeKernels.Device

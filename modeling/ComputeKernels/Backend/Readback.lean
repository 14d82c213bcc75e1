import ComputeKernels.Backend.Submission

/-!
# Reading tensors

Values that the host has are answered at once.  Others are copied from the device through a staging
buffer, after all recorded passes have been submitted, and are then kept on the host.

Current gaps:

- Counts of elements and bytes wrap, as in a build that does not check its arithmetic.
-/

namespace ComputeKernels.Backend

open Tensor ComputeKernels.Backend.Action

/-- Submits the open encoder if a read has to wait for it. -/
def submitBefore (id : TensorId) : Action Unit := do
  if ← look fun b => b.batch.touches id || b.encoder.isSome then submit

/-- Copies a buffer to the host through a staging buffer, which goes back to the pool in any case. -/
def fetch (x : Buffer.Allocation) (byteCount : Nat) (fault : Option Device.MapFault) :
    Action (List UInt8) := do
  let staging ← acquire ⟨Buffer.storageSize byteCount, stagingUsage⟩
  command (·.copyOut x.buffer staging.buffer staging.key.size)
  let mapped ← (fun b =>
    let (r, device) := b.device.readMapped staging.buffer staging.key.size fault
    (.ok r, { b with device }) : Action (Except KernelError (List UInt8)))
  release staging
  of mapped

/-- Values of a tensor without parts. -/
def readPlain (id : TensorId) (fault : Option Device.MapFault) : Action Values := do
  let r ← record id
  match r.values, r.resource with
  | some values, _ => return values
  | none, none => throw (.uninitializedTensor id)
  | none, some x =>
    submitBefore id
    let byteCount := Word.wrap (r.count * r.element.byteWidth)
    let bytes ← fetch x byteCount fault
    count (.download byteCount)
    let values ← of (Values.ofDeviceBytes r.element bytes r.count Word.wrap)
    modify id ({ · with values := some values })
    return values

/-- Values of a tensor; those of a complex tensor are put together from its parts. -/
def read (id : TensorId) (fault : Option Device.MapFault) : Action Values := do
  live
  let r ← record id
  match r.parts with
  | some (real, imag) =>
    let re ← readPlain real fault
    let im ← readPlain imag fault
    of (Values.ofParts re im)
  | none => readPlain id fault

end ComputeKernels.Backend

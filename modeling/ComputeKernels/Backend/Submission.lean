import ComputeKernels.Backend.Disposal
import ComputeKernels.Logging.Level

/-!
# Submission and teardown

Submitting hands the open encoder to the device and then releases what was held back for it.
Disposing of the backend drops the open encoder and destroys every buffer.
-/

namespace ComputeKernels.Backend

open ComputeKernels.Backend.Action

/-! ## Submission -/

/-- Hands the passes of the open encoder to the device; answers with what was held back. -/
def handOver (passes : List Device.Pass) : Action (Submission.Drained Buffer.Allocation) := fun b =>
  let (drained, batch) := b.batch.beginSubmit
  (.ok drained, { b with
    encoder := none
    batch := batch
    device := b.device.submit (passes.map .compute)
    metrics := b.metrics.count .submission })

/-- Submits the open encoder, if there is one, and releases what was held back. -/
def submit : Action Unit := do
  live
  match ← look Backend.encoder with
  | none => return ()
  | some passes =>
    let drained ← handOver passes
    drained.uniforms.forM release
    drained.disposals.forM remove
    update fun b => { b with batch := b.batch.finishSubmit }

/-! ## Alerts -/

/-- Events that the owner of a backend is told of. -/
inductive Alert
  | passesDropped (count : Nat)
  | deviceLost (reason : String)
deriving DecidableEq

/-- Importance of an alert. -/
def Alert.level : Alert → Logging.Level
  | passesDropped _ => .warn
  | deviceLost _ => .error

/-- Wording of an alert. -/
def Alert.text : Alert → String
  | passesDropped count =>
    s!"tessel-webgpu: disposing with an open encoder; dropping {count} unsubmitted passes"
  | deviceLost reason => s!"tessel-webgpu device lost: reason=Unknown, message={reason}"

/-! ## Teardown -/

/-- Alerts that disposing gives. -/
def disposalAlerts (b : Backend) : List Alert :=
  if b.disposed || b.encoder.isNone then [] else [.passesDropped b.batch.passes]

/-- Gives up everything.  Buffers are destroyed in the order of their numbers, and the passes of the
open encoder are never submitted. -/
def dispose (b : Backend) : Backend :=
  if b.disposed then b
  else
    let (pool, buffers) := b.pool.dispose
    { b with
      encoder := none
      batch := b.batch.abandon.2
      tensors := b.tensors.drain.2
      pool := pool
      device := (buffers.mergeSort (decide <| · ≤ ·)).foldl Device.destroyBuffer b.device
      pipelines := b.pipelines.clear
      layouts := .empty
      disposed := true }

/-- Tells of the loss of the device, of which it is told only once. -/
def lose (b : Backend) (reason : String) : Backend × List Alert :=
  if b.device.isLost then (b, [])
  else ({ b with device := { b.device with isLost := true } }, [.deviceLost reason])

end ComputeKernels.Backend

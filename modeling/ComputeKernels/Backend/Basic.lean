import ComputeKernels.Buffer.Size
import ComputeKernels.Device.Basic
import ComputeKernels.Metrics
import ComputeKernels.Pipeline.Cache
import ComputeKernels.Pipeline.Key
import ComputeKernels.Submission.Batch
import ComputeKernels.Tensor.Registry

/-!
# Backends

A backend runs programs on one device.  It owns the tensors, the pool of device buffers, the caches
of compiled programs and the encoder that collects passes.  Its operations are actions: they end with
a value or with a failure, and leave a new state in both cases.

Current gaps:

- Messages below warnings and the times at which they are written are not described.
-/

namespace ComputeKernels

/-! ## State -/

/-- State of a backend. -/
structure Backend where
  device : Device
  /-- Settings in normal form. -/
  settings : Config.Settings
  /-- Limit of grid extents: that of the settings, but no more than the device's. -/
  maxDispatch : Nat
  pool : Buffer.Pool := {}
  /-- Pipeline layouts by number of operands. -/
  layouts : Table Nat (List Pipeline.LayoutEntry) := .empty
  pipelines : Pipeline.Cache Pipeline.Key Pipeline.Compiled := {}
  tensors : Tensor.Registry := {}
  batch : Submission.Batch Buffer.Allocation
  /-- Passes of the open encoder, if there is one. -/
  encoder : Option (List Device.Pass) := none
  metrics : Metrics := {}
  disposed : Bool := false

namespace Backend

/-! ## Creation -/

/-- A backend without tensors on a device. -/
def onDevice (device : Device) (s : Config.Settings) : Backend where
  device := device
  settings := s.normalized
  maxDispatch := max (min s.normalized.maxDispatch device.limits.workgroups) 1
  batch := .ofCapacity s.normalized.batchSize

/-- A backend on the device of a machine.  The device is there in any case, to show the commands. -/
def start (m : Machine) (s : Config.Settings) : Except KernelError Backend × Device :=
  match m.connect s.normalized with
  | (.ok (), d) => (.ok (onDevice d s), d)
  | (.error e, d) => (.error e, d)

/-! ## Actions -/

/-- An action on a backend. -/
abbrev Action (α : Type) := ExceptT KernelError (StateM Backend) α

namespace Action

/-- Ends with a value or a failure without changing the state. -/
def of {α : Type} (r : Except KernelError α) : Action α := fun b => (r, b)

/-- Changes the state. -/
def update (f : Backend → Backend) : Action Unit := fun b => (.ok (), f b)

/-- Reads from the state. -/
def look {α : Type} (f : Backend → α) : Action α := fun b => (.ok (f b), b)

/-- Succeeds unless the backend is disposed. -/
def live : Action Unit := fun b => (if b.disposed then .error .disposed else .ok (), b)

/-- Counts an event. -/
def count (e : Metrics.Event) : Action Unit :=
  update fun b => { b with metrics := b.metrics.count e }

/-- Gives the device a command that cannot fail. -/
def command (f : Device → Device) : Action Unit := update fun b => { b with device := f b.device }

/-! ## Tensors -/

/-- Record of a live tensor. -/
def record (id : TensorId) : Action Tensor.Record := fun b => (b.tensors.get id, b)

/-- Adds a tensor. -/
def insert (r : Tensor.Record) : Action TensorId := fun b =>
  let (id, tensors) := b.tensors.insert r
  (.ok id, { b with tensors })

/-- Changes the record of a live tensor. -/
def modify (id : TensorId) (f : Tensor.Record → Tensor.Record) : Action Unit := fun b =>
  match b.tensors.modify id f with
  | .ok tensors => (.ok (), { b with tensors })
  | .error e => (.error e, b)

/-- Counts one more reference to a live tensor. -/
def retain (id : TensorId) : Action Nat := fun b =>
  match b.tensors.retain id with
  | .ok (count, tensors) => (.ok count, { b with tensors })
  | .error e => (.error e, b)

/-! ## Buffers -/

/-- Takes a buffer from the pool. -/
def acquire (key : Buffer.PoolKey) : Action Buffer.Allocation := fun b =>
  let (r, pool, device) := b.pool.acquire Device.allocator b.device key
  (r, { b with pool, device })

/-- Gives a buffer back to the pool. -/
def release (x : Buffer.Allocation) : Action Unit := fun b =>
  match b.pool.release x with
  | .ok pool => (.ok (), { b with pool })
  | .error e => (.error e, b)

end Action

/-! ## Usages of buffers -/

/-- Usage of the buffers of tensors. -/
def tensorUsage : BufferUsage := .union (.union .storage .copySource) .copyTarget

/-- Usage of the buffers of uniform blocks. -/
def uniformUsage : BufferUsage := .union .uniform .copyTarget

/-- Usage of the buffers that the host reads. -/
def stagingUsage : BufferUsage := .union .mapRead .copyTarget

end Backend

end ComputeKernels

import ComputeKernels.Device.Memory
import ComputeKernels.Logging.Level

/-!
# Devices

A device keeps the list of commands that it was given and the bytes of its buffers.  Writes take
effect at once; passes and copies take effect when their encoder is submitted.

Current gaps:

- Shaders are not executed: a pass leaves at the start of its output the bytes that its job gives.
- Sizes and offsets of transfers are numbers without a bound.  A backend transfers no more than the
  size of a buffer, which the limits of the device bound.
-/

namespace ComputeKernels

/-- Limits of a device. -/
structure Device.Limits where
  bufferSize : Nat := 268435456
  /-- Workgroups per grid dimension. -/
  workgroups : Nat := Config.defaultMaxDispatch
deriving DecidableEq

/-- A device, by its past commands and the bytes that it holds. -/
structure Device where
  limits : Device.Limits := {}
  /-- Number of the next buffer. -/
  next : Buffer.BufferId := 0
  memory : Device.Memory := .empty
  /-- Whether the device has reported that it is lost. -/
  isLost : Bool := false
  /-- All commands so far, the earliest first. -/
  journal : List Device.Command := []

namespace Device

/-- Adds a command to the journal. -/
def note (d : Device) (c : Command) : Device := { d with journal := d.journal ++ [c] }

/-! ## Buffers -/

/-- Creates a buffer of at most the greatest size. -/
def createBuffer (d : Device) (key : Buffer.PoolKey) : Except KernelError Buffer.BufferId × Device :=
  if d.limits.bufferSize < key.size then
    (.error (.bufferTooLarge key.size d.limits.bufferSize), d)
  else
    (.ok d.next, { d.note (.createBuffer d.next key) with
      next := d.next + 1
      memory := d.memory.set d.next { key } })

/-- A device as the source of new buffers of a pool. -/
def allocator : Buffer.Allocator Device where
  allocate key d := d.createBuffer key

/-- Destroys a buffer. -/
def destroyBuffer (d : Device) (buffer : Buffer.BufferId) : Device :=
  { d.note (.destroyBuffer buffer) with memory := d.memory.erase buffer }

/-- Writes bytes to the start of a buffer. -/
def write (d : Device) (buffer : Buffer.BufferId) (bytes : List UInt8) : Device :=
  { d.note (.write buffer bytes) with memory := d.memory.write buffer bytes }

/-! ## Programs -/

/-- Creates the slots and the pipeline layout of programs with some number of operands. -/
def createLayout (operands : Nat) (d : Device) : List Pipeline.LayoutEntry × Device :=
  let entries := Pipeline.layoutEntries operands
  (entries, d.note (.createLayout operands entries))

/-- Compiles a shader.  The compiler of the device may object to it. -/
def compile (d : Device) (pipeline : Pipeline.Compiled) (objection : Option String) :
    Except KernelError Pipeline.Compiled × Device :=
  let d := d.note (.compile pipeline)
  match objection with
  | some reason => (.error (.shaderCompile pipeline.label reason), d)
  | none => (.ok pipeline, d)

/-! ## Submission and readback -/

/-- Submits the work of an encoder. -/
def submit (d : Device) (work : List Work) : Device :=
  { d.note (.submit work) with memory := work.foldl Memory.execute d.memory }

/-- Copies the start of a buffer to another one, in an encoder of its own. -/
def copyOut (d : Device) (source target : Buffer.BufferId) (size : Nat) : Device :=
  let work := Work.copy source target size
  ((d.note (.openEncoder .readback)).note (.record work)).submit [work]

/-- Ways in which a buffer fails to be mapped. -/
inductive MapFault
  /-- The device reports a failure. -/
  | refused
  /-- The device never answers. -/
  | unanswered
deriving DecidableEq

/-- Text of the failure that a device reports. -/
def mapRefusal : String := "Error occurred when trying to async map a buffer"

/-- Name of the transfer in messages about it. -/
def readContext : String := "read"

/-- The error that a map fault leads to. -/
def MapFault.error : MapFault → KernelError
  | refused => .readback (.mapFailed readContext mapRefusal)
  | unanswered => .readback (.callbackDropped readContext)

/-- Reads the start of a buffer on the host.  After a fault the buffer stays mapped. -/
def readMapped (d : Device) (buffer : Buffer.BufferId) (size : Nat) (fault : Option MapFault) :
    Except KernelError (List UInt8) × Device :=
  let d := d.note (.map buffer size)
  match fault with
  | some f => (.error f.error, d)
  | none => (.ok ((d.memory.contents buffer).read size), d.note (.unmap buffer))

/-! ## Machines -/

end Device

/-- What a machine offers to a program that looks for a device. -/
structure Machine where
  hasAdapter : Bool := true
  /-- Reason for which the adapter gives out no device. -/
  refusal : Option String := none
  limits : Device.Limits := {}
deriving DecidableEq

/-- Asks for an adapter and then for its device. -/
def Machine.connect (m : Machine) (s : Config.Settings) :
    Except KernelError Unit × Device :=
  let d := { limits := m.limits : Device }.note (.findAdapter s.power s.forceFallback)
  if m.hasAdapter then
    match m.refusal with
    | some reason => (.error (.deviceRequest reason), d)
    | none => (.ok (), d)
  else (.error .noAdapter, d)

end ComputeKernels

import ComputeKernels.Backend.Submission
import ComputeKernels.Backend.Tensors
import ComputeKernels.Program.Uniforms

/-!
# Running programs

Running a program checks it against its operands, compiles it on first use, brings the operands to
the device and records a pass.  Everything that can fail comes before the pass is recorded.

Current gaps:

- Counts of elements and bytes wrap, as in a build that does not check its arithmetic.  A build that
  checks it stops instead, which is not described here.
-/

namespace ComputeKernels.Backend

open Tensor ComputeKernels.Backend.Action

/-! ## Requests -/

/-- A request to run a program on tensors. -/
structure Job where
  program : Program
  inputs : List TensorId
  /-- Element type of the output. -/
  element : ElementType
  /-- Uniform fields that the program adds. -/
  extra : List Uniform.Field := []
  /-- Bytes that the pass will put at the start of its output. -/
  stores : List UInt8 := []
  /-- What the compiler of the device will object to. -/
  objection : Option String := none

namespace Job

/-- Operands under the names that the program gives them, as far as it names them. -/
def operands (j : Job) (tensors : Registry) : Except KernelError (List Operand) :=
  (j.inputs.zip j.program.operandNames).mapM fun (id, name) => do
    let r ← tensors.get id
    return ⟨name, r.element, r.shape⟩

/-- The kernel of a job, if it is valid. -/
def kernel (j : Job) (tensors : Registry) : Except KernelError Kernel := do
  let inputs ← j.operands tensors
  requireLayout (inputs.length == j.inputs.length)
    (.operandCount j.program.label j.program.operandNames.length j.inputs.length)
  let k : Kernel := ⟨j.program, inputs, ⟨Kernel.outputName, j.element, j.program.outputShape⟩⟩
  k.validate
  return k

end Job

/-- Workgroups and uniform block of a pass. -/
structure Launch where
  grid : Grid
  uniforms : List UInt8
deriving DecidableEq

/-- Launch of a kernel under a limit of the grid extents. -/
def Launch.of (k : Kernel) (limit : Nat) (extra : List Uniform.Field) :
    Except KernelError Launch := do
  let grid ← k.program.dispatch limit Word.wrap
  let fields ← k.program.uniformFields k.inputs k.output.shape grid extra
  return ⟨grid, ← Uniform.pack fields⟩

/-! ## Compilation -/

/-- Makes sure that there is a pipeline layout for some number of operands. -/
def prepareLayout (operands : Nat) : Action Unit := update fun b =>
  let (_, layouts, device) :=
    Pipeline.getOrInsert b.layouts operands (Device.createLayout operands) b.device
  { b with layouts, device }

/-- Compiles a kernel on a device under the label of its key. -/
def compileOn (k : Kernel) (label : String) (objection : Option String) (d : Device) :
    Except KernelError Pipeline.Compiled × Device :=
  match Shader.sourceOf k with
  | .ok source => d.compile ⟨label, source⟩ objection
  | .error e => (.error e, d)

/-- The pipeline of a kernel, compiled on first use. -/
def pipeline (k : Kernel) (objection : Option String) : Action Pipeline.Compiled := fun b =>
  let key := Pipeline.Key.of k
  match b.pipelines.getOrCreate key (compileOn k key.text objection) b.device with
  | (.ok (p, isNew), pipelines, device) =>
    (.ok p, { b with
      pipelines
      device
      metrics := b.metrics.count (if isNew then .miss else .hit) })
  | (.error e, pipelines, device) => (.error e, { b with pipelines, device })

/-! ## Operands on the device -/

/-- Pool key of the buffer of a tensor with some number of bytes. -/
def tensorKey (byteCount : Nat) : Buffer.PoolKey := ⟨Buffer.storageSize byteCount, tensorUsage⟩

/-- Buffer of a tensor, filled from its values on first use. -/
def upload (id : TensorId) : Action Buffer.Allocation := do
  let r ← record id
  match r.resource, r.values with
  | some x, _ => return x
  | none, none => throw (.uninitializedTensor id)
  | none, some values =>
    let bytes ← of values.deviceBytes
    let x ← acquire (tensorKey bytes.length)
    if !bytes.isEmpty then command (·.write x.buffer bytes)
    count (.upload bytes.length)
    modify id ({ · with resource := some x })
    return x

/-- Takes the buffers for a uniform block and an output, or neither. -/
def acquireBoth (uniform output : Buffer.PoolKey) :
    Action (Buffer.Allocation × Buffer.Allocation) := fun b =>
  match h : b.pool.acquireAll Device.allocator b.device [uniform, output] with
  | (.ok xs, pool, device) =>
    have hlen : xs.length = 2 := Buffer.Pool.length_acquireAll h
    (.ok (xs[0], xs[1]), { b with pool, device })
  | (.error e, pool, device) => (.error e, { b with pool, device })

/-! ## Passes -/

/-- Adds a pass to the encoder, which is opened if need be. -/
def encode (pass : Device.Pass) : Action Unit := update fun b =>
  let device := match b.encoder with
    | some _ => b.device
    | none => b.device.note (.openEncoder .batch)
  { b with
    batch := b.batch.beginPass.2
    encoder := some (b.encoder.getD [] ++ [pass])
    device := device.note (.record (.compute pass)) }

/-- Enters a pass into the batch; answers whether the batch is full. -/
def enter (pass : Device.Pass) (uniform : Buffer.Allocation) : Action Bool := fun b =>
  let (full, batch) := b.batch.record (pass.inputs ++ [pass.output]) uniform
  (.ok full, { b with batch })

/-- Group of a pass: the output in slot zero, each operand in the slot after its position, and the
uniform block in the slot after as many as the kernel has operands. -/
def groupOf (k : Kernel) (operands : List Buffer.Allocation) (uniform output : Buffer.Allocation) :
    List (Pipeline.GroupEntry Buffer.BufferId) :=
  ⟨0, output.buffer⟩ :: operands.mapIdx (fun i x => ⟨i + 1, x.buffer⟩) ++
    [⟨k.inputs.length + 1, uniform.buffer⟩]

/-- Records the pass of a launch and submits the batch if it is full. -/
def recordPass (j : Job) (k : Kernel) (launch : Launch) (compiled : Pipeline.Compiled)
    (operands : List Buffer.Allocation) (uniform output : Buffer.Allocation) : Action TensorId := do
  command (·.write uniform.buffer launch.uniforms)
  let bindings := Pipeline.bySlot (groupOf k operands uniform output)
  command (·.note (.bind bindings))
  let id ← insert { element := j.element, shape := k.output.shape, resource := some output }
  let pass : Device.Pass := {
    label := j.program.label
    pipeline := compiled
    grid := launch.grid
    bindings := bindings
    inputs := j.inputs
    output := id
    uniforms := launch.uniforms
    stores := j.stores }
  encode pass
  count .dispatch
  if ← enter pass uniform then submit
  return id

/-! ## Jobs -/

/-- Runs a program; answers with its output, whose values are there once they are read.  An output in
which the host counts no elements gets no pass. -/
def run (j : Job) : Action Handle := do
  live
  let k ← of (j.kernel (← look Backend.tensors))
  let shape := k.output.shape
  if k.output.count = 0 then make shape j.element (some (.none j.element))
  else
    let launch ← of (Launch.of k (← look Backend.maxDispatch) j.extra)
    prepareLayout k.inputs.length
    let compiled ← pipeline k j.objection
    let operands ← j.inputs.mapM upload
    let (uniform, output) ← acquireBoth
      ⟨Buffer.uniformSize launch.uniforms.length, uniformUsage⟩
      (tensorKey (Word.wrap (k.output.count * j.element.byteWidth)))
    let id ← recordPass j k launch compiled operands uniform output
    return ⟨id, shape, j.element⟩

end ComputeKernels.Backend

import ComputeKernels.Backend.Session
import ComputeKernels.Proofs.Tensor.Holdings

/-!
# Moves of a backend

An operation is carried out in moves, each of which has at most one effect on the pool, on the memory
of the device, on the tensors or on the open encoder.  Between two moves the operation may hold
buffers that it has taken and that neither a tensor nor the batch owns yet.

A trail lists the moves of an operation with the moment before each of them, and a chronicle puts the
trails of a sequence of operations one after the other.

Main results:

- Theorem `Trail.append`: trails that meet form one trail.
- Theorem `Chronicle.records_run`: a pass is recorded only by the operation that runs its job.
-/

namespace ComputeKernels

/-! ## Harmless commands -/

/-- Whether a command leaves the buffers of a device and their contents alone. -/
def Device.Command.isHarmless : Device.Command → Bool
  | createLayout _ _ => true
  | compile _ => true
  | bind _ => true
  | map _ _ => true
  | unmap _ => true
  | _ => false

namespace Backend

open Tensor Buffer

/-! ## Moments and events -/

/-- A backend in the course of an operation. -/
structure Moment where
  backend : Backend
  /-- Buffers that the operation has taken and that have no owner yet, the last taken first. -/
  held : List Allocation := []

/-- Passes of the open encoder. -/
def Moment.openPasses (m : Moment) : List Device.Pass := m.backend.encoder.getD []

/-- What a move does. -/
inductive Event
  /-- Nothing that concerns a buffer. -/
  | other
  /-- The pool hands out a buffer. -/
  | handOut (x : Allocation)
  /-- The pool takes back a buffer. -/
  | takeBack (x : Allocation)
  /-- Bytes are written to a buffer. -/
  | fill (x : Allocation) (bytes : List UInt8)
  /-- A buffer is copied to another. -/
  | copy (source : BufferId) (target : Allocation)
  /-- A tensor gets the buffer to which its values were written. -/
  | upload (id : TensorId) (values : Values) (x : Allocation)
  /-- The pass of a job is recorded. -/
  | record (job : Job) (kernel : Kernel) (pass : Device.Pass)
  /-- The open encoder is submitted. -/
  | submit (passes : List Device.Pass)

/-- The buffer that an event hands out, takes back or writes to. -/
def Event.buffer? : Event → Option BufferId
  | handOut x => some x.buffer
  | takeBack x => some x.buffer
  | fill x _ => some x.buffer
  | copy _ x => some x.buffer
  | _ => none

/-! ## Moves -/

/-- A backend that differs from another in its caches, its counts and harmless commands alone. -/
structure Quiet (b b' : Backend) : Prop where
  memory : b'.device.memory = b.device.memory
  next : b'.device.next = b.device.next
  journal : ∃ commands, b'.device.journal = b.device.journal ++ commands ∧
    ∀ c ∈ commands, c.isHarmless = true
  maxDispatch : b'.maxDispatch = b.maxDispatch
  pool : b'.pool = b.pool
  tensors : b'.tensors = b.tensors
  batch : b'.batch = b.batch
  encoder : b'.encoder = b.encoder
  disposed : b'.disposed = b.disposed

/-- Notes of commands put them at the end of the journal. -/
theorem foldl_note (commands : List Device.Command) (d : Device) :
    commands.foldl Device.note d = { d with journal := d.journal ++ commands } := by
  induction commands generalizing d with
  | nil => rw [List.append_nil, List.foldl_nil]
  | cons c commands ih =>
    rw [List.foldl_cons, ih]
    simp [Device.note]

/-- Harmless commands are a quiet change. -/
theorem Quiet.of_commands {b b' : Backend} (commands : List Device.Command)
    (hcommands : ∀ c ∈ commands, c.isHarmless = true)
    (h : ∃ layouts pipelines metrics, b' = { b with
      device := commands.foldl Device.note b.device, layouts, pipelines, metrics }) :
    Quiet b b' := by
  rcases h with ⟨layouts, pipelines, metrics, rfl⟩
  rw [foldl_note]
  exact ⟨rfl, rfl, ⟨commands, rfl, hcommands⟩, rfl, rfl, rfl, rfl, rfl, rfl⟩

/-- The record that the run of a job adds for its output. -/
def outputRecord (j : Job) (k : Kernel) (out : Allocation) : Record where
  element := j.element
  shape := k.output.shape
  resource := some out

/-- The backend after the record of an output and the pass that computes it were added. -/
def recorded (r : Record) (pass : Device.Pass) (uniform : Allocation) (b : Backend) : Backend :=
  let actions : Action Bool := do
    discard <| Action.insert r
    encode pass
    Action.count .dispatch
    enter pass uniform
  (actions b).2

/-- Moves of an operation. -/
inductive Move (op : Operation) : Moment → Event → Moment → Prop
  | quiet {b b' : Backend} {held : List Allocation} (h : Quiet b b') :
      Move op ⟨b, held⟩ .other ⟨b', held⟩
  /-- A tensor is added that has no buffer. -/
  | add {b : Backend} {held : List Allocation} {r : Record} (hresource : r.resource = none)
      (hvalues : ∀ v, r.values = some v → v.count = r.count) :
      Move op ⟨b, held⟩ .other ⟨{ b with tensors := (b.tensors.insert r).2 }, held⟩
  /-- The values or the count of references of a tensor change. -/
  | amend {b : Backend} {held : List Allocation} {id : TensorId} {r r' : Record}
      (hget : b.tensors.get id = .ok r) (helement : r'.element = r.element)
      (hshape : r'.shape = r.shape) (hresource : r'.resource = r.resource)
      (hvalues : r.resource = none → r'.values = r.values) :
      Move op ⟨b, held⟩ .other ⟨{ b with tensors := b.tensors.put id r' }, held⟩
  /-- A tensor is removed that the open encoder does not refer to. -/
  | forget {b : Backend} {held : List Allocation} {id : TensorId} {r : Record}
      (hget : b.tensors.get id = .ok r) (huntouched : id ∉ b.batch.touched) :
      Move op ⟨b, held⟩ .other
        ⟨{ b with tensors := (b.tensors.remove id).2 }, r.resource.toList ++ held⟩
  /-- The removal of a tensor is put off. -/
  | defer {b : Backend} {held : List Allocation} (id : TensorId) :
      Move op ⟨b, held⟩ .other ⟨{ b with batch := b.batch.defer id }, held⟩
  /-- A submission ends. -/
  | finish {b : Backend} {held : List Allocation} :
      Move op ⟨b, held⟩ .other ⟨{ b with batch := b.batch.finishSubmit }, held⟩
  | handOut {b : Backend} {held : List Allocation} {key : PoolKey} {x : Allocation} {pool : Pool}
      {device : Device} (h : b.pool.acquire Device.allocator b.device key = (.ok x, pool, device)) :
      Move op ⟨b, held⟩ (.handOut x) ⟨{ b with pool, device }, x :: held⟩
  | takeBack {b : Backend} {held : List Allocation} {x : Allocation} {pool : Pool}
      (h : b.pool.release x = .ok pool) :
      Move op ⟨b, x :: held⟩ (.takeBack x) ⟨{ b with pool }, held⟩
  | fill {b : Backend} {held : List Allocation} {x : Allocation} (bytes : List UInt8)
      (hx : x ∈ held) :
      Move op ⟨b, held⟩ (.fill x bytes) ⟨{ b with device := b.device.write x.buffer bytes }, held⟩
  | copy {b : Backend} {held : List Allocation} (source : BufferId) {x : Allocation} (size : Nat)
      (hx : x ∈ held) :
      Move op ⟨b, held⟩ (.copy source x)
        ⟨{ b with device := b.device.copyOut source x.buffer size }, held⟩
  | upload {b : Backend} {held : List Allocation} {id : TensorId} {r : Record} {v : Values}
      {bytes : List UInt8} {x : Allocation} (hget : b.tensors.get id = .ok r)
      (hresource : r.resource = none) (hvalues : r.values = some v)
      (hbytes : v.deviceBytes = .ok bytes) (hkey : x.key = tensorKey bytes.length)
      (hcontents : bytes <+: b.device.memory.contents x.buffer) :
      Move op ⟨b, x :: held⟩ (.upload id v x)
        ⟨{ b with tensors := b.tensors.put id { r with resource := some x } }, held⟩
  | record {b : Backend} {held operands : List Allocation} {j : Job} {k : Kernel}
      {pass : Device.Pass} {out uniform : Allocation} (hop : op = .run j)
      (hkernel : j.kernel b.tensors = .ok k)
      (hlaunch : Launch.of k b.maxDispatch j.extra = .ok ⟨pass.grid, pass.uniforms⟩)
      (hinputs : pass.inputs = j.inputs) (houtput : pass.output = ⟨b.tensors.next⟩)
      (hoperands : pass.inputs.map b.tensors.resource? = operands.map some)
      (hbindings : pass.bindings = (out :: operands ++ [uniform]).map Allocation.buffer)
      (hkey : out.key = tensorKey (Word.wrap (4 * Shape.count k.output.shape)))
      (hcontents : pass.uniforms <+: b.device.memory.contents uniform.buffer) :
      Move op ⟨b, out :: uniform :: held⟩ (.record j k pass)
        ⟨recorded (outputRecord j k out) pass uniform b, held⟩
  | submit {b : Backend} {held : List Allocation} {passes : List Device.Pass}
      (h : b.encoder = some passes) :
      Move op ⟨b, held⟩ (.submit passes) ⟨(handOver passes b).2, b.batch.uniforms ++ held⟩

/-! ## Trails -/

/-- The moves of an operation between two moments, each with the moment before it. -/
inductive Trail (op : Operation) : Moment → List (Moment × Event) → Moment → Prop
  | nil (m : Moment) : Trail op m [] m
  | cons {m m' m'' : Moment} {e : Event} {t : List (Moment × Event)} (h : Move op m e m')
      (ht : Trail op m' t m'') : Trail op m ((m, e) :: t) m''

/-- Trails that meet form one trail. -/
theorem Trail.append {op : Operation} {m m' m'' : Moment} {t t' : List (Moment × Event)}
    (h : Trail op m t m') (h' : Trail op m' t' m'') : Trail op m (t ++ t') m'' := by
  induction h with
  | nil m => exact h'
  | cons hmove _ ih => exact .cons hmove (ih h')

/-- The trails of a sequence of operations.  No buffer is without an owner between operations. -/
inductive Chronicle : Backend → List Operation → List (Moment × Event) → Prop
  | nil (b : Backend) : Chronicle b [] []
  | cons {b : Backend} {op : Operation} {ops : List Operation} {t t' : List (Moment × Event)}
      (h : Trail op ⟨b, []⟩ t ⟨(b.step op).2, []⟩) (hrest : Chronicle (b.step op).2 ops t') :
      Chronicle b (op :: ops) (t ++ t')

variable {op : Operation} {m m' : Moment} {e : Event} {j : Job} {k : Kernel} {pass : Device.Pass}

/-- Only a run of a job records a pass of it. -/
theorem Trail.records_run {t : List (Moment × Event)} (h : Trail op m t m')
    {m₀ : Moment} (hmem : (m₀, .record j k pass) ∈ t) : op = .run j := by
  induction h with
  | nil m => cases hmem
  | cons hmove _ ih =>
    rcases List.mem_cons.mp hmem with heq | hrest
    · cases heq
      cases hmove with
      | record hop => exact hop
    · exact ih hrest

/-- A pass is recorded only by the operation that runs its job. -/
theorem Chronicle.records_run {b : Backend} {ops : List Operation} {t : List (Moment × Event)}
    (h : Chronicle b ops t) {m₀ : Moment} (hmem : (m₀, .record j k pass) ∈ t) :
    .run j ∈ ops := by
  induction h with
  | nil b => cases hmem
  | cons htrail _ ih =>
    rcases List.mem_append.mp hmem with hfirst | hrest
    · rw [htrail.records_run hfirst]
      exact List.mem_cons_self
    · exact List.mem_cons_of_mem _ (ih hrest)

end Backend

end ComputeKernels

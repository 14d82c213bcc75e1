import ComputeKernels.Proofs.Backend.Tensors
import ComputeKernels.Proofs.Dispatch.Capacity
import ComputeKernels.Proofs.Pipeline.Slots
import ComputeKernels.Proofs.Program.Acceptance

/-!
# Running programs in moves

Running a program takes buffers from the pool and fills them before it gives them to tensors and to
the batch.  Until its pass is recorded it leaves all tensors where they are, so that what it read of
them at first still holds when the pass refers to them.

Main results:

- Theorem `Grown.kernel_eq`: the kernel of a job is not changed by what happens before its pass.
- Theorem `leads_upload`: bringing a tensor to the device in moves.
- Theorem `leads_prepare`: what a job has before it records a pass.
- Theorem `recordPass_eq`: recording a pass step by step.
- Theorem `leads_recordPass`: recording a pass in moves.
- Theorem `run_eq`: what running a program comes to.
- Theorem `leads_run`: running a program in moves.
- Theorem `dispatch_of_launch`: the workgroups of a launch are those of the dispatch of its program.
-/

namespace ComputeKernels.Backend

open Tensor Buffer Device

variable {op : Operation} {kept held : List Allocation} {b b' b'' : Backend}

/-! ## Tensors that stay -/

/-- Tensors stay with their elements, shapes and buffers. -/
structure Grown (b b' : Backend) : Prop where
  maxDispatch : b'.maxDispatch = b.maxDispatch
  get : ∀ id r, b.tensors.get id = .ok r → ∃ r', b'.tensors.get id = .ok r' ∧
    r'.element = r.element ∧ r'.shape = r.shape ∧ ∀ x, r.resource = some x → r'.resource = some x

namespace Grown

private theorem of_eq (hmaxDispatch : b'.maxDispatch = b.maxDispatch)
    (htensors : b'.tensors = b.tensors) :
    Grown b b' where
  maxDispatch := hmaxDispatch
  get := by
    intro id r hget
    rw [htensors]
    exact ⟨r, hget, rfl, rfl, fun _ hx => hx⟩

/-- Tensors that stay do so step by step. -/
theorem trans (h : Grown b b') (h' : Grown b' b'') : Grown b b'' where
  maxDispatch := h'.maxDispatch.trans h.maxDispatch
  get := by
    intro id r hget
    rcases h.get id r hget with ⟨r', hget', helement, hshape, hresource⟩
    rcases h'.get id r' hget' with ⟨r'', hget'', helement', hshape', hresource'⟩
    exact ⟨r'', hget'', helement'.trans helement, hshape'.trans hshape,
      fun x hx => hresource' x (hresource x hx)⟩

private theorem put {id : TensorId} {r r' : Record} (hget : b.tensors.get id = .ok r)
    (helement : r'.element = r.element) (hshape : r'.shape = r.shape)
    (hresource : ∀ x, r.resource = some x → r'.resource = some x) :
    Grown b { b with tensors := b.tensors.put id r' } where
  maxDispatch := rfl
  get := by
    intro id' found hfound
    change ∃ r'', (b.tensors.put id r').get id' = .ok r'' ∧ _
    rw [Registry.get_put]
    split
    · next hsame =>
      rw [hsame, hget] at hfound
      obtain rfl := Except.ok.inj hfound
      exact ⟨r', rfl, helement, hshape, hresource⟩
    · exact ⟨found, hfound, rfl, rfl, fun _ hx => hx⟩

private theorem resource?_eq_some (h : Grown b b') {id : TensorId} {x : Allocation}
    (hx : b.tensors.resource? id = some x) : b'.tensors.resource? id = some x := by
  rcases Registry.resource?_eq_some_iff.mp hx with ⟨r, hget, hresource⟩
  rcases h.get id r hget with ⟨r', hget', -, -, hkept⟩
  exact Registry.resource?_eq_some_iff.mpr ⟨r', hget', hkept x hresource⟩

/-- Buffers that several tensors hold stay with them. -/
theorem map_resource?_eq (h : Grown b b') {ids : List TensorId} {xs : List Allocation}
    (hxs : ids.map b.tensors.resource? = xs.map some) :
    ids.map b'.tensors.resource? = xs.map some :=
  Registry.map_resource?_eq_of_kept hxs fun _ _ _ hx => h.resource?_eq_some hx

/-- The kernel of a job stays the same. -/
theorem kernel_eq (h : Grown b b') {j : Job} {k : Kernel} (hk : j.kernel b.tensors = .ok k) :
    j.kernel b'.tensors = .ok k := by
  rcases Except.bind_eq_ok_iff.mp hk with ⟨inputs, hinputs, hrest⟩
  refine Except.bind_eq_ok_iff.mpr ⟨inputs, ?_, hrest⟩
  refine Except.mapM_eq_ok_iff.mpr ((Except.mapM_eq_ok_iff.mp hinputs).imp fun named o ho => ?_)
  rcases Except.bind_eq_ok_iff.mp ho with ⟨r, hget, hoperand⟩
  rcases h.get named.1 r hget with ⟨r', hget', helement, hshape, -⟩
  refine Except.bind_eq_ok_iff.mpr ⟨r', hget', ?_⟩
  rw [← hoperand, helement, hshape]

end Grown

/-- Quiet steps leave all tensors where they are. -/
theorem Quiet.grown (h : Quiet b b') : Grown b b' := .of_eq h.maxDispatch h.tensors

/-! ## Buffers from the pool -/

/-- A storage buffer holds the bytes that it was asked for. -/
theorem le_storageSize (byteCount : Nat) : byteCount ≤ storageSize byteCount :=
  Nat.le_trans (Nat.le_max_left _ 4) (Nat.le_add_right _ _)

/-- So does a uniform buffer. -/
theorem le_uniformSize (byteCount : Nat) : byteCount ≤ uniformSize byteCount :=
  Nat.le_trans (Nat.le_max_left _ 16) (Nat.le_add_right _ _)

/-- Bytes that fit a buffer that the operation holds stand at its start after they are written. -/
theorem Sound.isPrefix_contents_write (hm : Sound ⟨b, held⟩) {x : Allocation} (hx : x ∈ held)
    {bytes : List UInt8} (hfit : bytes.length ≤ x.key.size) :
    bytes <+: (b.device.write x.buffer bytes).memory.contents x.buffer :=
  Memory.isPrefix_contents_write
    (hm.stocked.cells x (hm.mem_all (List.mem_append_right _ hx))) hfit

/-! ## Compilation -/

/-- Making a layout is quiet. -/
theorem leads_prepareLayout (operands : Nat) :
    Leads op held ⟨b, held⟩ (prepareLayout operands b) fun _ m' =>
      m'.held = held ∧ Quiet b m'.backend := by
  refine .of_quiet ?_ (failsOrdinarily_ok ())
  simp only [Pipeline.getOrInsert]
  split
  · exact .of_commands [] (List.forall_mem_nil _) ⟨_, _, _, rfl⟩
  · exact .of_commands [.createLayout operands (Pipeline.layoutEntries operands)]
      (by simp [Command.isHarmless]) ⟨_, _, _, rfl⟩

/-- Compiling fails in ordinary ways, and notes only harmless commands. -/
theorem compileOn_eq (k : Kernel) (label : String) (objection : Option String) (d : Device) :
    FailsOrdinarily (compileOn k label objection d).1 ∧
      ∃ commands : List Command, (∀ c ∈ commands, c.isHarmless = true) ∧
        (compileOn k label objection d).2 = commands.foldl Device.note d := by
  unfold compileOn
  split
  · next source hsource =>
    unfold Device.compile
    cases objection with
    | none =>
      exact ⟨failsOrdinarily_ok _, [.compile ⟨label, source⟩], by simp [Command.isHarmless], rfl⟩
    | some reason =>
      exact ⟨failsOrdinarily_error rfl, [.compile ⟨label, source⟩], by simp [Command.isHarmless],
        rfl⟩
  · next e hsource =>
    have hordinary := failsOrdinarily_sourceOf k e hsource
    exact ⟨failsOrdinarily_error hordinary, [], List.forall_mem_nil _, rfl⟩

/-- Compiling a kernel is quiet. -/
theorem leads_pipeline (k : Kernel) (objection : Option String) :
    Leads op held ⟨b, held⟩ (pipeline k objection b) fun _ m' =>
      m'.held = held ∧ Quiet b m'.backend := by
  obtain ⟨hordinary, commands, hcommands, hdevice⟩ :=
    compileOn_eq k (Pipeline.Key.of k).text objection b.device
  cases hfound : b.pipelines.table.get? (Pipeline.Key.of k) with
  | some compiled =>
    simp only [pipeline, Pipeline.Cache.getOrCreate, hfound]
    exact .of_quiet (.of_commands [] (List.forall_mem_nil _) ⟨_, _, _, rfl⟩)
      (failsOrdinarily_ok _)
  | none =>
    cases hcompiled : compileOn k (Pipeline.Key.of k).text objection b.device with
    | mk result d =>
      rw [hcompiled] at hordinary hdevice
      obtain rfl : d = commands.foldl Device.note b.device := hdevice
      cases result with
      | ok compiled =>
        simp only [pipeline, Pipeline.Cache.getOrCreate, hfound, hcompiled]
        exact .of_quiet (.of_commands commands hcommands ⟨_, _, _, rfl⟩)
          (failsOrdinarily_ok _)
      | error e =>
        simp only [pipeline, Pipeline.Cache.getOrCreate, hfound, hcompiled]
        exact .of_quiet (.of_commands commands hcommands ⟨_, _, _, rfl⟩)
          (failsOrdinarily_error (hordinary e rfl))

/-! ## Operands -/

/-- The last steps of an upload: the tensor gets the buffer that holds its values. -/
theorem leads_attach {id : TensorId} {r : Record} {v : Values} {bytes : List UInt8} {x : Allocation}
    (hgrown : Grown b' b) (hget : b.tensors.get id = .ok r) (hresource : r.resource = none)
    (hvalues : r.values = some v)
    (hbytes : v.deviceBytes = .ok bytes) (hkey : x.key = tensorKey bytes.length)
    (hcontents : bytes <+: b.device.memory.contents x.buffer) :
    Leads op kept ⟨b, x :: held⟩
      ((do
        Action.count (.upload bytes.length)
        Action.modify id ({ · with resource := some x })
        return x : Action Allocation) b)
      fun y m' => m'.held = held ∧ Grown b' m'.backend ∧
        m'.backend.tensors.resource? id = some y := by
  apply Leads.bind_count
  intro b'' hquiet
  have hget' : b''.tensors.get id = .ok r := by rw [hquiet.tensors, hget]
  have hmove : Move op ⟨b'', x :: held⟩ (.upload id v x)
      ⟨{ b'' with tensors := b''.tensors.put id { r with resource := some x } }, held⟩ :=
    .upload hget' hresource hvalues hbytes hkey (by rw [hquiet.memory]; exact hcontents)
  refine .bind_move (Action.modify_apply hget') hmove (.pure (m := ⟨_, held⟩) ⟨rfl, ?_, ?_⟩)
  · refine hgrown.trans (hquiet.grown.trans (.put hget' rfl rfl fun y hy => ?_))
    rw [hresource] at hy
    cases hy
  · change (b''.tensors.put id { r with resource := some x }).resource? id = some x
    rw [Registry.resource?_put, if_pos rfl]

/-- Bringing a tensor to the device. -/
theorem leads_upload (hm : Sound ⟨b, held⟩) (id : TensorId) :
    Leads op held ⟨b, held⟩ (upload id b) fun x m' =>
      m'.held = held ∧ Grown b m'.backend ∧ m'.backend.tensors.resource? id = some x := by
  unfold upload
  apply Leads.bind_record rfl
  intro r hget
  cases hresource : r.resource with
  | some x =>
    refine .pure (m := ⟨b, held⟩) ⟨rfl, .of_eq rfl rfl, ?_⟩
    exact Registry.resource?_eq_some_iff.mpr ⟨r, hget, hresource⟩
  | none =>
    cases hvalues : r.values with
    | none => exact .fail (m := ⟨b, held⟩) rfl rfl
    | some v =>
      apply Leads.bind_of (failsOrdinarily_deviceBytes v) rfl
      intro bytes hbytes
      apply Leads.bind_acquire rfl
      intro x pool device hacquire
      have hkey : x.key = tensorKey bytes.length := (Pool.acquire_eq_ok hacquire).2.1
      have htaken : Sound ⟨{ b with pool, device }, x :: held⟩ := hm.handOut hacquire
      by_cases hempty : bytes.isEmpty = true
      · simp only [hempty, Bool.not_true, Bool.false_eq_true, if_false]
        refine leads_attach (.of_eq rfl rfl) hget hresource hvalues hbytes hkey ?_
        rw [List.isEmpty_iff.mp hempty]
        exact List.nil_prefix
      · simp only [hempty, Bool.not_false, if_true]
        have hx : x ∈ x :: held := List.mem_cons_self
        have hfit : bytes.length ≤ x.key.size := by
          rw [hkey]
          exact le_storageSize _
        refine .bind_move rfl (.fill bytes hx) ?_
        exact leads_attach (.of_eq rfl rfl) hget hresource hvalues hbytes hkey
          (htaken.isPrefix_contents_write hx hfit)

/-- Bringing several tensors to the device. -/
theorem leads_uploadEach (hm : Sound ⟨b, held⟩) (ids : List TensorId) :
    Leads op held ⟨b, held⟩ (ids.mapM upload b) fun xs m' =>
      m'.held = held ∧ Grown b m'.backend ∧
        ids.map m'.backend.tensors.resource? = xs.map some := by
  induction ids generalizing b with
  | nil => exact .pure (m := ⟨b, held⟩) ⟨rfl, .of_eq rfl rfl, rfl⟩
  | cons id rest ih =>
    rw [List.mapM_cons]
    apply Leads.bind hm (leads_upload hm id)
    rintro x b' _ hm' ⟨rfl, hgrown, hx⟩
    apply Leads.bind hm' (ih hm')
    rintro xs b'' _ hm'' ⟨rfl, hgrown', hxs⟩
    refine .pure (m := ⟨b'', _⟩) ⟨rfl, hgrown.trans hgrown', ?_⟩
    rw [List.map_cons, List.map_cons, hxs, hgrown'.resource?_eq_some hx]

/-! ## The uniform block and the output -/

/-- Both buffers of a pass are taken if the pool grants them. -/
theorem acquireBoth_of_ok {uniformKey outputKey : PoolKey} {uniform output : Allocation}
    {pool : Pool} {device : Device}
    (h : b.pool.acquireAll Device.allocator b.device [uniformKey, outputKey] =
      (.ok [uniform, output], pool, device)) :
    acquireBoth uniformKey outputKey b = (.ok (uniform, output), { b with pool, device }) := by
  unfold acquireBoth
  split
  · next hacquired =>
    rw [h] at hacquired
    cases hacquired
    rfl
  · next hrefused =>
    rw [h] at hrefused
    cases hrefused

/-- Neither buffer of a pass is taken if the pool refuses them. -/
theorem acquireBoth_of_error {uniformKey outputKey : PoolKey} {e : KernelError}
    {pool : Pool} {device : Device}
    (h : b.pool.acquireAll Device.allocator b.device [uniformKey, outputKey] =
      (.error e, pool, device)) :
    acquireBoth uniformKey outputKey b = (.error e, { b with pool, device }) := by
  unfold acquireBoth
  split
  · next hacquired =>
    rw [h] at hacquired
    cases hacquired
  · next hrefused =>
    rw [h] at hrefused
    cases hrefused
    rfl

/-- If there is no room for the output, the buffer of the uniform block goes back. -/
theorem leads_acquireBoth (hm : Sound ⟨b, held⟩) (uniformKey outputKey : PoolKey) :
    Leads op held ⟨b, held⟩ (acquireBoth uniformKey outputKey b) fun xs m' =>
      m'.held = xs.2 :: xs.1 :: held ∧ Grown b m'.backend ∧
        xs.1.key = uniformKey ∧ xs.2.key = outputKey := by
  obtain ⟨r, pool, device, hfirst⟩ : ∃ r pool device,
      b.pool.acquire Device.allocator b.device uniformKey = (r, pool, device) := ⟨_, _, _, rfl⟩
  cases r with
  | error e =>
    have hall : b.pool.acquireAll Device.allocator b.device [uniformKey, outputKey] =
        (.error e, pool, device) := by
      simp only [Pool.acquireAll, Pool.acquireAfter, hfirst, Pool.releaseAll]
    rw [acquireBoth_of_error hall]
    rcases acquire_refused hfirst with ⟨hordinary, rfl, rfl⟩
    exact .fail (m := ⟨b, held⟩) hordinary rfl
  | ok uniform =>
    have hmove : Move op ⟨b, held⟩ (.handOut uniform) ⟨{ b with pool, device }, uniform :: held⟩ :=
      .handOut hfirst
    apply Leads.after_move hmove
    have htaken := hmove.sound hm
    obtain ⟨r, pool', device', hsecond⟩ : ∃ r pool' device',
        pool.acquire Device.allocator device outputKey = (r, pool', device') := ⟨_, _, _, rfl⟩
    cases r with
    | error e =>
      rcases htaken.exists_release with ⟨pool'', hrelease⟩
      rcases acquire_refused hsecond with ⟨hordinary, rfl, rfl⟩
      have hall : b.pool.acquireAll Device.allocator b.device [uniformKey, outputKey] =
          (.error e, pool'', device') := by
        simp only [Pool.acquireAll, Pool.acquireAfter, hfirst, hsecond, List.nil_append,
          Pool.releaseAll, hrelease]
      rw [acquireBoth_of_error hall]
      exact .after_move (.takeBack hrelease)
        (.fail (m := ⟨{ b with pool := pool'', device := device' }, held⟩) hordinary rfl)
    | ok output =>
      have hall : b.pool.acquireAll Device.allocator b.device [uniformKey, outputKey] =
          (.ok [uniform, output], pool', device') := by
        simp only [Pool.acquireAll, Pool.acquireAfter, hfirst, hsecond, List.nil_append,
          List.cons_append]
      rw [acquireBoth_of_ok hall]
      refine .of_move (.handOut hsecond) ⟨rfl, .of_eq rfl rfl, ?_, ?_⟩
      · exact (Pool.acquire_eq_ok hfirst).2.1
      · exact (Pool.acquire_eq_ok hsecond).2.1

/-! ## Passes -/

/-! ## Getting ready -/

/-- The pipeline and the buffers that a run gets before it makes a group. -/
structure Takings where
  compiled : Pipeline.Compiled
  operands : List Allocation
  uniform : Allocation
  output : Allocation

/-- What a job does from its launch until it makes a group. -/
def Job.prepare (j : Job) (k : Kernel) (launch : Launch) : Action Takings := do
  prepareLayout k.inputs.length
  let compiled ← pipeline k j.objection
  let operands ← j.inputs.mapM upload
  let (uniform, output) ← acquireBoth
    ⟨Buffer.uniformSize launch.uniforms.length, uniformUsage⟩
    (tensorKey (Word.wrap (k.output.count * j.element.byteWidth)))
  return ⟨compiled, operands, uniform, output⟩

/-- What a job does from its launch on. -/
def Job.carryOut (j : Job) (k : Kernel) (launch : Launch) : Action Handle := do
  prepareLayout k.inputs.length
  let compiled ← pipeline k j.objection
  let operands ← j.inputs.mapM upload
  let (uniform, output) ← acquireBoth
    ⟨Buffer.uniformSize launch.uniforms.length, uniformUsage⟩
    (tensorKey (Word.wrap (k.output.count * j.element.byteWidth)))
  let id ← recordPass j k launch compiled operands uniform output
  return ⟨id, k.output.shape, j.element⟩

/-- A job is carried out by getting ready and then recording its pass. -/
theorem carryOut_eq (j : Job) (k : Kernel) (launch : Launch) :
    j.carryOut k launch = do
      let t ← j.prepare k launch
      let id ← recordPass j k launch t.compiled t.operands t.uniform t.output
      return ⟨id, k.output.shape, j.element⟩ := by
  simp only [Job.carryOut, Job.prepare, bind_assoc, pure_bind]

/-- Getting ready leaves all tensors where they are, gives the operands buffers, and holds those of the
uniform block and the output. -/
theorem leads_prepare {held : List Allocation} (hm : Sound ⟨b, held⟩) (j : Job) (k : Kernel)
    (launch : Launch) :
    Leads (.run j) held ⟨b, held⟩ (j.prepare k launch b) fun t m' =>
      m'.held = t.output :: t.uniform :: held ∧ Grown b m'.backend ∧
        j.inputs.map m'.backend.tensors.resource? = t.operands.map some ∧
        t.uniform.key = ⟨uniformSize launch.uniforms.length, uniformUsage⟩ ∧
        t.output.key = tensorKey (Word.wrap (k.output.count * j.element.byteWidth)) := by
  unfold Job.prepare
  apply Leads.bind hm (leads_prepareLayout _)
  rintro - b₁ _ hm₁ ⟨rfl, hlayout⟩
  apply Leads.bind hm₁ (leads_pipeline k _)
  rintro compiled b₂ _ hm₂ ⟨rfl, hcompiled⟩
  apply Leads.bind hm₂ (leads_uploadEach hm₂ _)
  rintro operands b₃ _ hm₃ ⟨rfl, huploaded, hoperands⟩
  apply Leads.bind hm₃ (leads_acquireBoth hm₃ _ _)
  rintro ⟨uniform, output⟩ b₄ _ hm₄ ⟨rfl, hacquired, huniform, houtput⟩
  have hgrown : Grown b b₄ :=
    hlayout.grown.trans (hcompiled.grown.trans (huploaded.trans hacquired))
  exact .pure (m := ⟨b₄, _⟩)
    ⟨rfl, hgrown, hacquired.map_resource?_eq hoperands, huniform, houtput⟩

/-! ## Recording a pass -/

/-- The pass of a job, apart from the buffers that it binds. -/
def Job.pass (j : Job) (launch : Launch) (compiled : Pipeline.Compiled) (bindings : List BufferId)
    (output : TensorId) : Pass where
  label := j.program.label
  pipeline := compiled
  grid := launch.grid
  bindings := bindings
  inputs := j.inputs
  output := output
  uniforms := launch.uniforms
  stores := j.stores

/-- Beginning a pass puts the batch into recording. -/
theorem beginPass_eq (batch : Submission.Batch Allocation) :
    batch.beginPass.2 = { batch with stage := .recording } := by
  unfold Submission.Batch.beginPass
  split
  · next hstage => rw [← hstage]
  · rfl
  · rfl

/-- The backend before the pass of a launch is recorded: the uniform block is written and bound. -/
def bound (launch : Launch) (bindings : List BufferId) (uniform : Allocation) (b : Backend) :
    Backend :=
  { b with device := (b.device.write uniform.buffer launch.uniforms).note (.bind bindings) }

/-- Recording a pass adds it to the encoder and then submits the encoder if it is full. -/
theorem recordPass_eq (j : Job) (k : Kernel) (launch : Launch) (compiled : Pipeline.Compiled)
    (operands : List Allocation) (uniform output : Allocation) (b : Backend) :
    let bindings := Pipeline.bySlot (groupOf k operands uniform output)
    let pass := j.pass launch compiled bindings ⟨b.tensors.next⟩
    recordPass j k launch compiled operands uniform output b =
      (do
        if b.batch.capacity ≤ b.batch.passes + 1 then submit
        return pass.output : Action TensorId)
        (recorded (outputRecord j k output) pass uniform (bound launch bindings uniform b)) := by
  intro bindings pass
  let b₁ := bound launch bindings uniform b
  let b₂ := (Action.insert (outputRecord j k output) b₁).2
  let b₃ := (encode pass b₂).2
  let b₄ := (Action.count .dispatch b₃).2
  have hwrite : Action.command (·.write uniform.buffer launch.uniforms) b =
    (.ok (), { b with device := b.device.write uniform.buffer launch.uniforms }) := rfl
  have hbind : Action.command (·.note (.bind bindings))
    { b with device := b.device.write uniform.buffer launch.uniforms } = (.ok (), b₁) := rfl
  have hinsert : Action.insert (outputRecord j k output) b₁ = (.ok pass.output, b₂) := rfl
  have hencode : encode pass b₂ = (.ok (), b₃) := rfl
  have hcount : Action.count .dispatch b₃ = (.ok (), b₄) := rfl
  have henter : enter pass uniform b₄ =
    (.ok (decide (b.batch.beginPass.2.capacity ≤ b.batch.beginPass.2.passes + 1)),
      recorded (outputRecord j k output) pass uniform b₁) := rfl
  unfold recordPass
  refine (Action.bind_apply_ok hwrite).trans ?_
  refine (Action.bind_apply_ok hbind).trans ?_
  refine (Action.bind_apply_ok hinsert).trans ?_
  refine (Action.bind_apply_ok hencode).trans ?_
  refine (Action.bind_apply_ok hcount).trans ?_
  refine (Action.bind_apply_ok henter).trans ?_
  simp only [decide_eq_true_eq, beginPass_eq]
  rfl

/-- A kernel has an operand for every input of its job. -/
theorem Job.length_inputs_of_kernel {j : Job} {tensors : Registry} {k : Kernel}
    (h : j.kernel tensors = .ok k) : k.inputs.length = j.inputs.length := by
  rcases Except.bind_eq_ok_iff.mp h with ⟨inputs, -, hrest⟩
  rcases Except.check_bind_eq_ok_iff.mp hrest with ⟨hlength, hrest⟩
  rcases Except.check_bind_eq_ok_iff.mp hrest with ⟨-, hk⟩
  obtain rfl := Except.ok.inj hk
  simpa using hlength

section RecordPass

variable {j : Job} {k : Kernel} {launch : Launch} {operands : List Allocation}
  {uniform output : Allocation}

/-- Binding a group and recording the pass of a launch in moves. -/
theorem trail_recorded (hm : Sound ⟨b, output :: uniform :: held⟩)
    (hkernel : j.kernel b.tensors = .ok k)
    (hlaunch : Launch.of k b.maxDispatch j.extra = .ok launch)
    (hoperands : j.inputs.map b.tensors.resource? = operands.map some)
    (huniform : uniform.key = ⟨uniformSize launch.uniforms.length, uniformUsage⟩)
    (houtput : output.key = tensorKey (Word.wrap (4 * Shape.count k.output.shape)))
    (compiled : Pipeline.Compiled) :
    let bindings := Pipeline.bySlot (groupOf k operands uniform output)
    ∃ t, Trail (.run j) ⟨b, output :: uniform :: held⟩ t
      ⟨recorded (outputRecord j k output) (j.pass launch compiled bindings ⟨b.tensors.next⟩) uniform
        (bound launch bindings uniform b), held⟩ := by
  intro bindings
  have hmem : uniform ∈ output :: uniform :: held := by simp
  have hfit : launch.uniforms.length ≤ uniform.key.size := by
    rw [huniform]
    exact le_uniformSize _
  have hcount : operands.length = k.inputs.length := by
    rw [Job.length_inputs_of_kernel hkernel]
    simpa using (congrArg List.length hoperands).symm
  have hfill : Move (.run j) ⟨b, output :: uniform :: held⟩ (.fill uniform launch.uniforms)
      ⟨{ b with device := b.device.write uniform.buffer launch.uniforms },
        output :: uniform :: held⟩ := .fill _ hmem
  have hbind : Move (.run j)
      ⟨{ b with device := b.device.write uniform.buffer launch.uniforms },
        output :: uniform :: held⟩ .other
      ⟨bound launch bindings uniform b, output :: uniform :: held⟩ :=
    .quiet (.of_commands [.bind bindings] (by simp [Command.isHarmless]) ⟨_, _, _, rfl⟩)
  let pass := j.pass launch compiled bindings ⟨b.tensors.next⟩
  have hrecord : Move (.run j) ⟨bound launch bindings uniform b, output :: uniform :: held⟩
      (.record j k pass)
      ⟨recorded (outputRecord j k output) pass uniform (bound launch bindings uniform b), held⟩ :=
    .record rfl hkernel hlaunch rfl rfl hoperands (bySlot_groupOf hcount uniform output) houtput
      (hm.isPrefix_contents_write hmem hfit)
  exact ⟨_, .cons hfill (.cons hbind (.cons hrecord (.nil _)))⟩

/-- Recording a pass, and submitting it with the others if the batch is full. -/
theorem leads_recordPass (hm : Sound ⟨b, output :: uniform :: held⟩)
    (hkernel : j.kernel b.tensors = .ok k)
    (hlaunch : Launch.of k b.maxDispatch j.extra = .ok launch)
    (hoperands : j.inputs.map b.tensors.resource? = operands.map some)
    (huniform : uniform.key = ⟨uniformSize launch.uniforms.length, uniformUsage⟩)
    (houtput : output.key = tensorKey (Word.wrap (4 * Shape.count k.output.shape)))
    (compiled : Pipeline.Compiled) :
    Leads (.run j) held ⟨b, output :: uniform :: held⟩
      (recordPass j k launch compiled operands uniform output b) fun _ m' => m'.held = held := by
  rcases trail_recorded hm hkernel hlaunch hoperands huniform houtput compiled with ⟨t, htrail⟩
  have hdone := htrail.sound hm
  rw [recordPass_eq]
  apply Leads.after_trail htrail
  split
  · apply Leads.bind hdone (leads_submit hdone)
    rintro - b'' _ hm'' ⟨rfl, -⟩
    exact .pure (m := ⟨b'', _⟩) rfl
  · exact .pure (m := ⟨_, held⟩) rfl

end RecordPass

/-! ## Jobs -/

/-- A valid kernel stores its output in words. -/
theorem Job.byteWidth_of_kernel {j : Job} {tensors : Registry} {k : Kernel}
    (h : j.kernel tensors = .ok k) : j.element.byteWidth = 4 := by
  rcases Except.bind_eq_ok_iff.mp h with ⟨inputs, -, hrest⟩
  rcases Except.check_bind_eq_ok_iff.mp hrest with ⟨-, hrest⟩
  rcases Except.check_bind_eq_ok_iff.mp hrest with ⟨hvalid, hk⟩
  have hstored := (Kernel.validate_eq_ok_iff.mp hvalid).stored
  cases helement : j.element with
  | complex64 => simp [helement, ElementType.storage?] at hstored
  | float32 => rfl
  | int32 => rfl
  | bool => rfl

/-- The key of the output of a valid kernel, from its shape alone. -/
theorem Job.outputKey_of_kernel {j : Job} {tensors : Registry} {k : Kernel}
    (h : j.kernel tensors = .ok k) :
    tensorKey (Word.wrap (k.output.count * j.element.byteWidth)) =
      tensorKey (Word.wrap (4 * Shape.count k.output.shape)) := by
  rw [Job.byteWidth_of_kernel h, Nat.mul_comm]
  rfl

/-- The operands of a valid kernel are live tensors that are stored in words. -/
theorem Job.exists_stored_of_kernel {j : Job} {tensors : Registry} {k : Kernel}
    (h : j.kernel tensors = .ok k) {id : TensorId} (hid : id ∈ j.inputs) :
    ∃ r, tensors.get id = .ok r ∧ r.element.storage?.isSome = true := by
  rcases Except.bind_eq_ok_iff.mp h with ⟨inputs, hoperands, hrest⟩
  rcases Except.check_bind_eq_ok_iff.mp hrest with ⟨hlength, hrest⟩
  rcases Except.check_bind_eq_ok_iff.mp hrest with ⟨hvalid, -⟩
  have hall := Except.mapM_eq_ok_iff.mp hoperands
  have hcount : inputs.length = j.inputs.length := by simpa using hlength
  rcases List.getElem_of_mem hid with ⟨i, hi, rfl⟩
  have hinput : i < inputs.length := by
    rw [hcount]
    exact hi
  have hzip : i < (j.inputs.zip j.program.operandNames).length := by
    rw [hall.length_eq]
    exact hinput
  rcases Except.bind_eq_ok_iff.mp (hall.get hzip hinput) with ⟨r, hget, hr⟩
  simp only [List.get_eq_getElem, List.getElem_zip] at hget hr
  have helement : inputs[i].element = r.element :=
    (congrArg Operand.element (Except.ok.inj hr)).symm
  have hstored := ((Kernel.validate_eq_ok_iff.mp hvalid).inputs _ (List.getElem_mem hinput)).stored
  rw [helement] at hstored
  exact ⟨r, hget, hstored⟩

/-- What running a program comes to on a live backend: the job is refused at once, its output is made
without a pass, or it is carried out. -/
theorem run_eq (hlive : b.disposed = false) (j : Job) :
    run j b =
      match j.kernel b.tensors with
      | .error e => (.error e, b)
      | .ok k =>
        if k.output.count = 0 then make k.output.shape j.element (some (.none j.element)) b
        else
          match Launch.of k b.maxDispatch j.extra with
          | .error e => (.error e, b)
          | .ok launch => j.carryOut k launch b := by
  have hfirst : Action.live b = (.ok (), b) := Action.live_apply hlive
  have htensors : Action.look Backend.tensors b = (.ok b.tensors, b) := rfl
  unfold run
  rw [Action.bind_apply_ok hfirst, Action.bind_apply_ok htensors]
  cases j.kernel b.tensors with
  | error e => rfl
  | ok k =>
    refine (Action.bind_apply_ok (a := k) rfl).trans ?_
    by_cases hcount : k.output.count = 0
    · simp only [hcount, if_true]
    · simp only [hcount, if_false]
      refine (Action.bind_apply_ok (a := b.maxDispatch) rfl).trans ?_
      cases Launch.of k b.maxDispatch j.extra with
      | error e => rfl
      | ok launch => exact Action.bind_apply_ok (a := launch) rfl

private theorem leads_carryOut {k : Kernel} {launch : Launch} (hm : Sound ⟨b, held⟩) (j : Job)
    (hkernel : j.kernel b.tensors = .ok k) (hlaunch : Launch.of k b.maxDispatch j.extra = .ok launch) :
    Leads (.run j) held ⟨b, held⟩ (j.carryOut k launch b) fun _ m' => m'.held = held := by
  rw [carryOut_eq]
  apply Leads.bind hm (leads_prepare hm j k launch)
  rintro t mid _ hmid ⟨rfl, hgrown, hoperands, huniform, houtput⟩
  refine .bind hmid (leads_recordPass hmid (hgrown.kernel_eq hkernel) ?_ hoperands huniform ?_
    t.compiled) ?_
  · rw [hgrown.maxDispatch]
    exact hlaunch
  · exact houtput.trans (Job.outputKey_of_kernel hkernel)
  · rintro id b' _ hm' rfl
    exact .pure (m := ⟨b', _⟩) rfl

/-- Running a program. -/
theorem leads_run (hm : Sound ⟨b, held⟩) (j : Job) :
    Leads (.run j) held ⟨b, held⟩ (run j b) fun _ m' => m'.held = held := by
  rw [run_eq hm.stocked.live]
  cases hkernel : j.kernel b.tensors with
  | error e => exact .fail (m := ⟨b, held⟩) (failsOrdinarily_kernel j _ e hkernel) rfl
  | ok k =>
    dsimp only
    split
    · exact leads_make hm _ _ _
    · cases hlaunch : Launch.of k b.maxDispatch j.extra with
      | error e => exact .fail (m := ⟨b, held⟩) (failsOrdinarily_launch k _ _ e hlaunch) rfl
      | ok launch => exact leads_carryOut hm j hkernel hlaunch

/-- A launch from the workgroups, the contents of the fields and the block that these are packed
into. -/
theorem launch_eq_ok {k : Kernel} {limit : Nat} {extra : List Uniform.Field} {launch : Launch}
    {contents : List Uniform.Content} (hdispatch : k.program.dispatch limit Word.wrap = .ok launch.grid)
    (hcontents : k.program.uniformContents k.inputs k.output.shape launch.grid extra = .ok contents)
    (hpack : Uniform.pack (contents.map Uniform.Content.field) = .ok launch.uniforms) :
    Launch.of k limit extra = .ok launch := by
  have hfields : k.program.uniformFields k.inputs k.output.shape launch.grid extra =
      .ok (contents.map Uniform.Content.field) :=
    Except.bind_eq_ok_iff.mpr ⟨contents, hcontents, rfl⟩
  refine Except.bind_eq_ok_iff.mpr ⟨_, hdispatch, Except.bind_eq_ok_iff.mpr ⟨_, hfields, ?_⟩⟩
  exact Except.bind_eq_ok_iff.mpr ⟨_, hpack, rfl⟩

/-- Where the extents of a program fit 64 bits its launch has the workgroups of its dispatch. -/
theorem dispatch_of_launch {k : Kernel} {limit : Nat} {extra : List Uniform.Field} {launch : Launch}
    (h : Launch.of k limit extra = .ok launch)
    (hextents : k.program.extents.fits (2 ^ 64 - 1) = true) :
    k.program.dispatch limit = .ok launch.grid := by
  rcases Except.bind_eq_ok_iff.mp h with ⟨grid, hdispatch, hrest⟩
  rcases Except.bind_eq_ok_iff.mp hrest with ⟨fields, -, hrest⟩
  rcases Except.bind_eq_ok_iff.mp hrest with ⟨block, -, hlaunch⟩
  obtain rfl := Except.ok.inj hlaunch
  rwa [Program.dispatch_wrap hextents] at hdispatch

/-- A live backend carries a job out if its kernel is valid, its output is not empty and its launch
fits. -/
theorem run_eq_carryOut {j : Job} {k : Kernel} {launch : Launch} (hlive : b.disposed = false)
    (hkernel : j.kernel b.tensors = .ok k) (hsize : k.output.count ≠ 0)
    (hlaunch : Launch.of k b.maxDispatch j.extra = .ok launch) :
    run j b = j.carryOut k launch b := by
  simp only [run_eq hlive, hkernel, hlaunch, hsize, if_false]

end ComputeKernels.Backend

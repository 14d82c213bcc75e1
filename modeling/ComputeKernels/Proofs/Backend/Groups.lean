import ComputeKernels.Proofs.Backend.Batching
import ComputeKernels.Proofs.Backend.Flushing
import ComputeKernels.Proofs.Backend.Teardown
import ComputeKernels.Proofs.Pipeline.Sharing

/-!
# Groups of passes

A run gets the buffers of its operands, of its uniform block and of its output before it makes the
group of its pass.  The slots of that group are those that the pipeline layout describes and the module
declares, and each of them holds the buffer of what is described there.

Main results:

- Theorem `recordPass_kept`: what stands after a pass was recorded.
- Theorem `grouped_of_run`: what a successful run binds.
- Theorem `bindings_agree`: descriptions, declarations and groups agree.
-/

namespace ComputeKernels.Backend

open Tensor Buffer Device

variable {op : Operation} {b b' mid : Backend} {j : Job} {k : Kernel} {launch : Launch}
  {t : Takings} {id : TensorId} {handle : Handle}

/-! ## Recorded passes -/

private theorem chain_prepare (j : Job) (k : Kernel) (launch : Launch) :
    Chain op b (j.prepare k launch b).2 := by
  unfold Job.prepare
  refine .bind (chain_prepareLayout _) fun _ b₁ _ => ?_
  refine .bind (chain_pipeline k _) fun compiled b₂ _ => ?_
  refine .bind (chain_uploadEach _) fun operands b₃ _ => ?_
  exact .bind (chain_acquireBoth _ _) fun _ _ _ => .refl

/-- A tensor that is not parked is there after a submission as before, and the commands given so far
stand. -/
theorem submit_kept (hm : Sound ⟨b, []⟩) (hb : Coherent b) {passes : List Pass}
    (hencoder : b.encoder = some passes) :
    (∀ id, id ∉ b.batch.deferred → (submit b).2.tensors.get id = b.tensors.get id) ∧
      (submit b).2.device.journal = b.device.journal ++ [.submit (passes.map .compute)] := by
  rcases submit_eq hm hb hencoder with ⟨pool, hsubmit⟩
  rw [hsubmit]
  refine ⟨fun id hid => ?_, rfl⟩
  change (b.tensors.without b.batch.deferred).get id = _
  rw [Registry.get_without, if_neg hid]

/-- What a run binds for its pass, and what is left of it once the pass is recorded. -/
structure Grouped (j : Job) (k : Kernel) (launch : Launch) (t : Takings) (mid b' : Backend)
    (id : TensorId) : Prop where
  slots : (groupOf k t.operands t.uniform t.output).map (·.slot) =
    (Pipeline.layoutEntries k.inputs.length).map (·.slot)
  buffers : Pipeline.bySlot (groupOf k t.operands t.uniform t.output) =
    (t.output :: t.operands ++ [t.uniform]).map Allocation.buffer
  /-- The operands have these buffers when the group is made. -/
  operands : j.inputs.map mid.tensors.resource? = t.operands.map some
  /-- So has the output from then on. -/
  output : b'.tensors.resource? id = some t.output
  /-- The uniform block is in its buffer before that is bound. -/
  uniforms : launch.uniforms <+:
    (mid.device.write t.uniform.buffer launch.uniforms).memory.contents t.uniform.buffer
  commands : ∃ later, b'.device.journal = mid.device.journal ++
      .write t.uniform.buffer launch.uniforms ::
        .bind (Pipeline.bySlot (groupOf k t.operands t.uniform t.output)) :: later ∧
    .record (.compute (j.pass launch t.compiled
      (Pipeline.bySlot (groupOf k t.operands t.uniform t.output)) id)) ∈ later

/-- The commands of a pass: the uniform block is written, the buffers are bound, and the pass is
recorded. -/
theorem journal_boundRecorded (r : Record) (launch : Launch) (bindings : List BufferId) (pass : Pass)
    (uniform : Allocation) (b : Backend) :
    (recorded r pass uniform (bound launch bindings uniform b)).device.journal =
      b.device.journal ++ .write uniform.buffer launch.uniforms :: .bind bindings ::
        (openedFor b ++ [.record (.compute pass)]) := by
  have hbound : (bound launch bindings uniform b).device.journal =
      b.device.journal ++ [.write uniform.buffer launch.uniforms] ++ [.bind bindings] := rfl
  have hopened : openedFor (bound launch bindings uniform b) = openedFor b := rfl
  rw [journal_recorded, hbound, hopened]
  simp

/-- The output of a pass does not wait for its removal when the pass is recorded. -/
theorem output_not_parked (hb : Coherent b) {pass : Pass} (houtput : pass.output = ⟨b.tensors.next⟩)
    (r : Record) (launch : Launch) (bindings : List BufferId) (uniform : Allocation) :
    pass.output ∉ (recorded r pass uniform (bound launch bindings uniform b)).batch.deferred := by
  have hdeferred : (recorded r pass uniform (bound launch bindings uniform b)).batch.deferred =
      b.batch.deferred := by
    rw [recorded_batch]
    rfl
  intro hmem
  rw [hdeferred, houtput] at hmem
  exact Nat.lt_irrefl _ (hb.touched_lt _ (hb.parked _ hmem))

/-- The output of a recorded pass has its buffer, and its commands stand, also if the batch is then
submitted. -/
theorem recordPass_kept {compiled : Pipeline.Compiled} {operands : List Allocation}
    {uniform output : Allocation} (hm : Sound ⟨b, [output, uniform]⟩) (hb : Coherent b)
    (hkernel : j.kernel b.tensors = .ok k)
    (hlaunch : Launch.of k b.maxDispatch j.extra = .ok launch)
    (hoperands : j.inputs.map b.tensors.resource? = operands.map some)
    (huniform : uniform.key = ⟨uniformSize launch.uniforms.length, uniformUsage⟩)
    (houtput : output.key = tensorKey (Word.wrap (4 * Shape.count k.output.shape)))
    (hpass : recordPass j k launch compiled operands uniform output b = (.ok id, b')) :
    let bindings := Pipeline.bySlot (groupOf k operands uniform output)
    b'.tensors.resource? id = some output ∧
      ∃ later, b'.device.journal = b.device.journal ++
          .write uniform.buffer launch.uniforms :: .bind bindings :: later ∧
        .record (.compute (j.pass launch compiled bindings id)) ∈ later := by
  intro bindings
  let pass := j.pass launch compiled bindings ⟨b.tensors.next⟩
  let b₁ := recorded (outputRecord j k output) pass uniform (bound launch bindings uniform b)
  have hget : b₁.tensors.get pass.output = .ok (outputRecord j k output) := by
    have hid : pass.output = ⟨b.tensors.next⟩ := rfl
    change (b.tensors.insert (outputRecord j k output)).2.get _ = _
    rw [Registry.get_insert, if_pos hid]
  have hresource (b₂ : Backend) (h : b₂.tensors.get pass.output = b₁.tensors.get pass.output) :
      b₂.tensors.resource? pass.output = some output :=
    Registry.resource?_eq_some_iff.mpr ⟨_, h.trans hget, rfl⟩
  have hjournal : b₁.device.journal = b.device.journal ++
      .write uniform.buffer launch.uniforms :: .bind bindings ::
        (openedFor b ++ [.record (.compute pass)]) :=
    journal_boundRecorded _ launch bindings pass uniform b
  have hrecord : Command.record (.compute pass) ∈ openedFor b ++ [.record (.compute pass)] :=
    List.mem_append_right _ (List.mem_singleton_self _)
  rw [recordPass_eq] at hpass
  split at hpass
  · rcases Action.exists_of_bind_ok hpass with ⟨_, b₂, hsubmit, hreturn⟩
    obtain ⟨hid, rfl⟩ := Prod.mk.inj hreturn
    obtain rfl : pass.output = id := Except.ok.inj hid
    rcases trail_recorded hm hkernel hlaunch hoperands huniform houtput compiled with ⟨_, htrail⟩
    have hstored := Job.storable_of_kernel hkernel
    have hchain : Chain (.run j) b b₁ :=
      chain_recorded hstored.1 hstored.2 k launch compiled bindings uniform output
    have hb₁ := hchain.coherent hb
    have hkept := submit_kept (htrail.sound hm) hb₁ recorded_encoder
    rw [hsubmit] at hkept
    have hparked : pass.output ∉ b₁.batch.deferred :=
      output_not_parked hb rfl _ launch bindings uniform
    let work := (b.encoder.getD [] ++ [pass]).map Work.compute
    have hsubmitted : b₂.device.journal = b₁.device.journal ++ [.submit work] := hkept.2
    refine ⟨hresource b₂ (hkept.1 _ hparked),
      openedFor b ++ [.record (.compute pass)] ++ [.submit work], ?_,
      List.mem_append_left _ hrecord⟩
    rw [hsubmitted, hjournal, List.append_assoc, List.cons_append, List.cons_append]
  · obtain ⟨hid, rfl⟩ := Prod.mk.inj hpass
    obtain rfl : pass.output = id := Except.ok.inj hid
    exact ⟨hresource b₁ rfl, openedFor b ++ [.record (.compute pass)], hjournal, hrecord⟩

/-! ## Runs -/

/-- A run whose kernel has no launch is refused. -/
theorem run_of_refused {e : KernelError} (hlive : b.disposed = false)
    (hkernel : j.kernel b.tensors = .ok k) (hsize : k.output.count ≠ 0)
    (hlaunch : Launch.of k b.maxDispatch j.extra = .error e) : run j b = (.error e, b) := by
  simp only [run_eq hlive, hkernel, hlaunch, hsize, if_false]

/-- What a successful run binds. -/
theorem grouped_of_run (hm : Sound ⟨b, []⟩) (hb : Coherent b) (hkernel : j.kernel b.tensors = .ok k)
    (hsize : k.output.count ≠ 0) (hrun : run j b = (.ok handle, b')) :
    ∃ launch t mid, Launch.of k b.maxDispatch j.extra = .ok launch ∧
      j.prepare k launch b = (.ok t, mid) ∧ Grouped j k launch t mid b' handle.id := by
  obtain ⟨launch, hlaunch⟩ : ∃ launch, Launch.of k b.maxDispatch j.extra = .ok launch := by
    cases hlaunch : Launch.of k b.maxDispatch j.extra with
    | ok launch => exact ⟨launch, rfl⟩
    | error e =>
      rw [run_of_refused hm.stocked.live hkernel hsize hlaunch] at hrun
      cases hrun
  rw [run_eq_carryOut hm.stocked.live hkernel hsize hlaunch, carryOut_eq] at hrun
  rcases Action.exists_of_bind_ok hrun with ⟨t, mid, hprepare, hrest⟩
  rcases Action.exists_of_bind_ok hrest with ⟨id, b₂, hpass, hreturn⟩
  obtain ⟨hhandle, rfl⟩ := Prod.mk.inj hreturn
  obtain rfl := Except.ok.inj hhandle
  rcases (leads_prepare hm j k launch).sound_of_ok hm hprepare with
    ⟨_, hmid, rfl, hgrown, hoperands, huniform, houtput⟩
  have hcoherent : Coherent mid := by
    have hchain : Chain (.run j) b (j.prepare k launch b).2 := chain_prepare j k launch
    rw [hprepare] at hchain
    exact hchain.coherent hb
  have hkey : t.output.key = tensorKey (Word.wrap (4 * Shape.count k.output.shape)) :=
    houtput.trans (Job.outputKey_of_kernel hkernel)
  have hkept := recordPass_kept hmid hcoherent (hgrown.kernel_eq hkernel)
    (hgrown.maxDispatch ▸ hlaunch) hoperands huniform hkey hpass
  have hcount : t.operands.length = k.inputs.length := by
    rw [Job.length_inputs_of_kernel hkernel]
    simpa using (congrArg List.length hoperands).symm
  refine ⟨launch, t, mid, hlaunch, hprepare, ?_, ?_, hoperands, hkept.1, ?_, hkept.2⟩
  · rw [slots_groupOf hcount, Pipeline.slots_layoutEntries]
  · exact bySlot_groupOf hcount _ _
  · refine hmid.isPrefix_contents_write (by simp) ?_
    rw [huniform]
    exact le_uniformSize _

/-- The names of the operands are those of the program, in order. -/
theorem names_of_kernel (hkernel : j.kernel b.tensors = .ok k) :
    k.inputs.map (·.name) = j.program.operandNames := by
  rcases Except.bind_eq_ok_iff.mp hkernel with ⟨inputs, hoperands, hrest⟩
  rcases Except.check_bind_eq_ok_iff.mp hrest with ⟨hlength, hrest⟩
  rcases Except.check_bind_eq_ok_iff.mp hrest with ⟨hvalid, hk⟩
  have hnamed := (Kernel.validate_eq_ok_iff.mp hvalid).named
  obtain rfl := Except.ok.inj hk
  have hcount : inputs.length = j.inputs.length := by simpa using hlength
  have hnames : inputs.map (·.name) = (j.inputs.zip j.program.operandNames).map Prod.snd := by
    refine (Shader.map_eq_of_forall₂ (Except.mapM_eq_ok_iff.mp hoperands) fun named o ho => ?_).symm
    rcases Except.bind_eq_ok_iff.mp ho with ⟨r, -, hr⟩
    exact congrArg Operand.name (Except.ok.inj hr)
  rw [hnames, List.map_snd_zip]
  exact Nat.le_of_eq (hnamed.symm.trans hcount)

/-- The bytes of a launch are the packed uniform fields of its kernel. -/
theorem packed_of_launch {limit : Nat} {extra : List Uniform.Field}
    (h : Launch.of k limit extra = .ok launch) :
    ∃ fields, k.program.uniformFields k.inputs k.output.shape launch.grid extra = .ok fields ∧
      Uniform.pack fields = .ok launch.uniforms := by
  rcases Except.bind_eq_ok_iff.mp h with ⟨grid, -, hrest⟩
  rcases Except.bind_eq_ok_iff.mp hrest with ⟨fields, hfields, hrest⟩
  rcases Except.bind_eq_ok_iff.mp hrest with ⟨bytes, hpack, hlaunch⟩
  obtain rfl := Except.ok.inj hlaunch
  exact ⟨fields, hfields, hpack⟩

/-! ## Agreement -/

/-- Descriptions, declarations and groups agree.  The descriptions for a number of operands are
numbered from zero: the output in storage that may be written, the operands in storage that may only be
read, and the uniform block in the last slot.  A module declares these slots with these uses, under the
names of the output and of the operands in order.  The group of a successful run in whose output the
host counts elements has the same numbers, with the buffer of the output, those of the operands in
order, and one that holds the packed uniform fields. -/
theorem bindings_agree :
    (∀ n, (Pipeline.layoutEntries n).map (fun e => (e.slot, e.buffer)) =
        (0, .storage) :: (List.range n).map (fun i => (i + 1, .readOnlyStorage)) ++
          [(n + 1, .uniform)] ∧
      (Pipeline.layoutEntries n).map (·.slot) = List.range (n + 2)) ∧
    (∀ k m, Shader.moduleOf k = .ok m →
      m.declaredSlots =
          (Pipeline.layoutEntries k.inputs.length).map (fun e => (e.slot, e.buffer)) ∧
        m.storage.map (·.binding) = List.range (k.inputs.length + 1) ∧
        m.uniformBinding = k.inputs.length + 1 ∧
        m.storage.map (·.name) = Kernel.outputName :: k.inputs.map (·.name)) ∧
    (∀ b j k handle b', Reachable b → j.kernel b.tensors = .ok k → k.output.count ≠ 0 →
      run j b = (.ok handle, b') →
      k.inputs.map (·.name) = j.program.operandNames ∧
        ∃ launch fields t mid, Launch.of k b.maxDispatch j.extra = .ok launch ∧
          k.program.uniformFields k.inputs k.output.shape launch.grid j.extra = .ok fields ∧
          Uniform.pack fields = .ok launch.uniforms ∧
          j.prepare k launch b = (.ok t, mid) ∧ Grouped j k launch t mid b' handle.id) := by
  refine ⟨fun n => ⟨?_, Pipeline.slots_layoutEntries n⟩, fun k m hm => ?_, ?_⟩
  · simp [Pipeline.layoutEntries_eq, Pipeline.Role.entry, Pipeline.Role.buffer, Function.comp_def]
  · exact ⟨Shader.declaredSlots_eq hm, Shader.bindings_storage hm, Shader.uniformBinding_eq hm,
      Shader.names_storage hm⟩
  · intro b j k handle b' hb hkernel hsize hrun
    rcases reachable_iff.mp hb with ⟨d, s, os, rfl⟩
    cases standing_occurrences d s os with
    | live hm hcoherent _ =>
      rcases grouped_of_run hm hcoherent hkernel hsize hrun with
        ⟨launch, t, mid, hlaunch, hprepare, hgrouped⟩
      rcases packed_of_launch hlaunch with ⟨fields, hfields, hpack⟩
      exact ⟨names_of_kernel hkernel, launch, fields, t, mid, hlaunch, hfields, hpack, hprepare,
        hgrouped⟩
    | disposed h =>
      have hrefused : run j _ = (.error .disposed, _) :=
        Action.bind_apply_error (live_of_disposed h.disposed)
      cases hrefused.symm.trans hrun

/-- Copying a tensor binds the copy, then the tensor, then the uniform block. -/
theorem copied_tensor_is_bound_after_the_copy :
    let b := ((onDevice {} {}).step (.write (.float32 [0x3f800000]) [1])).2
    let b' := (run copyJob b).2
    Reachable b ∧ copyJob.kernel b.tensors = .ok copyKernel ∧ copyKernel.output.count ≠ 0 ∧
      run copyJob b = (.ok ⟨⟨1⟩, [1], .float32⟩, b') ∧
      b'.tensors.resource? ⟨1⟩ = some ⟨2, tensorKey 4⟩ ∧
      b'.tensors.resource? ⟨0⟩ = some ⟨0, tensorKey 4⟩ ∧
      .bind [2, 0, 1] ∈ b'.device.journal ∧
      ∃ launch t mid, copyJob.prepare copyKernel launch b = (.ok t, mid) ∧
        Grouped copyJob copyKernel launch t mid b' ⟨1⟩ := by
  intro b b'
  have hreachable : Reachable b := .step (.new _ _) _
  have hkernel : copyJob.kernel b.tensors = .ok copyKernel := by rfl
  have hsize : copyKernel.output.count ≠ 0 := by decide
  have hcarry : run copyJob b = copyJob.carryOut copyKernel copyLaunch b :=
    run_eq_carryOut rfl hkernel hsize launch_copyKernel
  have hrun : run copyJob b = (.ok ⟨⟨1⟩, [1], .float32⟩, b') := by
    refine Prod.ext ?_ rfl
    rw [hcarry]
    decide +kernel
  have hb' : b' = (copyJob.carryOut copyKernel copyLaunch b).2 := congrArg Prod.snd hcarry
  rcases bindings_agree.2.2 b copyJob copyKernel _ b' hreachable hkernel hsize hrun with
    ⟨-, launch, _, t, mid, -, -, -, hprepare, hgrouped⟩
  refine ⟨hreachable, hkernel, hsize, hrun, ?_, ?_, ?_, launch, t, mid, hprepare, hgrouped⟩ <;>
    rw [hb'] <;> decide +kernel

end ComputeKernels.Backend

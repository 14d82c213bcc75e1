import ComputeKernels.Proofs.Backend.Sessions

/-!
# Open passes and later transfers

Writes and copies to buffers take effect at once, before the passes of an encoder that is still open.
A buffer that was recycled too early would corrupt a pass that is already recorded.  This does not
happen: what an open pass binds has an owner, and the pool and the device are only asked for buffers
that have none.

Main results:

- Theorem `Move.uploaded`: what was uploaded to a tensor stays in its buffer.
- Theorem `Move.undisturbed`: no move disturbs an open pass.
- Theorem `Trail.safeAfter`: an operation disturbs none, and submits passes as they were recorded.
- Theorem `open_passes_undisturbed`: so it is in every session.
-/

namespace ComputeKernels.Backend

open Tensor Buffer Device

/-! ## Disturbances -/

/-- An event leaves an open pass alone.  Its buffers are in use, the event is about another buffer,
and its output is none of the buffers that it reads. -/
structure Undisturbed (m : Moment) (e : Event) (p : Pass) : Prop where
  inUse : ∀ buffer ∈ p.bindings, ∀ key, buffer ∉ (m.backend.pool.shelf key).free
  elsewhere : ∀ buffer ∈ p.bindings, e.buffer? ≠ some buffer
  apart : ∃ out reads, p.bindings = out :: reads ∧ out ∉ reads

variable {op : Operation} {m m' : Moment} {e : Event} {p : Pass}

/-- Each open pass binds its output, its operands and a uniform block of the batch. -/
theorem Sound.exists_wired (hm : Sound m) (hp : p ∈ m.openPasses) :
    ∃ out operands uniform, m.backend.tensors.resource? p.output = some out ∧
      p.inputs.map m.backend.tensors.resource? = operands.map some ∧
      uniform ∈ m.backend.batch.uniforms ∧
      p.bindings = (out :: operands ++ [uniform]).map Allocation.buffer ∧
      p.uniforms <+: m.backend.device.memory.contents uniform.buffer := by
  rcases List.getElem_of_mem hp with ⟨i, hi, rfl⟩
  have hi' : i < m.backend.batch.uniforms.length := hm.encoded.bound.length_eq ▸ hi
  have hbound := hm.encoded.bound.get hi hi'
  rcases hbound.wired with ⟨out, operands, hout, hoperands, hbindings⟩
  exact ⟨out, operands, _, hout, hoperands, List.getElem_mem hi', hbindings, hbound.contents⟩

/-- What an open pass binds belongs to a tensor or to the batch. -/
theorem Sound.exists_owned (hm : Sound m) (hp : p ∈ m.openPasses) {buffer : BufferId}
    (hbuffer : buffer ∈ p.bindings) :
    ∃ x ∈ m.backend.tensors.resources ++ m.backend.batch.uniforms, x.buffer = buffer := by
  rcases hm.exists_wired hp with ⟨out, operands, uniform, hout, hoperands, huniform, hbindings, -⟩
  have hregistry := hm.registered.sound
  rw [hbindings] at hbuffer
  rcases List.mem_map.mp hbuffer with ⟨x, hx, rfl⟩
  refine ⟨x, ?_, rfl⟩
  rcases List.mem_append.mp hx with hx | hx
  · rcases List.mem_cons.mp hx with rfl | hx
    · exact List.mem_append_left _ (hregistry.mem_resources_iff.mpr ⟨_, hout⟩)
    · rcases Registry.exists_tensor_of_mem hoperands hx with ⟨id, -, hid⟩
      exact List.mem_append_left _ (hregistry.mem_resources_iff.mpr ⟨id, hid⟩)
  · obtain rfl := List.mem_singleton.mp hx
    exact List.mem_append_right _ huniform

/-- The output of an open pass is none of the buffers that the pass reads. -/
theorem Sound.output_apart (hm : Sound m) (hp : p ∈ m.openPasses) :
    ∃ out reads, p.bindings = out :: reads ∧ out ∉ reads := by
  rcases hm.exists_wired hp with ⟨out, operands, uniform, hout, hoperands, huniform, hbindings, -⟩
  have hregistry := hm.registered.sound
  refine ⟨out.buffer, (operands ++ [uniform]).map Allocation.buffer, hbindings, fun hmem => ?_⟩
  rcases List.mem_map.mp hmem with ⟨x, hx, hxout⟩
  rcases List.mem_append.mp hx with hx | hx
  · rcases Registry.exists_tensor_of_mem hoperands hx with ⟨id, hid, hidx⟩
    have hsame := hregistry.resource_inj hm.nodup_resources hidx hout hxout
    exact hm.encoded.fresh p hp (hsame ▸ hid)
  · obtain rfl := List.mem_singleton.mp hx
    have hresource := hregistry.mem_resources_iff.mpr ⟨_, hout⟩
    exact hm.resource_ne_uniform hresource huniform hxout.symm

/-- Open passes have different outputs. -/
theorem Sound.nodup_outputs (hm : Sound m) :
    (m.openPasses.map fun p => p.bindings.head?).Nodup := by
  refine List.Nodup.map_on ?_ (hm.encoded.outputs.of_map _)
  intro p hp q hq hpq
  rcases hm.exists_wired hp with ⟨out, _, _, hout, -, -, hbindings, -⟩
  rcases hm.exists_wired hq with ⟨out', _, _, hout', -, -, hbindings', -⟩
  have hbuffer : out.buffer = out'.buffer := by simpa [hbindings, hbindings'] using hpq
  have hsame := hm.registered.sound.resource_inj hm.nodup_resources hout hout' hbuffer
  exact List.inj_on_of_nodup_map hm.encoded.outputs hp hq hsame

/-- A buffer with an owner is on no free list. -/
theorem Sound.not_free (hm : Sound m) {x : Allocation} (hx : x ∈ m.owned) (key : PoolKey) :
    x.buffer ∉ (m.backend.pool.shelf key).free := by
  intro hfree
  have hin : x ∈ m.backend.pool.inUse := hm.balanced.mem_iff.mpr hx
  have hlisted : (⟨x.buffer, key⟩ : Allocation) ∈ m.backend.pool.free :=
    (Pool.mem_listed_iff hm.stocked.pool.keyed rfl).mpr hfree
  have hsame : (⟨x.buffer, key⟩ : Allocation) = x :=
    hm.stocked.pool.eq_of_buffer_eq (List.mem_append_left _ hlisted) (hm.mem_all hx) rfl
  exact hm.stocked.pool.not_mem_free hin (hsame ▸ hlisted)

/-- No move hands out, takes back or writes to a buffer that has an owner. -/
theorem Move.buffer?_ne (h : Move op m e m') (hm : Sound m) {x : Allocation}
    (hx : x ∈ m.backend.tensors.resources ++ m.backend.batch.uniforms) :
    e.buffer? ≠ some x.buffer := by
  have hm' := h.sound hm
  intro hsame
  cases h with
  | handOut _ =>
    exact hm'.owned_ne_held hx List.mem_cons_self (Option.some.inj hsame).symm
  | takeBack _ => exact hm.owned_ne_held hx List.mem_cons_self (Option.some.inj hsame).symm
  | fill _ hheld => exact hm.owned_ne_held hx hheld (Option.some.inj hsame).symm
  | copy _ _ hheld => exact hm.owned_ne_held hx hheld (Option.some.inj hsame).symm
  | quiet _ => cases hsame
  | add _ _ => cases hsame
  | amend _ _ _ _ _ => cases hsame
  | forget _ _ => cases hsame
  | defer _ => cases hsame
  | finish => cases hsame
  | upload _ _ _ _ _ _ => cases hsame
  | record _ _ _ _ _ _ _ _ _ => cases hsame
  | submit _ => cases hsame

/-- No move disturbs an open pass. -/
theorem Move.undisturbed (h : Move op m e m') (hm : Sound m) (hp : p ∈ m.openPasses) :
    Undisturbed m e p where
  inUse := by
    intro buffer hbuffer
    rcases hm.exists_owned hp hbuffer with ⟨x, hx, rfl⟩
    exact hm.not_free (List.mem_append_left _ hx)
  elsewhere := by
    intro buffer hbuffer
    rcases hm.exists_owned hp hbuffer with ⟨x, hx, rfl⟩
    exact h.buffer?_ne hm hx
  apart := hm.output_apart hp

/-! ## Uploaded values -/

/-- A tensor whose buffer was filled from the host holds the bytes for as long as it lives, and is the
output of no open pass. -/
structure Uploaded (m : Moment) (id : TensorId) (bytes : List UInt8) : Prop where
  known : id.number < m.backend.tensors.next
  notOutput : ∀ p ∈ m.openPasses, p.output ≠ id
  contents : ∀ r, m.backend.tensors.get id = .ok r →
    ∃ x, r.resource = some x ∧ bytes <+: m.backend.device.memory.contents x.buffer

namespace Uploaded

variable {b b' : Backend} {held held' : List Allocation} {id : TensorId} {bytes : List UInt8}

/-- Uploaded values stay while tensors and passes do and no buffer of a tensor is written to. -/
theorem of_eq (h : Uploaded ⟨b, held⟩ id bytes) (htensors : b'.tensors = b.tensors)
    (hencoder : b'.encoder = b.encoder)
    (hcontents : ∀ x, b.tensors.resource? id = some x →
      b'.device.memory.contents x.buffer = b.device.memory.contents x.buffer) :
    Uploaded ⟨b', held'⟩ id bytes where
  known := by
    change id.number < b'.tensors.next
    rw [htensors]
    exact h.known
  notOutput := by
    unfold Moment.openPasses
    rw [hencoder]
    exact h.notOutput
  contents := by
    intro r hget
    change b'.tensors.get id = .ok r at hget
    rw [htensors] at hget
    rcases h.contents r hget with ⟨x, hx, hbytes⟩
    refine ⟨x, hx, ?_⟩
    change bytes <+: b'.device.memory.contents x.buffer
    rw [hcontents x (Registry.resource?_eq_some_iff.mpr ⟨r, hget, hx⟩)]
    exact hbytes

/-- A new tensor is another one. -/
theorem insert (h : Uploaded ⟨b, held⟩ id bytes) {r : Record}
    (htensors : b'.tensors = (b.tensors.insert r).2)
    (hpasses : ∀ p ∈ b'.encoder.getD [], p ∈ b.encoder.getD [] ∨ p.output = ⟨b.tensors.next⟩)
    (hmemory : b'.device.memory = b.device.memory) : Uploaded ⟨b', held'⟩ id bytes := by
  have hold : id ≠ ⟨b.tensors.next⟩ := by
    rintro rfl
    exact Nat.lt_irrefl _ h.known
  refine ⟨?_, fun p hp => ?_, fun found hfound => ?_⟩
  · change id.number < b'.tensors.next
    rw [htensors]
    exact Nat.lt_succ_of_lt h.known
  · rcases hpasses p hp with hopen | hnew
    · exact h.notOutput p hopen
    · rw [hnew]
      exact hold.symm
  · change b'.tensors.get id = .ok found at hfound
    rw [htensors, Registry.get_insert, if_neg hold] at hfound
    change ∃ x, found.resource = some x ∧ bytes <+: b'.device.memory.contents x.buffer
    rw [hmemory]
    exact h.contents found hfound

/-- A change of a record that keeps its buffer keeps the values. -/
theorem put (h : Uploaded ⟨b, held⟩ id bytes) {id' : TensorId} {r r' : Record}
    (hget : b.tensors.get id' = .ok r)
    (hresource : ∀ x, r.resource = some x → r'.resource = some x) :
    Uploaded ⟨{ b with tensors := b.tensors.put id' r' }, held'⟩ id bytes := by
  refine ⟨h.known, h.notOutput, fun found hfound => ?_⟩
  change (b.tensors.put id' r').get id = .ok found at hfound
  rw [Registry.get_put] at hfound
  split at hfound
  · next hsame =>
    obtain rfl := Except.ok.inj hfound
    rcases h.contents r (hsame ▸ hget) with ⟨x, hx, hbytes⟩
    exact ⟨x, hresource x hx, hbytes⟩
  · exact h.contents found hfound

/-- Submitted passes write to their outputs alone. -/
theorem submit (h : Uploaded ⟨b, held⟩ id bytes) (hm : Sound ⟨b, held⟩) {passes : List Pass}
    (hencoder : b.encoder = some passes) :
    Uploaded ⟨(handOver passes b).2, held'⟩ id bytes := by
  refine ⟨h.known, nofun, fun found hfound => ?_⟩
  rcases h.contents found hfound with ⟨x, hx, hbytes⟩
  refine ⟨x, hx, ?_⟩
  have hresource : b.tensors.resource? id = some x :=
    Registry.resource?_eq_some_iff.mpr ⟨found, hfound, hx⟩
  have hkept : Memory.contents ((passes.map Work.compute).foldl Memory.execute b.device.memory)
      x.buffer = b.device.memory.contents x.buffer := by
    apply Memory.contents_foldl_execute
    intro w hw htarget
    rcases List.mem_map.mp hw with ⟨p, hp, rfl⟩
    have hopen : p ∈ Moment.openPasses ⟨b, held⟩ := by simpa [Moment.openPasses, hencoder] using hp
    rcases hm.exists_wired hopen with ⟨out, _, _, hout, -, -, hbindings, -⟩
    have hbuffer : out.buffer = x.buffer := by
      simpa [Work.target?, hbindings] using htarget
    exact h.notOutput p hopen
      (hm.registered.sound.resource_inj hm.nodup_resources hout hresource hbuffer)
  exact hkept ▸ hbytes

end Uploaded

/-- What was uploaded to a tensor stays in its buffer. -/
theorem Move.uploaded {id : TensorId} {bytes : List UInt8} (h : Move op m e m') (hm : Sound m)
    (hup : Uploaded m id bytes) : Uploaded m' id bytes := by
  -- The buffer of the tensor has an owner, so no move writes to it.
  have helsewhere {x : Allocation} (hx : m.backend.tensors.resource? id = some x) :
      e.buffer? ≠ some x.buffer :=
    h.buffer?_ne hm
      (List.mem_append_left _ (hm.registered.sound.mem_resources_iff.mpr ⟨id, hx⟩))
  cases h with
  | quiet h => exact hup.of_eq h.tensors h.encoder fun x _ => by rw [h.memory]
  | add _ _ => exact hup.insert rfl (fun p hp => .inl hp) rfl
  | amend hget _ _ hresource _ => exact hup.put hget fun x hx => hresource.trans hx
  | forget hget _ =>
    refine ⟨hup.known, hup.notOutput, fun found hfound => ?_⟩
    rw [Registry.get_remove] at hfound
    split at hfound
    · cases hfound
    · exact hup.contents found hfound
  | defer _ => exact hup.of_eq rfl rfl fun _ _ => rfl
  | finish => exact hup.of_eq rfl rfl fun _ _ => rfl
  | handOut h =>
    refine hup.of_eq rfl rfl fun x hx => hm.stocked.contents_handOut h (hm.mem_all ?_)
    have hresource := hm.registered.sound.mem_resources_iff.mpr ⟨id, hx⟩
    exact List.mem_append_left _ (List.mem_append_left _ hresource)
  | takeBack _ => exact hup.of_eq rfl rfl fun _ _ => rfl
  | fill _ _ =>
    exact hup.of_eq rfl rfl fun x hx => Memory.contents_write_of_ne
      (fun hsame => helsewhere hx (congrArg some hsame.symm)) _
  | copy _ _ _ =>
    exact hup.of_eq rfl rfl fun x hx => Memory.contents_write_of_ne
      (fun hsame => helsewhere hx (congrArg some hsame.symm)) _
  | upload hget hresource _ _ _ _ =>
    apply hup.put hget
    intro x hx
    rw [hresource] at hx
    cases hx
  | record _ _ _ _ houtput _ _ _ _ =>
    refine hup.insert recorded_tensors (fun p hp => ?_) recorded_memory
    rw [recorded_encoder, Option.getD_some] at hp
    rcases List.mem_append.mp hp with hopen | hnew
    · exact .inl hopen
    · rw [List.mem_singleton.mp hnew]
      exact .inr houtput
  | submit h => exact hup.submit hm h

/-! ## What the past says -/

/-- A pass comes from the run of a job, with the uniform block that was packed for the job. -/
def Launched (past : List (Moment × Event)) (j : Job) (p : Pass) : Prop :=
  ∃ m₀ k, (m₀, .record j k p) ∈ past ∧ j.kernel m₀.backend.tensors = .ok k ∧
    Launch.of k m₀.backend.maxDispatch j.extra = .ok ⟨p.grid, p.uniforms⟩

/-- A tensor got its buffer when its values were uploaded or when a pass was recorded for it. -/
def Originates (past : List (Moment × Event)) (id : TensorId) (x : Allocation) : Prop :=
  (∃ m₀ v, (m₀, .upload id v x) ∈ past) ∨
    ∃ m₀ j k q, (m₀, .record j k q) ∈ past ∧ q.output = id

/-- The past tells where the open passes and the buffers of tensors come from, and what was uploaded
is still there. -/
structure Remembers (past : List (Moment × Event)) (m : Moment) : Prop where
  launched : ∀ p ∈ m.openPasses, ∃ j, Launched past j p
  origin : ∀ id x, m.backend.tensors.resource? id = some x → Originates past id x
  uploaded : ∀ m₀ id v x, (m₀, .upload id v x) ∈ past →
    ∃ bytes, v.deviceBytes = .ok bytes ∧ Uploaded m id bytes

variable {past : List (Moment × Event)}

/-- A pass is open after a move if it was before or if the move recorded it. -/
theorem Move.launched (h : Move op m e m') (hp : p ∈ m'.openPasses) :
    p ∈ m.openPasses ∨ ∃ j, Launched [(m, e)] j p := by
  cases h with
  | quiet h =>
    unfold Moment.openPasses at hp
    rw [h.encoder] at hp
    exact .inl hp
  | record _ hkernel hlaunch _ _ _ _ _ _ =>
    unfold Moment.openPasses at hp
    rw [recorded_encoder, Option.getD_some] at hp
    rcases List.mem_append.mp hp with hopen | hnew
    · exact .inl hopen
    · obtain rfl := List.mem_singleton.mp hnew
      exact .inr ⟨_, _, _, List.mem_cons_self, hkernel, hlaunch⟩
  | submit _ => cases hp
  | add _ _ => exact .inl hp
  | amend _ _ _ _ _ => exact .inl hp
  | forget _ _ => exact .inl hp
  | defer _ => exact .inl hp
  | finish => exact .inl hp
  | handOut _ => exact .inl hp
  | takeBack _ => exact .inl hp
  | fill _ _ => exact .inl hp
  | copy _ _ _ => exact .inl hp
  | upload _ _ _ _ _ _ => exact .inl hp

private theorem Move.exists_uploaded {id : TensorId} {v : Values} {x : Allocation}
    (h : Move op m (.upload id v x) m') (hm : Sound m) :
    ∃ bytes, v.deviceBytes = .ok bytes ∧ Uploaded m' id bytes := by
  cases h with
  | upload hget hresource _ hbytes _ hcontents =>
    refine ⟨_, hbytes, hm.registered.sound.lt_next_of_get hget, fun p hp hsame => ?_, ?_⟩
    · -- The output of an open pass has a buffer already.
      rcases hm.exists_wired hp with ⟨out, _, _, hout, -⟩
      rcases Registry.resource?_eq_some_iff.mp hout with ⟨found, hfound, hout⟩
      rw [hsame, hget] at hfound
      obtain rfl := Except.ok.inj hfound
      rw [hresource] at hout
      cases hout
    · intro found hfound
      rw [Registry.get_put_self] at hfound
      obtain rfl := Except.ok.inj hfound
      exact ⟨x, rfl, hcontents⟩

/-- A tensor has a buffer after a move if it had it before or if the move gave it. -/
theorem Move.origin {id : TensorId} {x : Allocation} (h : Move op m e m')
    (hx : m'.backend.tensors.resource? id = some x) :
    m.backend.tensors.resource? id = some x ∨ Originates [(m, e)] id x := by
  cases h with
  | quiet h =>
    rw [h.tensors] at hx
    exact .inl hx
  | add hresource _ =>
    rw [Registry.resource?_insert, hresource] at hx
    split at hx
    · cases hx
    · exact .inl hx
  | amend hget _ _ hresource _ =>
    rw [Registry.resource?_put, hresource] at hx
    split at hx
    · next hsame => exact .inl (Registry.resource?_eq_some_iff.mpr ⟨_, hsame ▸ hget, hx⟩)
    · exact .inl hx
  | forget _ _ =>
    rw [Registry.resource?_remove] at hx
    split at hx
    · cases hx
    · exact .inl hx
  | upload _ _ _ _ _ _ =>
    rw [Registry.resource?_put] at hx
    split at hx
    · next hsame =>
      obtain rfl := Option.some.inj hx
      rw [hsame]
      exact .inr (.inl ⟨_, _, List.mem_cons_self⟩)
    · exact .inl hx
  | record _ _ _ _ houtput _ _ _ _ =>
    rw [recorded_tensors, Registry.resource?_insert] at hx
    split at hx
    · next hsame => exact .inr (.inr ⟨_, _, _, _, List.mem_cons_self, houtput.trans hsame.symm⟩)
    · exact .inl hx
  | defer _ => exact .inl hx
  | finish => exact .inl hx
  | handOut _ => exact .inl hx
  | takeBack _ => exact .inl hx
  | fill _ _ => exact .inl hx
  | copy _ _ _ => exact .inl hx
  | submit _ => exact .inl hx

private theorem Originates.mono {past' : List (Moment × Event)} {id : TensorId} {x : Allocation}
    (h : Originates past id x) (hpast : past ⊆ past') : Originates past' id x := by
  rcases h with ⟨m₀, v, hmem⟩ | ⟨m₀, j, k, q, hmem, houtput⟩
  · exact .inl ⟨m₀, v, hpast hmem⟩
  · exact .inr ⟨m₀, j, k, q, hpast hmem, houtput⟩

/-- Every move adds to what the past says. -/
theorem Move.remembers (h : Move op m e m') (hm : Sound m) (hpast : Remembers past m) :
    Remembers (past ++ [(m, e)]) m' where
  launched := by
    intro p hp
    rcases h.launched hp with hopen | ⟨j, m₀, k, hmem, hlaunched⟩
    · rcases hpast.launched p hopen with ⟨j, m₀, k, hmem, hlaunched⟩
      exact ⟨j, m₀, k, List.mem_append_left _ hmem, hlaunched⟩
    · exact ⟨j, m₀, k, List.mem_append_right _ hmem, hlaunched⟩
  origin := by
    intro id x hx
    rcases h.origin hx with hold | hnew
    · exact (hpast.origin id x hold).mono (List.subset_append_left _ _)
    · exact hnew.mono (List.subset_append_right _ _)
  uploaded := by
    intro m₀ id v x hmem
    rcases List.mem_append.mp hmem with hold | hnew
    · rcases hpast.uploaded m₀ id v x hold with ⟨bytes, hbytes, hup⟩
      exact ⟨bytes, hbytes, h.uploaded hm hup⟩
    · rcases Prod.mk.inj (List.mem_singleton.mp hnew) with ⟨rfl, rfl⟩
      exact h.exists_uploaded hm

/-! ## Submission -/

/-- A pass finds in its buffers the uniform block that was packed for it and the values of those
operands that were uploaded. -/
def Provided (past : List (Moment × Event)) (m : Moment) (p : Pass) : Prop :=
  ∃ out operands uniform, p.bindings = (out :: operands ++ [uniform]).map Allocation.buffer ∧
    operands.length = p.inputs.length ∧
    p.uniforms <+: m.backend.device.memory.contents uniform.buffer ∧
    ∀ id x, (id, x) ∈ p.inputs.zip operands → Originates past id x ∧
      ∀ m₀ v y, (m₀, .upload id v y) ∈ past →
        ∃ bytes, v.deviceBytes = .ok bytes ∧ bytes <+: m.backend.device.memory.contents x.buffer

private theorem Sound.provided (hm : Sound m) (hpast : Remembers past m) (hp : p ∈ m.openPasses) :
    Provided past m p := by
  rcases hm.exists_wired hp with ⟨out, operands, uniform, -, hoperands, -, hbindings, huniforms⟩
  have hlength : operands.length = p.inputs.length := by
    simpa using (congrArg List.length hoperands).symm
  refine ⟨out, operands, uniform, hbindings, hlength, huniforms, fun id x hmem => ?_⟩
  rcases List.getElem_of_mem hmem with ⟨i, hi, hix⟩
  rw [List.length_zip] at hi
  rw [List.getElem_zip] at hix
  rcases Prod.mk.inj hix with ⟨rfl, rfl⟩
  have hresource : m.backend.tensors.resource? p.inputs[i] = some operands[i] := by
    have hget := congrArg (·[i]?) hoperands
    simpa [List.getElem?_eq_getElem (show i < p.inputs.length by omega),
      List.getElem?_eq_getElem (show i < operands.length by omega)] using hget
  refine ⟨hpast.origin _ _ hresource, fun m₀ v y hupload => ?_⟩
  rcases hpast.uploaded m₀ _ v y hupload with ⟨bytes, hbytes, hup⟩
  rcases Registry.resource?_eq_some_iff.mp hresource with ⟨r, hget, hr⟩
  rcases hup.contents r hget with ⟨z, hz, hinitial⟩
  obtain rfl := Option.some.inj (hz.symm.trans hr)
  exact ⟨bytes, hbytes, hinitial⟩

/-- A moment and the event at it are safe for the open passes. -/
structure Safe (past : List (Moment × Event)) (m : Moment) (e : Event) : Prop where
  undisturbed : ∀ p ∈ m.openPasses, Undisturbed m e p
  outputs : (m.openPasses.map fun p => p.bindings.head?).Nodup
  submitted : ∀ passes, e = .submit passes →
    passes = m.openPasses ∧ ∀ p ∈ passes, (∃ j, Launched past j p) ∧ Provided past m p

private theorem Move.safe (h : Move op m e m') (hm : Sound m) (hpast : Remembers past m) :
    Safe past m e where
  undisturbed := fun _ hp => h.undisturbed hm hp
  outputs := hm.nodup_outputs
  submitted := by
    rintro passes rfl
    have hpasses : passes = m.openPasses := by
      cases h with
      | submit hencoder => simp [Moment.openPasses, hencoder]
    refine ⟨hpasses, fun p hp => ?_⟩
    rw [hpasses] at hp
    exact ⟨hpast.launched p hp, hm.provided hpast hp⟩

/-! ## Runs -/

/-- All events after a past are safe when they occur. -/
def SafeAfter (past trail : List (Moment × Event)) : Prop :=
  ∀ before m e rest, trail = before ++ (m, e) :: rest → Safe (past ++ before) m e

private theorem safeAfter_nil : SafeAfter past [] := by
  intro before m e rest h
  simp at h

private theorem SafeAfter.append {t t' : List (Moment × Event)} (h : SafeAfter past t)
    (h' : SafeAfter (past ++ t) t') : SafeAfter past (t ++ t') := by
  intro before m e rest hsplit
  rcases List.append_eq_append_iff.mp hsplit with ⟨more, rfl, hrest⟩ | ⟨more, hbefore, hrest⟩
  · have hsafe := h' more m e rest hrest
    rwa [List.append_assoc] at hsafe
  · cases more with
    | nil =>
      rw [List.append_nil] at hbefore
      rw [List.nil_append] at hrest
      have hsafe := h' [] m e rest hrest.symm
      rwa [List.append_nil, hbefore] at hsafe
    | cons entry more =>
      rcases List.cons.inj hrest with ⟨rfl, -⟩
      exact h before m e more hbefore

/-- No move of an operation disturbs an open pass. -/
theorem Trail.safeAfter {t : List (Moment × Event)} (h : Trail op m t m') (hm : Sound m)
    (hpast : Remembers past m) : SafeAfter past t ∧ Remembers (past ++ t) m' := by
  induction h generalizing past with
  | nil m =>
    rw [List.append_nil]
    exact ⟨safeAfter_nil, hpast⟩
  | @cons m m' m'' e t hmove _ ih =>
    rcases ih (hmove.sound hm) (hmove.remembers hm hpast) with ⟨hsafe, hremembers⟩
    have hfirst : SafeAfter past [(m, e)] := by
      intro before m₁ e₁ rest hsplit
      cases before with
      | nil =>
        rcases List.cons.inj hsplit with ⟨heq, -⟩
        rcases Prod.mk.inj heq with ⟨rfl, rfl⟩
        rw [List.append_nil]
        exact hmove.safe hm hpast
      | cons entry before => simp at hsplit
    refine ⟨hfirst.append hsafe, ?_⟩
    rwa [List.append_assoc] at hremembers

/-- No move of several operations disturbs an open pass. -/
theorem Chronicle.safeAfter {b : Backend} {ops : List Operation} {t : List (Moment × Event)}
    (h : Chronicle b ops t) (hm : Sound ⟨b, []⟩) (hpast : Remembers past ⟨b, []⟩) :
    SafeAfter past t := by
  induction h generalizing past with
  | nil b => exact safeAfter_nil
  | cons htrail _ ih =>
    rcases htrail.safeAfter hm hpast with ⟨hsafe, hremembers⟩
    exact hsafe.append (ih (htrail.sound hm) hremembers)

/-- A new backend has no past. -/
theorem remembers_onDevice (d : Device) (s : Config.Settings) :
    Remembers [] ⟨onDevice d s, []⟩ where
  launched := fun _ hp => absurd hp List.not_mem_nil
  origin := by
    intro id x hx
    have hnone : (onDevice d s).tensors.resource? id = none := rfl
    rw [hnone] at hx
    cases hx
  uploaded := fun _ _ _ _ hmem => absurd hmem List.not_mem_nil

/-- Every session on a new backend is carried out in moves, and however that is done, no move hands
out, takes back or writes to a buffer that an open pass binds, and none of these buffers is free.
Open passes have different outputs, and none reads its own.  So when the encoder is submitted, each
pass finds the uniform block that was packed by the operation that ran its job, and in the buffers of
its operands the values that were uploaded to them. -/
theorem open_passes_undisturbed (d : Device) (s : Config.Settings) (ops : List Operation) :
    (∃ trail, Chronicle (onDevice d s) ops trail) ∧
      (∀ trail, Chronicle (onDevice d s) ops trail →
        ∀ past m e rest, trail = past ++ (m, e) :: rest →
          (∀ p ∈ m.openPasses, Undisturbed m e p) ∧
          (m.openPasses.map fun p => p.bindings.head?).Nodup ∧
          ∀ passes, e = .submit passes → passes = m.openPasses ∧
            ∀ p ∈ passes, (∃ j, .run j ∈ ops ∧ Launched past j p) ∧ Provided past m p) ∧
      ∀ p ∈ ((onDevice d s).after ops).encoder.getD [],
        Undisturbed ⟨(onDevice d s).after ops, []⟩ .other p := by
  have hnew := sound_onDevice d s
  refine ⟨exists_chronicle hnew ops, fun trail htrail past m e rest hsplit => ?_, fun p hp => ?_⟩
  · have hsafe := htrail.safeAfter hnew (remembers_onDevice d s) past m e rest hsplit
    rw [List.nil_append] at hsafe
    refine ⟨hsafe.undisturbed, hsafe.outputs, fun passes he => ?_⟩
    rcases hsafe.submitted passes he with ⟨hpasses, hprovided⟩
    refine ⟨hpasses, fun p hp => ?_⟩
    rcases hprovided p hp with ⟨⟨j, m₀, k, hmem, hlaunched⟩, hprovided⟩
    have hmem' : (m₀, .record j k p) ∈ trail := hsplit ▸ List.mem_append_left _ hmem
    exact ⟨⟨j, htrail.records_run hmem', m₀, k, hmem, hlaunched⟩, hprovided⟩
  · have hm := sound_after d s ops
    refine ⟨fun buffer hbuffer => ?_, nofun, hm.output_apart hp⟩
    rcases hm.exists_owned hp hbuffer with ⟨x, hx, rfl⟩
    exact hm.not_free (List.mem_append_left _ hx)

end ComputeKernels.Backend

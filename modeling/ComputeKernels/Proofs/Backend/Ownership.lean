import ComputeKernels.Proofs.Backend.Moves
import ComputeKernels.Proofs.Buffer.Ledger
import ComputeKernels.Proofs.Device.Contents
import ComputeKernels.Proofs.Shape.Counts
import ComputeKernels.Proofs.Tensor.ValueCounts

/-!
# Ownership of buffers

Each buffer that the pool has handed out has one owner: a tensor, the batch, which keeps the uniform
blocks of the open passes, or the operation under way.  What an open pass binds belongs to tensors
that the encoder refers to, or to the batch, and stays there until the encoder is submitted.

Main results:

- Theorem `Sound.owned_ne_held`: what has an owner differs from what the operation holds.
- Theorem `KeyFor.eq_of_lt`: the key of a tensor follows from its shape if its bytes fit 64 bits.
- Theorem `Move.sound`: every move keeps all of this.
- Theorem `Trail.sound`: so does every operation.
-/

namespace ComputeKernels.Backend

open Tensor Buffer Device

/-! ## Recording a pass -/

section Recorded

variable {r : Record} {pass : Pass} {uniform : Allocation} {b : Backend}

@[simp]
theorem recorded_tensors : (recorded r pass uniform b).tensors = (b.tensors.insert r).2 :=
  rfl

@[simp]
theorem recorded_encoder :
    (recorded r pass uniform b).encoder = some (b.encoder.getD [] ++ [pass]) :=
  rfl

@[simp]
theorem recorded_touched : (recorded r pass uniform b).batch.touched =
    b.batch.touched ++ (pass.inputs ++ [pass.output]) := by
  change b.batch.beginPass.2.touched ++ _ = _
  rw [Submission.Batch.beginPass]
  cases b.batch.stage <;> rfl

@[simp]
theorem recorded_uniforms : (recorded r pass uniform b).batch.uniforms =
    b.batch.uniforms ++ [uniform] := by
  change b.batch.beginPass.2.uniforms ++ _ = _
  rw [Submission.Batch.beginPass]
  cases b.batch.stage <;> rfl

@[simp]
theorem recorded_passes : (recorded r pass uniform b).batch.passes = b.batch.passes + 1 := by
  change b.batch.beginPass.2.passes + 1 = _
  rw [Submission.Batch.beginPass]
  cases b.batch.stage <;> rfl

/-- Adding a pass to the encoder writes to no buffer and makes none. -/
theorem encode_device : (encode pass b).2.device.memory = b.device.memory ∧
    (encode pass b).2.device.next = b.device.next := by
  simp only [encode, Action.update]
  cases b.encoder with
  | none => exact ⟨rfl, rfl⟩
  | some passes => exact ⟨rfl, rfl⟩

@[simp]
theorem recorded_memory : (recorded r pass uniform b).device.memory = b.device.memory := by
  change (encode pass { b with tensors := (b.tensors.insert r).2 }).2.device.memory = _
  exact encode_device.1

@[simp]
theorem recorded_next : (recorded r pass uniform b).device.next = b.device.next := by
  change (encode pass { b with tensors := (b.tensors.insert r).2 }).2.device.next = _
  exact encode_device.2

end Recorded

/-! ## Buffers in stock -/

/-- The pool and the device agree on which buffers there are. -/
structure Stocked (b : Backend) : Prop where
  live : b.disposed = false
  poolLive : b.pool.disposed = false
  pool : b.pool.Sound
  cells : ∀ x ∈ b.pool.all, b.device.memory.key? x.buffer = some x.key
  lt_next : ∀ x ∈ b.pool.all, x.buffer < b.device.next

namespace Stocked

variable {b b' : Backend}

/-- Changes that neither move nor make buffers keep the stock. -/
theorem of_eq (hb : Stocked b) (hdisposed : b'.disposed = b.disposed) (hpool : b'.pool = b.pool)
    (hkeys : ∀ buffer, b'.device.memory.key? buffer = b.device.memory.key? buffer)
    (hnext : b'.device.next = b.device.next) : Stocked b' where
  live := hdisposed.trans hb.live
  poolLive := by rw [hpool]; exact hb.poolLive
  pool := by rw [hpool]; exact hb.pool
  cells := by
    intro x hx
    rw [hpool] at hx
    rw [hkeys]
    exact hb.cells x hx
  lt_next := by
    intro x hx
    rw [hpool] at hx
    rw [hnext]
    exact hb.lt_next x hx

/-- Tensors and passes are no part of the stock. -/
theorem frame (hb : Stocked b) (tensors : Registry) (batch : Submission.Batch Allocation) :
    Stocked { b with tensors, batch } :=
  hb.of_eq rfl rfl (fun _ => rfl) rfl

variable {key : PoolKey} {x : Allocation} {pool : Pool} {device : Device}

private theorem handOut (hb : Stocked b)
    (h : b.pool.acquire Device.allocator b.device key = (.ok x, pool, device)) :
    Stocked { b with pool, device } := by
  have hlive : pool.disposed = false := (Pool.disposed_acquire h).trans hb.poolLive
  have hkey : x.key = key := (Pool.acquire_eq_ok h).2.1
  rcases Pool.all_acquire hb.pool.keyed h with ⟨hall, rfl⟩ | ⟨hall, hnew⟩
  · refine ⟨hb.live, hlive, ?_, ?_, ?_⟩
    · apply hb.pool.acquire h
      intro hallocate hmem
      rcases List.mem_map.mp hmem with ⟨y, hy, hxy⟩
      exact Nat.ne_of_lt (hb.lt_next y hy) (hxy.trans (allocate_eq_ok hallocate).1)
    · exact fun y hy => hb.cells y (hall.mem_iff.mp hy)
    · exact fun y hy => hb.lt_next y (hall.mem_iff.mp hy)
  · rcases allocate_eq_ok hnew with ⟨hbuffer, hnext, hmemory⟩
    refine ⟨hb.live, hlive, ?_, ?_, ?_⟩
    · apply hb.pool.acquire h
      intro _ hmem
      rcases List.mem_map.mp hmem with ⟨y, hy, hxy⟩
      exact Nat.ne_of_lt (hb.lt_next y hy) (hxy.trans hbuffer)
    · intro y hy
      change device.memory.key? y.buffer = some y.key
      rw [hmemory]
      rcases List.mem_cons.mp (hall.mem_iff.mp hy) with rfl | hold
      · rw [hbuffer, Memory.key?_set_self, hkey]
      · rw [Memory.key?_set_of_ne (Nat.ne_of_lt (hb.lt_next y hold))]
        exact hb.cells y hold
    · intro y hy
      change y.buffer < device.next
      rw [hnext]
      rcases List.mem_cons.mp (hall.mem_iff.mp hy) with rfl | hold
      · exact Nat.lt_succ_of_le (Nat.le_of_eq hbuffer)
      · exact Nat.lt_succ_of_lt (hb.lt_next y hold)

private theorem takeBack (hb : Stocked b) (h : b.pool.release x = .ok pool) :
    Stocked { b with pool } where
  live := hb.live
  poolLive := (Pool.disposed_release h).trans hb.poolLive
  pool := hb.pool.release h
  cells := fun y hy => hb.cells y ((Pool.all_release hb.pool.keyed h).mem_iff.mp hy)
  lt_next := fun y hy => hb.lt_next y ((Pool.all_release hb.pool.keyed h).mem_iff.mp hy)

/-- Handing out a buffer leaves the contents of all others alone. -/
theorem contents_handOut (hb : Stocked b)
    (h : b.pool.acquire Device.allocator b.device key = (.ok x, pool, device)) {y : Allocation}
    (hy : y ∈ b.pool.all) :
    device.memory.contents y.buffer = b.device.memory.contents y.buffer := by
  rcases Pool.all_acquire hb.pool.keyed h with ⟨-, rfl⟩ | ⟨-, hnew⟩
  · rfl
  · rw [(allocate_eq_ok hnew).2.2]
    exact Memory.contents_set_of_ne (Nat.ne_of_lt (hb.lt_next y hy)) _

end Stocked

/-! ## Registered tensors -/

/-- More bytes are rounded up to no less. -/
theorem storageSize_mono {m n : Nat} (h : m ≤ n) : storageSize m ≤ storageSize n := by
  unfold storageSize alignUp gapTo
  omega

/-- The key of a buffer that was made for a tensor: for the bytes of its values, or for as many bytes
as the host computes for the output of a pass. -/
def KeyFor (r : Record) (key : PoolKey) : Prop :=
  key = tensorKey (4 * r.count) ∨ key = tensorKey (Word.wrap (4 * r.count))

namespace KeyFor

variable {r : Record} {key : PoolKey}

/-- A buffer is as large as the transfer that the host computes for it. -/
theorem le_size (h : KeyFor r key) : storageSize (Word.wrap (4 * r.count)) ≤ key.size := by
  rcases h with rfl | rfl
  · exact storageSize_mono (Word.wrap_le _)
  · exact Nat.le_refl _

/-- The sizes that buffers of tensors have. -/
theorem size_eq (h : KeyFor r key) :
    key.size = storageSize (4 * r.count) ∨ key.size = storageSize (Word.wrap (4 * r.size)) := by
  have hwrap : Word.wrap (4 * r.count) = Word.wrap (4 * r.size) := by
    rw [Record.count, Shape.count_eq_wrap_size, Nat.mul_comm, Word.wrap_wrap_mul, Nat.mul_comm]
    rfl
  rw [← hwrap]
  exact h.imp (congrArg PoolKey.size) (congrArg PoolKey.size)

end KeyFor

/-- A buffer was made for its tensor, and values that may still be uploaded are as many as the host
counts in its shape. -/
structure Fitting (r : Record) : Prop where
  key : ∀ x, r.resource = some x → KeyFor r x.key
  count : r.resource = none → ∀ v, r.values = some v → v.count = r.count

/-- All tensors have buffers and values that fit them. -/
structure Registered (b : Backend) : Prop where
  sound : b.tensors.Sound
  fitting : ∀ id r, b.tensors.get id = .ok r → Fitting r

namespace Registered

variable {b b' : Backend} {id : TensorId} {r r' : Record}

private theorem of_eq (hb : Registered b) (h : b'.tensors = b.tensors) : Registered b' where
  sound := by rw [h]; exact hb.sound
  fitting := by rw [h]; exact hb.fitting

private theorem insert (hb : Registered b) (hr : Fitting r)
    (h : b'.tensors = (b.tensors.insert r).2) :
    Registered b' where
  sound := by rw [h]; exact hb.sound.insert r
  fitting := by
    intro id found hget
    rw [h, Registry.get_insert] at hget
    split at hget
    · cases hget
      exact hr
    · exact hb.fitting id found hget

private theorem put (hb : Registered b) (hget : b.tensors.get id = .ok r) (hr' : Fitting r')
    (h : b'.tensors = b.tensors.put id r') : Registered b' where
  sound := by rw [h]; exact hb.sound.put hget r'
  fitting := by
    intro id' found hfound
    rw [h, Registry.get_put] at hfound
    split at hfound
    · cases hfound
      exact hr'
    · exact hb.fitting id' found hfound

private theorem remove (hb : Registered b) (id : TensorId)
    (h : b'.tensors = (b.tensors.remove id).2) :
    Registered b' where
  sound := by rw [h]; exact hb.sound.remove id
  fitting := by
    intro id' found hfound
    rw [h, Registry.get_remove] at hfound
    split at hfound
    · cases hfound
    · exact hb.fitting id' found hfound

end Registered

/-! ## Encoded passes -/

/-- A pass binds the buffers of the tensors that it names, to which the encoder refers, and a uniform
block that holds the bytes of the pass. -/
structure Bound (b : Backend) (p : Pass) (uniform : Allocation) : Prop where
  wired : ∃ out operands, b.tensors.resource? p.output = some out ∧
    p.inputs.map b.tensors.resource? = operands.map some ∧
    p.bindings = (out :: operands ++ [uniform]).map Allocation.buffer
  touched : ∀ id ∈ p.inputs ++ [p.output], id ∈ b.batch.touched
  contents : p.uniforms <+: b.device.memory.contents uniform.buffer

/-- The batch keeps account of the open passes. -/
structure Encoded (b : Backend) : Prop where
  counted : b.batch.passes = b.batch.uniforms.length
  bound : List.Forall₂ (Bound b) (b.encoder.getD []) b.batch.uniforms
  outputs : ((b.encoder.getD []).map Pass.output).Nodup
  fresh : ∀ p ∈ b.encoder.getD [], p.output ∉ p.inputs
  idle : b.encoder = none → b.batch.touched = []

section Encoded

variable {b b' : Backend} {p : Pass} {uniform : Allocation}

/-- A pass stays bound while the tensors that it names keep their buffers and the uniform block its
contents. -/
theorem Bound.mono (h : Bound b p uniform)
    (htouched : ∀ id ∈ b.batch.touched, id ∈ b'.batch.touched)
    (hresource : ∀ id ∈ b.batch.touched, ∀ x, b.tensors.resource? id = some x →
      b'.tensors.resource? id = some x)
    (hcontents : b'.device.memory.contents uniform.buffer =
      b.device.memory.contents uniform.buffer) : Bound b' p uniform := by
  rcases h.wired with ⟨out, operands, hout, hoperands, hbindings⟩
  have hkept : p.inputs.map b'.tensors.resource? = operands.map some :=
    Registry.map_resource?_eq_of_kept hoperands fun id hid x hx =>
      hresource id (h.touched id (List.mem_append_left _ hid)) x hx
  refine ⟨⟨out, operands, ?_, hkept, hbindings⟩, ?_, ?_⟩
  · exact hresource p.output (h.touched _ (by simp)) out hout
  · exact fun id hid => htouched id (h.touched id hid)
  · rw [hcontents]
    exact h.contents

/-- All passes stay bound together. -/
theorem forall₂_bound_mono {passes : List Pass} {uniforms : List Allocation}
    (h : List.Forall₂ (Bound b) passes uniforms)
    (htouched : ∀ id ∈ b.batch.touched, id ∈ b'.batch.touched)
    (hresource : ∀ id ∈ b.batch.touched, ∀ x, b.tensors.resource? id = some x →
      b'.tensors.resource? id = some x)
    (hcontents : ∀ u ∈ uniforms, b'.device.memory.contents u.buffer =
      b.device.memory.contents u.buffer) : List.Forall₂ (Bound b') passes uniforms := by
  rcases List.forall₂_iff_zip.mp h with ⟨hlength, hbound⟩
  refine List.forall₂_iff_zip.mpr ⟨hlength, fun {p u} hpu => ?_⟩
  exact (hbound hpu).mono htouched hresource (hcontents u (List.of_mem_zip hpu).2)

namespace Encoded

/-- Changes that keep the encoder, the buffers of the tensors that it refers to and the contents of
the uniform blocks keep the account. -/
theorem of_kept (hb : Encoded b) (hencoder : b'.encoder = b.encoder)
    (hpasses : b'.batch.passes = b.batch.passes) (huniforms : b'.batch.uniforms = b.batch.uniforms)
    (htouched : b'.batch.touched = b.batch.touched)
    (hresource : ∀ id ∈ b.batch.touched, ∀ x, b.tensors.resource? id = some x →
      b'.tensors.resource? id = some x)
    (hcontents : ∀ u ∈ b.batch.uniforms, b'.device.memory.contents u.buffer =
      b.device.memory.contents u.buffer) : Encoded b' where
  counted := by rw [hpasses, huniforms]; exact hb.counted
  bound := by
    rw [hencoder, huniforms]
    exact forall₂_bound_mono hb.bound (fun id hid => htouched ▸ hid) hresource hcontents
  outputs := by rw [hencoder]; exact hb.outputs
  fresh := by rw [hencoder]; exact hb.fresh
  idle := by rw [hencoder, htouched]; exact hb.idle

/-- Tensors may change as long as those that the encoder refers to keep their buffers. -/
theorem with_tensors (hb : Encoded b) {tensors : Registry}
    (hresource : ∀ id ∈ b.batch.touched, ∀ x, b.tensors.resource? id = some x →
      tensors.resource? id = some x) : Encoded { b with tensors } :=
  hb.of_kept rfl rfl rfl rfl hresource fun _ _ => rfl

/-- The pool and the device may change as long as the uniform blocks keep their contents. -/
theorem with_device (hb : Encoded b) (pool : Pool) {device : Device}
    (hcontents : ∀ u ∈ b.batch.uniforms, device.memory.contents u.buffer =
      b.device.memory.contents u.buffer) : Encoded { b with pool, device } :=
  hb.of_kept rfl rfl rfl rfl (fun _ _ _ hx => hx) hcontents

/-- The outputs of the open passes have buffers. -/
theorem exists_output (hb : Encoded b) (hp : p ∈ b.encoder.getD []) :
    ∃ out, b.tensors.resource? p.output = some out := by
  rcases List.getElem_of_mem hp with ⟨i, hi, rfl⟩
  have hbound := hb.bound.get hi (hb.bound.length_eq ▸ hi)
  rcases hbound.wired with ⟨out, -, hout, -, -⟩
  exact ⟨out, hout⟩

/-- Recording a pass keeps the account if its output is new, its operands have buffers, and its
uniform block is filled. -/
theorem recorded {r : Record} {out : Allocation} {operands : List Allocation} (hb : Encoded b)
    (hregistry : b.tensors.Sound) (houtput : p.output = ⟨b.tensors.next⟩)
    (hout : r.resource = some out)
    (hoperands : p.inputs.map b.tensors.resource? = operands.map some)
    (hbindings : p.bindings = (out :: operands ++ [uniform]).map Allocation.buffer)
    (hcontents : p.uniforms <+: b.device.memory.contents uniform.buffer) :
    Encoded (recorded r p uniform b) := by
  have hkept {id : TensorId} {y : Allocation} (hy : b.tensors.resource? id = some y) :
      (b.tensors.insert r).2.resource? id = some y :=
    hregistry.resource?_insert_of_eq_some hy r
  have hold : List.Forall₂ (Bound (Backend.recorded r p uniform b)) (b.encoder.getD [])
      b.batch.uniforms :=
    forall₂_bound_mono hb.bound (fun id hid => by simp [hid]) (fun id _ y hy => hkept hy)
      (fun u _ => by rw [recorded_memory])
  have hnew : Bound (Backend.recorded r p uniform b) p uniform := by
    refine ⟨⟨out, operands, ?_, ?_, hbindings⟩, fun id hid => ?_, ?_⟩
    · rw [recorded_tensors, houtput, Registry.resource?_insert, if_pos rfl, hout]
    · exact Registry.map_resource?_eq_of_kept hoperands fun _ _ _ hy => hkept hy
    · rw [recorded_touched]
      exact List.mem_append_right _ hid
    · rw [recorded_memory]
      exact hcontents
  refine ⟨?_, ?_, ?_, ?_, ?_⟩
  · rw [recorded_passes, recorded_uniforms, List.length_append, hb.counted]
    rfl
  · rw [recorded_encoder, recorded_uniforms, Option.getD_some]
    exact List.rel_append hold (.cons hnew .nil)
  · rw [recorded_encoder, Option.getD_some, List.map_append, List.nodup_append]
    refine ⟨hb.outputs, List.nodup_singleton _, fun id hid id' hid' => ?_⟩
    rcases List.mem_map.mp hid with ⟨q, hq, rfl⟩
    obtain rfl := List.mem_singleton.mp hid'
    rcases hb.exists_output hq with ⟨y, hy⟩
    rw [houtput]
    exact hregistry.ne_next_of_resource? hy
  · intro q hq
    rw [recorded_encoder, Option.getD_some] at hq
    rcases List.mem_append.mp hq with hfirst | hlast
    · exact hb.fresh q hfirst
    · obtain rfl := List.mem_singleton.mp hlast
      intro hmem
      rcases Registry.exists_resource_of_mem hoperands hmem with ⟨y, -, hy⟩
      exact hregistry.ne_next_of_resource? hy houtput
  · intro hnone
    rw [recorded_encoder] at hnone
    cases hnone

/-- Without open passes there is nothing to account for. -/
theorem submitted (passes : List Pass) : Encoded (handOver passes b).2 where
  counted := rfl
  bound := .nil
  outputs := List.nodup_nil
  fresh := by simp [handOver]
  idle := fun _ => rfl

end Encoded

end Encoded

/-! ## Owners -/

/-- Buffers that have an owner or that the operation holds. -/
def Moment.owned (m : Moment) : List Allocation :=
  m.backend.tensors.resources ++ m.backend.batch.uniforms ++ m.held

/-- What holds at every moment of every operation. -/
structure Sound (m : Moment) : Prop where
  stocked : Stocked m.backend
  registered : Registered m.backend
  encoded : Encoded m.backend
  balanced : m.backend.pool.inUse.Perm m.owned

namespace Sound

variable {m : Moment} {x y : Allocation}

/-- What has an owner or is held is a buffer of the pool. -/
theorem mem_all (hm : Sound m) (hx : x ∈ m.owned) : x ∈ m.backend.pool.all :=
  List.mem_append_right _ (hm.balanced.mem_iff.mpr hx)

private theorem nodup_owned (hm : Sound m) : (m.owned.map Allocation.buffer).Nodup :=
  (hm.balanced.map _).nodup_iff.mp hm.stocked.pool.nodup_inUse

/-- What has an owner differs from what the operation holds. -/
theorem owned_ne_held (hm : Sound m)
    (hx : x ∈ m.backend.tensors.resources ++ m.backend.batch.uniforms) (hy : y ∈ m.held) :
    x.buffer ≠ y.buffer :=
  Pool.buffer_ne_of_nodup hm.nodup_owned hx hy

/-- Tensors and open passes share no buffer. -/
theorem nodup_kept (hm : Sound m) :
    ((m.backend.tensors.resources ++ m.backend.batch.uniforms).map Allocation.buffer).Nodup :=
  hm.nodup_owned.sublist ((List.sublist_append_left _ _).map _)

/-- The buffers of tensors differ from the uniform blocks of the open passes. -/
theorem resource_ne_uniform (hm : Sound m) (hx : x ∈ m.backend.tensors.resources)
    (hy : y ∈ m.backend.batch.uniforms) : x.buffer ≠ y.buffer :=
  Pool.buffer_ne_of_nodup hm.nodup_kept hx hy

/-- No two tensors own one buffer. -/
theorem nodup_resources (hm : Sound m) :
    (m.backend.tensors.resources.map Allocation.buffer).Nodup :=
  hm.nodup_kept.sublist ((List.sublist_append_left _ _).map _)

/-- The pool takes back what the operation holds. -/
theorem exists_release {b : Backend} {held : List Allocation} (hm : Sound ⟨b, x :: held⟩) :
    ∃ pool, b.pool.release x = .ok pool := by
  refine (Pool.exists_release_iff hm.stocked.pool.keyed).mpr ⟨hm.stocked.poolLive, ?_⟩
  exact hm.balanced.mem_iff.mpr (List.mem_append_right _ List.mem_cons_self)

/-- Without an open encoder there is no tensor that it refers to. -/
theorem not_touched {b : Backend} {held : List Allocation} (hm : Sound ⟨b, held⟩)
    (hencoder : b.encoder = none) (id : TensorId) : id ∉ b.batch.touched := by
  rw [hm.encoded.idle hencoder]
  exact List.not_mem_nil

/-! ## Moves that keep the owners -/

variable {b b' : Backend} {held : List Allocation} {id : TensorId} {r r' : Record}

/-- Quiet steps keep all of this. -/
theorem quiet (hm : Sound ⟨b, held⟩) (h : Quiet b b') : Sound ⟨b', held⟩ where
  stocked := hm.stocked.of_eq h.disposed h.pool (fun _ => by rw [h.memory]) h.next
  registered := hm.registered.of_eq h.tensors
  encoded := hm.encoded.of_kept h.encoder (by rw [h.batch]) (by rw [h.batch]) (by rw [h.batch])
    (fun id _ x hx => by rw [h.tensors]; exact hx) (fun u _ => by rw [h.memory])
  balanced := by
    unfold Moment.owned
    rw [h.pool, h.tensors, h.batch]
    exact hm.balanced

private theorem add (hm : Sound ⟨b, held⟩) (hresource : r.resource = none)
    (hvalues : ∀ v, r.values = some v → v.count = r.count) :
    Sound ⟨{ b with tensors := (b.tensors.insert r).2 }, held⟩ where
  stocked := hm.stocked.frame _ _
  registered := by
    refine hm.registered.insert ⟨fun x hx => ?_, fun _ => hvalues⟩ rfl
    rw [hresource] at hx
    cases hx
  encoded := by
    refine hm.encoded.with_tensors fun id _ x hx => ?_
    exact hm.registered.sound.resource?_insert_of_eq_some hx r
  balanced := by
    have hresources := hm.registered.sound.resources_insert r
    rw [hresource] at hresources
    exact hm.balanced.trans ((hresources.symm.append_right _).append_right _)

private theorem amend (hm : Sound ⟨b, held⟩) (hget : b.tensors.get id = .ok r)
    (hshape : r'.shape = r.shape)
    (hresource : r'.resource = r.resource) (hvalues : r.resource = none → r'.values = r.values) :
    Sound ⟨{ b with tensors := b.tensors.put id r' }, held⟩ where
  stocked := hm.stocked.frame _ _
  registered := by
    have hold := hm.registered.fitting id r hget
    have hcount : r'.count = r.count := congrArg Shape.count hshape
    refine hm.registered.put hget ⟨fun x hx => ?_, fun hnone v hv => ?_⟩ rfl
    · rw [KeyFor, hcount]
      exact hold.key x (hresource ▸ hx)
    · rw [hresource] at hnone
      rw [hcount]
      exact hold.count hnone v (hvalues hnone ▸ hv)
  encoded := by
    refine hm.encoded.with_tensors fun id' _ x hx => ?_
    exact Registry.resource?_put_of_eq_some hget hresource.trans hx
  balanced := by
    have hresources := hm.registered.sound.resources_put id r'
    rw [hresource] at hresources
    have hsame := hresources.trans (hm.registered.sound.resources_perm hget).symm
    exact hm.balanced.trans ((hsame.symm.append_right _).append_right _)

private theorem defer (hm : Sound ⟨b, held⟩) (id : TensorId) :
    Sound ⟨{ b with batch := b.batch.defer id }, held⟩ := by
  unfold Submission.Batch.defer
  split
  · exact hm
  · exact {
      stocked := hm.stocked.frame _ _
      registered := hm.registered.of_eq rfl
      encoded := hm.encoded.of_kept rfl rfl rfl rfl (fun _ _ _ hx => hx) (fun _ _ => rfl)
      balanced := hm.balanced }

private theorem finish (hm : Sound ⟨b, held⟩) :
    Sound ⟨{ b with batch := b.batch.finishSubmit }, held⟩ where
  stocked := hm.stocked.frame _ _
  registered := hm.registered.of_eq rfl
  encoded := hm.encoded.of_kept rfl rfl rfl rfl (fun _ _ _ hx => hx) (fun _ _ => rfl)
  balanced := hm.balanced

/-! ## Moves of owners -/

variable {x : Allocation} {key : PoolKey} {pool : Pool} {device : Device}

/-- The uniform blocks of the open passes are buffers of the pool. -/
theorem uniform_mem_all (hm : Sound m) (hx : x ∈ m.backend.batch.uniforms) :
    x ∈ m.backend.pool.all :=
  hm.mem_all (List.mem_append_left _ (List.mem_append_right _ hx))

private theorem forget (hm : Sound ⟨b, held⟩) (hget : b.tensors.get id = .ok r)
    (huntouched : id ∉ b.batch.touched) :
    Sound ⟨{ b with tensors := (b.tensors.remove id).2 }, r.resource.toList ++ held⟩ where
  stocked := hm.stocked.frame _ _
  registered := hm.registered.remove id rfl
  encoded := by
    refine hm.encoded.with_tensors fun id' hid' x hx => ?_
    have hne : id' ≠ id := by
      rintro rfl
      exact huntouched hid'
    exact Registry.resource?_remove.trans ((if_neg hne).trans hx)
  balanced := by
    have hresources := hm.registered.sound.resources_remove hget
    have howned := hm.balanced
    rw [List.perm_iff_count] at hresources howned ⊢
    intro y
    have hy := hresources y
    have hall := howned y
    simp only [Moment.owned, List.count_append] at hy hall ⊢
    omega

/-- A buffer that the pool hands out is held. -/
theorem handOut (hm : Sound ⟨b, held⟩)
    (h : b.pool.acquire Device.allocator b.device key = (.ok x, pool, device)) :
    Sound ⟨{ b with pool, device }, x :: held⟩ where
  stocked := hm.stocked.handOut h
  registered := hm.registered.of_eq rfl
  encoded := hm.encoded.with_device _ fun u hu =>
    hm.stocked.contents_handOut h (hm.uniform_mem_all hu)
  balanced := by
    have hin := Pool.inUse_acquire hm.stocked.pool.keyed h
    exact hin.trans ((hm.balanced.cons x).trans List.perm_middle.symm)

private theorem takeBack (hm : Sound ⟨b, x :: held⟩) (h : b.pool.release x = .ok pool) :
    Sound ⟨{ b with pool }, held⟩ where
  stocked := hm.stocked.takeBack h
  registered := hm.registered.of_eq rfl
  encoded := hm.encoded.with_device _ fun _ _ => rfl
  balanced := by
    have hout := Pool.inUse_release hm.stocked.pool.keyed h
    have howned := hm.balanced.trans List.perm_middle
    exact (List.perm_cons x).mp (hout.symm.trans howned)

/-! ## Moves of bytes -/

/-- Writing to a buffer without an owner disturbs nothing. -/
theorem write (hm : Sound ⟨b, held⟩) (hx : x ∈ held)
    (hkeys : ∀ buffer, device.memory.key? buffer = b.device.memory.key? buffer)
    (hcontents : ∀ buffer, buffer ≠ x.buffer →
      device.memory.contents buffer = b.device.memory.contents buffer)
    (hnext : device.next = b.device.next) : Sound ⟨{ b with device }, held⟩ where
  stocked := hm.stocked.of_eq rfl rfl hkeys hnext
  registered := hm.registered.of_eq rfl
  encoded := hm.encoded.with_device _ fun u hu =>
    hcontents u.buffer (hm.owned_ne_held (List.mem_append_right _ hu) hx)
  balanced := hm.balanced

private theorem fill (hm : Sound ⟨b, held⟩) (bytes : List UInt8) (hx : x ∈ held) :
    Sound ⟨{ b with device := b.device.write x.buffer bytes }, held⟩ :=
  hm.write hx (fun _ => Memory.key?_write _) (fun _ h => Memory.contents_write_of_ne h _) rfl

/-- Copying to a buffer that is held keeps all of this. -/
theorem copy (hm : Sound ⟨b, held⟩) (source : BufferId) (size : Nat) (hx : x ∈ held) :
    Sound ⟨{ b with device := b.device.copyOut source x.buffer size }, held⟩ :=
  hm.write hx (fun _ => Memory.key?_write _) (fun _ h => Memory.contents_write_of_ne h _) rfl

private theorem upload {v : Values} {bytes : List UInt8} (hm : Sound ⟨b, x :: held⟩)
    (hget : b.tensors.get id = .ok r) (hresource : r.resource = none) (hvalues : r.values = some v)
    (hbytes : v.deviceBytes = .ok bytes) (hkey : x.key = tensorKey bytes.length) :
    Sound ⟨{ b with tensors := b.tensors.put id { r with resource := some x } }, held⟩ where
  stocked := hm.stocked.frame _ _
  registered := by
    refine hm.registered.put hget ⟨fun y hy => ?_, fun hnone => ?_⟩ rfl
    · obtain rfl := Option.some.inj hy
      have hcount := (hm.registered.fitting id r hget).count hresource v hvalues
      refine .inl ?_
      rw [hkey, Values.length_deviceBytes hbytes, hcount]
      rfl
    · cases hnone
  encoded := by
    refine hm.encoded.with_tensors fun id' _ y hy => ?_
    refine Registry.resource?_put_of_eq_some hget (fun hold => ?_) hy
    rw [hresource] at hold
    cases hold
  balanced := by
    have hold := hm.registered.sound.resources_perm hget
    have hnew := hm.registered.sound.resources_put id { r with resource := some x }
    have howned := hm.balanced
    rw [hresource] at hold
    rw [List.perm_iff_count] at hold hnew howned ⊢
    intro y
    have hyold := hold y
    have hynew := hnew y
    have hyall := howned y
    simp only [Moment.owned, Option.toList_none, Option.toList_some, List.count_append,
      List.count_cons, List.count_nil] at hyold hynew hyall ⊢
    omega

/-! ## Moves of the encoder -/

private theorem record {k : Kernel} {j : Job} {pass : Pass} {out uniform : Allocation}
    {operands : List Allocation} (hm : Sound ⟨b, out :: uniform :: held⟩)
    (houtput : pass.output = ⟨b.tensors.next⟩)
    (hoperands : pass.inputs.map b.tensors.resource? = operands.map some)
    (hbindings : pass.bindings = (out :: operands ++ [uniform]).map Allocation.buffer)
    (hkey : out.key = tensorKey (Word.wrap (4 * Shape.count k.output.shape)))
    (hcontents : pass.uniforms <+: b.device.memory.contents uniform.buffer) :
    Sound ⟨recorded (outputRecord j k out) pass uniform b, held⟩ where
  stocked := hm.stocked.of_eq rfl rfl (fun _ => by rw [recorded_memory]) recorded_next
  registered := by
    refine hm.registered.insert ⟨fun y hy => ?_, fun hnone => ?_⟩ rfl
    · obtain rfl := Option.some.inj hy
      exact .inr hkey
    · cases hnone
  encoded :=
    hm.encoded.recorded hm.registered.sound houtput rfl hoperands hbindings hcontents
  balanced := by
    have hresources := hm.registered.sound.resources_insert (outputRecord j k out)
    have howned := hm.balanced
    rw [List.perm_iff_count] at hresources howned ⊢
    intro y
    have hyres := hresources y
    have hyall := howned y
    change List.count y b.pool.inUse = _
    simp only [Moment.owned, recorded_tensors, recorded_uniforms, outputRecord, Option.toList_some,
      List.count_append, List.count_cons, List.count_nil] at hyres hyall ⊢
    omega

private theorem submit (hm : Sound ⟨b, held⟩) (passes : List Pass) :
    Sound ⟨(handOver passes b).2, b.batch.uniforms ++ held⟩ where
  stocked := hm.stocked.of_eq rfl rfl (fun _ => Memory.key?_foldl_execute _) rfl
  registered := hm.registered.of_eq rfl
  encoded := .submitted passes
  balanced := by
    refine hm.balanced.trans (List.Perm.of_eq ?_)
    simp [Moment.owned, handOver, Submission.Batch.beginSubmit, Submission.Batch.emptied]

end Sound

/-! ## Runs -/

/-- Every move keeps each buffer with its owner. -/
theorem Move.sound {op : Operation} {m m' : Moment} {e : Event} (h : Move op m e m')
    (hm : Sound m) : Sound m' := by
  cases h with
  | quiet h => exact hm.quiet h
  | add hresource hvalues => exact hm.add hresource hvalues
  | amend hget _ hshape hresource hvalues => exact hm.amend hget hshape hresource hvalues
  | forget hget huntouched => exact hm.forget hget huntouched
  | defer id => exact hm.defer id
  | finish => exact hm.finish
  | handOut h => exact hm.handOut h
  | takeBack h => exact hm.takeBack h
  | fill bytes hx => exact hm.fill bytes hx
  | copy source size hx => exact hm.copy source size hx
  | upload hget hresource hvalues hbytes hkey _ =>
    exact hm.upload hget hresource hvalues hbytes hkey
  | record _ _ _ _ houtput hoperands hbindings hkey hcontents =>
    exact hm.record houtput hoperands hbindings hkey hcontents
  | submit h => exact hm.submit _

/-- So does every operation. -/
theorem Trail.sound {op : Operation} {m m' : Moment} {t : List (Moment × Event)}
    (h : Trail op m t m') (hm : Sound m) : Sound m' := by
  induction h with
  | nil m => exact hm
  | cons hmove _ ih => exact ih (hmove.sound hm)

end ComputeKernels.Backend

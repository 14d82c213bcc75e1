import ComputeKernels.Proofs.Backend.Atomicity
import ComputeKernels.Proofs.Backend.Settlement

/-!
# Operations as chains of changes

Every operation is a chain of changes of its backend, whether it succeeds or not, and also if it
removes a tensor by force.  Moves follow the buffers that an operation holds, and bookings follow
its references; changes say what stands in a record, and what came before a copy.  What every change
keeps is kept by every session.

Main results:

- Theorem `Chain.bind`: actions in sequence form one chain.
- Theorem `chain_step`: every operation is a chain of changes.
- Theorem `kept_after`: what every change keeps holds after every session.
- Theorem `Chain.descends`: the element, the shape and the parts of a tensor never change.
-/

namespace ComputeKernels.Backend

open Tensor Buffer Device

/-! ## Changes -/

/-- Values have the element type of a record, and fill its shape if its bytes fit 64 bits. -/
def Fills (v : Values) (r : Record) : Prop :=
  v.element = r.element ∧ (4 * r.size < 2 ^ 64 → v.count = r.size)

/-- The record of a complex tensor. -/
def pairRecord (shape : Shape) (real imag : TensorId) : Record where
  element := .complex64
  shape := shape
  parts := some (real, imag)

/-- Where an operation that pairs two tensors has the shape from: from the record of the real part,
or from the handle of it that the caller passed. -/
def PairShape (op : Operation) (b : Backend) (real : TensorId) (shape : Shape) : Prop :=
  (∃ r, b.tensors.get real = .ok r ∧ r.shape = shape) ∨
    ∃ handle other, op = .complex handle other ∧ handle.id = real ∧ handle.shape = shape

/-- A tensor is live and has a form on the device. -/
def Storable (b : Backend) (id : TensorId) : Prop :=
  ∃ r, b.tensors.get id = .ok r ∧ r.element ≠ .complex64

/-- Changes that an operation makes to its backend. -/
inductive Change (op : Operation) : Backend → Backend → Prop
  | quiet {b b' : Backend} (h : Quiet b b') : Change op b b'
  /-- A tensor without parts is added. -/
  | add {b : Backend} {r : Record} (hparts : r.parts = none) (hresource : r.resource = none)
      (hvalues : ∀ v, r.values = some v → Fills v r) :
      Change op b { b with tensors := (b.tensors.insert r).2 }
  | pair {b : Backend} {real imag : TensorId} {shape : Shape} (hreal : b.tensors.IsFloat real)
      (himag : b.tensors.IsFloat imag) (hshape : PairShape op b real shape) :
      Change op b { b with tensors := (b.tensors.insert (pairRecord shape real imag)).2 }
  | recount {b : Backend} {id : TensorId} {r : Record} (hget : b.tensors.get id = .ok r) (n : Nat) :
      Change op b { b with tensors := b.tensors.put id { r with references := n } }
  /-- A tensor gets a buffer for its values. -/
  | attach {b : Backend} {id : TensorId} {r : Record} {v : Values} {bytes : List UInt8}
      (hget : b.tensors.get id = .ok r) (hvalues : r.values = some v)
      (hbytes : v.deviceBytes = .ok bytes) (x : Allocation) :
      Change op b { b with tensors := b.tensors.put id { r with resource := some x } }
  /-- A tensor keeps the values that were read. -/
  | keep {b : Backend} {id : TensorId} {r : Record} {v : Values} (hget : b.tensors.get id = .ok r)
      (hvalues : Fills v r) :
      Change op b { b with tensors := b.tensors.put id { r with values := some v } }
  | forget {b : Backend} (id : TensorId) :
      Change op b { b with tensors := (b.tensors.remove id).2 }
  /-- The removal of a tensor is put off. -/
  | park {b : Backend} {id : TensorId} (htouched : id ∈ b.batch.touched) :
      Change op b { b with batch := b.batch.defer id }
  | finish {b : Backend} : Change op b { b with batch := b.batch.finishSubmit }
  | handOut {b : Backend} {key : PoolKey} {x : Allocation} {pool : Pool} {device : Device}
      (h : b.pool.acquire Device.allocator b.device key = (.ok x, pool, device)) :
      Change op b { b with pool, device }
  | takeBack {b : Backend} {x : Allocation} {pool : Pool} (h : b.pool.release x = .ok pool) :
      Change op b { b with pool }
  | fill {b : Backend} (buffer : BufferId) (bytes : List UInt8) :
      Change op b { b with device := b.device.write buffer bytes }
  /-- A part of a buffer is copied to another one, while no encoder is open. -/
  | copy {b : Backend} {x y : Allocation} {size : Nat} (hencoder : b.encoder = none)
      (hx : x ∈ b.pool.all) (hy : y ∈ b.pool.all) (hxsize : size ≤ x.key.size)
      (hysize : size ≤ y.key.size) :
      Change op b { b with device := b.device.copyOut x.buffer y.buffer size }
  /-- A pass is recorded that computes a new tensor from others, none of them complex. -/
  | record {b : Backend} {j : Job} {k : Kernel} {pass : Pass} {out uniform : Allocation}
      (houtput : pass.output = ⟨b.tensors.next⟩) (helement : j.element ≠ .complex64)
      (hinputs : ∀ id ∈ pass.inputs, Storable b id) :
      Change op b (recorded (outputRecord j k out) pass uniform b)
  | submit {b : Backend} {passes : List Pass} (h : b.encoder = some passes) :
      Change op b (handOver passes b).2

/-- Some changes in a row. -/
abbrev Chain (op : Operation) : Backend → Backend → Prop := Relation.ReflTransGen (Change op)

variable {op : Operation} {b b' : Backend} {id : TensorId} {α β : Type}

/-! ## Actions in sequence -/

namespace Chain

variable {x : Action α} {f : α → Action β}

private theorem of_eq (h : b' = b) : Chain op b b' := h ▸ .refl

/-- Actions in sequence form one chain. -/
theorem bind (hx : Chain op b (x b).2)
    (hf : ∀ a b', x b = (.ok a, b') → Chain op b' (f a b').2) : Chain op b ((x >>= f) b).2 := by
  cases hresult : x b with
  | mk r b' =>
    rw [hresult] at hx
    cases r with
    | error e =>
      rw [Action.bind_apply_error hresult]
      exact hx
    | ok a =>
      rw [Action.bind_apply_ok hresult]
      exact hx.trans (hf a b' hresult)

/-- A first step that changes nothing. -/
theorem bind_same (hx : (x b).2 = b) (hf : ∀ a, x b = (.ok a, b) → Chain op b (f a b).2) :
    Chain op b ((x >>= f) b).2 := by
  refine bind (.of_eq hx) fun a b' hresult => ?_
  obtain rfl : b' = b := by rw [← hx, hresult]
  exact hf a hresult

/-- A first step that is known to succeed. -/
theorem bind_to {a : α} (hx : x b = (.ok a, b')) (hfirst : Chain op b b')
    (hf : Chain op b' (f a b').2) : Chain op b ((x >>= f) b).2 := by
  rw [Action.bind_apply_ok hx]
  exact hfirst.trans hf

private theorem bind_live {f : Unit → Action β} (hf : b.disposed = false → Chain op b (f () b).2) :
    Chain op b ((Action.live >>= f) b).2 := by
  cases hlive : b.disposed with
  | true =>
    have hrefused : Action.live b = (.error .disposed, b) := live_of_disposed hlive
    rw [Action.bind_apply_error hrefused]
  | false => exact bind_same rfl fun _ _ => hf hlive

private theorem bind_of {r : Except KernelError α} (hf : ∀ a, r = .ok a → Chain op b (f a b).2) :
    Chain op b ((Action.of r >>= f) b).2 :=
  bind_same rfl fun a ha => hf a (congrArg Prod.fst ha)

private theorem bind_record {f : Record → Action β}
    (hf : ∀ r, b.tensors.get id = .ok r → Chain op b (f r b).2) :
    Chain op b ((Action.record id >>= f) b).2 :=
  bind_same rfl fun r hr => hf r (congrArg Prod.fst hr)

/-- The value of an action may be changed afterwards. -/
theorem map {g : α → β} (hx : Chain op b (x b).2) : Chain op b ((g <$> x) b).2 :=
  bind hx fun _ _ _ => .refl

end Chain

/-! ## Buffers -/

private theorem chain_acquire (key : PoolKey) : Chain op b (Action.acquire key b).2 := by
  obtain ⟨r, pool, device, hacquire⟩ : ∃ r pool device,
      b.pool.acquire Device.allocator b.device key = (r, pool, device) := ⟨_, _, _, rfl⟩
  simp only [Action.acquire, hacquire]
  cases r with
  | ok x => exact .single (.handOut hacquire)
  | error e =>
    rcases acquire_refused hacquire with ⟨-, rfl, rfl⟩
    exact .refl

private theorem chain_release (x : Allocation) : Chain op b (Action.release x b).2 := by
  unfold Action.release
  split
  · next pool hrelease => exact .single (.takeBack hrelease)
  · exact .refl

/-- Taking two buffers is taking one and then the other, which may go back. -/
theorem chain_acquireBoth (uniformKey outputKey : PoolKey) :
    Chain op b (acquireBoth uniformKey outputKey b).2 := by
  obtain ⟨r, pool, device, hfirst⟩ : ∃ r pool device,
      b.pool.acquire Device.allocator b.device uniformKey = (r, pool, device) := ⟨_, _, _, rfl⟩
  cases r with
  | error e =>
    have hall : b.pool.acquireAll Device.allocator b.device [uniformKey, outputKey] =
        (.error e, pool, device) := by
      simp only [Pool.acquireAll, Pool.acquireAfter, hfirst, Pool.releaseAll]
    rcases acquire_refused hfirst with ⟨-, rfl, rfl⟩
    rw [acquireBoth_of_error hall]
  | ok uniform =>
    refine .head (.handOut hfirst) ?_
    obtain ⟨r, pool', device', hsecond⟩ : ∃ r pool' device',
        pool.acquire Device.allocator device outputKey = (r, pool', device') := ⟨_, _, _, rfl⟩
    cases r with
    | ok output =>
      have hall : b.pool.acquireAll Device.allocator b.device [uniformKey, outputKey] =
          (.ok [uniform, output], pool', device') := by
        simp only [Pool.acquireAll, Pool.acquireAfter, hfirst, hsecond, List.nil_append,
          List.cons_append]
      rw [acquireBoth_of_ok hall]
      exact .single (.handOut hsecond)
    | error e =>
      rcases acquire_refused hsecond with ⟨-, rfl, rfl⟩
      cases hrelease : pool'.release uniform with
      | ok pool'' =>
        have hall : b.pool.acquireAll Device.allocator b.device [uniformKey, outputKey] =
            (.error e, pool'', device') := by
          simp only [Pool.acquireAll, Pool.acquireAfter, hfirst, hsecond, List.nil_append,
            Pool.releaseAll, hrelease]
        rw [acquireBoth_of_error hall]
        exact .single (.takeBack hrelease)
      | error e' =>
        have hall : b.pool.acquireAll Device.allocator b.device [uniformKey, outputKey] =
            (.error e', pool', device') := by
          simp only [Pool.acquireAll, Pool.acquireAfter, hfirst, hsecond, List.nil_append,
            Pool.releaseAll, hrelease]
        rw [acquireBoth_of_error hall]

/-! ## Making tensors -/

/-- Values of which there are as many as the host counts fill the shape. -/
theorem fills_of_count {v : Values} {r : Record} (helement : v.element = r.element)
    (hcount : v.count = r.count) : Fills v r := by
  refine ⟨helement, fun hlt => hcount.trans (Shape.count_of_lt ?_)⟩
  change r.size < 2 ^ 64
  omega

/-- Values from the device fill the shape. -/
theorem fills_ofDeviceBytes {v : Values} {r : Record} {bytes : List UInt8}
    (h : Values.ofDeviceBytes r.element bytes r.count Word.wrap = .ok v) : Fills v r := by
  refine ⟨(Values.formed_ofDeviceBytes h).1, fun hlt => ?_⟩
  have hcount : r.count = r.size := Shape.count_of_lt (by change r.size < _; omega)
  rw [hcount] at h
  exact (Values.filled_ofDeviceBytes (Word.wrap_of_lt hlt) h).2

private theorem fills_some {v : Values} {r : Record} (hvalues : r.values = some v) (h : Fills v r) :
    ∀ found, r.values = some found → Fills found r := by
  intro found hfound
  obtain rfl := Option.some.inj (hvalues.symm.trans hfound)
  exact h

private theorem chain_write (values : Values) (shape : Shape) :
    Chain op b (write values shape b).2 := by
  unfold write
  refine .bind_live fun _ => .bind_of fun _ hshape => ?_
  have hcount : values.count = Shape.count shape := Values.count_eq_of_checkShape hshape
  have hplain {v : Values} (hv : v.count = Shape.count shape) : Change op b { b with
      tensors := (b.tensors.insert { element := v.element, shape, values := some v }).2 } :=
    .add rfl rfl (fills_some rfl (fills_of_count rfl hv))
  cases values with
  | float32 bits => exact .bind_to rfl (.single (hplain hcount)) .refl
  | int32 ints => exact .bind_to rfl (.single (hplain hcount)) .refl
  | bool flags => exact .bind_to rfl (.single (hplain hcount)) .refl
  | complex64 bits =>
    refine .bind_of fun parts hparts => ?_
    rcases parts with ⟨re, im⟩
    rcases Values.length_parts hparts with ⟨hre, him⟩
    let real : Record := { element := .float32, shape, values := some (.float32 re) }
    let imag : Record := { element := .float32, shape, values := some (.float32 im) }
    let b₁ : Backend := { b with tensors := (b.tensors.insert real).2 }
    let b₂ : Backend := { b₁ with tensors := (b₁.tensors.insert imag).2 }
    have hne : (⟨b.tensors.next⟩ : TensorId) ≠ ⟨b₁.tensors.next⟩ := by
      simp [b₁, Registry.insert]
    have hgetReal : b₂.tensors.get ⟨b.tensors.next⟩ = .ok real := by
      rw [Registry.get_insert, if_neg hne, Registry.get_insert, if_pos rfl]
    have hgetImag : b₂.tensors.get ⟨b₁.tensors.next⟩ = .ok imag := by
      rw [Registry.get_insert, if_pos rfl]
    have hfirst : Change op b b₁ :=
      .add rfl rfl (fills_some rfl (fills_of_count rfl (hre.trans hcount)))
    have hsecond : Change op b₁ b₂ :=
      .add rfl rfl (fills_some rfl (fills_of_count rfl (him.trans hcount)))
    have hshape : PairShape op b₂ ⟨b.tensors.next⟩ shape := .inl ⟨real, hgetReal, rfl⟩
    have hthird := Change.pair ⟨real, hgetReal, rfl⟩ ⟨imag, hgetImag, rfl⟩ hshape
    exact .bind_to rfl (.single hfirst) (.bind_to rfl (.single hsecond)
      (.bind_to rfl (.single hthird) .refl))

private theorem chain_make (shape : Shape) (element : ElementType) (values : Option Values) :
    Chain op b (make shape element values b).2 := by
  unfold make
  refine .bind_live fun _ => ?_
  cases values with
  | none => exact .bind_to rfl (.single (.add rfl rfl nofun)) .refl
  | some v =>
    by_cases helement : v.element = element
    · simp only [helement, if_true]
      exact chain_write v shape
    · simp only [helement, if_false]
      exact .refl

private theorem chain_retain (id : TensorId) : Chain op b (Action.retain id b).2 := by
  cases hget : b.tensors.get id with
  | error e =>
    have hretain : Action.retain id b = (.error e, b) := by
      simp only [Action.retain, Registry.retain, hget]
      rfl
    rw [hretain]
  | ok r =>
    rw [retain_apply hget]
    exact .single (.recount hget _)

private theorem chain_complex (real imag : Handle) :
    Chain (.complex real imag) b (complex real imag b).2 := by
  have hdiscard {x : Action Nat} {n : Nat} {b b' : Backend} (hx : x b = (.ok n, b')) :
      (Functor.discard x : Action PUnit) b = (.ok ⟨⟩, b') := Action.bind_apply_ok hx
  unfold complex
  refine .bind_live fun _ => ?_
  rcases checkPart_eq real b with ⟨e, he⟩ | ⟨hreal, hfloat⟩
  · rw [Action.bind_apply_error he]
  refine .bind_to hreal .refl ?_
  rcases checkPart_eq imag b with ⟨e, he⟩ | ⟨himag, hfloat'⟩
  · rw [Action.bind_apply_error he]
  refine .bind_to himag .refl ?_
  by_cases hshape : real.shape = imag.shape
  case neg =>
    simp only [hshape, if_false]
    exact .refl
  simp only [hshape, if_true]
  obtain ⟨r, hget, -⟩ := id hfloat
  let b₁ : Backend :=
    { b with tensors := b.tensors.put real.id { r with references := r.references + 1 } }
  have hfloat₁ : b₁.tensors.IsFloat imag.id := Registry.isFloat_put hget rfl hfloat'
  obtain ⟨r', hget', -⟩ := id hfloat₁
  let b₂ : Backend :=
    { b₁ with tensors := b₁.tensors.put imag.id { r' with references := r'.references + 1 } }
  have hfloat₂ : b₂.tensors.IsFloat real.id :=
    Registry.isFloat_put hget' rfl (Registry.isFloat_put hget rfl hfloat)
  have hfrom : PairShape (.complex real imag) b₂ real.id imag.shape :=
    .inr ⟨real, imag, rfl, rfl, hshape⟩
  have hpair := Change.pair hfloat₂ (Registry.isFloat_put hget' rfl hfloat₁) hfrom
  refine .bind_to (hdiscard (retain_apply hget)) (.single (.recount hget _)) ?_
  refine .bind_to (hdiscard (retain_apply hget')) (.single (.recount hget' _)) ?_
  exact .bind_to rfl (.single hpair) .refl

/-! ## Giving up tensors -/

private theorem chain_removeOne (id : TensorId) : Chain op b (removeOne id b).2 := by
  unfold removeOne
  cases hget : b.tensors.get id with
  | error e =>
    simp only [Registry.remove, Registry.get?_eq_none_of_get hget]
    exact .refl
  | ok r =>
    have hforget : Change op b { b with tensors := (b.tensors.remove id).2 } := .forget id
    simp only [Registry.remove, Registry.get_eq_ok_iff.mp hget]
    cases hresource : r.resource with
    | none => exact .single hforget
    | some x =>
      dsimp only
      split
      · next pool hrelease => exact .tail (.single hforget) (.takeBack hrelease)
      · exact .single hforget

private theorem chain_dropOne (id : TensorId) (force : Bool) :
    Chain op b (dropOne id force b).2 := by
  unfold dropOne
  split
  · exact .refl
  split
  · exact .refl
  cases hget : b.tensors.get id with
  | error e =>
    have hrelease : b.tensors.release id = .error e := by
      rw [Registry.release, hget]
      rfl
    simp only [hrelease]
    exact .refl
  | ok r =>
    simp only [Registry.release_of_get hget]
    refine .head (.recount hget (r.references - 1)) ?_
    split
    · exact .refl
    split
    · next htouches => exact .single (.park (by simpa [Submission.Batch.touches] using htouches))
    · have hremove : Chain op _ (removeOne id _).2 := chain_removeOne
        (b := { b with tensors := b.tensors.put id { r with references := r.references - 1 } }) id
      split
      · next hresult => rwa [hresult] at hremove
      · next hresult => rwa [hresult] at hremove

private theorem chain_dropEach (ids : List TensorId) : Chain op b (dropEach ids b).2 := by
  induction ids, b using dropEach.induct with
  | case1 b => rw [dropEach]
  | case2 id rest b fate b' hdrop ih =>
    have hone : Chain op b (dropOne id false b).2 := chain_dropOne id false
    rw [hdrop] at hone
    rw [dropEach, hdrop]
    exact hone.trans ih
  | case3 id rest b e b' hdrop =>
    have hone : Chain op b (dropOne id false b).2 := chain_dropOne id false
    rw [hdrop] at hone
    rw [dropEach, hdrop]
    exact hone

private theorem chain_drop (id : TensorId) (force : Bool) : Chain op b (drop id force b).2 := by
  unfold drop
  refine .bind_live fun _ => .bind (chain_dropOne id force) fun fate b' _ => ?_
  cases fate with
  | absent => exact .refl
  | kept => exact .refl
  | removed parts => exact .bind (chain_dropEach parts) fun _ _ _ => .refl

/-! ## Submitting -/

private theorem chain_forM {f : α → Action Unit} (hf : ∀ a b, Chain op b (f a b).2) (as : List α) :
    Chain op b (as.forM f b).2 := by
  induction as generalizing b with
  | nil => exact .refl
  | cons a as ih => exact .bind (hf a b) fun _ _ _ => ih

/-- Submitting is a chain of changes. -/
theorem chain_submit : Chain op b (submit b).2 := by
  unfold submit
  refine .bind_live fun _ => .bind_to (a := b.encoder) rfl .refl ?_
  cases hencoder : b.encoder with
  | none => exact .refl
  | some passes =>
    refine .bind_to (a := b.batch.held) rfl (.single (.submit hencoder)) ?_
    refine .bind (chain_forM (fun x _ => chain_release x) _) fun _ b₁ _ => ?_
    have hremove (id : TensorId) (b : Backend) : Chain op b (remove id b).2 :=
      .bind (chain_removeOne id) fun parts _ _ => chain_dropEach parts
    exact .bind (chain_forM hremove _) fun _ _ _ => .single .finish

/-! ## Running jobs -/

private theorem Quiet.count (e : Metrics.Event) : Quiet b { b with metrics := b.metrics.count e } :=
  .of_commands [] (List.forall_mem_nil _) ⟨_, _, _, rfl⟩

/-- Making a layout is a chain of changes. -/
theorem chain_prepareLayout (operands : Nat) : Chain op b (prepareLayout operands b).2 := by
  simp only [prepareLayout, Action.update, Pipeline.getOrInsert]
  split
  · exact .single (.quiet (.of_commands [] (List.forall_mem_nil _) ⟨_, _, _, rfl⟩))
  · exact .single (.quiet (.of_commands [.createLayout operands (Pipeline.layoutEntries operands)]
      (by simp [Command.isHarmless]) ⟨_, _, _, rfl⟩))

/-- Compiling a kernel is a chain of changes. -/
theorem chain_pipeline (k : Kernel) (objection : Option String) :
    Chain op b (pipeline k objection b).2 := by
  have hcommands := (compileOn_eq k (Pipeline.Key.of k).text objection b.device).2
  cases hfound : b.pipelines.table.get? (Pipeline.Key.of k) with
  | some compiled =>
    simp only [pipeline, Pipeline.Cache.getOrCreate, hfound]
    exact .single (.quiet (.of_commands [] (List.forall_mem_nil _) ⟨_, _, _, rfl⟩))
  | none =>
    cases hcompiled : compileOn k (Pipeline.Key.of k).text objection b.device with
    | mk result d =>
      rw [hcompiled] at hcommands
      obtain ⟨commands, hharmless, rfl⟩ := hcommands
      simp only [pipeline, Pipeline.Cache.getOrCreate, hfound, hcompiled]
      cases result with
      | ok compiled => exact .single (.quiet (.of_commands commands hharmless ⟨_, _, _, rfl⟩))
      | error e => exact .single (.quiet (.of_commands commands hharmless ⟨_, _, _, rfl⟩))

private theorem chain_upload (id : TensorId) : Chain op b (upload id b).2 := by
  unfold upload
  refine .bind_record fun r hget => ?_
  cases hresource : r.resource with
  | some x => exact .refl
  | none =>
    cases hvalues : r.values with
    | none => exact .refl
    | some v =>
      refine .bind_of fun bytes hbytes => .bind (chain_acquire _) fun x b₁ hacquire => ?_
      have hget₁ : b₁.tensors.get id = .ok r := by
        have htensors : b₁.tensors = b.tensors := congrArg (·.2.tensors) hacquire.symm
        rw [htensors, hget]
      have hattach (b : Backend) (hget : b.tensors.get id = .ok r) : Chain op b ((do
          Action.count (.upload bytes.length)
          Action.modify id ({ · with resource := some x })
          return x : Action Allocation) b).2 := by
        let counted : Backend := { b with metrics := b.metrics.count (.upload bytes.length) }
        have hcounted : Chain op b counted := .single (.quiet (.count _))
        have hgetCounted : counted.tensors.get id = .ok r := hget
        refine .bind_to rfl hcounted ?_
        refine .bind_to (Action.modify_apply hgetCounted) (.single ?_) .refl
        exact .attach hgetCounted hvalues hbytes x
      by_cases hempty : bytes.isEmpty = true
      · simp only [hempty, Bool.not_true, Bool.false_eq_true, if_false]
        exact hattach b₁ hget₁
      · simp only [hempty, Bool.not_false, if_true]
        exact .bind_to rfl (.single (.fill x.buffer bytes)) (hattach _ hget₁)

/-- Bringing tensors to the device is a chain of changes. -/
theorem chain_uploadEach (ids : List TensorId) : Chain op b (ids.mapM upload b).2 := by
  induction ids generalizing b with
  | nil => exact .refl
  | cons id rest ih =>
    rw [List.mapM_cons]
    exact .bind (chain_upload id) fun _ _ _ => .bind ih fun _ _ _ => .refl

private theorem element_ne_complex {element : ElementType} (h : element.storage?.isSome = true) :
    element ≠ .complex64 := by
  rintro rfl
  cases h

/-- What a job computes and what it reads has a form on the device. -/
theorem Job.storable_of_kernel {j : Job} {k : Kernel} (h : j.kernel b.tensors = .ok k) :
    j.element ≠ .complex64 ∧ ∀ id ∈ j.inputs, Storable b id := by
  refine ⟨?_, fun id hid => ?_⟩
  · intro hcomplex
    have hwidth := Job.byteWidth_of_kernel h
    rw [hcomplex] at hwidth
    cases hwidth
  · rcases Job.exists_stored_of_kernel h hid with ⟨r, hget, hstored⟩
    exact ⟨r, hget, element_ne_complex hstored⟩

private theorem Storable.of_tally (h : Storable b id) (htally : tally b' = tally b) :
    Storable b' id := by
  rcases h with ⟨r, hget, helement⟩
  rcases Registry.get_of_outlines (congrArg Tally.outlines htally).symm hget with
    ⟨found, hfound, houtline⟩
  have hsame : found.element = r.element := congrArg Outline.element houtline
  exact ⟨found, hfound, hsame ▸ helement⟩

/-- Recording a pass is one change after the uniform block is filled and bound. -/
theorem chain_recorded {j : Job} (helement : j.element ≠ .complex64)
    (hinputs : ∀ id ∈ j.inputs, Storable b id) (k : Kernel) (launch : Launch)
    (compiled : Pipeline.Compiled) (bindings : List BufferId) (uniform output : Allocation) :
    Chain op b (recorded (outputRecord j k output)
      (j.pass launch compiled bindings ⟨b.tensors.next⟩) uniform
      (bound launch bindings uniform b)) := by
  have hbound : Chain op b (bound launch bindings uniform b) :=
    .tail (.single (.fill uniform.buffer launch.uniforms))
      (.quiet (.of_commands [.bind bindings] (by simp [Command.isHarmless]) ⟨_, _, _, rfl⟩))
  exact hbound.tail (.record rfl helement hinputs)

private theorem chain_recordPass {j : Job} (helement : j.element ≠ .complex64)
    (hinputs : ∀ id ∈ j.inputs, Storable b id) (k : Kernel) (launch : Launch)
    (compiled : Pipeline.Compiled) (operands : List Allocation) (uniform output : Allocation) :
    Chain op b (recordPass j k launch compiled operands uniform output b).2 := by
  have hrecorded : Chain op b _ := chain_recorded helement hinputs k launch compiled
    (Pipeline.bySlot (groupOf k operands uniform output)) uniform output
  rw [recordPass_eq]
  refine hrecorded.trans ?_
  split
  · exact Chain.bind (x := submit) chain_submit fun _ _ _ => .refl
  · exact .refl

private theorem Chain.bind_frame {γ : Type} {part : Backend → γ} {x : Action α} {f : α → Action β}
    (hx : Chain op b (x b).2) (hframe : Frames part x)
    (hf : ∀ a b', part b' = part b → Chain op b' (f a b').2) : Chain op b ((x >>= f) b).2 := by
  refine .bind hx fun a b' hresult => hf a b' ?_
  rw [← hframe b, hresult]

private theorem chain_run (j : Job) : Chain op b (run j b).2 := by
  unfold run
  refine .bind_live fun _ => .bind_to (a := b.tensors) rfl .refl (.bind_of fun k hkernel => ?_)
  rcases Job.storable_of_kernel hkernel with ⟨helement, hinputs⟩
  by_cases hempty : k.output.count = 0
  · simp only [hempty, if_true]
    exact chain_make _ _ _
  simp only [hempty, if_false]
  refine .bind_to (a := b.maxDispatch) rfl .refl (.bind_of fun launch _ => ?_)
  refine .bind_frame (chain_prepareLayout _) (tallied_prepareLayout _) fun _ b₁ h₁ => ?_
  refine .bind_frame (chain_pipeline k _) (tallied_pipeline k _) fun compiled b₂ h₂ => ?_
  refine .bind_frame (chain_uploadEach _) (.mapM tallied_upload _) fun operands b₃ h₃ => ?_
  refine .bind_frame (chain_acquireBoth _ _) (tallied_acquireBoth _ _) fun buffers b₄ h₄ => ?_
  have htally : tally b₄ = tally b := h₄.trans (h₃.trans (h₂.trans h₁))
  refine .bind (chain_recordPass helement ?_ k launch compiled operands _ _) fun _ _ _ => .refl
  exact fun id hid => (hinputs id hid).of_tally htally

/-! ## Records that stay what they are -/

/-- What a record is for good. -/
structure SameForm (r r' : Record) : Prop where
  element : r'.element = r.element
  shape : r'.shape = r.shape
  parts : r'.parts = r.parts

/-- A backend knows of no tensor but those that another one knew and new ones, and no tensor has
become another. -/
structure Descends (b b' : Backend) : Prop where
  next_le : b.tensors.next ≤ b'.tensors.next
  form : ∀ id r', b'.tensors.get id = .ok r' → id.number < b.tensors.next →
    ∃ r, b.tensors.get id = .ok r ∧ SameForm r r'

namespace Descends

variable {b'' : Backend} {r r' : Record}

private theorem of_eq (h : b'.tensors = b.tensors) : Descends b b' where
  next_le := Nat.le_of_eq (congrArg Registry.next h).symm
  form := by
    intro id r' hget _
    rw [h] at hget
    exact ⟨r', hget, rfl, rfl, rfl⟩

private theorem trans (h : Descends b b') (h' : Descends b' b'') : Descends b b'' where
  next_le := Nat.le_trans h.next_le h'.next_le
  form := by
    intro id r'' hget hlt
    rcases h'.form id r'' hget (Nat.lt_of_lt_of_le hlt h.next_le) with ⟨r', hget', hsame'⟩
    rcases h.form id r' hget' hlt with ⟨r, hget, hsame⟩
    exact ⟨r, hget, hsame'.element.trans hsame.element, hsame'.shape.trans hsame.shape,
      hsame'.parts.trans hsame.parts⟩

private theorem insert (h : b'.tensors = (b.tensors.insert r).2) : Descends b b' where
  next_le := by rw [h]; exact Nat.le_succ _
  form := by
    intro id r' hget hlt
    have hold : id ≠ ⟨b.tensors.next⟩ := by
      rintro rfl
      exact Nat.lt_irrefl _ hlt
    rw [h, Registry.get_insert, if_neg hold] at hget
    exact ⟨r', hget, rfl, rfl, rfl⟩

private theorem put (hget : b.tensors.get id = .ok r) (h : b'.tensors = b.tensors.put id r')
    (hsame : SameForm r r') : Descends b b' where
  next_le := Nat.le_of_eq (congrArg Registry.next h).symm
  form := by
    intro id' found hfound _
    rw [h, Registry.get_put] at hfound
    split at hfound
    · next hid =>
      obtain rfl := Except.ok.inj hfound
      exact ⟨r, hid ▸ hget, hsame⟩
    · exact ⟨found, hfound, rfl, rfl, rfl⟩

private theorem remove (h : b'.tensors = (b.tensors.remove id).2) : Descends b b' where
  next_le := Nat.le_of_eq (congrArg Registry.next h).symm
  form := by
    intro id' found hfound _
    rw [h, Registry.get_remove] at hfound
    split at hfound
    · cases hfound
    · exact ⟨found, hfound, rfl, rfl, rfl⟩

end Descends

/-- After a change each tensor descends from the one with its number. -/
theorem Change.descends (h : Change op b b') : Descends b b' := by
  cases h with
  | quiet h => exact .of_eq h.tensors
  | add _ _ _ => exact .insert rfl
  | pair _ _ _ => exact .insert rfl
  | recount hget n => exact .put hget rfl ⟨rfl, rfl, rfl⟩
  | attach hget _ _ x => exact .put hget rfl ⟨rfl, rfl, rfl⟩
  | keep hget _ => exact .put hget rfl ⟨rfl, rfl, rfl⟩
  | forget id => exact .remove rfl
  | park _ => exact .of_eq rfl
  | finish => exact .of_eq rfl
  | handOut _ => exact .of_eq rfl
  | takeBack _ => exact .of_eq rfl
  | fill _ _ => exact .of_eq rfl
  | copy _ _ _ _ _ => exact .of_eq rfl
  | record _ _ _ => exact .insert recorded_tensors
  | submit _ => exact .of_eq rfl

/-- The element, the shape and the parts of a tensor never change. -/
theorem Chain.descends (h : Chain op b b') : Descends b b' := by
  induction h with
  | refl => exact .of_eq rfl
  | tail _ hchange ih => exact ih.trans hchange.descends

/-- No buffer leaves the pool. -/
theorem Change.stocked (h : Change op b b') (hkeyed : b.pool.shelves.Keyed) :
    b'.pool.shelves.Keyed ∧ b.pool.all ⊆ b'.pool.all := by
  have hsame {b' : Backend} (h : b'.pool = b.pool) :
      b'.pool.shelves.Keyed ∧ b.pool.all ⊆ b'.pool.all := by
    rw [h]
    exact ⟨hkeyed, List.Subset.refl _⟩
  cases h with
  | quiet h => exact hsame h.pool
  | handOut h =>
    refine ⟨?_, fun y hy => ?_⟩
    · rcases Pool.acquire_eq_ok h with ⟨-, -, ⟨_, -, rfl, -⟩ | ⟨-, -, rfl⟩⟩
      · exact hkeyed.set _ _
      · exact hkeyed.set _ _
    · rcases Pool.all_acquire hkeyed h with ⟨hall, -⟩ | ⟨hall, -⟩
      · exact hall.mem_iff.mpr hy
      · exact hall.mem_iff.mpr (List.mem_cons_of_mem _ hy)
  | takeBack h =>
    refine ⟨?_, (Pool.all_release hkeyed h).symm.subset⟩
    rcases Pool.release_eq_ok h with ⟨-, _, -, rfl⟩
    exact hkeyed.set _ _
  | add _ _ _ => exact hsame rfl
  | pair _ _ _ => exact hsame rfl
  | recount _ _ => exact hsame rfl
  | attach _ _ _ _ => exact hsame rfl
  | keep _ _ => exact hsame rfl
  | forget _ => exact hsame rfl
  | park _ => exact hsame rfl
  | finish => exact hsame rfl
  | fill _ _ => exact hsame rfl
  | copy _ _ _ _ _ => exact hsame rfl
  | record _ _ _ => exact hsame rfl
  | submit _ => exact hsame rfl

/-- The pool keeps its buffers through a chain of changes. -/
theorem Chain.stocked (h : Chain op b b') (hkeyed : b.pool.shelves.Keyed) :
    b'.pool.shelves.Keyed ∧ b.pool.all ⊆ b'.pool.all := by
  induction h with
  | refl => exact ⟨hkeyed, List.Subset.refl _⟩
  | tail _ hchange ih =>
    rcases hchange.stocked ih.1 with ⟨hkeyed', hsubset⟩
    exact ⟨hkeyed', List.Subset.trans ih.2 hsubset⟩

/-! ## Coherent records -/

/-- What is known of every record: its values fill it, complex tensors have no buffer, and only they
have parts. -/
structure CoherentRecord (r : Record) : Prop where
  filled : ∀ v, r.values = some v → Fills v r
  stored : r.resource ≠ none → r.element ≠ .complex64
  paired : r.parts ≠ none → r.element = .complex64

/-- All records are coherent, and the open encoder refers to no complex tensor.  It refers to all
tensors that are parked, and each of them is parked once. -/
structure Coherent (b : Backend) : Prop where
  lt_next : ∀ id r, b.tensors.get id = .ok r → id.number < b.tensors.next
  record : ∀ id r, b.tensors.get id = .ok r → CoherentRecord r
  touched_lt : ∀ id ∈ b.batch.touched, id.number < b.tensors.next
  touched : ∀ id ∈ b.batch.touched, ∀ r, b.tensors.get id = .ok r → r.element ≠ .complex64
  parked : ∀ id ∈ b.batch.deferred, id ∈ b.batch.touched
  parkedOnce : b.batch.deferred.Nodup

namespace Coherent

variable {r r' : Record}

/-- A new backend is coherent. -/
theorem onDevice (d : Device) (s : Config.Settings) : Coherent (onDevice d s) where
  lt_next := nofun
  record := nofun
  touched_lt := nofun
  touched := nofun
  parked := nofun
  parkedOnce := List.nodup_nil

/-- Records may change while the open encoder refers to the same tensors. -/
theorem of_records (hb : Coherent b) (hdescends : Descends b b')
    (hrecord : ∀ id r, b'.tensors.get id = .ok r → id.number < b'.tensors.next ∧ CoherentRecord r)
    (htouched : b'.batch.touched = b.batch.touched)
    (hdeferred : b'.batch.deferred = b.batch.deferred) : Coherent b' where
  lt_next := fun id r hget => (hrecord id r hget).1
  record := fun id r hget => (hrecord id r hget).2
  touched_lt := by
    intro id hid
    rw [htouched] at hid
    exact Nat.lt_of_lt_of_le (hb.touched_lt id hid) hdescends.next_le
  touched := by
    intro id hid r' hget
    rw [htouched] at hid
    rcases hdescends.form id r' hget (hb.touched_lt id hid) with ⟨r, hget, hsame⟩
    rw [hsame.element]
    exact hb.touched id hid r hget
  parked := by
    rw [htouched, hdeferred]
    exact hb.parked
  parkedOnce := by
    rw [hdeferred]
    exact hb.parkedOnce

private theorem of_eq (hb : Coherent b) (htensors : b'.tensors = b.tensors)
    (htouched : b'.batch.touched = b.batch.touched)
    (hdeferred : b'.batch.deferred = b.batch.deferred) : Coherent b' := by
  refine hb.of_records (.of_eq htensors) (fun id r hget => ?_) htouched hdeferred
  rw [htensors] at hget ⊢
  exact ⟨hb.lt_next id r hget, hb.record id r hget⟩

private theorem insert (hb : Coherent b) (hr : CoherentRecord r) :
    Coherent { b with tensors := (b.tensors.insert r).2 } := by
  refine hb.of_records (.insert rfl) (fun id found hget => ?_) rfl rfl
  rw [Registry.get_insert] at hget
  split at hget
  · next hid =>
    obtain rfl := Except.ok.inj hget
    rw [hid]
    exact ⟨Nat.lt_succ_self _, hr⟩
  · exact ⟨Nat.lt_succ_of_lt (hb.lt_next id found hget), hb.record id found hget⟩

private theorem put (hb : Coherent b) (hget : b.tensors.get id = .ok r) (hsame : SameForm r r')
    (hr' : CoherentRecord r') : Coherent { b with tensors := b.tensors.put id r' } := by
  refine hb.of_records (.put hget rfl hsame) (fun id' found hfound => ?_) rfl rfl
  rw [Registry.get_put] at hfound
  split at hfound
  · next hid =>
    obtain rfl := Except.ok.inj hfound
    rw [hid]
    exact ⟨hb.lt_next id r hget, hr'⟩
  · exact ⟨hb.lt_next id' found hfound, hb.record id' found hfound⟩

private theorem remove (hb : Coherent b) (id : TensorId) :
    Coherent { b with tensors := (b.tensors.remove id).2 } := by
  refine hb.of_records (.remove rfl) (fun id' found hfound => ?_) rfl rfl
  rw [Registry.get_remove] at hfound
  split at hfound
  · cases hfound
  · exact ⟨hb.lt_next id' found hfound, hb.record id' found hfound⟩

private theorem park (hb : Coherent b) (htouched : id ∈ b.batch.touched) :
    Coherent { b with batch := b.batch.defer id } := by
  unfold Submission.Batch.defer
  split
  · exact hb
  · next hnew =>
    have hfresh : id ∉ b.batch.deferred := by simpa [Submission.Batch.defers] using hnew
    refine ⟨hb.lt_next, hb.record, hb.touched_lt, hb.touched, fun i hi => ?_, ?_⟩
    · rcases List.mem_append.mp hi with hbefore | hnow
      · exact hb.parked i hbefore
      · rw [List.mem_singleton.mp hnow]
        exact htouched
    · exact List.nodup_append_comm.mp (List.nodup_cons.mpr ⟨hfresh, hb.parkedOnce⟩)

/-- The open encoder comes to refer to the tensors of a pass. -/
theorem recorded {pass : Pass} {uniform : Allocation} (hb : Coherent b) (hr : CoherentRecord r)
    (helement : r.element ≠ .complex64) (houtput : pass.output = ⟨b.tensors.next⟩)
    (hinputs : ∀ id ∈ pass.inputs, Storable b id) : Coherent (recorded r pass uniform b) := by
  have hinserted := hb.insert hr
  have hdeferred : (Backend.recorded r pass uniform b).batch.deferred = b.batch.deferred := by
    rw [recorded_batch]
    rfl
  -- Tensors that the pass names are live, and none of them is complex.
  have hnamed : ∀ id ∈ pass.inputs ++ [pass.output], ∃ found,
      (b.tensors.insert r).2.get id = .ok found ∧ found.element ≠ .complex64 := by
    intro id hid
    rcases List.mem_append.mp hid with hinput | hlast
    · rcases hinputs id hinput with ⟨found, hget, hfound⟩
      have hold : id ≠ ⟨b.tensors.next⟩ := by
        rintro rfl
        exact Nat.lt_irrefl _ (hb.lt_next _ found hget)
      exact ⟨found, by rw [Registry.get_insert, if_neg hold, hget], hfound⟩
    · obtain rfl := (List.mem_singleton.mp hlast).trans houtput
      exact ⟨r, by rw [Registry.get_insert, if_pos rfl], helement⟩
  refine ⟨?_, ?_, ?_, ?_, ?_, ?_⟩
  · rw [recorded_tensors]
    exact hinserted.lt_next
  · rw [recorded_tensors]
    exact hinserted.record
  · intro id hid
    rw [recorded_touched] at hid
    rw [recorded_tensors]
    rcases List.mem_append.mp hid with hbefore | hnow
    · exact hinserted.touched_lt id hbefore
    · rcases hnamed id hnow with ⟨found, hget, -⟩
      exact hinserted.lt_next id found hget
  · intro id hid found hget
    rw [recorded_touched] at hid
    rw [recorded_tensors] at hget
    rcases List.mem_append.mp hid with hbefore | hnow
    · exact hinserted.touched id hbefore found hget
    · rcases hnamed id hnow with ⟨found', hget', helement'⟩
      obtain rfl := Except.ok.inj (hget'.symm.trans hget)
      exact helement'
  · rw [hdeferred, recorded_touched]
    exact fun id hid => List.mem_append_left _ (hb.parked id hid)
  · rw [hdeferred]
    exact hb.parkedOnce

end Coherent

/-- Every change keeps the records coherent. -/
theorem Change.coherent (h : Change op b b') (hb : Coherent b) : Coherent b' := by
  cases h with
  | quiet h => exact hb.of_eq h.tensors (by rw [h.batch]) (by rw [h.batch])
  | add hparts hresource hvalues =>
    exact hb.insert ⟨hvalues, fun h => absurd hresource h, fun h => absurd hparts h⟩
  | pair _ _ _ => exact hb.insert ⟨nofun, fun h => absurd rfl h, fun _ => rfl⟩
  | @recount id r hget n =>
    have hr := hb.record id r hget
    exact hb.put hget ⟨rfl, rfl, rfl⟩ ⟨hr.filled, hr.stored, hr.paired⟩
  | @attach id r v bytes hget hvalues hbytes x =>
    have hr := hb.record id r hget
    refine hb.put hget ⟨rfl, rfl, rfl⟩ ⟨hr.filled, fun _ hcomplex => ?_, hr.paired⟩
    have helement : v.element = .complex64 := (hr.filled v hvalues).1.trans hcomplex
    cases v with
    | complex64 bits => cases hbytes
    | _ => cases helement
  | @keep id r v hget hvalues =>
    have hr := hb.record id r hget
    exact hb.put hget ⟨rfl, rfl, rfl⟩ ⟨fills_some rfl hvalues, hr.stored, hr.paired⟩
  | forget id => exact hb.remove id
  | park htouched => exact hb.park htouched
  | finish => exact hb.of_eq rfl rfl rfl
  | handOut _ => exact hb.of_eq rfl rfl rfl
  | takeBack _ => exact hb.of_eq rfl rfl rfl
  | fill _ _ => exact hb.of_eq rfl rfl rfl
  | copy _ _ _ _ _ => exact hb.of_eq rfl rfl rfl
  | record houtput helement hinputs =>
    exact hb.recorded ⟨nofun, fun _ => helement, fun h => absurd rfl h⟩ helement houtput hinputs
  | submit _ => exact ⟨hb.lt_next, hb.record, nofun, nofun, nofun, List.nodup_nil⟩

/-- A chain of changes keeps a backend coherent. -/
theorem Chain.coherent (h : Chain op b b') (hb : Coherent b) : Coherent b' := by
  induction h with
  | refl => exact hb
  | tail _ hchange ih => exact hchange.coherent ih

/-! ## Reading -/

/-- A submission succeeds, and leaves no open encoder. -/
theorem submit_succeeds (hm : Sound ⟨b, []⟩) :
    submit b = (.ok (), (submit b).2) ∧ (submit b).2.encoder = none ∧ Sound ⟨(submit b).2, []⟩ := by
  have hleads : Leads .submit [] ⟨b, []⟩ (submit b) _ := leads_submit hm
  have hok : (submit b).1 = .ok () :=
    ((ends_submit hm.stocked.live hm.stocked.poolLive).of_ordinary
      (failsOrdinarily_of_leads hleads)).1
  have hsubmit : submit b = (.ok (), (submit b).2) := Prod.ext hok rfl
  rcases hleads.sound_of_ok hm hsubmit with ⟨_, hsound, rfl, hencoder⟩
  exact ⟨hsubmit, hencoder, hsound⟩

/-- Submitting does nothing if no encoder is open. -/
theorem submit_of_closed (hlive : b.disposed = false) (hencoder : b.encoder = none) :
    submit b = (.ok (), b) := by
  have hfirst : Action.live b = (.ok (), b) := Action.live_apply hlive
  refine (Action.bind_apply_ok hfirst).trans ?_
  refine (Action.bind_apply_ok (a := b.encoder) rfl).trans ?_
  rw [hencoder]
  rfl

/-- A read submits what there is, whichever tensor it is of. -/
theorem submitBefore_eq (hm : Sound ⟨b, []⟩) (id : TensorId) :
    submitBefore id b = (.ok (), (submit b).2) := by
  have hlook : submitBefore id b =
      (if b.batch.touches id || b.encoder.isSome then submit else pure ()) b :=
    Action.bind_apply_ok rfl
  rw [hlook]
  cases hencoder : b.encoder with
  | some passes => simpa using (submit_succeeds hm).1
  | none =>
    have huntouched : b.batch.touches id = false := by
      simpa [Submission.Batch.touches] using hm.not_touched hencoder id
    rw [huntouched, submit_of_closed hm.stocked.live hencoder]
    rfl

/-- The staging buffer of a transfer goes back to the pool, whatever the device answers. -/
theorem fetch_eq {x staging : Allocation} {n : Nat} {pool pool' : Pool} {device : Device}
    (hacquire : b.pool.acquire Device.allocator b.device ⟨storageSize n, stagingUsage⟩ =
      (.ok staging, pool, device)) (hrelease : pool.release staging = .ok pool')
    (fault : Option MapFault) :
    let mapped := (device.copyOut x.buffer staging.buffer staging.key.size).readMapped
      staging.buffer staging.key.size fault
    fetch x n fault b = (mapped.1, { b with pool := pool', device := mapped.2 }) := by
  intro mapped
  have htaken : Action.acquire ⟨storageSize n, stagingUsage⟩ b =
      (.ok staging, { b with pool, device }) := by
    simp only [Action.acquire, hacquire]
  have hback : Action.release staging { b with pool, device := mapped.2 } =
      (.ok (), { b with pool := pool', device := mapped.2 }) := by
    simp only [Action.release, hrelease]
  refine (Action.bind_apply_ok htaken).trans ?_
  refine (Action.bind_apply_ok rfl).trans ?_
  refine (Action.bind_apply_ok (a := mapped.1) rfl).trans ?_
  exact Action.bind_apply_ok hback

/-- A transfer that is refused a staging buffer changes nothing. -/
theorem fetch_refused {x : Allocation} {n : Nat} {pool : Pool} {device : Device} {e : KernelError}
    (hacquire : b.pool.acquire Device.allocator b.device ⟨storageSize n, stagingUsage⟩ =
      (.error e, pool, device)) (fault : Option MapFault) :
    fetch x n fault b = (.error e, b) := by
  rcases acquire_refused hacquire with ⟨-, rfl, rfl⟩
  refine Action.bind_apply_error ?_
  simp only [Action.acquire, hacquire]

private theorem chain_fetch (hm : Sound ⟨b, []⟩) (hencoder : b.encoder = none) {x : Allocation}
    {n : Nat}
    (hx : x ∈ b.pool.all) (hsize : storageSize n ≤ x.key.size) (fault : Option MapFault) :
    Chain op b (fetch x n fault b).2 := by
  obtain ⟨r, pool, device, hacquire⟩ : ∃ r pool device,
      b.pool.acquire Device.allocator b.device ⟨storageSize n, stagingUsage⟩ = (r, pool, device) :=
    ⟨_, _, _, rfl⟩
  cases r with
  | error e => rw [fetch_refused hacquire]
  | ok staging =>
    have htaken : Sound ⟨{ b with pool, device }, [staging]⟩ := hm.handOut hacquire
    rcases htaken.exists_release with ⟨pool', hrelease⟩
    have hkey : staging.key.size = storageSize n :=
      congrArg PoolKey.size (Pool.acquire_eq_ok hacquire).2.1
    have hkept : x ∈ pool.all := by
      rcases exists_made hm hacquire with ⟨made, hall, -⟩
      exact hall.mem_iff.mpr (List.mem_append_right _ hx)
    have hstaging : staging ∈ pool.all :=
      htaken.mem_all (List.mem_append_right _ List.mem_cons_self)
    rw [fetch_eq hacquire hrelease]
    let b₁ : Backend := { b with pool, device }
    let b₂ : Backend :=
      { b₁ with device := device.copyOut x.buffer staging.buffer staging.key.size }
    have hcopied : Change op b₁ b₂ :=
      .copy hencoder hkept hstaging (hkey ▸ hsize) (Nat.le_refl _)
    have hmapped : Change op b₂ { b₂ with device :=
        (b₂.device.readMapped staging.buffer staging.key.size fault).2 } :=
      .quiet (quiet_readMapped staging.buffer staging.key.size fault)
    exact .tail (.tail (.tail (.single (.handOut hacquire)) hcopied) hmapped) (.takeBack hrelease)

/-- Buffers of tensors are buffers of the pool. -/
theorem Sound.resource_mem_all (hm : Sound ⟨b, []⟩) {x : Allocation}
    (hx : b.tensors.resource? id = some x) : x ∈ b.pool.all := by
  refine hm.mem_all (List.mem_append_left _ (List.mem_append_left _ ?_))
  exact hm.registered.sound.mem_resources_iff.mpr ⟨id, hx⟩

/-- The buffer of a tensor is as large as the transfer that reads it. -/
theorem Sound.read_fits (hm : Sound ⟨b, []⟩) (hb : Coherent b) {r : Record} {x : Allocation}
    (hget : b.tensors.get id = .ok r) (hx : r.resource = some x) :
    storageSize (Word.wrap (r.count * r.element.byteWidth)) ≤ x.key.size := by
  have helement : r.element ≠ .complex64 := (hb.record id r hget).stored (by simp [hx])
  have hwidth : r.element.byteWidth = 4 := by
    cases hkind : r.element with
    | complex64 => exact absurd hkind helement
    | _ => rfl
  rw [hwidth, Nat.mul_comm]
  exact ((hm.registered.fitting id r hget).key x hx).le_size

/-- What a read does after the transfer. -/
theorem chain_keepValues {b₀ : Backend} {r : Record} {v : Values} (hdescends : Descends b₀ b)
    (hget : b₀.tensors.get id = .ok r) (hlt : id.number < b₀.tensors.next) (hvalues : Fills v r) :
    Chain op b (Action.modify id ({ · with values := some v }) b).2 := by
  cases hfound : b.tensors.get id with
  | error e =>
    have hmodify : Action.modify id ({ · with values := some v }) b = (.error e, b) := by
      simp only [Action.modify, Registry.modify, hfound]
      rfl
    rw [hmodify]
  | ok r' =>
    rw [Action.modify_apply hfound]
    rcases hdescends.form id r' hfound hlt with ⟨r₀, hget₀, hsame⟩
    obtain rfl := Except.ok.inj (hget.symm.trans hget₀)
    have hsize : r'.size = r.size := congrArg Shape.size hsame.shape
    refine .single (.keep hfound ⟨hvalues.1.trans hsame.element.symm, ?_⟩)
    rw [hsize]
    exact hvalues.2

/-- Reading a tensor without parts is a chain of changes. -/
theorem chain_readPlain (hm : Sound ⟨b, []⟩) (hb : Coherent b) (id : TensorId)
    (fault : Option MapFault) : Chain op b (readPlain id fault b).2 := by
  unfold readPlain
  refine .bind_record fun r hget => ?_
  cases hvalues : r.values with
  | some values => exact .refl
  | none =>
    cases hresource : r.resource with
    | none => exact .refl
    | some x =>
      rcases submit_succeeds hm with ⟨-, hencoder, hm₁⟩
      have hsubmitted : Chain op b (submit b).2 := chain_submit
      refine .bind_to (submitBefore_eq hm id) hsubmitted ?_
      have hx : x ∈ (submit b).2.pool.all :=
        (Chain.stocked hsubmitted hm.stocked.pool.keyed).2
          (hm.resource_mem_all (Registry.resource?_eq_some_iff.mpr ⟨r, hget, hresource⟩))
      have hsize := hm.read_fits hb hget hresource
      have hfetched : Chain op (submit b).2 _ := chain_fetch hm₁ hencoder hx hsize fault
      refine .bind hfetched fun bytes b₂ hresult => ?_
      rw [hresult] at hfetched
      refine .bind_to rfl (.single (.quiet (.count _))) (.bind_of fun v hv => ?_)
      have hdescends : Descends b { b₂ with
          metrics := b₂.metrics.count (.download (Word.wrap (r.count * r.element.byteWidth))) } :=
        (Chain.descends (hsubmitted.trans hfetched)).trans (.of_eq rfl)
      refine .bind (chain_keepValues hdescends hget (hb.lt_next id r hget) ?_) fun _ _ _ => .refl
      exact fills_ofDeviceBytes hv

private theorem chain_read (hm : Sound ⟨b, []⟩) (hb : Coherent b) (id : TensorId)
    (fault : Option MapFault) : Chain op b (read id fault b).2 := by
  unfold read
  refine .bind_live fun _ => .bind_record fun r hget => ?_
  cases hparts : r.parts with
  | none => exact chain_readPlain hm hb id fault
  | some parts =>
    rcases parts with ⟨real, imag⟩
    have hreal : Chain op b (readPlain real fault b).2 := chain_readPlain hm hb real fault
    refine .bind hreal fun re b₁ hresult => ?_
    have hleads : Leads (.read id fault) [] ⟨b, []⟩ (readPlain real fault b) _ :=
      leads_readPlain hm real fault
    rcases hleads.sound_of_ok hm hresult with ⟨_, hm₁, rfl⟩
    rw [hresult] at hreal
    exact .bind (chain_readPlain hm₁ (Chain.coherent hreal hb) imag fault) fun _ _ _ => .refl

/-! ## Operations -/

/-- Every operation is a chain of changes. -/
theorem chain_step (hm : Sound ⟨b, []⟩) (hb : Coherent b) (op : Operation) :
    Chain op b (b.step op).2 := by
  cases op with
  | write values shape => exact .map (chain_write values shape)
  | make shape element values => exact .map (chain_make shape element values)
  | complex real imag => exact .map (chain_complex real imag)
  | retain id => exact .map (.bind_live fun _ => chain_retain id)
  | drop id force => exact .map (chain_drop id force)
  | run j => exact .map (chain_run j)
  | submit => exact Chain.bind (x := submit) chain_submit fun _ _ _ => .refl
  | read id fault => exact .map (chain_read hm hb id fault)

/-- What every change keeps is kept by an operation. -/
theorem kept_step {I : Backend → Prop} (hI : ∀ b b', Change op b b' → I b → I b')
    (hm : Sound ⟨b, []⟩) (hb : Coherent b) (h : I b) : I (b.step op).2 := by
  have hchain := chain_step hm hb op
  generalize (b.step op).2 = last at hchain
  induction hchain with
  | refl => exact h
  | tail _ hchange ih => exact hI _ _ hchange ih

/-- Every operation keeps a backend coherent. -/
theorem coherent_step (hm : Sound ⟨b, []⟩) (hb : Coherent b) (op : Operation) :
    Coherent (b.step op).2 :=
  kept_step (fun _ _ hchange h => hchange.coherent h) hm hb hb

/-- What every change keeps holds after every session. -/
theorem kept_after {I : Backend → Prop} (hI : ∀ op b b', Change op b b' → I b → I b')
    (ops : List Operation) (hm : Sound ⟨b, []⟩) (hb : Coherent b) (h : I b) : I (b.after ops) := by
  induction ops generalizing b with
  | nil => exact h
  | cons op ops ih =>
    rcases exists_trail hm op with ⟨⟨t, htrail⟩, -⟩
    exact ih (htrail.sound hm) (coherent_step hm hb op) (kept_step (hI op) hm hb h)

end ComputeKernels.Backend

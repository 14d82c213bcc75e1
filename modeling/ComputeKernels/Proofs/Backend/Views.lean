import ComputeKernels.Proofs.Backend.Conservation

/-!
# Views of a backend

The view of a backend is what its callers can tell of it: the tensors that are referred to, without
the values that passes computed, and the passes in the order of their dispatch, without the buffers
that they bind and without where one batch ends and the next begins.  A tensor that waits for removal
is not in view, and neither is the pool.

Main results:

- Theorem `Still.view`: what happens to buffers does not change the view.
- Theorem `view_eq_set`: what happens to one tensor changes the view at this tensor.
- Theorems `TidyBut.insert`, `TidyBut.put` and `TidyBut.set`: changes of the registry keep it tidy.
-/

namespace ComputeKernels

/-! ## Pools within a limit -/

namespace Buffer.Pool

variable {p p' : Pool} {key key' : PoolKey} {s : Shelf} {limit : Nat}

private theorem shelf_of_set (h : p'.shelves = p.shelves.set key s) :
    p'.shelf key' = if key' = key then s else p.shelf key' := by
  rw [shelf, h, Table.get?_set]
  split
  · rfl
  · rfl

/-- No buffer of a pool is larger than a limit. -/
def Within (p : Pool) (limit : Nat) : Prop :=
  ∀ key, (p.shelf key).free ≠ [] ∨ (p.shelf key).inUse ≠ [] → key.size ≤ limit

private theorem within_empty (limit : Nat) : ({} : Pool).Within limit := by
  intro key h
  have hshelf : ({} : Pool).shelf key = {} := rfl
  rw [hshelf] at h
  rcases h with h | h <;> exact absurd rfl h

/-- A shelf of a size within the limit may change. -/
theorem Within.set (hp : p.Within limit) (hkey : key.size ≤ limit)
    (h : p'.shelves = p.shelves.set key s) : p'.Within limit := by
  intro key' hbuffers
  rw [shelf_of_set h] at hbuffers
  by_cases hsame : key' = key
  · rw [hsame]
    exact hkey
  · rw [if_neg hsame] at hbuffers
    exact hp key' hbuffers

private theorem Within.release {x : Allocation} (hp : p.Within limit) (h : p.release x = .ok p') :
    p'.Within limit := by
  rcases release_eq_ok h with ⟨-, inUse', hperm, rfl⟩
  refine hp.set (hp x.key (.inr fun hempty => ?_)) rfl
  rw [hempty] at hperm
  exact absurd hperm.nil_eq (List.cons_ne_nil _ _).symm

private theorem Within.releaseAll {xs : List Allocation} (hlive : p.disposed = false)
    (hp : p.Within limit) {r : Except KernelError Unit} (h : p.releaseAll xs = (r, p')) :
    (∃ e, r = .error e ∧ e.isUntracked = true) ∨ r = .ok () ∧ p'.Within limit := by
  induction xs generalizing p with
  | nil =>
    cases h
    exact .inr ⟨rfl, hp⟩
  | cons x xs ih =>
    rw [Pool.releaseAll] at h
    split at h
    · next p₁ hfirst =>
      exact ih ((disposed_release hfirst).trans hlive) (hp.release hfirst) h
    · next e hfirst =>
      cases h
      exact .inl ⟨e, rfl, isUntracked_of_release hlive hfirst⟩

/-- The failure to which requests for some buffers come under a limit, if one is too large. -/
def refusal (limit : Nat) : List PoolKey → Option KernelError
  | [] => none
  | key :: rest =>
    if limit < key.size then some (.bufferTooLarge key.size limit) else refusal limit rest

/-- Requests for some buffers fail if one is too large and succeed otherwise. -/
def Granted {α : Type} (limit : Nat) (keys : List PoolKey) (r : Except KernelError α) : Prop :=
  (∃ e, refusal limit keys = some e ∧ r = .error e) ∨ refusal limit keys = none ∧ ∃ a, r = .ok a

/-- A pool in use, and the device that its buffers come from. -/
structure InStock (d₀ : Device) (p : Pool) (d : Device) : Prop where
  live : p.disposed = false
  within : p.Within d₀.limits.bufferSize
  limits : d.limits = d₀.limits
  batches : d.batches = d₀.batches

variable {d₀ d : Device}

/-- Whether a pool hands out a buffer depends on the size alone. -/
theorem InStock.acquire (h : InStock d₀ p d) (key : PoolKey) :
    ∃ r p' d', p.acquire Device.allocator d key = (r, p', d') ∧
      Granted d₀.limits.bufferSize [key] r ∧ InStock d₀ p' d' := by
  cases hfree : (p.shelf key).free with
  | cons buffer free' =>
    have hkey : key.size ≤ d₀.limits.bufferSize := by
      apply h.within key
      rw [hfree]
      exact .inl (List.cons_ne_nil _ _)
    have hgranted : refusal d₀.limits.bufferSize [key] = none := by
      simp [refusal, Nat.not_lt.mpr hkey]
    refine ⟨.ok ⟨buffer, key⟩, p.reuse key buffer free', d, ?_, .inr ⟨hgranted, _, rfl⟩, ?_⟩
    · simp [Pool.acquire, h.live, hfree]
    · exact ⟨h.live, h.within.set hkey rfl, h.limits, h.batches⟩
  | nil =>
    by_cases hlarge : d₀.limits.bufferSize < key.size
    · have hrefused : refusal d₀.limits.bufferSize [key] =
          some (.bufferTooLarge key.size d₀.limits.bufferSize) := by
        simp [refusal, hlarge]
      refine ⟨_, p, d, ?_, .inl ⟨_, hrefused, rfl⟩, h⟩
      simp [Pool.acquire, h.live, hfree, Device.allocator, Device.createBuffer, h.limits, hlarge]
    · have hgranted : refusal d₀.limits.bufferSize [key] = none := by simp [refusal, hlarge]
      refine ⟨.ok ⟨d.next, key⟩, p.adopt key d.next, (d.createBuffer key).2, ?_,
        .inr ⟨hgranted, _, rfl⟩, ?_⟩
      · simp [Pool.acquire, h.live, hfree, Device.allocator, Device.createBuffer, h.limits, hlarge]
      · refine ⟨h.live, h.within.set (Nat.le_of_not_lt hlarge) rfl, ?_, ?_⟩
        · simp [Device.createBuffer, h.limits, hlarge, Device.note]
        · exact (Device.batches_createBuffer key).trans h.batches

/-- So does whether it hands out several, unless it refuses one that has to go back. -/
theorem InStock.acquireAfter (h : InStock d₀ p d) (taken : List Allocation) (keys : List PoolKey) :
    ∃ r p' d', p.acquireAfter Device.allocator d taken keys = (r, p', d') ∧
      ((∃ e, r = .error e ∧ e.isUntracked = true) ∨
        Granted d₀.limits.bufferSize keys r ∧ InStock d₀ p' d') := by
  induction keys generalizing p d taken with
  | nil => exact ⟨.ok taken, p, d, rfl, .inr ⟨.inr ⟨rfl, taken, rfl⟩, h⟩⟩
  | cons key rest ih =>
    rcases h.acquire key with ⟨r, p₁, d₁, hfirst, hgranted, h₁⟩
    rcases hgranted with ⟨e, hrefused, rfl⟩ | ⟨hfits, x, rfl⟩
    · have hrefusal : refusal d₀.limits.bufferSize (key :: rest) = some e := by
        rw [refusal] at hrefused ⊢
        split at hrefused
        · next hlarge => rwa [if_pos hlarge]
        · cases hrefused
      obtain ⟨r, p₂, hback⟩ : ∃ r p₂, p₁.releaseAll taken = (r, p₂) := ⟨_, _, rfl⟩
      have hdisposed : p₂.disposed = false := by
        rw [← h₁.live, ← disposed_releaseAll p₁ taken, hback]
      rcases h₁.within.releaseAll h₁.live hback with ⟨e', rfl, huntracked⟩ | ⟨rfl, hwithin⟩
      · refine ⟨.error e', p₂, d₁, ?_, .inl ⟨e', rfl, huntracked⟩⟩
        simp only [Pool.acquireAfter, hfirst, hback]
      · refine ⟨.error e, p₂, d₁, ?_, .inr ⟨.inl ⟨e, hrefusal, rfl⟩, ?_⟩⟩
        · simp only [Pool.acquireAfter, hfirst, hback]
        · exact ⟨hdisposed, hwithin, h₁.limits, h₁.batches⟩
    · have hrefusal : refusal d₀.limits.bufferSize (key :: rest) =
          refusal d₀.limits.bufferSize rest := by
        rw [refusal] at hfits ⊢
        split at hfits
        · cases hfits
        · next hsmall => rw [if_neg hsmall]
      rcases ih h₁ (taken ++ [x]) with ⟨r, p₂, d₂, hrest, hend⟩
      refine ⟨r, p₂, d₂, ?_, ?_⟩
      · simp only [Pool.acquireAfter, hfirst, hrest]
      · rw [Granted, hrefusal]
        exact hend

end Buffer.Pool

/-! ## What is seen of passes and tensors -/

/-- A pass without the buffers that it binds. -/
def Device.Pass.unbound (p : Device.Pass) : Device.Pass := { p with bindings := [] }

namespace Tensor

/-- What is seen of a tensor. -/
structure Sight where
  element : ElementType
  shape : Shape
  references : Nat
  parts : Option (TensorId × TensorId)
  /-- Whether it has a buffer on the device. -/
  onDevice : Bool
  /-- How many values it has on the host, if it has any there. -/
  hostCount : Option Nat
  /-- Its values on the host, unless a pass computed them. -/
  values : Option Values

/-- What is seen of the tensor of a record, if a pass computes its values or not. -/
def Record.sight (r : Record) (computed : Bool) : Sight where
  element := r.element
  shape := r.shape
  references := r.references
  parts := r.parts
  onDevice := r.resource.isSome
  hostCount := r.values.map Values.count
  values := if computed then none else r.values

end Tensor

namespace Backend

open Tensor Buffer Device

/-- What is seen of a backend. -/
structure View where
  maxDispatch : Nat
  bufferLimit : Nat
  pipelines : Table Pipeline.Key Pipeline.Compiled
  /-- Number of the next tensor. -/
  next : Nat
  /-- Passes in the order of their dispatch. -/
  passes : List Pass
  /-- Tensors that are referred to. -/
  tensors : TensorId → Option Sight

/-- Passes that were dispatched since the device had got some number of batches. -/
def dispatched (start : Nat) (b : Backend) : List Pass :=
  (b.device.batches.drop start).flatten ++ b.encoder.getD []

/-- Tensors that these passes compute. -/
def outputs (start : Nat) (b : Backend) : List TensorId := (dispatched start b).map Pass.output

/-- What is seen of a tensor, if it is referred to. -/
def sight (start : Nat) (b : Backend) (id : TensorId) : Option Sight :=
  match b.tensors.get id with
  | .ok r => if r.references = 0 then none else some (r.sight (decide (id ∈ outputs start b)))
  | .error _ => none

/-- The view of a backend. -/
def view (start : Nat) (b : Backend) : View where
  maxDispatch := b.maxDispatch
  bufferLimit := b.device.limits.bufferSize
  pipelines := b.pipelines.table
  next := b.tensors.next
  passes := (dispatched start b).map Pass.unbound
  tensors := sight start b

namespace View

variable {v : View} {id : TensorId}

/-- Tensors that passes compute. -/
def outputs (v : View) : List TensorId := v.passes.map Pass.output

/-- Another sight of a tensor. -/
def set (v : View) (id : TensorId) (t : Option Sight) : View :=
  { v with tensors := fun i => if i = id then t else v.tensors i }

/-- Putting what is seen already changes nothing. -/
theorem set_eq_self {t : Option Sight} (h : v.tensors id = t) : v.set id t = v := by
  have htensors : (fun i => if i = id then t else v.tensors i) = v.tensors := by
    funext i
    by_cases hi : i = id
    · rw [if_pos hi, hi, h]
    · rw [if_neg hi]
  rw [set, htensors]

/-- A view with one more tensor. -/
def insert (v : View) (t : Sight) : View :=
  { v with
    next := v.next + 1
    tensors := fun i => if i = ⟨v.next⟩ then some t else v.tensors i }

/-- A view with one more pass. -/
def dispatch (v : View) (p : Pass) : View := { v with passes := v.passes ++ [p.unbound] }

/-- A view with one reference less to a tensor. -/
def drop (v : View) (id : TensorId) : View :=
  match v.tensors id with
  | none => v
  | some t =>
    v.set id (if t.references = 1 then none else some { t with references := t.references - 1 })

/-- Parts that go with the last reference to a tensor. -/
def freed (v : View) (id : TensorId) : List TensorId :=
  match v.tensors id with
  | none => []
  | some t => if t.references = 1 then (t.parts.map fun p => [p.1, p.2]).getD [] else []

end View

variable {start : Nat} {b b' : Backend} {parked : List TensorId} {id : TensorId} {r r' : Record}

/-- The outputs that are seen are those of the dispatched passes. -/
theorem outputs_view (start : Nat) (b : Backend) : (view start b).outputs = outputs start b := by
  unfold View.outputs view outputs
  rw [List.map_map]
  rfl

/-- A tensor that is referred to is seen as its record. -/
theorem sight_of_get (hget : b.tensors.get id = .ok r) (hreferences : r.references ≠ 0) :
    sight start b id = some (r.sight (decide (id ∈ outputs start b))) := by
  rw [sight, hget]
  exact if_neg hreferences

/-- A tensor without references is not seen. -/
theorem sight_of_unreferenced (hget : b.tensors.get id = .ok r) (hreferences : r.references = 0) :
    sight start b id = none := by
  rw [sight, hget]
  exact if_pos hreferences

/-- A tensor that is gone is not seen. -/
theorem sight_of_absent {e : KernelError} (hget : b.tensors.get id = .error e) :
    sight start b id = none := by
  rw [sight, hget]

/-- A view changes at one tensor if the registry does and nothing else that is seen. -/
theorem view_eq_set (b b' : Backend) (id : TensorId)
    (hframe : view start b' = { view start b with tensors := sight start b' })
    (hother : ∀ i, i ≠ id → b'.tensors.get i = b.tensors.get i) :
    view start b' = (view start b).set id (sight start b' id) := by
  have houtputs : outputs start b' = outputs start b := by
    rw [← outputs_view, ← outputs_view, hframe]
    rfl
  have hsight : sight start b' =
      fun i => if i = id then sight start b' id else sight start b i := by
    funext i
    by_cases hi : i = id
    · rw [if_pos hi, hi]
    · rw [if_neg hi]
      simp only [sight, hother i hi, houtputs]
  rw [hframe, View.set]
  exact congrArg (fun tensors => { view start b with tensors }) hsight

/-! ## Tidy backends -/

/-- What holds of the record of a tensor while some tensors wait for removal. -/
structure Fine (start : Nat) (parked : List TensorId) (b : Backend) (id : TensorId) (r : Record) :
    Prop where
  lt_next : id.number < b.tensors.next
  parked_iff : r.references = 0 ↔ id ∈ parked
  pairs : r.parts ≠ none → r.element = .complex64
  plain : id ∈ b.batch.touched ∨ id ∈ parked → r.parts = none
  filled : ∀ v, r.values = some v → v.element = r.element
  computed : id ∈ outputs start b → r.resource ≠ none
  source : r.resource ≠ none → r.values = none → id ∈ outputs start b

/-- A backend in use, of whose tensors some wait for removal. -/
structure TidyBut (start : Nat) (parked : List TensorId) (b : Backend) : Prop where
  live : b.disposed = false
  poolLive : b.pool.disposed = false
  start_le : start ≤ b.device.batches.length
  fine : ∀ id r, b.tensors.get id = .ok r → Fine start parked b id r
  touched_lt : ∀ id ∈ b.batch.touched, id.number < b.tensors.next
  parked_lt : ∀ id ∈ parked, id.number < b.tensors.next
  outputs_lt : ∀ id ∈ outputs start b, id.number < b.tensors.next
  within : b.pool.Within b.device.limits.bufferSize

/-- A backend in use between two operations: the tensors without references are those whose removal
the batch puts off. -/
def Tidy (start : Nat) (b : Backend) : Prop := TidyBut start b.batch.deferred b

/-- A new backend is tidy. -/
theorem tidy_onDevice (d : Device) (s : Config.Settings) :
    Tidy d.batches.length (onDevice d s) where
  live := rfl
  poolLive := rfl
  start_le := Nat.le_refl _
  fine := fun _ _ hget => nomatch hget
  touched_lt := fun _ hmem => absurd hmem List.not_mem_nil
  parked_lt := fun _ hmem => absurd hmem List.not_mem_nil
  outputs_lt := by
    intro id hmem
    have hnone : outputs d.batches.length (onDevice d s) = [] := by
      simp [outputs, dispatched, onDevice]
    rw [hnone] at hmem
    exact absurd hmem List.not_mem_nil
  within := Pool.within_empty _

/-! ## Changes that are not seen -/

/-- A backend that differs from another in its pool, its counts and the bytes on the device alone. -/
structure Still (b b' : Backend) : Prop where
  tensors : b'.tensors = b.tensors
  touched : b'.batch.touched = b.batch.touched
  deferred : b'.batch.deferred = b.batch.deferred
  batches : b'.device.batches = b.device.batches
  encoder : b'.encoder = b.encoder
  limits : b'.device.limits = b.device.limits
  maxDispatch : b'.maxDispatch = b.maxDispatch
  pipelines : b'.pipelines.table = b.pipelines.table
  disposed : b'.disposed = b.disposed
  poolDisposed : b'.pool.disposed = b.pool.disposed
  within : b.pool.Within b.device.limits.bufferSize → b'.pool.Within b'.device.limits.bufferSize

namespace Still

variable {b'' : Backend}

/-- A backend stands still where nothing happens. -/
theorem refl (b : Backend) : Still b b := ⟨rfl, rfl, rfl, rfl, rfl, rfl, rfl, rfl, rfl, rfl, id⟩

/-- A backend stands still step by step. -/
theorem trans (h : Still b b') (h' : Still b' b'') : Still b b'' where
  tensors := h'.tensors.trans h.tensors
  touched := h'.touched.trans h.touched
  deferred := h'.deferred.trans h.deferred
  batches := h'.batches.trans h.batches
  encoder := h'.encoder.trans h.encoder
  limits := h'.limits.trans h.limits
  maxDispatch := h'.maxDispatch.trans h.maxDispatch
  pipelines := h'.pipelines.trans h.pipelines
  disposed := h'.disposed.trans h.disposed
  poolDisposed := h'.poolDisposed.trans h.poolDisposed
  within := fun hwithin => h'.within (h.within hwithin)

private theorem dispatched_eq (h : Still b b') : dispatched start b' = dispatched start b := by
  rw [dispatched, dispatched, h.batches, h.encoder]

/-- A backend that stands still has the same outputs. -/
theorem outputs_eq (h : Still b b') : outputs start b' = outputs start b := by
  rw [outputs, outputs, h.dispatched_eq]

/-- What happens to buffers does not change the view. -/
theorem view (h : Still b b') : view start b' = view start b := by
  have hsight : sight start b' = sight start b := by
    funext i
    simp only [sight, h.tensors, h.outputs_eq]
  unfold Backend.view
  rw [h.maxDispatch, h.limits, h.pipelines, h.tensors, h.dispatched_eq, hsight]

/-- A backend that stands still stays as tidy as it was. -/
theorem tidyBut (h : Still b b') (hb : TidyBut start parked b) : TidyBut start parked b' where
  live := h.disposed.trans hb.live
  poolLive := h.poolDisposed.trans hb.poolLive
  start_le := by rw [h.batches]; exact hb.start_le
  fine := by
    intro id r hget
    rw [h.tensors] at hget
    have hfine := hb.fine id r hget
    refine ⟨?_, hfine.parked_iff, hfine.pairs, ?_, hfine.filled, ?_, ?_⟩
    · rw [h.tensors]
      exact hfine.lt_next
    · rw [h.touched]
      exact hfine.plain
    · rw [h.outputs_eq]
      exact hfine.computed
    · rw [h.outputs_eq]
      exact hfine.source
  touched_lt := by
    rw [h.tensors, h.touched]
    exact hb.touched_lt
  parked_lt := by
    rw [h.tensors]
    exact hb.parked_lt
  outputs_lt := by
    rw [h.tensors, h.outputs_eq]
    exact hb.outputs_lt
  within := h.within hb.within

/-- A backend that stands still stays tidy. -/
theorem tidy (h : Still b b') (hb : Tidy start b) : Tidy start b' := by
  unfold Tidy
  rw [h.deferred]
  exact h.tidyBut hb

end Still

/-- Another device with the same batches and limits is not seen. -/
theorem still_with_device {d : Device} (hbatches : d.batches = b.device.batches)
    (hlimits : d.limits = b.device.limits) : Still b { b with device := d } :=
  ⟨rfl, rfl, rfl, hbatches, rfl, hlimits, rfl, rfl, rfl, rfl, fun hwithin => hlimits.symm ▸ hwithin⟩

/-- Giving a buffer back is not seen. -/
theorem still_release {x : Allocation} {pool : Pool} (h : b.pool.release x = .ok pool) :
    Still b { b with pool } :=
  ⟨rfl, rfl, rfl, rfl, rfl, rfl, rfl, rfl, rfl, Pool.disposed_release h,
    fun hwithin => hwithin.release h⟩

/-- Counting an event is not seen. -/
theorem still_count (e : Metrics.Event) : Still b { b with metrics := b.metrics.count e } :=
  ⟨rfl, rfl, rfl, rfl, rfl, rfl, rfl, rfl, rfl, rfl, id⟩

/-! ### Buffers -/

private theorem TidyBut.inStock (hb : TidyBut start parked b) : b.pool.InStock b.device b.device :=
  ⟨hb.poolLive, hb.within, rfl, rfl⟩

private theorem still_inStock {pool : Pool} {device : Device} (hlive : b.pool.disposed = false)
    (h : pool.InStock b.device device) : Still b { b with pool, device } :=
  ⟨rfl, rfl, rfl, h.batches, rfl, h.limits, rfl, rfl, rfl, h.live.trans hlive.symm,
    fun _ => h.limits.symm ▸ h.within⟩

/-- Whether a buffer is handed out is seen from the limit. -/
theorem acquire_granted (hb : TidyBut start parked b) (key : PoolKey) :
    Pool.Granted b.device.limits.bufferSize [key] (Action.acquire key b).1 ∧
      Still b (Action.acquire key b).2 := by
  rcases hb.inStock.acquire key with ⟨r, pool, device, hacquire, hgranted, hstock⟩
  simp only [Action.acquire, hacquire]
  exact ⟨hgranted, still_inStock hb.poolLive hstock⟩

/-- Taking the buffers of a pass is not seen, and they are granted unless one is too large. -/
theorem ends_acquireBoth (hb : TidyBut start parked b) (uniform output : PoolKey) :
    Ends (acquireBoth uniform output b) fun r b' =>
      Pool.Granted b.device.limits.bufferSize [uniform, output] r ∧ Still b b' := by
  rcases hb.inStock.acquireAfter [] [uniform, output] with ⟨r, pool, device, hall, hend⟩
  have hall' : b.pool.acquireAll Device.allocator b.device [uniform, output] = (r, pool, device) :=
    hall
  cases r with
  | error e =>
    rw [acquireBoth_of_error hall']
    rcases hend with hrefused | ⟨hgranted, hstock⟩
    · rcases hrefused with ⟨e', he', huntracked⟩
      obtain rfl := Except.error.inj he'
      exact .inl ⟨e, rfl, huntracked⟩
    · rcases hgranted with ⟨e', hrefusal, he'⟩ | ⟨-, xs, hxs⟩
      · obtain rfl := Except.error.inj he'
        exact .inr ⟨.inl ⟨e, hrefusal, rfl⟩, still_inStock hb.poolLive hstock⟩
      · cases hxs
  | ok xs =>
    obtain ⟨x, y, rfl⟩ := List.length_eq_two.mp (Pool.length_acquireAll hall')
    rw [acquireBoth_of_ok hall']
    rcases hend with ⟨e', he', -⟩ | ⟨hgranted, hstock⟩
    · cases he'
    · rcases hgranted with ⟨e', -, he'⟩ | ⟨hrefusal, -⟩
      · cases he'
      · exact .inr ⟨.inr ⟨hrefusal, _, rfl⟩, still_inStock hb.poolLive hstock⟩

/-! ## Changes of the registry -/

/-- Live tensors are numbered below the next. -/
theorem TidyBut.lt_next (hb : TidyBut start parked b) (hget : b.tensors.get id = .ok r) :
    id.number < b.tensors.next :=
  (hb.fine id r hget).lt_next

/-- What is seen after a tensor was added. -/
theorem view_insert (hb : TidyBut start parked b) (hreferences : r.references ≠ 0) :
    view start { b with tensors := (b.tensors.insert r).2 } =
      (view start b).insert (r.sight false) := by
  have hnew : ⟨b.tensors.next⟩ ∉ outputs start b :=
    fun hmem => Nat.lt_irrefl _ (hb.outputs_lt _ hmem)
  have hsight : sight start { b with tensors := (b.tensors.insert r).2 } =
      fun i => if i = ⟨b.tensors.next⟩ then some (r.sight false) else sight start b i := by
    funext i
    have houtputs : outputs start { b with tensors := (b.tensors.insert r).2 } = outputs start b :=
      rfl
    simp only [sight, Registry.get_insert, houtputs]
    by_cases hi : i = ⟨b.tensors.next⟩
    · rw [if_pos hi, if_pos hi, hi]
      simp [hreferences, hnew]
    · rw [if_neg hi, if_neg hi]
  unfold view
  rw [hsight]
  rfl

/-- A tensor may be added that has no buffer yet. -/
theorem TidyBut.insert (hb : TidyBut start parked b) (hreferences : r.references ≠ 0)
    (hpairs : r.parts ≠ none → r.element = .complex64)
    (hfilled : ∀ v, r.values = some v → v.element = r.element)
    (hresource : r.resource = none) :
    TidyBut start parked { b with tensors := (b.tensors.insert r).2 } where
  live := hb.live
  poolLive := hb.poolLive
  start_le := hb.start_le
  fine := by
    intro i found hget
    change (b.tensors.insert r).2.get i = .ok found at hget
    rw [Registry.get_insert] at hget
    split at hget
    · next hnew =>
      obtain rfl := Except.ok.inj hget
      rw [hnew]
      have hfresh {ids : List TensorId} (hids : ∀ id ∈ ids, id.number < b.tensors.next) :
          (⟨b.tensors.next⟩ : TensorId) ∉ ids :=
        fun hmem => Nat.lt_irrefl _ (hids _ hmem)
      refine ⟨Nat.lt_succ_self _, ?_, hpairs, ?_, hfilled, ?_, fun h => absurd hresource h⟩
      · exact ⟨fun h => absurd h hreferences, fun h => absurd h (hfresh hb.parked_lt)⟩
      · rintro (h | h)
        · exact absurd h (hfresh hb.touched_lt)
        · exact absurd h (hfresh hb.parked_lt)
      · exact fun h => absurd h (hfresh hb.outputs_lt)
    · have hfine := hb.fine i found hget
      exact ⟨Nat.lt_succ_of_lt hfine.lt_next, hfine.parked_iff, hfine.pairs, hfine.plain,
        hfine.filled, hfine.computed, hfine.source⟩
  touched_lt := fun i hi => Nat.lt_succ_of_lt (hb.touched_lt i hi)
  parked_lt := fun i hi => Nat.lt_succ_of_lt (hb.parked_lt i hi)
  outputs_lt := fun i hi => Nat.lt_succ_of_lt (hb.outputs_lt i hi)
  within := hb.within

/-- The record of one tensor may change or go, and so may its being parked. -/
theorem TidyBut.set (hb : TidyBut start parked b) (tensors : Registry)
    (batch : Submission.Batch Allocation) {parked' : List TensorId} (hid : id.number < b.tensors.next)
    (hnext : tensors.next = b.tensors.next) (htouched : batch.touched = b.batch.touched)
    (hother : ∀ i, i ≠ id → tensors.get i = b.tensors.get i)
    (hparked : ∀ i, i ≠ id → (i ∈ parked' ↔ i ∈ parked))
    (hfine : ∀ r', tensors.get id = .ok r' → Fine start parked' { b with tensors, batch } id r') :
    TidyBut start parked' { b with tensors, batch } where
  live := hb.live
  poolLive := hb.poolLive
  start_le := hb.start_le
  fine := by
    intro i found hget
    by_cases hi : i = id
    · rw [hi] at hget ⊢
      exact hfine found hget
    · have hold := hb.fine i found ((hother i hi).symm.trans hget)
      refine ⟨?_, ?_, hold.pairs, ?_, hold.filled, hold.computed, hold.source⟩
      · exact Nat.lt_of_lt_of_eq hold.lt_next hnext.symm
      · rw [hparked i hi]
        exact hold.parked_iff
      · rw [hparked i hi]
        change i ∈ batch.touched ∨ _ → _
        rw [htouched]
        exact hold.plain
  touched_lt := by
    intro i hi
    exact Nat.lt_of_lt_of_eq (hb.touched_lt i (htouched ▸ hi)) hnext.symm
  parked_lt := by
    intro i hi
    refine Nat.lt_of_lt_of_eq ?_ hnext.symm
    by_cases hsame : i = id
    · rw [hsame]
      exact hid
    · exact hb.parked_lt i ((hparked i hsame).mp hi)
  outputs_lt := fun i hi => Nat.lt_of_lt_of_eq (hb.outputs_lt i hi) hnext.symm
  within := hb.within

/-- A record may be put in place of that of a tensor that is referred to. -/
structure Amends (start : Nat) (b : Backend) (id : TensorId) (r r' : Record) : Prop where
  references : r'.references ≠ 0
  element : r'.element = r.element
  parts : r'.parts = r.parts
  filled : ∀ v, r'.values = some v → v.element = r'.element
  computed : id ∈ outputs start b → r'.resource ≠ none
  source : r'.resource ≠ none → r'.values = none → id ∈ outputs start b

/-- A record may be amended. -/
theorem TidyBut.put (hb : TidyBut start parked b) (hget : b.tensors.get id = .ok r)
    (hreferences : r.references ≠ 0) (h : Amends start b id r r') :
    TidyBut start parked { b with tensors := b.tensors.put id r' } := by
  have hold := hb.fine id r hget
  refine hb.set (b.tensors.put id r') b.batch hold.lt_next rfl rfl ?_ (fun _ _ => .rfl) ?_
  · exact fun i hi => Registry.get_put_of_ne hi
  · intro found hfound
    rw [Registry.get_put_self] at hfound
    obtain rfl := Except.ok.inj hfound
    refine ⟨hold.lt_next, ?_, ?_, ?_, h.filled, h.computed, h.source⟩
    · rw [← hold.parked_iff]
      exact ⟨fun hzero => absurd hzero h.references, fun hzero => absurd hzero hreferences⟩
    · rw [h.parts, h.element]
      exact hold.pairs
    · rw [h.parts]
      exact hold.plain

/-- What is seen after a record was put in place. -/
theorem view_put (hreferences' : r'.references ≠ 0) :
    view start { b with tensors := b.tensors.put id r' } =
      (view start b).set id (some (r'.sight (decide (id ∈ outputs start b)))) := by
  let b' : Backend := { b with tensors := b.tensors.put id r' }
  have hsight : sight start b' id = some (r'.sight (decide (id ∈ outputs start b))) :=
    sight_of_get Registry.get_put_self hreferences'
  have hother (i : TensorId) (hi : i ≠ id) : b'.tensors.get i = b.tensors.get i :=
    Registry.get_put_of_ne hi
  exact (view_eq_set b b' id rfl hother).trans (congrArg ((view start b).set id) hsight)

end Backend

end ComputeKernels

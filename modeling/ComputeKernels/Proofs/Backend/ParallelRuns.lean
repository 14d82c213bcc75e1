import ComputeKernels.Proofs.Backend.Parallel

/-!
# Runs on backends that are seen alike

A job finds the same kernel, launch and pipeline on both sides, its operands come to the device
alike, and the passes that it records differ in the buffers that they bind alone.

Main results:

- Theorem `Alike.kernel_eq`: the kernel of a job depends on the view alone.
- Theorem `agree_upload`: tensors are brought to the device alike.
- Theorem `agree_run`: a job is run alike.
-/

namespace ComputeKernels.Backend

open Tensor Buffer Device

variable {α β : Type} {start : Nat} {b b' b₁ b₂ b₁' b₂' : Backend} {id : TensorId}
  {r₁ r₂ : Record}

/-! ## Kernels -/

/-- Computations over a list that are the same at its elements are the same. -/
theorem mapM_congr {ε : Type} {f g : α → Except ε β} {xs : List α}
    (h : ∀ x ∈ xs, f x = g x) : xs.mapM f = xs.mapM g := by
  induction xs with
  | nil => rfl
  | cons x xs ih =>
    rcases List.forall_mem_cons.mp h with ⟨hx, hrest⟩
    rw [List.mapM_cons, List.mapM_cons, hx, ih hrest]

/-- The kernel of a job depends on the view alone. -/
theorem Alike.kernel_eq (h : Alike start b₁ b₂) {j : Job}
    (hinputs : ∀ id ∈ j.inputs, (view start b₁).Retains id) :
    j.kernel b₁.tensors = j.kernel b₂.tensors := by
  have hoperands : j.operands b₁.tensors = j.operands b₂.tensors := by
    apply mapM_congr
    rintro ⟨id, name⟩ hmem
    rcases h.exists_counterparts (hinputs id (List.of_mem_zip hmem).1) with
      ⟨hget₁, hget₂⟩ | ⟨r₁, r₂, hc⟩
    · simp only [hget₁, hget₂]
    · simp only [hc.get_left, hc.get_right]
      have hsame : (⟨name, r₁.element, r₁.shape⟩ : Operand) = ⟨name, r₂.element, r₂.shape⟩ := by
        rw [hc.element_eq, hc.shape_eq]
      exact congrArg Except.ok hsame
  unfold Job.kernel
  rw [hoperands]

/-- The operands of a kernel that is valid have no parts. -/
theorem Tidy.plain_of_kernel (hb : Tidy start b) {j : Job} {k : Kernel}
    (hinputs : ∀ id ∈ j.inputs, (view start b).Retains id) (hk : j.kernel b.tensors = .ok k) :
    ∀ id ∈ j.inputs, (view start b).Plain id := by
  intro id hid
  rcases Job.exists_stored_of_kernel hk hid with ⟨r, hget, hstored⟩
  have hfine := hb.fine _ r hget
  have hparts : r.parts = none := by
    by_contra hsome
    rw [hfine.pairs hsome] at hstored
    simp [ElementType.storage?] at hstored
  have hreferences : r.references ≠ 0 := by
    intro hzero
    exact hinputs _ hid hfine.lt_next (sight_of_unreferenced hget hzero)
  have hsight : (view start b).tensors id = _ := sight_of_get hget hreferences
  rw [View.Plain, hsight, Option.map_some]
  exact congrArg some hparts

/-! ## Pipelines -/

/-- Other pipelines may be kept while nothing else that is seen changes. -/
theorem seen_with_pipelines (hb : Tidy start b) {d : Device} (hbatches : d.batches = b.device.batches)
    (hlimits : d.limits = b.device.limits)
    (pipelines : Pipeline.Cache Pipeline.Key Pipeline.Compiled) (metrics : Metrics) :
    Tidy start { b with device := d, pipelines, metrics } ∧
      view start { b with device := d, pipelines, metrics } =
        { view start b with pipelines := pipelines.table } := by
  have htidy : Tidy start { b with pipelines } := by
    refine ⟨hb.live, hb.poolLive, hb.start_le, fun id r hget => ?_, hb.touched_lt, hb.parked_lt,
      hb.outputs_lt, hb.within⟩
    have hfine := hb.fine id r hget
    exact ⟨hfine.lt_next, hfine.parked_iff, hfine.pairs, hfine.plain, hfine.filled,
      hfine.computed, hfine.source⟩
  have hstill : Still { b with pipelines } { b with device := d, pipelines, metrics } :=
    ⟨rfl, rfl, rfl, hbatches, rfl, hlimits, rfl, rfl, rfl, rfl, fun hw => hlimits.symm ▸ hw⟩
  exact ⟨hstill.tidy htidy, hstill.view⟩

/-- What a compilation comes to does not depend on the device, which is given harmless commands. -/
theorem compileOn_seen (k : Kernel) (label : String) (objection : Option String) (d d' : Device) :
    (compileOn k label objection d).1 = (compileOn k label objection d').1 ∧
      (compileOn k label objection d).2.batches = d.batches ∧
      (compileOn k label objection d).2.limits = d.limits := by
  obtain ⟨-, commands, hcommands, hdevice⟩ := compileOn_eq k label objection d
  refine ⟨?_, ?_, ?_⟩
  · unfold compileOn Device.compile
    cases Shader.sourceOf k with
    | error e => rfl
    | ok source => cases objection <;> rfl
  · rw [hdevice]
    exact batches_foldl_note hcommands
  · rw [hdevice, foldl_note]

/-- The pipeline of a kernel and the pipelines that are kept from then on, if some were kept before
and compilation comes to some result. -/
def keptFor (kept : Table Pipeline.Key Pipeline.Compiled) (k : Kernel)
    (compilation : Except KernelError Pipeline.Compiled) :
    Except KernelError Pipeline.Compiled × Table Pipeline.Key Pipeline.Compiled :=
  match kept.get? (Pipeline.Key.of k), compilation with
  | some compiled, _ => (.ok compiled, kept)
  | none, .ok compiled => (.ok compiled, kept.set (Pipeline.Key.of k) compiled)
  | none, .error e => (.error e, kept)

private theorem ends_pipeline (hb : Tidy start b) (k : Kernel) (objection : Option String)
    (d : Device) :
    let kept := keptFor b.pipelines.table k
      (compileOn k (Pipeline.Key.of k).text objection d).1
    Ends (pipeline k objection b) fun result b' => result = kept.1 ∧ Tidy start b' ∧
      view start b' = { view start b with pipelines := kept.2 } := by
  rcases compileOn_seen k (Pipeline.Key.of k).text objection b.device d with
    ⟨hsame, hbatches, hlimits⟩
  rw [← hsame]
  cases hcompiled : compileOn k (Pipeline.Key.of k).text objection b.device with
  | mk compilation device =>
  rw [hcompiled] at hbatches hlimits
  refine .inr ?_
  cases hfound : b.pipelines.table.get? (Pipeline.Key.of k) with
  | some compiled =>
    simp only [pipeline, Pipeline.Cache.getOrCreate, keptFor, hfound]
    exact ⟨trivial, seen_with_pipelines hb rfl rfl _ _⟩
  | none =>
    cases compilation with
    | ok compiled =>
      simp only [pipeline, Pipeline.Cache.getOrCreate, keptFor, hfound, hcompiled]
      exact ⟨trivial, seen_with_pipelines hb hbatches hlimits _ _⟩
    | error e =>
      simp only [pipeline, Pipeline.Cache.getOrCreate, keptFor, hfound, hcompiled]
      exact ⟨trivial, seen_with_pipelines hb hbatches hlimits _ b.metrics⟩

/-- A kernel has the same pipeline on both sides. -/
theorem agree_pipeline (h : Alike start b₁ b₂) (k : Kernel) (objection : Option String) :
    Agree start (view start b₁) (fun c₁ c₂ v => c₁ = c₂ ∧ (view start b₁).Steady v)
      (pipeline k objection b₁) (pipeline k objection b₂) := by
  have htables : b₂.pipelines.table = b₁.pipelines.table := congrArg View.pipelines h.view_eq.symm
  have hright := ends_pipeline h.right k objection b₁.device
  rw [← h.view_eq, htables] at hright
  have hsteady (kept : Table Pipeline.Key Pipeline.Compiled) :
      (view start b₁).Steady { view start b₁ with pipelines := kept } := ⟨rfl, rfl, fun _ => rfl⟩
  refine .of_ends (ends_pipeline h.left k objection b₁.device) hright (hsteady _).evolves ?_
  rintro - - rfl rfl
  exact .same fun _ _ => ⟨rfl, hsteady _⟩

/-- Preparing a layout is not seen. -/
theorem unseen_prepareLayout (operands : Nat) : Unseen start (prepareLayout operands) := by
  intro b hb
  have hstill : Still b (prepareLayout operands b).2 := by
    cases hfound : b.layouts.get? operands with
    | some entries =>
      simp only [prepareLayout, Action.update, Pipeline.getOrInsert, hfound]
      exact ⟨rfl, rfl, rfl, rfl, rfl, rfl, rfl, rfl, rfl, rfl, id⟩
    | none =>
      simp only [prepareLayout, Action.update, Pipeline.getOrInsert, hfound]
      exact ⟨rfl, rfl, rfl, batches_note_of_eq_none rfl, rfl, rfl, rfl, rfl, rfl, rfl, id⟩
  exact .inr ⟨rfl, hstill.tidy hb, hstill.view⟩

/-! ## Buffers -/

/-- The records of a tensor stay counterparts while nothing happens to tensors and passes. -/
theorem Counterparts.still (hc : Counterparts start b₁ b₂ id r₁ r₂) (h₁ : Still b₁ b₁')
    (h₂ : Still b₂ b₂') : Counterparts start b₁' b₂' id r₁ r₂ where
  get_left := by rw [h₁.tensors]; exact hc.get_left
  get_right := by rw [h₂.tensors]; exact hc.get_right
  referenced_left := hc.referenced_left
  referenced_right := hc.referenced_right
  sight_eq := by rw [h₁.outputs_eq]; exact hc.sight_eq

/-- First steps that are not seen and leave tensors alone. -/
theorem Agree.bind_still {post : β → β → View → Prop} {x y : Action α} {f g : α → Action β}
    {a₁ a₂ : α} (h : Alike start b₁ b₂) (hx : x b₁ = (.ok a₁, b₁')) (hy : y b₂ = (.ok a₂, b₂'))
    (h₁ : Still b₁ b₁') (h₂ : Still b₂ b₂')
    (hf : Alike start b₁' b₂' → view start b₁' = view start b₁ →
      Agree start (view start b₁') post (f a₁ b₁') (g a₂ b₂')) :
    Agree start (view start b₁) post ((x >>= f) b₁) ((y >>= g) b₂) := by
  have hview : view start b₁' = view start b₁ := h₁.view
  rw [← hview]
  exact .bind_to hx hy (hf (h.still h₁ h₂) hview)

/-- Requests for buffers end alike under one limit. -/
theorem matching_of_granted {limit : Nat} {keys : List PoolKey} {s₁ s₂ : Except KernelError α}
    (h₁ : Pool.Granted limit keys s₁) (h₂ : Pool.Granted limit keys s₂) :
    Matching (fun _ _ => True) s₁ s₂ := by
  rcases h₁ with ⟨e, hrefusal, rfl⟩ | ⟨hrefusal, a₁, rfl⟩
  · rcases h₂ with ⟨e', hrefusal', rfl⟩ | ⟨hrefusal', -⟩
    · obtain rfl := Option.some.inj (hrefusal.symm.trans hrefusal')
      exact .error e
    · rw [hrefusal] at hrefusal'
      cases hrefusal'
  · rcases h₂ with ⟨e', hrefusal', rfl⟩ | ⟨-, a₂, rfl⟩
    · rw [hrefusal] at hrefusal'
      cases hrefusal'
    · exact .ok trivial

private theorem key_of_acquire {key : PoolKey} {x : Allocation}
    (h : Action.acquire key b = (.ok x, b')) : x.key = key := by
  obtain ⟨r, pool, device, hacquire⟩ : ∃ r pool device,
      b.pool.acquire Device.allocator b.device key = (r, pool, device) := ⟨_, _, _, rfl⟩
  simp only [Action.acquire, hacquire] at h
  obtain rfl : r = .ok x := congrArg Prod.fst h
  exact (Pool.acquire_eq_ok hacquire).2.1

/-- The buffers of a pass are taken from the pool alike. -/
theorem agree_acquireBoth (h : Alike start b₁ b₂) (uniform output : PoolKey) :
    Agree start (view start b₁) (fun _ _ v => v = view start b₁) (acquireBoth uniform output b₁)
      (acquireBoth uniform output b₂) := by
  have hlimit : b₂.device.limits.bufferSize = b₁.device.limits.bufferSize :=
    congrArg View.bufferLimit h.view_eq.symm
  have hseen {b : Backend} (hb : Tidy start b) :
      Ends (acquireBoth uniform output b) fun result b' =>
        Pool.Granted b.device.limits.bufferSize [uniform, output] result ∧ Tidy start b' ∧
          view start b' = view start b := by
    rcases ends_acquireBoth hb uniform output with hrefused | ⟨hgranted, hstill⟩
    · exact .inl hrefused
    · exact .inr ⟨hgranted, hstill.tidy hb, hstill.view⟩
  have hright := hseen h.right
  rw [hlimit, ← h.view_eq] at hright
  refine .of_ends (hseen h.left) hright (.refl _) fun s₁ s₂ h₁ h₂ => ?_
  exact (matching_of_granted h₁ h₂).mono fun _ _ _ => rfl

/-- First steps that take a buffer from the pool. -/
theorem Agree.bind_acquire {post : β → β → View → Prop} {f g : Allocation → Action β}
    (h : Alike start b₁ b₂) (key : PoolKey)
    (hf : ∀ x₁ x₂ b₁' b₂', x₁.key = key → x₂.key = key → Still b₁ b₁' → Still b₂ b₂' →
      Alike start b₁' b₂' → Agree start (view start b₁') post (f x₁ b₁') (g x₂ b₂')) :
    Agree start (view start b₁) post ((Action.acquire key >>= f) b₁)
      ((Action.acquire key >>= g) b₂) := by
  have hlimit : b₁.device.limits.bufferSize = b₂.device.limits.bufferSize :=
    congrArg View.bufferLimit h.view_eq
  rcases acquire_granted h.left key with ⟨hgranted₁, hstill₁⟩
  rcases acquire_granted h.right key with ⟨hgranted₂, hstill₂⟩
  rw [← hlimit] at hgranted₂
  have hmatching := matching_of_granted hgranted₁ hgranted₂
  cases hleft : Action.acquire key b₁ with
  | mk s₁ b₁' =>
  cases hright : Action.acquire key b₂ with
  | mk s₂ b₂' =>
  rw [hleft] at hstill₁ hmatching
  rw [hright] at hstill₂ hmatching
  have halike := h.still hstill₁ hstill₂
  cases hmatching with
  | error e =>
    rw [Action.bind_apply_error hleft, Action.bind_apply_error hright]
    have hview : view start b₁' = view start b₁ := hstill₁.view
    rw [← hview]
    exact .error halike e
  | ok =>
    refine .bind_still h hleft hright hstill₁ hstill₂ fun halike _ => ?_
    exact hf _ _ b₁' b₂' (key_of_acquire hleft) (key_of_acquire hright) hstill₁ hstill₂ halike

/-! ## Operands -/

/-- The last steps of an upload: the tensor gets the buffer that holds its values. -/
theorem agree_attach (h : Alike start b₁ b₂) (hc : Counterparts start b₁ b₂ id r₁ r₂)
    (hvalues₁ : r₁.values ≠ none) (hvalues₂ : r₂.values ≠ none) (n : Nat) (x₁ x₂ : Allocation) :
    Agree start (view start b₁) (fun _ _ v => (view start b₁).Steady v)
      ((do
        Action.count (.upload n)
        Action.modify id ({ · with resource := some x₁ })
        return x₁ : Action Allocation) b₁)
      ((do
        Action.count (.upload n)
        Action.modify id ({ · with resource := some x₂ })
        return x₂ : Action Allocation) b₂) := by
  have hamends {b : Backend} {r : Record} (hb : Tidy start b) (hget : b.tensors.get id = .ok r)
      (hreferences : r.references ≠ 0) (hvalues : r.values ≠ none) (x : Allocation) :
      Amends start b id r { r with resource := some x } :=
    ⟨hreferences, rfl, rfl, (hb.fine id r hget).filled, fun _ => Option.some_ne_none x,
      fun _ hnone => absurd hnone hvalues⟩
  have hcount₁ := still_count (b := b₁) (.upload n)
  have hcount₂ := still_count (b := b₂) (.upload n)
  refine .bind_still h rfl rfl hcount₁ hcount₂ fun h' hview => ?_
  have hc' := hc.still hcount₁ hcount₂
  refine .bind_to (Action.modify_apply hc'.get_left) (Action.modify_apply hc'.get_right) ?_
  refine agree_put h' hc' (hamends h'.left hc'.get_left hc.referenced_left hvalues₁ x₁)
    (hamends h'.right hc'.get_right hc.referenced_right hvalues₂ x₂) ?_ fun v hv => ?_
  · exact congrArg (fun t : Sight => { t with onDevice := true }) hc'.sight_eq
  · rwa [hview] at hv

/-- A tensor is brought to the device alike. -/
theorem agree_upload (h : Alike start b₁ b₂) (hid : (view start b₁).Retains id) :
    Agree start (view start b₁) (fun _ _ v => (view start b₁).Steady v) (upload id b₁)
      (upload id b₂) := by
  unfold upload
  apply Agree.bind_record h hid
  intro r₁ r₂ hc
  have hresources := hc.isSome_resource
  have honHost := hc.isSome_values
  cases hresource₁ : r₁.resource with
  | some x₁ =>
    rw [hresource₁] at hresources
    rcases Option.isSome_iff_exists.mp hresources.symm with ⟨x₂, hresource₂⟩
    rw [hresource₂]
    exact .ok h (.refl _)
  | none =>
    rw [hresource₁] at hresources
    have hresource₂ : r₂.resource = none := by simpa using hresources.symm
    rw [hresource₂]
    have hvalues : r₁.values = r₂.values := by
      apply hc.values_eq
      intro hmem
      exact (h.left.fine id r₁ hc.get_left).computed hmem hresource₁
    rw [← hvalues]
    cases hvalues₁ : r₁.values with
    | none => exact .error h _
    | some v =>
      have hfilled₁ : r₁.values ≠ none := by simp [hvalues₁]
      have hfilled₂ : r₂.values ≠ none := by simp [← hvalues, hvalues₁]
      refine .bind_of h fun bytes _ => ?_
      refine .bind_acquire h _ fun x₁ x₂ b₁' b₂' _ _ h₁ h₂ h' => ?_
      have hview : view start b₁' = view start b₁ := h₁.view
      have hc' := hc.still h₁ h₂
      rw [← hview]
      by_cases hempty : bytes.isEmpty = true
      · simp only [hempty, Bool.not_true, Bool.false_eq_true, if_false]
        exact agree_attach h' hc' hfilled₁ hfilled₂ _ x₁ x₂
      · simp only [hempty, Bool.not_false, if_true]
        have hwrite {b : Backend} (x : Allocation) :
            Still b { b with device := b.device.write x.buffer bytes } :=
          still_with_device (batches_write _ _) rfl
        refine .bind_still h' rfl rfl (hwrite x₁) (hwrite x₂) fun h'' hview' => ?_
        rw [← hview']
        exact agree_attach h'' (hc'.still (hwrite x₁) (hwrite x₂)) hfilled₁ hfilled₂ _ x₁ x₂

/-- So are several tensors. -/
theorem agree_uploadEach (h : Alike start b₁ b₂) (ids : List TensorId)
    (hids : ∀ id ∈ ids, (view start b₁).Retains id) :
    Agree start (view start b₁) (fun _ _ v => (view start b₁).Steady v) (ids.mapM upload b₁)
      (ids.mapM upload b₂) := by
  induction ids generalizing b₁ b₂ with
  | nil => exact .ok h (.refl _)
  | cons id rest ih =>
    rcases List.forall_mem_cons.mp hids with ⟨hid, hrest⟩
    rw [List.mapM_cons]
    refine (agree_upload h hid).bind fun _ _ b₁' b₂' h' hsteady => ?_
    refine (ih h' fun i hi => hsteady.retains (hrest i hi)).bind fun _ _ b₁'' b₂'' h'' hrest => ?_
    exact .ok h'' (hsteady.trans hrest)

/-! ## Passes -/

/-- The sight of the output of a pass. -/
def outputSight (j : Job) (k : Kernel) : Sight where
  element := j.element
  shape := k.output.shape
  references := 1
  parts := none
  onDevice := true
  hostCount := none
  values := none

/-- What recording a pass does to the view does not depend on the buffers. -/
theorem ends_recordPass_seen (hb : Tidy start b) {j : Job}
    (hinputs : ∀ id ∈ j.inputs, (view start b).Plain id) (k : Kernel) (launch : Launch)
    (compiled : Pipeline.Compiled) (operands : List Allocation) (uniform output : Allocation) :
    Ends (recordPass j k launch compiled operands uniform output b) fun result b' =>
      result = .ok ⟨(view start b).next⟩ ∧ Tidy start b' ∧
        view start b' = ((view start b).insert (outputSight j k)).dispatch
          (j.pass launch compiled [] ⟨(view start b).next⟩) := by
  have hbound (bindings : List BufferId) : Still b (bound launch bindings uniform b) :=
    still_with_device ((batches_note_of_eq_none rfl).trans (batches_write _ _)) rfl
  rw [recordPass_eq]
  let bindings := Pipeline.bySlot (groupOf k operands uniform output)
  let pass := j.pass launch compiled bindings ⟨b.tensors.next⟩
  let b₀ := bound launch bindings uniform b
  let b₁ := recorded (outputRecord j k output) pass uniform b₀
  have hview₀ : view start b₀ = view start b := (hbound bindings).view
  have htidy₀ : Tidy start b₀ := (hbound bindings).tidy hb
  have hplain : ∀ i ∈ pass.inputs, i.number < b₀.tensors.next ∧
      ∀ found, b₀.tensors.get i = .ok found → found.parts = none := by
    intro i hi
    rcases Option.map_eq_some_iff.mp (hinputs i hi) with ⟨t, ht, hparts⟩
    rcases exists_get_of_sight ht with ⟨r, hget, -, rfl⟩
    refine ⟨hb.lt_next hget, fun found hfound => ?_⟩
    obtain rfl := Except.ok.inj (hget.symm.trans hfound)
    exact hparts
  have htidy₁ : Tidy start b₁ := tidy_recorded htidy₀ Nat.one_ne_zero rfl (Option.some_ne_none _)
    rfl rfl hplain
  have hview₁ : view start b₁ = ((view start b).insert (outputSight j k)).dispatch
      (j.pass launch compiled [] ⟨(view start b).next⟩) := by
    rw [← hview₀]
    exact view_recorded Nat.one_ne_zero rfl
  by_cases hfull : b.batch.capacity ≤ b.batch.passes + 1
  · rw [if_pos hfull]
    refine (ends_submit_unseen htidy₁).bind_ok fun b₂ h₂ => ?_
    exact .inr ⟨rfl, h₂.1, h₂.2.trans hview₁⟩
  · rw [if_neg hfull]
    exact .inr ⟨rfl, htidy₁, hview₁⟩

/-- A pass is recorded alike, though it may fill the batch of one backend and not that of the
other. -/
theorem agree_recordPass (h : Alike start b₁ b₂) {j : Job}
    (hinputs : ∀ id ∈ j.inputs, (view start b₁).Plain id) (k : Kernel) (launch : Launch)
    (compiled : Pipeline.Compiled) (operands₁ operands₂ : List Allocation)
    (uniform₁ uniform₂ output₁ output₂ : Allocation) :
    Agree start (view start b₁) (fun id₁ id₂ _ => id₁ = id₂)
      (recordPass j k launch compiled operands₁ uniform₁ output₁ b₁)
      (recordPass j k launch compiled operands₂ uniform₂ output₂ b₂) := by
  have hleft := ends_recordPass_seen h.left hinputs k launch compiled operands₁ uniform₁ output₁
  rw [h.view_eq] at hinputs
  have hright := ends_recordPass_seen h.right hinputs k launch compiled operands₂ uniform₂ output₂
  rw [← h.view_eq] at hright
  refine .of_ends hleft hright (View.evolves_dispatch rfl) ?_
  rintro - - rfl rfl
  exact .ok rfl

/-! ## Jobs -/

/-- A job is run alike. -/
theorem agree_run (h : Alike start b₁ b₂) {j : Job}
    (hinputs : ∀ id ∈ j.inputs, (view start b₁).Retains id) :
    Agree start (view start b₁) (fun h₁ h₂ _ => h₁ = h₂) (run j b₁) (run j b₂) := by
  have hkernels := h.kernel_eq hinputs
  have hlimits : b₁.maxDispatch = b₂.maxDispatch := congrArg View.maxDispatch h.view_eq
  have htensors (b : Backend) : Action.look Backend.tensors b = (.ok b.tensors, b) := rfl
  have hlimit (b : Backend) : Action.look Backend.maxDispatch b = (.ok b.maxDispatch, b) := rfl
  unfold run
  refine .bind_live h (.bind_to (htensors b₁) (htensors b₂) ?_)
  rw [← hkernels]
  refine .bind_of h fun k hkernel => ?_
  by_cases hempty : k.output.count = 0
  · simp only [hempty, if_true]
    exact (agree_make h _ _ _).mono fun _ _ _ hsame => hsame.1
  simp only [hempty, if_false]
  refine .bind_to (hlimit b₁) (hlimit b₂) ?_
  rw [← hlimits]
  refine .bind_of h fun launch _ => ?_
  have hplain := h.left.plain_of_kernel hinputs hkernel
  have hlayout : Unseen start (prepareLayout k.inputs.length) := unseen_prepareLayout _
  refine (hlayout.agree hlayout h).bind fun _ _ b₁' b₂' h' hview => ?_
  rw [← hview] at hinputs hplain
  refine (agree_pipeline h' k j.objection).bind ?_
  rintro compiled _ c₁ c₂ hc ⟨rfl, hkept⟩
  have hretained : ∀ id ∈ j.inputs, (view start c₁).Retains id :=
    fun id hid => hkept.retains (hinputs id hid)
  refine (agree_uploadEach hc j.inputs hretained).bind fun operands₁ operands₂ d₁ d₂ hd hup => ?_
  have hplain' : ∀ id ∈ j.inputs, (view start d₁).Plain id :=
    fun id hid => hup.plain (hkept.plain (hplain id hid))
  refine (agree_acquireBoth hd _ _).bind fun buffers₁ buffers₂ e₁ e₂ he hview' => ?_
  rw [← hview'] at hplain'
  refine (agree_recordPass he hplain' k launch compiled operands₁ operands₂ _ _ _ _).bind ?_
  rintro id _ f₁ f₂ hf rfl
  exact .ok hf rfl

end ComputeKernels.Backend

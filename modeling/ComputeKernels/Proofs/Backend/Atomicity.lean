import ComputeKernels.Proofs.Backend.Batching

/-!
# Runs that fail

A run of a program can fail at many points, some of them after operands were brought to the device
or after a buffer was taken for the uniform block.  Whatever the cause is, a run that fails changes
no tensor but for buffers that operands got for their values, and neither records nor submits
anything.  Once the buffers for the uniform block and the output are there, nothing can fail any
more.

Main results:

- Theorem `Reachable.sound_or_disposed`: what holds in every state that a backend can come to.
- Theorem `Spared.trans`: what two steps spare is spared by both together.
- Theorem `spared_uploadEach`: bringing operands to the device spares all but their buffers.
- Theorem `runs_fail_atomically`: what a failed run leaves behind.
-/

namespace ComputeKernels

namespace Tensor

/-- A record apart from its device buffer. -/
def Record.bare (r : Record) : Record := { r with resource := none }

end Tensor

/-- Whether a command prepares a pass without recording it.  Writes go to some buffers only. -/
def Device.Command.Prepares (targets : List Buffer.Allocation) : Command → Prop
  | .createLayout _ _ => True
  | .compile _ => True
  | .createBuffer _ _ => True
  | .write buffer _ => buffer ∈ targets.map Buffer.Allocation.buffer
  | _ => False

private theorem Device.Command.Prepares.mono {targets targets' : List Buffer.Allocation}
    {c : Command}
    (h : c.Prepares targets) (hsub : targets ⊆ targets') : c.Prepares targets' := by
  cases c with
  | write buffer bytes => exact List.map_subset _ hsub h
  | createLayout _ _ => trivial
  | compile _ => trivial
  | createBuffer _ _ => trivial
  | _ => cases h

namespace Backend

open Tensor Buffer Device

variable {b b' b'' : Backend}

/-! ## States that a backend can come to -/

/-- A backend is reachable if it comes from a new one by operations, by disposal and by the loss of
its device. -/
inductive Reachable : Backend → Prop
  | new (d : Device) (s : Config.Settings) : Reachable (onDevice d s)
  | step {b : Backend} (h : Reachable b) (op : Operation) : Reachable (b.step op).2
  | dispose {b : Backend} (h : Reachable b) : Reachable b.dispose
  | lose {b : Backend} (h : Reachable b) (reason : String) : Reachable (b.lose reason).1

/-- A disposed backend is not live. -/
theorem live_of_disposed (hb : b.disposed = true) : Action.live b = (.error .disposed, b) := by
  simp [Action.live, hb]

/-- A disposed backend refuses every operation. -/
theorem step_of_disposed (hb : b.disposed = true) (op : Operation) :
    b.step op = (.error .disposed, b) := by
  have hrefused {α : Type} (f : Unit → Action α) : (Action.live >>= f) b = (.error .disposed, b) :=
    Action.bind_apply_error (live_of_disposed hb)
  cases op with
  | submit => exact Action.bind_apply_error (hrefused _)
  | write values shape => exact Action.bind_apply_error (hrefused _)
  | make shape element values => exact Action.bind_apply_error (hrefused _)
  | complex real imag => exact Action.bind_apply_error (hrefused _)
  | retain id => exact Action.bind_apply_error (hrefused _)
  | drop id force => exact Action.bind_apply_error (hrefused _)
  | run job => exact Action.bind_apply_error (hrefused _)
  | read id fault => exact Action.bind_apply_error (hrefused _)

/-- Losing the device is quiet. -/
theorem quiet_lose (b : Backend) (reason : String) : Quiet b (b.lose reason).1 := by
  have hnone : b.device.journal = b.device.journal ++ [] := (List.append_nil _).symm
  unfold lose
  split
  · exact ⟨rfl, rfl, ⟨[], hnone, List.forall_mem_nil _⟩, rfl, rfl, rfl, rfl, rfl, rfl⟩
  · exact ⟨rfl, rfl, ⟨[], hnone, List.forall_mem_nil _⟩, rfl, rfl, rfl, rfl, rfl, rfl⟩

/-- In every state that a backend can come to each buffer has an owner, or the backend is disposed. -/
theorem Reachable.sound_or_disposed (h : Reachable b) : Sound ⟨b, []⟩ ∨ b.disposed = true := by
  induction h with
  | new d s => exact .inl (sound_onDevice d s)
  | step _ op ih =>
    rcases ih with hm | hdisposed
    · rcases exists_trail hm op with ⟨⟨t, htrail⟩, -⟩
      exact .inl (htrail.sound hm)
    · rw [step_of_disposed hdisposed]
      exact .inr hdisposed
  | @dispose b _ ih =>
    refine .inr ?_
    unfold Backend.dispose
    split
    · next hdisposed => exact hdisposed
    · rfl
  | @lose b _ reason ih =>
    have hquiet := quiet_lose b reason
    rcases ih with hm | hdisposed
    · exact .inl (hm.quiet hquiet)
    · exact .inr (hquiet.disposed.trans hdisposed)

/-! ## What is left behind -/

/-- What a run may leave behind before it records its pass. -/
structure Leftover where
  /-- Buffers that operands got for their values. -/
  attached : List Allocation := []
  /-- Buffers that the device made. -/
  made : List Allocation := []
  /-- Bytes that were written to the device. -/
  uploaded : Nat := 0
  /-- Pipelines that were found. -/
  hits : Nat := 0
  /-- Pipelines that were compiled. -/
  misses : Nat := 0

/-- What two steps leave behind, the later one first. -/
def Leftover.after (l' l : Leftover) : Leftover where
  attached := l'.attached ++ l.attached
  made := l'.made ++ l.made
  uploaded := l.uploaded + l'.uploaded
  hits := l.hits + l'.hits
  misses := l.misses + l'.misses

/-- A tensor has a buffer of the size for its values, and the buffer holds them. -/
def Filled (b : Backend) (id : TensorId) (x : Allocation) : Prop :=
  ∃ r v bytes, b.tensors.get id = .ok r ∧ r.resource = some x ∧ r.values = some v ∧
    v.deviceBytes = .ok bytes ∧ x.key = tensorKey bytes.length ∧
    bytes <+: b.device.memory.contents x.buffer

/-- Tensors stay as they are, but for some that had no buffer and now have one with their values. -/
structure SameTensors (inputs : List TensorId) (b b' : Backend) (attached : List Allocation) :
    Prop where
  next : b'.tensors.next = b.tensors.next
  records : ∀ id, (b'.tensors.get id).map Record.bare = (b.tensors.get id).map Record.bare
  buffers : ∀ id, b'.tensors.resource? id = b.tensors.resource? id ∨
    (id ∈ inputs ∧ b.tensors.resource? id = none ∧ ∃ x ∈ attached, Filled b' id x)
  resources : b'.tensors.resources.Perm (attached ++ b.tensors.resources)

/-- Some free or new buffers are handed out, and the free list holds the rest.  The other buffers
keep their contents. -/
structure SameStock (b b' : Backend) (attached made : List Allocation) : Prop where
  disposed : b'.pool.disposed = b.pool.disposed
  inUse : b'.pool.inUse.Perm (attached ++ b.pool.inUse)
  free : (b'.pool.free ++ attached).Perm (made ++ b.pool.free)
  apart : ∀ x ∈ attached, x ∉ b.pool.inUse
  new : ∀ x ∈ made, x.buffer ∉ b.pool.all.map Allocation.buffer
  usedBuffers : b'.pool.stats.usedBuffers = b.pool.stats.usedBuffers + attached.length
  freeBuffers : b'.pool.stats.freeBuffers + attached.length =
    b.pool.stats.freeBuffers + made.length
  bytesUsed : b'.pool.stats.bytesUsed =
    b.pool.stats.bytesUsed + (attached.map (·.key.size)).sum
  bytesAllocated : b'.pool.stats.bytesAllocated =
    b.pool.stats.bytesAllocated + (made.map (·.key.size)).sum
  contents : ∀ x ∈ b.pool.all, x ∉ attached →
    b'.device.memory.contents x.buffer = b.device.memory.contents x.buffer

/-- Nothing is recorded or submitted, and the encoder and the batch stay as they are. -/
structure SamePasses (b b' : Backend) (attached : List Allocation) : Prop where
  settings : b'.settings = b.settings
  maxDispatch : b'.maxDispatch = b.maxDispatch
  disposed : b'.disposed = b.disposed
  batch : b'.batch = b.batch
  encoder : b'.encoder = b.encoder
  limits : b'.device.limits = b.device.limits
  isLost : b'.device.isLost = b.device.isLost
  journal : ∃ commands, b'.device.journal = b.device.journal ++ commands ∧
    ∀ c ∈ commands, c.Prepares attached

/-- The caches only gain entries, and only the counters of uploads, hits and misses grow. -/
structure GrownCaches (b b' : Backend) (l : Leftover) : Prop where
  layouts : ∀ n, b'.layouts.get? n = b.layouts.get? n ∨ b.layouts.get? n = none
  pipelines : ∀ key, b'.pipelines.table.get? key = b.pipelines.table.get? key ∨
    b.pipelines.table.get? key = none
  hits : b.pipelines.hits ≤ b'.pipelines.hits
  misses : b.pipelines.misses ≤ b'.pipelines.misses
  metrics : b'.metrics = { b.metrics with
    uploadBytes := b.metrics.uploadBytes + UInt64.ofNat l.uploaded
    pipelineHits := b.metrics.pipelineHits + UInt64.ofNat l.hits
    pipelineMisses := b.metrics.pipelineMisses + UInt64.ofNat l.misses }
  uploaded : l.uploaded ≤ (l.attached.map (·.key.size)).sum

/-- Everything is as before but for what is left behind. -/
structure Spared (inputs : List TensorId) (b b' : Backend) (l : Leftover) : Prop where
  tensors : SameTensors inputs b b' l.attached
  stock : SameStock b b' l.attached l.made
  passes : SamePasses b b' l.attached
  caches : GrownCaches b b' l

/-! ## Steps in sequence -/

variable {inputs : List TensorId} {attached attached' made made' : List Allocation}
  {l l' : Leftover}

private theorem SameTensors.of_eq (h : b'.tensors = b.tensors) : SameTensors inputs b b' [] where
  next := congrArg Registry.next h
  records := fun _ => by rw [h]
  buffers := fun _ => .inl (by rw [h])
  resources := by rw [h]; exact .refl _

private theorem SameStock.of_eq (hpool : b'.pool = b.pool)
    (hmemory : b'.device.memory = b.device.memory) :
    SameStock b b' [] [] where
  disposed := congrArg Pool.disposed hpool
  inUse := by rw [hpool]; exact .refl _
  free := by rw [hpool, List.append_nil]; exact .refl _
  apart := nofun
  new := nofun
  usedBuffers := by rw [hpool]; rfl
  freeBuffers := by rw [hpool]
  bytesUsed := by rw [hpool]; rfl
  bytesAllocated := by rw [hpool]; rfl
  contents := fun _ _ _ => by rw [hmemory]

private theorem GrownCaches.of_eq (hlayouts : b'.layouts = b.layouts)
    (hpipelines : b'.pipelines = b.pipelines) (hmetrics : b'.metrics = b.metrics) :
    GrownCaches b b' { attached, made } where
  layouts := fun _ => .inl (by rw [hlayouts])
  pipelines := fun _ => .inl (by rw [hpipelines])
  hits := Nat.le_of_eq (by rw [hpipelines])
  misses := Nat.le_of_eq (by rw [hpipelines])
  metrics := by rw [hmetrics]; simp
  uploaded := Nat.zero_le _

private theorem Spared.refl (b : Backend) : Spared inputs b b {} where
  tensors := .of_eq rfl
  stock := .of_eq rfl rfl
  passes := ⟨rfl, rfl, rfl, rfl, rfl, rfl, rfl, [], (List.append_nil _).symm, nofun⟩
  caches := .of_eq rfl rfl rfl

/-- A tensor keeps its values in its buffer while the contents of the buffer stay. -/
theorem Filled.mono {id : TensorId} {x : Allocation} (h : Filled b id x)
    (ht : SameTensors inputs b b' attached)
    (hcontents : b'.device.memory.contents x.buffer = b.device.memory.contents x.buffer) :
    Filled b' id x := by
  rcases h with ⟨r, v, bytes, hget, hresource, hvalues, hbytes, hkey, hfront⟩
  have hrecord := ht.records id
  rw [hget] at hrecord
  cases hget' : b'.tensors.get id with
  | error e =>
    rw [hget'] at hrecord
    cases hrecord
  | ok r' =>
    rw [hget'] at hrecord
    have hbare : r'.bare = r.bare := Except.ok.inj hrecord
    have hx : b.tensors.resource? id = some x :=
      Registry.resource?_eq_some_iff.mpr ⟨r, hget, hresource⟩
    have hx' : b'.tensors.resource? id = some x := by
      rcases ht.buffers id with hsame | ⟨-, hnone, -⟩
      · rw [hsame, hx]
      · rw [hx] at hnone
        cases hnone
    rcases Registry.resource?_eq_some_iff.mp hx' with ⟨found, hfound, hresource'⟩
    obtain rfl := Except.ok.inj (hget'.symm.trans hfound)
    have hvalues' : r'.bare.values = r.bare.values := congrArg Record.values hbare
    refine ⟨r', v, bytes, hget', hresource', hvalues'.trans hvalues, hbytes, hkey, ?_⟩
    rw [hcontents]
    exact hfront

/-- Tensors that stay the same but for their buffers do so step by step. -/
theorem SameTensors.trans (h : SameTensors inputs b b' attached)
    (h' : SameTensors inputs b' b'' attached')
    (hcontents : ∀ x ∈ attached,
      b''.device.memory.contents x.buffer = b'.device.memory.contents x.buffer) :
    SameTensors inputs b b'' (attached' ++ attached) where
  next := h'.next.trans h.next
  records := fun id => (h'.records id).trans (h.records id)
  buffers := by
    intro id
    rcases h.buffers id with hsame | ⟨hid, hnone, x, hx, hfilled⟩
    · rcases h'.buffers id with hsame' | ⟨hid, hnone, x, hx, hfilled⟩
      · exact .inl (hsame'.trans hsame)
      · exact .inr ⟨hid, hsame ▸ hnone, x, List.mem_append_left _ hx, hfilled⟩
    · exact .inr ⟨hid, hnone, x, List.mem_append_right _ hx, hfilled.mono h' (hcontents x hx)⟩
  resources := by
    rw [List.append_assoc]
    exact h'.resources.trans (h.resources.append_left _)

namespace SameStock

/-- A buffer of the pool is still there. -/
theorem mem_all (h : SameStock b b' attached made) {x : Allocation} (hx : x ∈ b.pool.all) :
    x ∈ b'.pool.all := by
  rcases List.mem_append.mp hx with hfree | hused
  · have hmem := h.free.mem_iff.mpr (List.mem_append_right made hfree)
    rcases List.mem_append.mp hmem with hfree' | hattached
    · exact List.mem_append_left _ hfree'
    · exact List.mem_append_right _ (h.inUse.mem_iff.mpr (List.mem_append_left _ hattached))
  · exact List.mem_append_right _ (h.inUse.mem_iff.mpr (List.mem_append_right _ hused))

/-- Buffers that were attached keep what they hold when more are attached. -/
theorem contents_attached (h : SameStock b b' attached made) (h' : SameStock b' b'' attached' made')
    {x : Allocation} (hx : x ∈ attached) :
    b''.device.memory.contents x.buffer = b'.device.memory.contents x.buffer := by
  have hused : x ∈ b'.pool.inUse := h.inUse.mem_iff.mpr (List.mem_append_left _ hx)
  exact h'.contents x (List.mem_append_right _ hused) fun hattached => h'.apart x hattached hused

/-- The stock of buffers changes step by step. -/
theorem trans (h : SameStock b b' attached made) (h' : SameStock b' b'' attached' made') :
    SameStock b b'' (attached' ++ attached) (made' ++ made) where
  disposed := h'.disposed.trans h.disposed
  inUse := by
    rw [List.append_assoc]
    exact h'.inUse.trans (h.inUse.append_left _)
  free := by
    rw [← List.append_assoc, List.append_assoc made']
    refine (h'.free.append_right attached).trans ?_
    rw [List.append_assoc]
    exact h.free.append_left _
  apart := by
    intro x hx hused
    rcases List.mem_append.mp hx with hlater | hearlier
    · exact h'.apart x hlater (h.inUse.mem_iff.mpr (List.mem_append_right _ hused))
    · exact h.apart x hearlier hused
  new := by
    intro x hx hmem
    rcases List.mem_append.mp hx with hlater | hearlier
    · rcases List.mem_map.mp hmem with ⟨y, hy, hxy⟩
      exact h'.new x hlater (List.mem_map.mpr ⟨y, h.mem_all hy, hxy⟩)
    · exact h.new x hearlier hmem
  usedBuffers := by
    rw [h'.usedBuffers, h.usedBuffers, List.length_append]
    omega
  freeBuffers := by
    have hfirst := h.freeBuffers
    have hsecond := h'.freeBuffers
    rw [List.length_append, List.length_append]
    omega
  bytesUsed := by
    rw [h'.bytesUsed, h.bytesUsed, List.map_append, List.sum_append]
    omega
  bytesAllocated := by
    rw [h'.bytesAllocated, h.bytesAllocated, List.map_append, List.sum_append]
    omega
  contents := by
    intro x hx hfresh
    rw [List.mem_append, not_or] at hfresh
    exact (h'.contents x (h.mem_all hx) hfresh.1).trans (h.contents x hx hfresh.2)

/-- The lists of the pool tell all about the stock. -/
theorem of_lists (hpool : b.pool.Sound) (hpool' : b'.pool.Sound)
    (hdisposed : b'.pool.disposed = b.pool.disposed)
    (hinUse : b'.pool.inUse.Perm (attached ++ b.pool.inUse))
    (hall : b'.pool.all.Perm (made ++ b.pool.all))
    (hnew : ∀ x ∈ made, x.buffer ∉ b.pool.all.map Allocation.buffer)
    (hcontents : ∀ x ∈ b.pool.all, x ∉ attached →
      b'.device.memory.contents x.buffer = b.device.memory.contents x.buffer) :
    SameStock b b' attached made := by
  have hfree : (b'.pool.free ++ attached).Perm (made ++ b.pool.free) := by
    have hsplit : (b'.pool.free ++ attached ++ b.pool.inUse).Perm
        (made ++ b.pool.free ++ b.pool.inUse) := by
      rw [List.append_assoc, List.append_assoc]
      exact (hinUse.symm.append_left _).trans hall
    exact (List.perm_append_right_iff _).mp hsplit
  refine ⟨hdisposed, hinUse, hfree, ?_, hnew, ?_, ?_, ?_, ?_, hcontents⟩
  · intro x hx hused
    have hnodup := (hinUse.map Allocation.buffer).nodup_iff.mp hpool'.nodup_inUse
    exact Pool.buffer_ne_of_nodup hnodup hx hused rfl
  · rw [hpool'.usedBuffers, hpool.usedBuffers, hinUse.length_eq, List.length_append, Nat.add_comm]
  · rw [hpool'.freeBuffers, hpool.freeBuffers, ← List.length_append, hfree.length_eq,
      List.length_append, Nat.add_comm]
  · rw [hpool'.bytesUsed, hpool.bytesUsed, (hinUse.map _).sum_nat, List.map_append,
      List.sum_append, Nat.add_comm]
  · rw [hpool'.bytesAllocated, hpool.bytesAllocated, (hall.map _).sum_nat, List.map_append,
      List.sum_append, Nat.add_comm]

end SameStock

/-- Passes stay the same step by step. -/
theorem SamePasses.trans (h : SamePasses b b' attached) (h' : SamePasses b' b'' attached') :
    SamePasses b b'' (attached' ++ attached) where
  settings := h'.settings.trans h.settings
  maxDispatch := h'.maxDispatch.trans h.maxDispatch
  disposed := h'.disposed.trans h.disposed
  batch := h'.batch.trans h.batch
  encoder := h'.encoder.trans h.encoder
  limits := h'.limits.trans h.limits
  isLost := h'.isLost.trans h.isLost
  journal := by
    rcases h.journal with ⟨commands, hjournal, hcommands⟩
    rcases h'.journal with ⟨commands', hjournal', hcommands'⟩
    refine ⟨commands ++ commands', by rw [hjournal', hjournal, List.append_assoc], ?_⟩
    intro c hc
    rcases List.mem_append.mp hc with hearlier | hlater
    · exact Device.Command.Prepares.mono (hcommands c hearlier) (List.subset_append_right _ _)
    · exact Device.Command.Prepares.mono (hcommands' c hlater) (List.subset_append_left _ _)

/-- Caches and counters grow step by step. -/
theorem GrownCaches.trans (h : GrownCaches b b' l) (h' : GrownCaches b' b'' l') :
    GrownCaches b b'' (l'.after l) where
  layouts := by
    intro n
    rcases h.layouts n with hsame | hnone
    · rw [← hsame]
      exact h'.layouts n
    · exact .inr hnone
  pipelines := by
    intro key
    rcases h.pipelines key with hsame | hnone
    · rw [← hsame]
      exact h'.pipelines key
    · exact .inr hnone
  hits := Nat.le_trans h.hits h'.hits
  misses := Nat.le_trans h.misses h'.misses
  metrics := by
    rw [h'.metrics, h.metrics]
    simp only [Leftover.after, UInt64.ofNat_add, UInt64.add_assoc]
  uploaded := by
    have hfirst := h.uploaded
    have hsecond := h'.uploaded
    simp only [Leftover.after, List.map_append, List.sum_append]
    omega

/-- What two steps spare is spared by both together. -/
theorem Spared.trans (h : Spared inputs b b' l) (h' : Spared inputs b' b'' l') :
    Spared inputs b b'' (l'.after l) where
  tensors := h.tensors.trans h'.tensors fun _ hx => h.stock.contents_attached h'.stock hx
  stock := h.stock.trans h'.stock
  passes := h.passes.trans h'.passes
  caches := h.caches.trans h'.caches

/-! ## Steps of a run -/

/-- Commands that prepare a pass may fill the caches. -/
theorem Spared.of_commands (commands : List Command) {hits misses : Nat}
    {layouts : Table Nat (List Pipeline.LayoutEntry)}
    {pipelines : Pipeline.Cache Pipeline.Key Pipeline.Compiled} {metrics : Metrics}
    (hcommands : ∀ c ∈ commands, c.Prepares [])
    (hcaches : GrownCaches b { b with layouts, pipelines, metrics } { hits, misses }) :
    Spared inputs b
      { b with device := commands.foldl Device.note b.device, layouts, pipelines, metrics }
      { hits, misses } where
  tensors := .of_eq rfl
  stock := .of_eq rfl (by rw [foldl_note])
  passes := by
    rw [foldl_note]
    exact ⟨rfl, rfl, rfl, rfl, rfl, rfl, rfl, commands, rfl, hcommands⟩
  caches := ⟨hcaches.layouts, hcaches.pipelines, hcaches.hits, hcaches.misses, hcaches.metrics,
    hcaches.uploaded⟩

private theorem spared_prepareLayout (inputs : List TensorId) (operands : Nat) :
    Spared inputs b (prepareLayout operands b).2 {} := by
  simp only [prepareLayout, Action.update, Pipeline.getOrInsert]
  cases hfound : b.layouts.get? operands with
  | some entries => exact .refl b
  | none =>
    have hcaches : GrownCaches b
        { b with layouts := b.layouts.set operands (Pipeline.layoutEntries operands) } {} := by
      refine ⟨fun n => ?_, fun _ => .inl rfl, Nat.le_refl _, Nat.le_refl _, by simp, Nat.zero_le _⟩
      by_cases hn : n = operands
      · rw [hn]
        exact .inr hfound
      · exact .inl (by rw [Table.get?_set, if_neg hn])
    exact .of_commands [.createLayout operands (Pipeline.layoutEntries operands)]
      (by simp [Command.Prepares]) hcaches

/-- The device is told of one pipeline at most when a kernel is compiled. -/
theorem exists_commands_compileOn (k : Kernel) (label : String) (objection : Option String)
    (d : Device) : ∃ commands : List Command, (∀ c ∈ commands, c.Prepares []) ∧
      (compileOn k label objection d).2 = commands.foldl Device.note d := by
  unfold compileOn
  split
  · next source _ =>
    refine ⟨[.compile ⟨label, source⟩], by simp [Command.Prepares], ?_⟩
    cases objection with
    | none => rfl
    | some reason => rfl
  · exact ⟨[], nofun, rfl⟩

/-- Looking for a pipeline counts one hit or one miss at most. -/
theorem spared_pipeline (inputs : List TensorId) (k : Kernel) (objection : Option String) :
    ∃ hits misses, hits + misses ≤ 1 ∧
      Spared inputs b (pipeline k objection b).2 { hits, misses } := by
  obtain ⟨commands, hcommands, hdevice⟩ :=
    exists_commands_compileOn k (Pipeline.Key.of k).text objection b.device
  cases hfound : b.pipelines.table.get? (Pipeline.Key.of k) with
  | some compiled =>
    simp only [pipeline, Pipeline.Cache.getOrCreate, hfound]
    refine ⟨1, 0, Nat.le_refl 1, .of_commands [] (List.forall_mem_nil _) ?_⟩
    exact ⟨fun _ => .inl rfl, fun _ => .inl rfl, Nat.le_succ _, Nat.le_refl _,
      by simp [Metrics.count], Nat.zero_le _⟩
  | none =>
    cases hcompiled : compileOn k (Pipeline.Key.of k).text objection b.device with
    | mk result d =>
      rw [hcompiled] at hdevice
      obtain rfl : d = commands.foldl Device.note b.device := hdevice
      cases result with
      | ok compiled =>
        simp only [pipeline, Pipeline.Cache.getOrCreate, hfound, hcompiled]
        refine ⟨0, 1, Nat.le_refl 1, .of_commands commands hcommands ?_⟩
        refine ⟨fun _ => .inl rfl, fun key => ?_, Nat.le_refl _, Nat.le_succ _,
          by simp [Metrics.count], Nat.zero_le _⟩
        by_cases hkey : key = Pipeline.Key.of k
        · rw [hkey]
          exact .inr hfound
        · exact .inl (by rw [Table.get?_set, if_neg hkey])
      | error e =>
        simp only [pipeline, Pipeline.Cache.getOrCreate, hfound, hcompiled]
        refine ⟨0, 0, Nat.zero_le 1, .of_commands commands hcommands ?_⟩
        exact ⟨fun _ => .inl rfl, fun _ => .inl rfl, Nat.le_refl _, Nat.le_succ _, by simp,
          Nat.zero_le _⟩

/-! ### Buffers -/

section Buffers

variable {p p' : Pool} {d d' : Device} {key : PoolKey} {x : Allocation} {pool : Pool}
  {device : Device}

/-- Handing out a buffer tells the device of one new buffer at most. -/
theorem acquire_commands (h : p.acquire Device.allocator d key = (.ok x, p', d')) :
    d'.limits = d.limits ∧ d'.isLost = d.isLost ∧
      ∃ commands, d'.journal = d.journal ++ commands ∧ ∀ c ∈ commands, c.Prepares [] := by
  rcases Pool.acquire_eq_ok h with ⟨-, -, ⟨_, -, -, rfl⟩ | ⟨-, hnew, -⟩⟩
  · exact ⟨rfl, rfl, [], (List.append_nil _).symm, nofun⟩
  · simp only [Device.allocator, Device.createBuffer] at hnew
    split at hnew
    · cases hnew
    · rcases Prod.mk.inj hnew with ⟨-, rfl⟩
      exact ⟨rfl, rfl, [.createBuffer d.next key], rfl, by simp [Command.Prepares]⟩

/-- Buffers that handing out one adds to the pool are new. -/
theorem exists_made (hm : Sound ⟨b, []⟩)
    (h : b.pool.acquire Device.allocator b.device key = (.ok x, pool, device)) :
    ∃ made, pool.all.Perm (made ++ b.pool.all) ∧
      ∀ y ∈ made, y.buffer ∉ b.pool.all.map Allocation.buffer := by
  rcases Pool.all_acquire hm.stocked.pool.keyed h with ⟨hall, -⟩ | ⟨hall, hnew⟩
  · exact ⟨[], hall, nofun⟩
  · refine ⟨[x], hall, fun y hy hmem => ?_⟩
    obtain rfl := List.mem_singleton.mp hy
    rcases List.mem_map.mp hmem with ⟨z, hz, hzy⟩
    exact Nat.ne_of_lt (hm.stocked.lt_next z hz) (hzy.trans (allocate_eq_ok hnew).1)

end Buffers

/-! ### Operands -/

section Upload

variable {id : TensorId} {r : Record} {v : Values} {bytes : List UInt8} {key : PoolKey}
  {x : Allocation} {pool : Pool} {device : Device}

/-- The device after the bytes of a tensor were written to its buffer. -/
def filledWith (device : Device) (x : Allocation) (bytes : List UInt8) : Device :=
  if bytes.isEmpty then device else device.write x.buffer bytes

/-- A tensor with values and no buffer gets one from the pool, filled with its values. -/
theorem upload_eq (hget : b.tensors.get id = .ok r) (hresource : r.resource = none)
    (hvalues : r.values = some v) (hbytes : v.deviceBytes = .ok bytes)
    (hacquire : b.pool.acquire Device.allocator b.device (tensorKey bytes.length) =
      (.ok x, pool, device)) :
    upload id b = (.ok x, { b with
      pool
      device := filledWith device x bytes
      metrics := b.metrics.count (.upload bytes.length)
      tensors := b.tensors.put id { r with resource := some x } }) := by
  rcases r with ⟨element, shape, values, resource, references, parts⟩
  obtain rfl : resource = none := hresource
  obtain rfl : values = some v := hvalues
  have hattach (b : Backend)
      (hget : b.tensors.get id = .ok ⟨element, shape, some v, none, references, parts⟩) : (do
      Action.count (.upload bytes.length)
      Action.modify id ({ · with resource := some x })
      return x : Action Allocation) b = (.ok x, { b with
        metrics := b.metrics.count (.upload bytes.length)
        tensors := b.tensors.put id ⟨element, shape, some v, some x, references, parts⟩ }) := by
    let b₁ : Backend := { b with metrics := b.metrics.count (.upload bytes.length) }
    have hmodify := Action.modify_apply (b := b₁) (f := ({ · with resource := some x })) hget
    exact (Action.bind_apply_ok rfl).trans (Action.bind_apply_ok hmodify)
  have hrecord : Action.record id b = (.ok _, b) := congrArg (·, b) hget
  have htaken : Action.acquire (tensorKey bytes.length) b = (.ok x, { b with pool, device }) := by
    simp only [Action.acquire, hacquire]
  refine (Action.bind_apply_ok hrecord).trans ?_
  refine (Action.bind_apply_ok (congrArg (·, b) hbytes)).trans ?_
  refine (Action.bind_apply_ok htaken).trans ?_
  by_cases hempty : bytes.isEmpty = true
  · simp only [filledWith, hempty, Bool.not_true, Bool.false_eq_true, if_false, if_true]
    exact hattach { b with pool, device } hget
  · simp only [filledWith, hempty, Bool.not_false, if_true, Bool.false_eq_true, if_false]
    refine (Action.bind_apply_ok rfl).trans ?_
    exact hattach { b with pool, device := device.write x.buffer bytes } hget

/-- The bytes stand in the buffer, and the others keep what they hold. -/
theorem contents_filledWith (hm : Sound ⟨b, []⟩)
    (hacquire : b.pool.acquire Device.allocator b.device (tensorKey bytes.length) =
      (.ok x, pool, device)) :
    bytes <+: (filledWith device x bytes).memory.contents x.buffer ∧
      ∀ y ∈ b.pool.all, y ≠ x → (filledWith device x bytes).memory.contents y.buffer =
        b.device.memory.contents y.buffer := by
  have htaken : Sound ⟨{ b with pool, device }, [x]⟩ := hm.handOut hacquire
  have hkey : x.key = tensorKey bytes.length := (Pool.acquire_eq_ok hacquire).2.1
  have hkept {y : Allocation} (hy : y ∈ b.pool.all) :
      device.memory.contents y.buffer = b.device.memory.contents y.buffer :=
    hm.stocked.contents_handOut hacquire hy
  unfold filledWith
  split
  · next hempty =>
    rw [List.isEmpty_iff.mp hempty]
    exact ⟨List.nil_prefix, fun y hy _ => hkept hy⟩
  · have hfit : bytes.length ≤ x.key.size := by
      rw [hkey]
      exact le_storageSize _
    refine ⟨htaken.isPrefix_contents_write (List.mem_singleton.mpr rfl) hfit, fun y hy hne => ?_⟩
    have hmem : y ∈ pool.all := by
      rcases exists_made hm hacquire with ⟨made, hall, -⟩
      exact hall.mem_iff.mpr (List.mem_append_right _ hy)
    have hmem' : x ∈ pool.all := htaken.mem_all (List.mem_append_right _ (List.mem_singleton.mpr rfl))
    have hbuffer : y.buffer ≠ x.buffer := fun heq =>
      hne (htaken.stocked.pool.eq_of_buffer_eq hmem hmem' heq)
    exact (Memory.contents_write_of_ne hbuffer bytes).trans (hkept hy)

/-- A tensor without a buffer gets one that holds its values. -/
theorem SameTensors.of_put (hr : b.tensors.Sound) (hid : id ∈ inputs)
    (hget : b.tensors.get id = .ok r) (hresource : r.resource = none)
    (htensors : b'.tensors = b.tensors.put id { r with resource := some x })
    (hfilled : Filled b' id x) : SameTensors inputs b b' [x] where
  next := by rw [htensors]; rfl
  records := by
    intro i
    rw [htensors, Registry.get_put]
    split
    · next hi =>
      rw [hi, hget]
      rfl
    · rfl
  buffers := by
    intro i
    by_cases hi : i = id
    · refine .inr ⟨hi ▸ hid, ?_, x, List.mem_singleton.mpr rfl, hi ▸ hfilled⟩
      rw [hi, Registry.resource?, Registry.get_eq_ok_iff.mp hget, Option.bind_some, hresource]
    · exact .inl (by rw [htensors, Registry.resource?_put, if_neg hi])
  resources := by
    have hold := hr.resources_perm hget
    rw [hresource] at hold
    rw [htensors]
    exact (hr.resources_put id _).trans (hold.symm.append_left [x])

/-- The only buffer that is written is the one that was handed out. -/
theorem SamePasses.of_filledWith (hacquire : b.pool.acquire Device.allocator b.device key =
    (.ok x, pool, device)) (bytes : List UInt8) (tensors : Registry) (metrics : Metrics) :
    SamePasses b { b with pool, device := filledWith device x bytes, tensors, metrics } [x] := by
  rcases acquire_commands hacquire with ⟨hlimits, hlost, commands, hjournal, hcommands⟩
  have hprepares : ∀ c ∈ commands, c.Prepares [x] := fun c hc =>
    Device.Command.Prepares.mono (hcommands c hc) (List.nil_subset _)
  unfold filledWith
  split
  · exact ⟨rfl, rfl, rfl, rfl, rfl, hlimits, hlost, commands, hjournal, hprepares⟩
  · refine ⟨rfl, rfl, rfl, rfl, rfl, hlimits, hlost, commands ++ [.write x.buffer bytes], ?_, ?_⟩
    · rw [← List.append_assoc, ← hjournal]
      rfl
    · intro c hc
      rcases List.mem_append.mp hc with hearlier | hlast
      · exact hprepares c hearlier
      · rw [List.mem_singleton.mp hlast]
        exact List.mem_singleton.mpr rfl

/-- A tensor that gets a buffer from the pool, filled with its values, spares all else. -/
theorem spared_attach (hm : Sound ⟨b, []⟩) (hid : id ∈ inputs) (hget : b.tensors.get id = .ok r)
    (hresource : r.resource = none) (hvalues : r.values = some v)
    (hbytes : v.deviceBytes = .ok bytes)
    (hacquire : b.pool.acquire Device.allocator b.device (tensorKey bytes.length) =
      (.ok x, pool, device)) :
    ∃ made, Spared inputs b { b with
      pool
      device := filledWith device x bytes
      metrics := b.metrics.count (.upload bytes.length)
      tensors := b.tensors.put id { r with resource := some x } }
      { attached := [x], made, uploaded := bytes.length } := by
  have htaken : Sound ⟨{ b with pool, device }, [x]⟩ := hm.handOut hacquire
  have hkey : x.key = tensorKey bytes.length := (Pool.acquire_eq_ok hacquire).2.1
  rcases contents_filledWith hm hacquire with ⟨hfront, hothers⟩
  rcases exists_made hm hacquire with ⟨made, hall, hnew⟩
  refine ⟨made, ?_, ?_, .of_filledWith hacquire bytes _ _, ?_⟩
  · refine .of_put hm.registered.sound hid hget hresource rfl ?_
    exact ⟨_, v, bytes, Registry.get_put_self, rfl, hvalues, hbytes, hkey, hfront⟩
  · refine .of_lists hm.stocked.pool htaken.stocked.pool (Pool.disposed_acquire hacquire)
      (Pool.inUse_acquire hm.stocked.pool.keyed hacquire) hall hnew fun y hy hne => ?_
    exact hothers y hy fun heq => hne (List.mem_singleton.mpr heq)
  · refine ⟨fun _ => .inl rfl, fun _ => .inl rfl, Nat.le_refl _, Nat.le_refl _, ?_, ?_⟩
    · simp [Metrics.count]
    · change bytes.length ≤ ([x].map (·.key.size)).sum
      rw [List.map_singleton, List.sum_singleton, hkey]
      exact le_storageSize _

/-- Bringing an operand to the device, successfully or not, spares all but its buffer. -/
theorem spared_upload (hm : Sound ⟨b, []⟩) (hid : id ∈ inputs) :
    ∃ attached made uploaded, Spared inputs b (upload id b).2 { attached, made, uploaded } := by
  have hsame (result : Except KernelError Allocation) (h : upload id b = (result, b)) :
      ∃ attached made uploaded, Spared inputs b (upload id b).2 { attached, made, uploaded } := by
    rw [h]
    exact ⟨[], [], 0, .refl b⟩
  cases hget : b.tensors.get id with
  | error e => exact hsame (.error e) (Action.bind_apply_error (congrArg (·, b) hget))
  | ok r =>
  have hrecord : Action.record id b = (.ok r, b) := congrArg (·, b) hget
  cases hresource : r.resource with
  | some x =>
    exact hsame (.ok x) ((Action.bind_apply_ok hrecord).trans (by simp only [hresource]; rfl))
  | none =>
  cases hvalues : r.values with
  | none =>
    refine hsame (.error (.uninitializedTensor id)) ((Action.bind_apply_ok hrecord).trans ?_)
    simp only [hresource, hvalues]
    rfl
  | some v =>
  cases hbytes : v.deviceBytes with
  | error e =>
    refine hsame (.error e) ((Action.bind_apply_ok hrecord).trans ?_)
    simp only [hresource, hvalues]
    exact Action.bind_apply_error (congrArg (·, b) hbytes)
  | ok bytes =>
  obtain ⟨result, pool, device, hacquire⟩ : ∃ result pool device,
      b.pool.acquire Device.allocator b.device (tensorKey bytes.length) = (result, pool, device) :=
    ⟨_, _, _, rfl⟩
  cases result with
  | error e =>
    rcases acquire_refused hacquire with ⟨-, rfl, rfl⟩
    refine hsame (.error e) ((Action.bind_apply_ok hrecord).trans ?_)
    simp only [hresource, hvalues]
    refine (Action.bind_apply_ok (congrArg (·, b) hbytes)).trans (Action.bind_apply_error ?_)
    simp only [Action.acquire, hacquire]
  | ok x =>
    rcases spared_attach hm hid hget hresource hvalues hbytes hacquire with ⟨made, hspared⟩
    rw [upload_eq hget hresource hvalues hbytes hacquire]
    exact ⟨[x], made, bytes.length, hspared⟩

end Upload

/-- From where an action leads with a value the operation goes on in sound moments. -/
theorem Leads.sound_of_ok {α : Type} {op : Operation} {kept : List Allocation} {m : Moment}
    {post : α → Moment → Prop} {result : Except KernelError α × Backend} {a : α} (hm : Sound m)
    (h : Leads op kept m result post) (hresult : result = (.ok a, b')) :
    ∃ held, Sound ⟨b', held⟩ ∧ post a ⟨b', held⟩ := by
  rcases h with ⟨t, ⟨_, held⟩, htrail, hbackend, hok, -⟩
  rw [hresult] at hbackend hok
  obtain rfl := hbackend
  exact ⟨held, htrail.sound hm, hok a rfl⟩

/-- Bringing operands to the device spares all but their buffers, also if one of them fails. -/
theorem spared_uploadEach (hm : Sound ⟨b, []⟩) {ids : List TensorId} (hids : ids ⊆ inputs) :
    ∃ attached made uploaded,
      Spared inputs b (ids.mapM upload b).2 { attached, made, uploaded } := by
  induction ids generalizing b with
  | nil => exact ⟨[], [], 0, .refl b⟩
  | cons id rest ih =>
    rcases List.cons_subset.mp hids with ⟨hid, hrest⟩
    rcases spared_upload hm hid with ⟨attached, made, uploaded, hfirst⟩
    rw [List.mapM_cons]
    cases hresult : upload id b with
    | mk result b₁ =>
      rw [hresult] at hfirst
      cases result with
      | error e =>
        rw [Action.bind_apply_error hresult]
        exact ⟨attached, made, uploaded, hfirst⟩
      | ok x =>
        rw [Action.bind_apply_ok hresult]
        have hleads : Leads .submit [] ⟨b, []⟩ (upload id b) _ := leads_upload hm id
        rcases hleads.sound_of_ok hm hresult with ⟨_, hm₁, rfl, -⟩
        rcases ih hm₁ hrest with ⟨attached', made', uploaded', hrest'⟩
        rw [snd_bind_pure]
        exact ⟨_, _, _, hfirst.trans hrest'⟩

/-! ### The uniform block and the output -/

/-- If there is no room for the output, the buffer of the uniform block is free in the end. -/
theorem spared_acquireBoth (hm : Sound ⟨b, []⟩) {uniformKey outputKey : PoolKey} {e : KernelError}
    (h : acquireBoth uniformKey outputKey b = (.error e, b')) :
    ∃ made, Spared inputs b b' { made } := by
  obtain ⟨result, pool, device, hfirst⟩ : ∃ result pool device,
      b.pool.acquire Device.allocator b.device uniformKey = (result, pool, device) := ⟨_, _, _, rfl⟩
  cases result with
  | error e₁ =>
    have hall : b.pool.acquireAll Device.allocator b.device [uniformKey, outputKey] =
        (.error e₁, pool, device) := by
      simp only [Pool.acquireAll, Pool.acquireAfter, hfirst, Pool.releaseAll]
    rw [acquireBoth_of_error hall] at h
    rcases acquire_refused hfirst with ⟨-, rfl, rfl⟩
    obtain rfl := (Prod.mk.inj h).2
    exact ⟨[], .refl b⟩
  | ok uniform =>
    have htaken : Sound ⟨{ b with pool, device }, [uniform]⟩ := hm.handOut hfirst
    obtain ⟨result, pool', device', hsecond⟩ : ∃ result pool' device',
        pool.acquire Device.allocator device outputKey = (result, pool', device') := ⟨_, _, _, rfl⟩
    cases result with
    | ok output =>
      have hall : b.pool.acquireAll Device.allocator b.device [uniformKey, outputKey] =
          (.ok [uniform, output], pool', device') := by
        simp only [Pool.acquireAll, Pool.acquireAfter, hfirst, hsecond, List.nil_append,
          List.cons_append]
      rw [acquireBoth_of_ok hall] at h
      cases h
    | error e₂ =>
      rcases htaken.exists_release with ⟨pool'', hrelease⟩
      rcases acquire_refused hsecond with ⟨-, rfl, rfl⟩
      have hall : b.pool.acquireAll Device.allocator b.device [uniformKey, outputKey] =
          (.error e₂, pool'', device') := by
        simp only [Pool.acquireAll, Pool.acquireAfter, hfirst, hsecond, List.nil_append,
          Pool.releaseAll, hrelease]
      rw [acquireBoth_of_error hall] at h
      obtain rfl := (Prod.mk.inj h).2
      rcases exists_made hm hfirst with ⟨made, hmade, hnew⟩
      have hkeyed := htaken.stocked.pool.keyed
      have hinUse : pool''.inUse.Perm b.pool.inUse := (List.perm_cons uniform).mp
        ((Pool.inUse_release hkeyed hrelease).symm.trans
          (Pool.inUse_acquire hm.stocked.pool.keyed hfirst))
      have hdisposed : pool''.disposed = b.pool.disposed :=
        (Pool.disposed_release hrelease).trans (Pool.disposed_acquire hfirst)
      refine ⟨made, .of_eq rfl, ?_, ?_, .of_eq rfl rfl rfl⟩
      · exact .of_lists hm.stocked.pool (htaken.stocked.pool.release hrelease) hdisposed hinUse
          ((Pool.all_release hkeyed hrelease).trans hmade) hnew
          fun y hy _ => hm.stocked.contents_handOut hfirst hy
      · rcases acquire_commands hfirst with ⟨hlimits, hlost, hjournal⟩
        exact ⟨rfl, rfl, rfl, rfl, rfl, hlimits, hlost, hjournal⟩

/-! ## Failing runs -/

/-- If an action fails, a condition holds of the backend that it leaves. -/
def FailsTo {α : Type} (result : Except KernelError α × Backend) (post : Backend → Prop) : Prop :=
  ∀ e b', result = (.error e, b') → post b'

namespace FailsTo

variable {α β : Type} {x : Action α} {f : α → Action β} {post : Backend → Prop}

private theorem of_ok {a : α} (h : x b = (.ok a, b')) : FailsTo (x b) post := by
  intro e b'' herror
  rw [h] at herror
  cases herror

private theorem of_error {e : KernelError} (h : post b) :
    FailsTo ((.error e, b) : Except KernelError α × Backend) post := by
  intro e' b'' herror
  obtain rfl : b = b'' := congrArg Prod.snd herror
  exact h

private theorem of_result (h : post (x b).2) : FailsTo (x b) post := by
  intro e b'' herror
  rw [herror] at h
  exact h

private theorem bind (hx : FailsTo (x b) post)
    (hf : ∀ a b', x b = (.ok a, b') → FailsTo (f a b') post) : FailsTo ((x >>= f) b) post := by
  intro e b'' herror
  cases hresult : x b with
  | mk result b₁ =>
    cases result with
    | error e₁ =>
      rw [Action.bind_apply_error hresult] at herror
      obtain rfl := (Prod.mk.inj herror).2
      exact hx e₁ b₁ hresult
    | ok a =>
      rw [Action.bind_apply_ok hresult] at herror
      exact hf a b₁ hresult e b'' herror

/-- A first step that is known to succeed. -/
theorem bind_to {a : α} (hx : x b = (.ok a, b')) (hf : FailsTo (f a b') post) :
    FailsTo ((x >>= f) b) post := by
  rw [Action.bind_apply_ok hx]
  exact hf

end FailsTo

/-- A tensor in which the host counts no elements can be made of no values. -/
theorem exists_make_none (hlive : b.disposed = false) {shape : Shape}
    (hcount : Shape.count shape = 0)
    (element : ElementType) :
    ∃ output b', make shape element (some (.none element)) b = (.ok output, b') := by
  have hfirst : Action.live b = (.ok (), b) := Action.live_apply hlive
  have hshape : (Values.none element).checkShape shape = .ok () := by
    cases element <;> simp [Values.checkShape, Values.checkPairs, Values.none, Values.count, hcount,
      bind, Except.bind]
  have helement : (Values.none element).element = element := by cases element <;> rfl
  have hwrite : ∃ output b', write (.none element) shape b = (.ok output, b') := by
    unfold write
    rw [Action.bind_apply_ok hfirst]
    have hcheck : Action.of ((Values.none element).checkShape shape) b = (.ok (), b) :=
      congrArg (·, b) hshape
    rw [Action.bind_apply_ok hcheck]
    cases element with
    | float32 => exact ⟨_, _, rfl⟩
    | int32 => exact ⟨_, _, rfl⟩
    | bool => exact ⟨_, _, rfl⟩
    | complex64 => exact ⟨_, _, rfl⟩
  unfold make
  rw [Action.bind_apply_ok hfirst]
  simp only [helement, if_true]
  exact hwrite

/-- Once the buffers for the uniform block and the output are there, recording the pass cannot fail,
and neither can the submission of a batch that it makes full. -/
theorem exists_recordPass {j : Job} {k : Kernel} {launch : Launch} {operands : List Allocation}
    {uniform output : Allocation} (hm : Sound ⟨b, [output, uniform]⟩)
    (hkernel : j.kernel b.tensors = .ok k)
    (hlaunch : Launch.of k b.maxDispatch j.extra = .ok launch)
    (hoperands : j.inputs.map b.tensors.resource? = operands.map some)
    (huniform : uniform.key = ⟨uniformSize launch.uniforms.length, uniformUsage⟩)
    (houtput : output.key = tensorKey (Word.wrap (4 * Shape.count k.output.shape)))
    (compiled : Pipeline.Compiled) :
    ∃ id b', recordPass j k launch compiled operands uniform output b = (.ok id, b') := by
  have hleads := leads_recordPass hm hkernel hlaunch hoperands huniform houtput compiled
  have hend := ends_recordPass hm.stocked.live hm.stocked.poolLive j k launch compiled operands
    uniform output
  rcases hend.of_ordinary (failsOrdinarily_of_leads hleads) with ⟨_, id, hid, -⟩
  exact ⟨id, _, Prod.ext hid rfl⟩

private theorem failsTo_carryOut (hm : Sound ⟨b, []⟩) (j : Job) {k : Kernel} {launch : Launch}
    (hkernel : j.kernel b.tensors = .ok k) (hlaunch : Launch.of k b.maxDispatch j.extra = .ok launch) :
    FailsTo (j.carryOut k launch b) fun b' =>
      ∃ l : Leftover, l.hits + l.misses ≤ 1 ∧ Spared j.inputs b b' l := by
  unfold Job.carryOut
  refine .bind (.of_ok rfl) fun _ b₁ hlayout => ?_
  have hspared₁ : Spared j.inputs b b₁ {} := by
    have hstep := spared_prepareLayout (b := b) j.inputs k.inputs.length
    rwa [hlayout] at hstep
  have hleads₁ : Leads (.run j) [] ⟨b, []⟩ (prepareLayout k.inputs.length b) _ :=
    leads_prepareLayout _
  rcases hleads₁.sound_of_ok hm hlayout with ⟨_, hm₁, rfl, hquiet₁⟩
  rcases spared_pipeline (b := b₁) j.inputs k j.objection with
    ⟨hits, misses, hcount, hstep₂⟩
  refine .bind (.of_result ⟨_, ?_, hspared₁.trans hstep₂⟩) fun compiled b₂ hpipeline => ?_
  · simpa [Leftover.after] using hcount
  rw [hpipeline] at hstep₂
  have hleads₂ : Leads (.run j) [] ⟨b₁, []⟩ (pipeline k j.objection b₁) _ := leads_pipeline _ _
  rcases hleads₂.sound_of_ok hm₁ hpipeline with ⟨_, hm₂, rfl, hquiet₂⟩
  rcases spared_uploadEach hm₂ (List.Subset.refl j.inputs) with
    ⟨attached, made, uploaded, hstep₃⟩
  refine .bind (.of_result ⟨_, ?_, (hspared₁.trans hstep₂).trans hstep₃⟩)
    fun operands b₃ huploads => ?_
  · simpa [Leftover.after] using hcount
  rw [huploads] at hstep₃
  have hleads₃ : Leads (.run j) [] ⟨b₂, []⟩ (j.inputs.mapM upload b₂) _ := leads_uploadEach hm₂ _
  rcases hleads₃.sound_of_ok hm₂ huploads with ⟨_, hm₃, rfl, hgrown₃, hoperands⟩
  refine .bind (fun e b' hboth => ?_) fun buffers b₄ hboth => ?_
  · rcases spared_acquireBoth hm₃ hboth with ⟨made', hstep₄⟩
    refine ⟨_, ?_, ((hspared₁.trans hstep₂).trans hstep₃).trans hstep₄⟩
    simpa [Leftover.after] using hcount
  rcases buffers with ⟨uniform, output⟩
  rcases (@leads_acquireBoth (.run j) _ _ hm₃ _ _).sound_of_ok hm₃ hboth with
    ⟨_, hm₄, rfl, hgrown₄, huniform, houtput⟩
  have hgrown : Grown b b₄ :=
    hquiet₁.grown.trans (hquiet₂.grown.trans (hgrown₃.trans hgrown₄))
  have hkey : output.key = tensorKey (Word.wrap (4 * Shape.count k.output.shape)) :=
    houtput.trans (Job.outputKey_of_kernel hkernel)
  rcases exists_recordPass hm₄ (hgrown.kernel_eq hkernel) (hgrown.maxDispatch ▸ hlaunch)
    (hgrown₄.map_resource?_eq hoperands) huniform hkey compiled with ⟨id, b₅, hpass⟩
  exact .bind_to hpass (.of_ok rfl)

/-- A failing run on a backend that is not disposed. -/
theorem failsTo_run (hm : Sound ⟨b, []⟩) (j : Job) :
    FailsTo (run j b) fun b' => ∃ l : Leftover, l.hits + l.misses ≤ 1 ∧ Spared j.inputs b b' l := by
  have hlive : b.disposed = false := hm.stocked.live
  have hnothing : ∃ l : Leftover, l.hits + l.misses ≤ 1 ∧ Spared j.inputs b b l :=
    ⟨{}, Nat.zero_le 1, .refl b⟩
  rw [run_eq hlive]
  cases hkernel : j.kernel b.tensors with
  | error e => exact .of_error hnothing
  | ok k =>
    dsimp only
    split
    case isTrue hempty =>
      rcases exists_make_none hlive hempty j.element with ⟨output, b', hmake⟩
      exact .of_ok hmake
    case isFalse hcount =>
      cases hlaunch : Launch.of k b.maxDispatch j.extra with
      | error e => exact .of_error hnothing
      | ok launch => exact failsTo_carryOut hm j hkernel hlaunch

/-- Whatever makes a run fail, on any backend that can be reached: the ids of the tensors and all
about them but their buffers, the next id, the batch and the open encoder are as before, and nothing
was recorded or submitted.  Operands may have got a buffer with their values; the free lists lost
those buffers and gained the new ones that are not in use; the caches, the allocated bytes and the
counts of uploads, hits and misses may have grown. -/
theorem runs_fail_atomically (hb : Reachable b) (j : Job) {e : KernelError}
    (hfail : run j b = (.error e, b')) :
    ∃ l : Leftover, l.hits + l.misses ≤ 1 ∧ Spared j.inputs b b' l := by
  rcases hb.sound_or_disposed with hm | hdisposed
  · exact failsTo_run hm j e b' hfail
  · have hrefused : run j b = (.error .disposed, b) :=
      Action.bind_apply_error (live_of_disposed hdisposed)
    obtain rfl := (Prod.mk.inj (hrefused.symm.trans hfail)).2
    exact ⟨{}, Nat.zero_le 1, .refl b⟩

/-- On a device whose buffers are too small for a uniform block, copying a tensor fails after the
tensor got a buffer. -/
theorem cramped_copy_fails_atomically :
    let write : Operation := .write (.float32 [0x3f800000]) [1]
    let b := ((onDevice { limits := { bufferSize := 16 } } {}).step write).2
    let b' := (run copyJob b).2
    Reachable b ∧ run copyJob b = (.error (.bufferTooLarge 32 16), b') ∧
      b'.tensors.resource? ⟨0⟩ = some ⟨0, tensorKey 4⟩ ∧
      ∃ l : Leftover, l.hits + l.misses ≤ 1 ∧ Spared copyJob.inputs b b' l := by
  intro write b b'
  have hreachable : Reachable b := .step (.new _ _) write
  have hkernel : copyJob.kernel b.tensors = .ok copyKernel := by rfl
  have hrun : run copyJob b = copyJob.carryOut copyKernel copyLaunch b :=
    run_eq_carryOut rfl hkernel (by decide) launch_copyKernel
  have hfail : run copyJob b = (.error (.bufferTooLarge 32 16), b') := by
    refine Prod.ext ?_ rfl
    rw [hrun]
    decide +kernel
  refine ⟨hreachable, hfail, ?_, runs_fail_atomically hreachable copyJob hfail⟩
  change (run copyJob b).2.tensors.resource? ⟨0⟩ = _
  rw [hrun]
  decide +kernel

end Backend

end ComputeKernels

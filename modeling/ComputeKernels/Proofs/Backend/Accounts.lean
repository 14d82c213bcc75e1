import ComputeKernels.Proofs.Backend.Sessions

/-!
# Accounts of passes

The account of a backend is what it knows of its passes: those that the device was given, by the
submissions that handed them over, those of the open encoder, and the numbers that stand for both.
Most actions leave the account alone, whether they succeed or not.  Recording a pass and submitting
the encoder change it in one way each.

Main results:

- Theorem `Frames.bind`: what two actions leave alone is left alone by their sequence.
- Theorem `ends_submit`: a submission closes the encoder and adds its passes to those of the device.
- Theorem `ends_recordPass`: a pass is added to the encoder, which is submitted if it is full.
- Theorem `ends_read`: a read submits the open encoder or leaves the account alone.
-/

namespace ComputeKernels

/-! ## Batches on the device -/

namespace Device

/-- The pass that work runs, if it runs one. -/
def Work.pass? : Work → Option Pass
  | .compute pass => some pass
  | .copy _ _ _ => none

/-- The passes that a command submits, if it submits nothing else. -/
def Command.batch? : Command → Option (List Pass)
  | .submit work => work.mapM Work.pass?
  | _ => none

/-- Passes that a device was given, by submission. -/
def batches (d : Device) : List (List Pass) := d.journal.filterMap Command.batch?

variable {d : Device}

private theorem batches_note (c : Command) : (d.note c).batches = d.batches ++ c.batch?.toList := by
  have hlast : [c].filterMap Command.batch? = c.batch?.toList := by
    cases hc : c.batch? <;> simp [hc]
  rw [batches, note, List.filterMap_append, hlast]
  rfl

/-- A note of a command that submits no passes adds no batch. -/
theorem batches_note_of_eq_none {c : Command} (h : c.batch? = none) :
    (d.note c).batches = d.batches := by
  rw [batches_note, h, Option.toList_none, List.append_nil]

private theorem mapM_pass?_compute (passes : List Pass) :
    (passes.map Work.compute).mapM Work.pass? = some passes := by
  induction passes with
  | nil => rfl
  | cons p passes ih =>
    rw [List.map_cons, List.mapM_cons, ih]
    rfl

/-- Submitted passes are a batch. -/
theorem batches_submit (passes : List Pass) :
    (d.submit (passes.map .compute)).batches = d.batches ++ [passes] := by
  change (d.note (.submit (passes.map .compute))).batches = _
  rw [batches_note, Command.batch?, mapM_pass?_compute]
  rfl

/-- Copying to the host submits no batch. -/
theorem batches_copyOut (source target : Buffer.BufferId) (size : Nat) :
    (d.copyOut source target size).batches = d.batches := by
  have hlast : (Command.submit [.copy source target size]).batch? = none := rfl
  change (((d.note _).note _).note _).batches = _
  rw [batches_note_of_eq_none hlast, batches_note_of_eq_none rfl, batches_note_of_eq_none rfl]

/-- Writing to a buffer submits nothing. -/
theorem batches_write (buffer : Buffer.BufferId) (bytes : List UInt8) :
    (d.write buffer bytes).batches = d.batches :=
  batches_note_of_eq_none (d := d) (c := .write buffer bytes) rfl

/-- Neither does making a buffer. -/
theorem batches_createBuffer (key : Buffer.PoolKey) :
    (d.createBuffer key).2.batches = d.batches := by
  unfold createBuffer
  split
  · rfl
  · exact batches_note_of_eq_none rfl

/-- Neither does reading a mapped buffer. -/
theorem batches_readMapped (buffer : Buffer.BufferId) (size : Nat) (fault : Option MapFault) :
    (d.readMapped buffer size fault).2.batches = d.batches := by
  cases fault with
  | some f => exact batches_note_of_eq_none rfl
  | none => exact (batches_note_of_eq_none rfl).trans (batches_note_of_eq_none rfl)

/-- Notes of harmless commands add no batch. -/
theorem batches_foldl_note {commands : List Command}
    (h : ∀ c ∈ commands, c.isHarmless = true) :
    (commands.foldl note d).batches = d.batches := by
  induction commands generalizing d with
  | nil => rfl
  | cons c commands ih =>
    rcases List.forall_mem_cons.mp h with ⟨hc, hrest⟩
    rw [List.foldl_cons, ih hrest]
    apply batches_note_of_eq_none
    cases c <;> first | rfl | cases hc

end Device

/-! ## Pools that are in use -/

namespace Buffer.Pool

open ComputeKernels.Backend (acquire_refused)

variable {p p' : Pool} {d d' : Device} {key : PoolKey} {r : Except KernelError Allocation}

/-- Handing out a buffer neither submits passes nor closes the pool. -/
theorem acquire_frame (h : p.acquire Device.allocator d key = (r, p', d')) :
    p'.disposed = p.disposed ∧ d'.batches = d.batches := by
  cases r with
  | error e =>
    rcases acquire_refused h with ⟨-, rfl, rfl⟩
    exact ⟨rfl, rfl⟩
  | ok x =>
    refine ⟨disposed_acquire h, ?_⟩
    rcases acquire_eq_ok h with ⟨-, -, ⟨free', -, -, rfl⟩ | ⟨-, hnew, -⟩⟩
    · rfl
    · have hcreate : (d.createBuffer key).2 = d' := congrArg Prod.snd hnew
      rw [← hcreate]
      exact Device.batches_createBuffer key

/-- Giving buffers back does not dispose of the pool. -/
theorem disposed_releaseAll (p : Pool) (xs : List Allocation) :
    (p.releaseAll xs).2.disposed = p.disposed := by
  induction xs generalizing p with
  | nil => rfl
  | cons x xs ih =>
    rw [releaseAll]
    split
    · next p' h => exact (ih p').trans (disposed_release h)
    · rfl

private theorem acquireAfter_frame {r : Except KernelError (List Allocation)}
    {taken : List Allocation}
    {keys : List PoolKey} (h : p.acquireAfter Device.allocator d taken keys = (r, p', d')) :
    p'.disposed = p.disposed ∧ d'.batches = d.batches := by
  induction keys generalizing p d taken with
  | nil =>
    cases h
    exact ⟨rfl, rfl⟩
  | cons key rest ih =>
    rw [acquireAfter] at h
    split at h
    · next x p₁ d₁ hfirst =>
      rcases acquire_frame hfirst with ⟨hdisposed, hbatches⟩
      rcases ih h with ⟨hdisposed', hbatches'⟩
      exact ⟨hdisposed'.trans hdisposed, hbatches'.trans hbatches⟩
    · next e p₁ d₁ hfirst =>
      rcases acquire_frame hfirst with ⟨hdisposed, hbatches⟩
      have hback : p'.disposed = p₁.disposed ∧ d' = d₁ := by
        have hreleased := disposed_releaseAll p₁ taken
        split at h <;> next hall =>
          cases h
          rw [hall] at hreleased
          exact ⟨hreleased, rfl⟩
      rw [hback.1, hback.2]
      exact ⟨hdisposed, hbatches⟩

/-- A pool that is in use refuses only what it has not handed out. -/
theorem isUntracked_of_release {x : Allocation} {e : KernelError} (hpool : p.disposed = false)
    (h : p.release x = .error e) : e.isUntracked = true := by
  rw [release, if_neg (by simp [hpool])] at h
  split at h
  · cases h
  · cases h
    rfl

end Buffer.Pool

namespace Backend

open Tensor Buffer Device

variable {α β γ : Type} {b b' : Backend}

/-! ## What actions leave alone -/

/-- An action leaves a part of the state as it is, whether it succeeds or fails. -/
def Frames (part : Backend → γ) (x : Action α) : Prop := ∀ b, part (x b).2 = part b

namespace Frames

variable {part : Backend → γ} {x : Action α} {f : α → Action β}

/-- An answer alone leaves every part as it is. -/
theorem pure (a : α) : Frames part (Pure.pure a : Action α) := fun _ => rfl

private theorem throw (e : KernelError) : Frames part (throw e : Action α) := fun _ => rfl

/-- What two actions leave alone is left alone by their sequence. -/
theorem bind (hx : Frames part x) (hf : ∀ a, Frames part (f a)) : Frames part (x >>= f) := by
  intro b
  have hfirst := hx b
  cases hresult : x b with
  | mk r b' =>
    rw [hresult] at hfirst
    cases r with
    | error e =>
      rw [Action.bind_apply_error hresult]
      exact hfirst
    | ok a =>
      rw [Action.bind_apply_ok hresult]
      exact (hf a b').trans hfirst

/-- Choosing another answer leaves alone what the action does. -/
theorem map {g : α → β} (hx : Frames part x) : Frames part (g <$> x) := hx.bind fun _ => pure _

/-- Actions that leave a part alone do so one after the other. -/
theorem mapM {f : α → Action β} (hf : ∀ a, Frames part (f a)) (xs : List α) :
    Frames part (xs.mapM f) := by
  induction xs with
  | nil => exact pure []
  | cons x xs ih =>
    rw [List.mapM_cons]
    exact (hf x).bind fun _ => ih.bind fun _ => pure _

private theorem forM {f : α → Action Unit} (hf : ∀ a, Frames part (f a)) (xs : List α) :
    Frames part (xs.forM f) := by
  induction xs with
  | nil => exact pure ()
  | cons x xs ih => exact (hf x).bind fun _ => ih

end Frames

/-! ## Accounts -/

/-- What a backend knows of its passes. -/
structure Account where
  /-- Passes that the device was given, by submission. -/
  batches : List (List Pass)
  /-- Passes of the open encoder, if there is one. -/
  encoder : Option (List Pass)
  stage : Submission.Stage
  capacity : Nat
  passes : Nat
  submissions : Nat
  dispatchMetric : UInt64
  submissionMetric : UInt64
  /-- Whether the backend is disposed. -/
  disposed : Bool
  /-- Whether its pool is. -/
  poolDisposed : Bool

/-- The account of a backend. -/
def account (b : Backend) : Account where
  batches := b.device.batches
  encoder := b.encoder
  stage := b.batch.stage
  capacity := b.batch.capacity
  passes := b.batch.passes
  submissions := b.batch.submissions
  dispatchMetric := b.metrics.dispatches
  submissionMetric := b.metrics.submissions
  disposed := b.disposed
  poolDisposed := b.pool.disposed

namespace Account

/-- All passes in the order of their dispatch. -/
def dispatched (a : Account) : List Pass := a.batches.flatten ++ a.encoder.getD []

/-- The account after the open encoder was submitted. -/
def submitted (a : Account) : Account :=
  match a.encoder with
  | none => a
  | some passes =>
    { a with
      batches := a.batches ++ [passes]
      encoder := none
      stage := .idle
      passes := 0
      submissions := a.submissions + 1
      submissionMetric := a.submissionMetric + 1 }

/-- The account after a pass was recorded. -/
def recorded (a : Account) (p : Pass) : Account :=
  { a with
    encoder := some (a.encoder.getD [] ++ [p])
    stage := .recording
    passes := a.passes + 1
    dispatchMetric := a.dispatchMetric + 1 }

/-- The account after a pass was recorded and the encoder was submitted if that made it full. -/
def dispatch (a : Account) (p : Pass) : Account :=
  if a.capacity ≤ a.passes + 1 then (a.recorded p).submitted else a.recorded p

/-- Without an open encoder there is nothing to submit. -/
theorem submitted_of_encoder {a : Account} (h : a.encoder = none) : a.submitted = a := by
  rw [submitted, h]

@[simp]
theorem encoder_submitted (a : Account) : a.submitted.encoder = none := by
  unfold submitted
  split
  · next h => exact h
  · rfl

end Account

/-- A device with the same batches does not show in the account. -/
theorem account_with_device {d : Device} (h : d.batches = b.device.batches) :
    account { b with device := d } = account b := by
  unfold account
  rw [h]

private theorem account_with_pool {p : Pool} {d : Device} (hpool : p.disposed = b.pool.disposed)
    (hdevice : d.batches = b.device.batches) :
    account { b with pool := p, device := d } = account b := by
  unfold account
  rw [hpool, hdevice]

/-! ## Actions that leave the account alone -/

private theorem frames_of (r : Except KernelError α) : Frames account (Action.of r) := fun _ => rfl

/-- Asking whether the backend is live leaves the account alone. -/
theorem frames_live : Frames account Action.live := fun _ => rfl

private theorem frames_record (id : TensorId) : Frames account (Action.record id) := fun _ => rfl

private theorem frames_insert (r : Record) : Frames account (Action.insert r) := fun _ => rfl

private theorem frames_modify (id : TensorId) (f : Record → Record) :
    Frames account (Action.modify id f) := by
  intro b
  unfold Action.modify
  split <;> rfl

/-- Adding a reference leaves the account alone. -/
theorem frames_actionRetain (id : TensorId) : Frames account (Action.retain id) := by
  intro b
  unfold Action.retain
  split <;> rfl

private theorem frames_count {e : Metrics.Event}
    (hdispatches : ∀ m, (Metrics.count m e).dispatches =
    m.dispatches) (hsubmissions : ∀ m, (Metrics.count m e).submissions = m.submissions) :
    Frames account (Action.count e) := by
  intro b
  change account { b with metrics := b.metrics.count e } = _
  unfold account
  rw [hdispatches, hsubmissions]

private theorem frames_command {f : Device → Device} (h : ∀ d, (f d).batches = d.batches) :
    Frames account (Action.command f) :=
  fun _ => account_with_device (h _)

private theorem frames_acquire (key : PoolKey) : Frames account (Action.acquire key) := by
  intro b
  obtain ⟨r, pool, device, h⟩ : ∃ r pool device,
      b.pool.acquire Device.allocator b.device key = (r, pool, device) := ⟨_, _, _, rfl⟩
  rcases Pool.acquire_frame h with ⟨hpool, hdevice⟩
  simp only [Action.acquire, h]
  exact account_with_pool hpool hdevice

private theorem frames_release (x : Allocation) : Frames account (Action.release x) := by
  intro b
  unfold Action.release
  split
  · next pool h => exact account_with_pool (Pool.disposed_release h) rfl
  · rfl

/-- Taking the buffers of a pass leaves the account alone. -/
theorem frames_acquireBoth (uniform output : PoolKey) :
    Frames account (acquireBoth uniform output) := by
  intro b
  unfold acquireBoth
  split
  · next h =>
    rcases Pool.acquireAfter_frame h with ⟨hpool, hdevice⟩
    exact account_with_pool hpool hdevice
  · next h =>
    rcases Pool.acquireAfter_frame h with ⟨hpool, hdevice⟩
    exact account_with_pool hpool hdevice

/-! ### Making tensors -/

/-- Writing values leaves the account alone. -/
theorem frames_write (values : Values) (shape : Shape) : Frames account (write values shape) := by
  unfold write
  refine frames_live.bind fun _ => (frames_of _).bind fun _ => ?_
  cases values with
  | complex64 bits =>
    exact (frames_of _).bind fun _ => (frames_insert _).bind fun _ =>
      (frames_insert _).bind fun _ => (frames_insert _).bind fun _ => .pure _
  | float32 bits => exact (frames_insert _).bind fun _ => .pure _
  | int32 ints => exact (frames_insert _).bind fun _ => .pure _
  | bool flags => exact (frames_insert _).bind fun _ => .pure _

/-- Making a tensor leaves the account alone. -/
theorem frames_make (shape : Shape) (element : ElementType) (values : Option Values) :
    Frames account (make shape element values) := by
  unfold make
  refine frames_live.bind fun _ => ?_
  cases values with
  | none => exact (frames_insert _).bind fun _ => .pure _
  | some v =>
    by_cases helement : v.element = element
    · simp only [helement, if_true]
      exact frames_write v shape
    · simp only [helement, if_false]
      exact .throw _

private theorem frames_checkPart (part : Handle) : Frames account (checkPart part) := by
  refine (frames_record _).bind fun r => ?_
  by_cases helement : r.element = .float32
  · simp only [helement, if_true]
    exact .pure _
  · simp only [helement, if_false]
    exact .throw _

/-- Pairing two tensors leaves the account alone. -/
theorem frames_complex (real imag : Handle) : Frames account (complex real imag) := by
  unfold complex
  refine frames_live.bind fun _ => (frames_checkPart _).bind fun _ =>
    (frames_checkPart _).bind fun _ => ?_
  by_cases hshape : real.shape = imag.shape
  · simp only [hshape, if_true]
    exact (frames_actionRetain _).map.bind fun _ => (frames_actionRetain _).map.bind fun _ =>
      (frames_insert _).bind fun _ => .pure _
  · simp only [hshape, if_false]
    exact .throw _

/-! ### Giving up tensors -/

private theorem frames_removeOne (id : TensorId) : Frames account (removeOne id) := by
  intro b
  unfold removeOne
  split
  · rfl
  · split
    · rfl
    · split
      · next pool h => exact account_with_pool (Pool.disposed_release h) rfl
      · rfl

/-- Giving up one tensor leaves the account alone. -/
theorem frames_dropOne (id : TensorId) (force : Bool) : Frames account (dropOne id force) := by
  intro b
  have hdefer (tensors : Registry) :
      account { b with tensors, batch := b.batch.defer id } = account b := by
    unfold Submission.Batch.defer
    split <;> rfl
  have hremove (tensors : Registry) : account (removeOne id { b with tensors }).2 = account b :=
    (frames_removeOne id _).trans rfl
  unfold dropOne
  split
  · rfl
  split
  · rfl
  split
  · rfl
  · next remaining tensors _ =>
    have hremoved := hremove tensors
    split
    · rfl
    split
    · exact hdefer tensors
    split
    · next h => rwa [h] at hremoved
    · next h => rwa [h] at hremoved

private theorem frames_dropEach (ids : List TensorId) : Frames account (dropEach ids) := by
  intro b
  induction ids, b using dropEach.induct with
  | case1 b => rw [dropEach]
  | case2 id rest b fate b' hdrop ih =>
    have hone : account b' = account b := by
      rw [← frames_dropOne id false b, hdrop]
    rw [dropEach, hdrop]
    exact ih.trans hone
  | case3 id rest b e b' hdrop =>
    have hone : account b' = account b := by
      rw [← frames_dropOne id false b, hdrop]
    rw [dropEach, hdrop]
    exact hone

/-- Giving up a tensor with its parts leaves the account alone. -/
theorem frames_drop (id : TensorId) (force : Bool) : Frames account (drop id force) := by
  refine frames_live.bind fun _ => (frames_dropOne id force).bind fun fate => ?_
  cases fate with
  | absent => exact .pure _
  | kept => exact .pure _
  | removed parts => exact (frames_dropEach parts).bind fun _ => .pure _

/-- Removing a tensor leaves the account alone. -/
theorem frames_remove (id : TensorId) : Frames account (remove id) :=
  (frames_removeOne id).bind fun parts => frames_dropEach parts

/-! ### Preparing a pass -/

/-- Making a layout leaves the account alone. -/
theorem frames_prepareLayout (operands : Nat) : Frames account (prepareLayout operands) := by
  intro b
  change account { b with layouts := _, device := _ } = _
  refine account_with_device (b := { b with layouts := _ }) ?_
  split
  · rfl
  · exact batches_note_of_eq_none rfl

/-- Compiling a kernel leaves the account alone. -/
theorem frames_pipeline (k : Kernel) (objection : Option String) :
    Frames account (pipeline k objection) := by
  intro b
  obtain ⟨-, commands, hcommands, hdevice⟩ :=
    compileOn_eq k (Pipeline.Key.of k).text objection b.device
  have hbatches : (compileOn k (Pipeline.Key.of k).text objection b.device).2.batches =
      b.device.batches := by
    rw [hdevice]
    exact batches_foldl_note hcommands
  cases hfound : b.pipelines.table.get? (Pipeline.Key.of k) with
  | some compiled =>
    simp only [pipeline, Pipeline.Cache.getOrCreate, hfound]
    rfl
  | none =>
    cases hcompiled : compileOn k (Pipeline.Key.of k).text objection b.device with
    | mk result d =>
      rw [hcompiled] at hbatches
      cases result with
      | ok compiled =>
        simp only [pipeline, Pipeline.Cache.getOrCreate, hfound, hcompiled]
        exact account_with_device (b := { b with pipelines := _, metrics := _ }) hbatches
      | error e =>
        simp only [pipeline, Pipeline.Cache.getOrCreate, hfound, hcompiled]
        exact account_with_device (b := { b with pipelines := _ }) hbatches

/-- Bringing a tensor to the device leaves alone what its steps do. -/
theorem Frames.upload {part : Backend → γ} {id : TensorId}
    (hacquire : ∀ key, Frames part (Action.acquire key))
    (hwrite : ∀ x bytes, Frames part (Action.command (·.write x bytes)))
    (hcount : ∀ n, Frames part (Action.count (.upload n)))
    (hmodify : ∀ x, Frames part (Action.modify id ({ · with resource := some x }))) :
    Frames part (upload id) := by
  have hrecord : Frames part (Action.record id) := fun _ => rfl
  have hattach (n : Nat) (x : Allocation) : Frames part (do
      Action.count (.upload n)
      Action.modify id ({ · with resource := some x })
      return x : Action Allocation) :=
    (hcount n).bind fun _ => (hmodify x).bind fun _ => .pure x
  refine hrecord.bind fun r => ?_
  cases hresource : r.resource with
  | some x => exact .pure x
  | none =>
    cases hvalues : r.values with
    | none => exact .throw _
    | some v =>
      have hbytes : Frames part (Action.of v.deviceBytes) := fun _ => rfl
      refine hbytes.bind fun bytes => (hacquire _).bind fun x => ?_
      by_cases hempty : bytes.isEmpty = true
      · simp only [hempty, Bool.not_true, Bool.false_eq_true, if_false]
        exact hattach _ x
      · simp only [hempty, Bool.not_false, if_true]
        exact (hwrite _ _).bind fun _ => hattach _ x

/-- Bringing a tensor to the device leaves the account alone. -/
theorem frames_upload (id : TensorId) : Frames account (upload id) :=
  .upload frames_acquire (fun _ _ => frames_command fun _ => batches_write _ _)
    (fun _ => frames_count (fun _ => rfl) fun _ => rfl) fun _ => frames_modify id _

/-! ### Fetching values -/

private theorem frames_fetch (x : Allocation) (byteCount : Nat) (fault : Option MapFault) :
    Frames account (fetch x byteCount fault) := by
  refine (frames_acquire _).bind fun staging =>
    (frames_command fun d => batches_copyOut _ _ _).bind fun _ => ?_
  refine Frames.bind (fun b => account_with_device (batches_readMapped _ _ _)) fun mapped => ?_
  exact (frames_release _).bind fun _ => frames_of _

/-! ## Actions that the pool may stop -/

/-- An action fails at most because the pool refuses a buffer. -/
def FailsByPool (x : Action α) : Prop :=
  ∀ b e, b.pool.disposed = false → (x b).1 = .error e → e.isUntracked = true

namespace FailsByPool

variable {x : Action α} {f : α → Action β}

private theorem pure (a : α) : FailsByPool (Pure.pure a : Action α) := fun _ _ _ h => nomatch h

/-- Two actions that fail by the pool alone fail so one after the other. -/
theorem bind (hx : FailsByPool x) (hframe : Frames account x) (hf : ∀ a, FailsByPool (f a)) :
    FailsByPool (x >>= f) := by
  intro b e hpool herror
  have hfirst := hframe b
  have hfail := hx b
  cases hresult : x b with
  | mk r b' =>
    rw [hresult] at hfirst hfail
    cases r with
    | error e' =>
      rw [Action.bind_apply_error hresult] at herror
      obtain rfl := Except.error.inj herror
      exact hfail e' hpool rfl
    | ok a =>
      rw [Action.bind_apply_ok hresult] at herror
      exact hf a b' e ((congrArg Account.poolDisposed hfirst).trans hpool) herror

private theorem forM {f : α → Action Unit} (hf : ∀ a, FailsByPool (f a))
    (hframe : ∀ a, Frames account (f a)) (xs : List α) : FailsByPool (xs.forM f) := by
  induction xs with
  | nil => exact pure ()
  | cons x xs ih => exact (hf x).bind (hframe x) fun _ => ih

end FailsByPool

private theorem failsByPool_release (x : Allocation) : FailsByPool (Action.release x) := by
  intro b e hpool herror
  unfold Action.release at herror
  split at herror
  · cases herror
  · next h =>
    cases herror
    exact Pool.isUntracked_of_release hpool h

private theorem failsByPool_removeOne (id : TensorId) : FailsByPool (removeOne id) := by
  intro b e hpool herror
  unfold removeOne at herror
  split at herror
  · cases herror
  · split at herror
    · cases herror
    · split at herror
      · cases herror
      · next h =>
        cases herror
        exact Pool.isUntracked_of_release hpool h

private theorem failsByPool_dropOne (id : TensorId) (force : Bool) :
    FailsByPool (dropOne id force) := by
  intro b e hpool herror
  unfold dropOne at herror
  split at herror
  · cases herror
  next hlive =>
  split at herror
  · cases herror
  split at herror
  · next hrelease =>
    -- A tensor that is there can lose a reference.
    rcases Registry.contains_iff_get.mp (by simpa using hlive) with ⟨r, hget⟩
    rw [Registry.release_of_get hget] at hrelease
    cases hrelease
  · next remaining tensors _ =>
    split at herror
    · cases herror
    split at herror
    · cases herror
    split at herror
    · cases herror
    · next h =>
      cases herror
      exact failsByPool_removeOne id { b with tensors } _ hpool (congrArg Prod.fst h)

private theorem failsByPool_dropEach (ids : List TensorId) : FailsByPool (dropEach ids) := by
  intro b e hpool herror
  induction ids, b using dropEach.induct with
  | case1 b =>
    rw [dropEach] at herror
    cases herror
  | case2 id rest b fate b' hdrop ih =>
    have hone : account b' = account b := by
      rw [← frames_dropOne id false b, hdrop]
    rw [dropEach, hdrop] at herror
    exact ih ((congrArg Account.poolDisposed hone).trans hpool) herror
  | case3 id rest b e' b' hdrop =>
    rw [dropEach, hdrop] at herror
    cases herror
    exact failsByPool_dropOne id false b _ hpool (congrArg Prod.fst hdrop)

private theorem failsByPool_remove (id : TensorId) : FailsByPool (remove id) :=
  (failsByPool_removeOne id).bind (frames_removeOne id) fun parts => failsByPool_dropEach parts

/-! ## Ends of actions -/

/-- Unless the pool refused a buffer, a condition holds of the result of an action. -/
def Ends (result : Except KernelError α × Backend)
    (post : Except KernelError α → Backend → Prop) : Prop :=
  (∃ e, result.1 = .error e ∧ e.isUntracked = true) ∨ post result.1 result.2

namespace Ends

variable {x : Action α} {f : α → Action β} {mid post : Except KernelError α → Backend → Prop}
  {post' : Except KernelError β → Backend → Prop}

/-- Where all failures are ordinary the condition holds. -/
theorem of_ordinary {result : Except KernelError α × Backend} (h : Ends result post)
    (hordinary : FailsOrdinarily result.1) : post result.1 result.2 := by
  rcases h with ⟨e, he, huntracked⟩ | hpost
  · exact absurd huntracked (by simp [hordinary e he])
  · exact hpost

/-- Ends of two actions in sequence. -/
theorem bind (hx : Ends (x b) mid) (hok : ∀ a b', mid (.ok a) b' → Ends (f a b') post')
    (herror : ∀ e b', mid (.error e) b' → post' (.error e) b') : Ends ((x >>= f) b) post' := by
  cases hresult : x b with
  | mk r b' =>
    rw [hresult] at hx
    cases r with
    | error e =>
      rw [Action.bind_apply_error hresult]
      rcases hx with ⟨e', he', huntracked⟩ | hmid
      · obtain rfl := Except.error.inj he'
        exact .inl ⟨e, rfl, huntracked⟩
      · exact .inr (herror e b' hmid)
    | ok a =>
      rw [Action.bind_apply_ok hresult]
      rcases hx with ⟨e', he', -⟩ | hmid
      · cases he'
      · exact hok a b' hmid

/-- A first step that is known to succeed. -/
theorem bind_to {a : α} (hx : x b = (.ok a, b')) (hf : Ends (f a b') post') :
    Ends ((x >>= f) b) post' := by
  rw [Action.bind_apply_ok hx]
  exact hf

/-- A first step that succeeds unless the pool refused a buffer. -/
theorem bind_ok {a : α} {reached : Backend → Prop}
    (hx : Ends (x b) fun r b' => r = .ok a ∧ reached b')
    (hf : ∀ b', reached b' → Ends (f a b') post') : Ends ((x >>= f) b) post' := by
  refine hx.bind (fun a' b' h => ?_) fun e b' h => ?_
  · obtain rfl := Except.ok.inj h.1
    exact hf b' h.2
  · cases h.1

/-- A first step that leaves a part of the state alone. -/
theorem bind_frame {part : Backend → γ} (hx : Frames part x)
    (hok : ∀ a b', x b = (.ok a, b') → part b' = part b → Ends (f a b') post')
    (herror : ∀ e b', part b' = part b → post' (.error e) b') : Ends ((x >>= f) b) post' := by
  have hend : Ends (x b) fun r b' => x b = (r, b') ∧ part b' = part b :=
    .inr ⟨rfl, hx b⟩
  exact hend.bind (fun a b' h => hok a b' h.1 h.2) fun e b' h => herror e b' h.2

/-- A first step that fails at most because of the pool. -/
theorem bind_failsByPool (hx : Frames account x) (hfails : FailsByPool x)
    (hpool : (account b).poolDisposed = false)
    (hok : ∀ a b', account b' = account b → Ends (f a b') post') : Ends ((x >>= f) b) post' := by
  have hend : Ends (x b) fun r b' => (∃ a, r = .ok a) ∧ account b' = account b := by
    cases hresult : (x b).1 with
    | error e => exact .inl ⟨e, hresult, hfails b e hpool hresult⟩
    | ok a => exact .inr ⟨⟨a, hresult⟩, hx b⟩
  refine hend.bind (fun a b' h => hok a b' h.2) fun e b' h => ?_
  rcases h.1 with ⟨a, ha⟩
  cases ha

end Ends

/-! ## Submitting -/

/-- A submission closes the encoder and adds its passes to those of the device. -/
theorem ends_submit (hlive : b.disposed = false) (hpool : b.pool.disposed = false) :
    Ends (submit b) fun r b' => r = .ok () ∧ account b' = (account b).submitted := by
  have hfirst : Action.live b = (.ok (), b) := Action.live_apply hlive
  unfold submit
  refine .bind_to hfirst (.bind_to (a := b.encoder) rfl ?_)
  cases hencoder : b.encoder with
  | none =>
    refine .inr ⟨rfl, ?_⟩
    exact (Account.submitted_of_encoder hencoder).symm
  | some passes =>
    refine .bind_to (a := b.batch.held) rfl ?_
    -- The encoder is closed; what is left releases what was held back for it.
    let b₁ := (handOver passes b).2
    have hclosed : { account b₁ with stage := .idle } = (account b).submitted := by
      have hbatches : b₁.device.batches = b.device.batches ++ [passes] := batches_submit passes
      unfold Account.submitted account
      rw [hbatches]
      simp only [hencoder]
      rfl
    refine Ends.bind_failsByPool (b := b₁) (.forM frames_release _)
      (.forM failsByPool_release frames_release _) hpool fun _ b₂ h₂ => ?_
    refine Ends.bind_failsByPool (.forM frames_remove _) (.forM failsByPool_remove frames_remove _)
      ((congrArg Account.poolDisposed h₂).trans hpool) fun _ b₃ h₃ => ?_
    refine .inr ⟨rfl, ?_⟩
    rw [← hclosed, ← h₂, ← h₃]
    rfl

/-- A submission that need not happen. -/
theorem ends_submitBefore (hlive : b.disposed = false) (hpool : b.pool.disposed = false)
    (id : TensorId) :
    Ends (submitBefore id b) fun r b' => r = .ok () ∧
      (account b' = account b ∨ account b' = (account b).submitted) := by
  unfold submitBefore
  apply Ends.bind_to (a := b.batch.touches id || b.encoder.isSome) rfl
  split
  · rcases ends_submit hlive hpool with hrefused | ⟨hok, haccount⟩
    · exact .inl hrefused
    · exact .inr ⟨hok, .inr haccount⟩
  · exact .inr ⟨rfl, .inl rfl⟩

/-! ## Reading -/

/-- The open encoder was submitted, or nothing happened to the account. -/
def Flushed (a a' : Account) : Prop := a' = a ∨ a' = a.submitted

namespace Flushed

variable {a a' a'' : Account}

private theorem trans (h : Flushed a a') (h' : Flushed a' a'') : Flushed a a'' := by
  rcases h' with rfl | rfl
  · exact h
  · rcases h with rfl | rfl
    · exact .inr rfl
    · exact .inr (Account.submitted_of_encoder (Account.encoder_submitted a))

/-- Submitting what is open disposes of nothing. -/
theorem standing (h : Flushed a a') :
    a'.disposed = a.disposed ∧ a'.poolDisposed = a.poolDisposed := by
  rcases h with rfl | rfl
  · exact ⟨rfl, rfl⟩
  · unfold Account.submitted
    split <;> exact ⟨rfl, rfl⟩

end Flushed

/-- Reading a tensor without parts submits the open passes or nothing. -/
theorem ends_readPlain (hlive : b.disposed = false) (hpool : b.pool.disposed = false)
    (id : TensorId) (fault : Option MapFault) :
    Ends (readPlain id fault b) fun _ b' => Flushed (account b) (account b') := by
  have hsame {b' : Backend} (h : account b' = account b) : Flushed (account b) (account b') :=
    .inl h
  refine Ends.bind_frame (frames_record id) (fun r b₁ _ h₁ => ?_) fun _ _ h => hsame h
  cases hvalues : r.values with
  | some values => exact .inr (hsame h₁)
  | none =>
    cases hresource : r.resource with
    | none => exact .inr (hsame h₁)
    | some x =>
      have hlive₁ : b₁.disposed = false := (congrArg Account.disposed h₁).trans hlive
      have hpool₁ : b₁.pool.disposed = false := (congrArg Account.poolDisposed h₁).trans hpool
      rw [← h₁]
      refine (ends_submitBefore hlive₁ hpool₁ id).bind_ok fun b₂ hflushed => ?_
      -- Nothing after the submission touches the account.
      have hrest : Frames account (do
          let bytes ← fetch x (Word.wrap (r.count * r.element.byteWidth)) fault
          Action.count (.download (Word.wrap (r.count * r.element.byteWidth)))
          let values ← Action.of (Values.ofDeviceBytes r.element bytes r.count Word.wrap)
          Action.modify id ({ · with values := some values })
          return values : Action Values) :=
        (frames_fetch _ _ _).bind fun _ => (frames_count (fun _ => rfl) fun _ => rfl).bind fun _ =>
          (frames_of _).bind fun _ => (frames_modify id _).bind fun _ => .pure _
      exact .inr (Flushed.trans hflushed (.inl (hrest b₂)))

/-- A read submits the open encoder or leaves the account alone. -/
theorem ends_read (hlive : b.disposed = false) (hpool : b.pool.disposed = false) (id : TensorId)
    (fault : Option MapFault) :
    Ends (read id fault b) fun _ b' => Flushed (account b) (account b') := by
  refine Ends.bind_frame frames_live (fun _ b₁ _ h₁ => ?_) fun _ _ h => .inl h
  refine Ends.bind_frame (frames_record id) (fun r b₂ _ h₂ => ?_) fun _ _ h => .inl (h.trans h₁)
  have hsame : account b₂ = account b := h₂.trans h₁
  have hlive₂ : b₂.disposed = false := (congrArg Account.disposed hsame).trans hlive
  have hpool₂ : b₂.pool.disposed = false := (congrArg Account.poolDisposed hsame).trans hpool
  rw [← hsame]
  cases hparts : r.parts with
  | none => exact ends_readPlain hlive₂ hpool₂ id fault
  | some parts =>
    rcases parts with ⟨real, imag⟩
    refine (ends_readPlain hlive₂ hpool₂ real fault).bind (fun re b₃ h₃ => ?_) fun _ _ h => h
    rcases h₃.standing with ⟨hdisposed₃, hpoolDisposed₃⟩
    refine (ends_readPlain (hdisposed₃.trans hlive₂) (hpoolDisposed₃.trans hpool₂) imag fault).bind
      (fun im b₄ h₄ => .inr (h₃.trans h₄)) fun _ _ h => h₃.trans h

end Backend

end ComputeKernels

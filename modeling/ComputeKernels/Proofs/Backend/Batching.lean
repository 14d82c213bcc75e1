import ComputeKernels.Proofs.Backend.ParallelReads

/-!
# Batch sizes are not observable

Two backends on the same device that differ in the batch size alone answer every session alike, as
long as no operation has to do with a tensor that its owners have given up.  Such a tensor may be gone
from one of them and wait for the open encoder in the other.

Main results:

- Theorem `agree_step`: every operation agrees.
- Theorem `alike_after`: so does every session.
- Theorem `batching_is_unobservable`: callers cannot tell batch sizes apart.
-/

namespace ComputeKernels.Backend

open Tensor Buffer Device

/-! ## Proper sessions -/

/-- Tensors that an operation names. -/
def Operation.named : Operation → List TensorId
  | .write _ _ => []
  | .make _ _ _ => []
  | .complex real imag => [real.id, imag.id]
  | .retain id => [id]
  | .drop id _ => [id]
  | .run j => j.inputs
  | .submit => []
  | .read id _ => [id]

/-- Tensors that an operation comes to without naming them: a complex tensor is read by its parts. -/
def Operation.reached (b : Backend) : Operation → List TensorId
  | .read id _ =>
    match b.tensors.get id with
    | .ok r => r.partList
    | .error _ => []
  | _ => []

/-- Whether an operation removes a tensor that is still referred to. -/
def Operation.isForced : Operation → Bool
  | .drop _ force => force
  | _ => false

/-- A tensor was made and is not referred to any more. -/
def GivenUp (b : Backend) (id : TensorId) : Prop :=
  id.number < b.tensors.next ∧ b.references id = 0
deriving Decidable

/-- An operation forces nothing and names no tensor that was given up. -/
def Decent (b : Backend) (op : Operation) : Prop :=
  op.isForced = false ∧ ∀ id ∈ op.named, ¬ GivenUp b id
deriving Decidable

/-- A decent operation that does not come to a tensor that was given up either. -/
def Proper (b : Backend) (op : Operation) : Prop :=
  Decent b op ∧ ∀ id ∈ op.reached b, ¬ GivenUp b id
deriving Decidable

/-- A condition holds of every operation of a session. -/
def Throughout (condition : Backend → Operation → Prop) : Backend → List Operation → Prop
  | _, [] => True
  | b, op :: ops => condition b op ∧ Throughout condition (b.step op).2 ops

instance decidableThroughout (condition : Backend → Operation → Prop)
    [∀ b op, Decidable (condition b op)] :
    (b : Backend) → (ops : List Operation) → Decidable (Throughout condition b ops)
  | _, [] => inferInstanceAs (Decidable True)
  | b, op :: ops =>
    have := decidableThroughout condition (b.step op).2 ops
    inferInstanceAs (Decidable (condition b op ∧ Throughout condition (b.step op).2 ops))

/-- Whether an operation writes a tensor from values on the host. -/
def Operation.hasValues : Operation → Bool
  | .write _ _ => true
  | .make _ _ (some _) => true
  | _ => false

/-- The tensor that an operation writes from values on the host. -/
def writtenBy (b : Backend) (op : Operation) : Option TensorId :=
  match op.hasValues, (b.step op).1 with
  | true, .ok (.tensor handle) => some handle.id
  | _, _ => none

/-- Tensors that a session writes from values on the host. -/
def written : Backend → List Operation → List TensorId
  | _, [] => []
  | b, op :: ops => (writtenBy b op).toList ++ written (b.step op).2 ops

variable {start : Nat} {b b₁ b₂ : Backend} {id : TensorId} {op : Operation}
  {ops : List Operation} {condition : Backend → Operation → Prop}

private theorem throughout_append {ops' : List Operation} :
    Throughout condition b (ops ++ ops') ↔
      Throughout condition b ops ∧ Throughout condition (b.after ops) ops' := by
  induction ops generalizing b with
  | nil => simp [Throughout, after]
  | cons op ops ih =>
    change condition b op ∧ Throughout condition (b.step op).2 (ops ++ ops') ↔
      (condition b op ∧ Throughout condition (b.step op).2 ops) ∧
        Throughout condition ((b.step op).2.after ops) ops'
    rw [ih, and_assoc]

/-! ## Operations -/

/-- A tensor that was not given up is in view if it was ever made. -/
theorem retains_of_not_givenUp (h : ¬ GivenUp b id) : (view start b).Retains id := by
  intro hlt
  have hreferences : b.references id ≠ 0 := fun hzero => h ⟨hlt, hzero⟩
  cases hget : b.tensors.get id with
  | error e => simp [references, hget] at hreferences
  | ok r =>
    have hreferenced : r.references ≠ 0 := by simpa [references, hget] using hreferences
    have hsight : (view start b).tensors id = _ := sight_of_get hget hreferenced
    rw [hsight]
    exact Option.some_ne_none _

/-- The parts of a tensor that may be read are in view. -/
theorem retainsParts_of_proper {fault : Option MapFault} (h : Proper b (.read id fault)) :
    (view start b).RetainsParts id := by
  rintro t ⟨real, imag⟩ ht hparts
  rcases exists_get_of_sight ht with ⟨r, hget, -, rfl⟩
  have hfound : r.parts = some (real, imag) := hparts
  have hreached : (Operation.read id fault).reached b = [real, imag] := by
    simp [Operation.reached, hget, Record.partList, hfound]
  have hkept : ∀ i ∈ [real, imag], ¬ GivenUp b i := by
    rw [← hreached]
    exact h.2
  exact ⟨retains_of_not_givenUp (hkept real (by simp)), retains_of_not_givenUp (hkept imag (by simp))⟩

/-- Answers that callers cannot tell apart, except by whether a tensor is gone and by values that a
pass computed. -/
inductive SameAnswer (op : Operation) (v v' : View) : Answer → Answer → Prop
  | tensor (handle : Handle) (h : op.hasValues = true → v'.Hosted handle.id) :
    SameAnswer op v v' (.tensor handle) (.tensor handle)
  | count (n : Nat) : SameAnswer op v v' (.count n) (.count n)
  | gone (flag₁ flag₂ : Bool) : SameAnswer op v v' (.gone flag₁) (.gone flag₂)
  | values (values₁ values₂ : Values)
    (h : ∀ id fault, op = .read id fault → v.Hosted id → values₁ = values₂) :
    SameAnswer op v v' (.values values₁) (.values values₂)
  | done : SameAnswer op v v' .done .done

/-- Every operation is carried out alike. -/
theorem agree_step (h : Alike start b₁ b₂) (hop : Proper b₁ op) :
    Agree start (view start b₁) (fun a₁ a₂ v => SameAnswer op (view start b₁) v a₁ a₂)
      (b₁.step op) (b₂.step op) := by
  rcases hop with ⟨⟨hforced, hnamed⟩, hreached⟩
  have hretains (id : TensorId) (hid : id ∈ op.named) : (view start b₁).Retains id :=
    retains_of_not_givenUp (hnamed id hid)
  cases op with
  | write values shape =>
    refine (agree_write h values shape).map ?_
    rintro handle _ v ⟨rfl, hhosted⟩
    exact .tensor handle fun _ => hhosted
  | make shape element values =>
    refine (agree_make h shape element values).map ?_
    rintro handle _ v ⟨rfl, hhosted⟩
    refine .tensor handle fun hvalues => hhosted ?_
    rintro rfl
    cases hvalues
  | complex real imag =>
    refine (agree_complex h (hretains _ (by simp [Operation.named]))
      (hretains _ (by simp [Operation.named]))).map ?_
    rintro handle _ v rfl
    exact .tensor handle fun hvalues => nomatch hvalues
  | retain id =>
    refine (agree_retain h (hretains id (by simp [Operation.named]))).map ?_
    rintro n _ v rfl
    exact .count n
  | drop id force =>
    obtain rfl : force = false := hforced
    exact (agree_drop h id).map fun flag₁ flag₂ _ _ => .gone flag₁ flag₂
  | run j =>
    refine (agree_run h hretains).map ?_
    rintro handle _ v rfl
    exact .tensor handle fun hvalues => nomatch hvalues
  | submit => exact (agree_submit h).map fun _ _ _ _ => .done
  | read id fault =>
    have hparts : (view start b₁).RetainsParts id :=
      retainsParts_of_proper ⟨⟨hforced, hnamed⟩, hreached⟩
    refine (agree_read h (hretains id (by simp [Operation.named])) hparts fault).map ?_
    intro values₁ values₂ _ hsame
    refine .values values₁ values₂ ?_
    rintro id' fault' ⟨⟩ hhosted
    exact hsame hhosted

/-! ## Sessions -/

/-- What comes of an operation on both sides. -/
theorem alike_step (h : Alike start b₁ b₂) (hm₁ : Sound ⟨b₁, []⟩) (hm₂ : Sound ⟨b₂, []⟩)
    (hop : Proper b₁ op) :
    Alike start (b₁.step op).2 (b₂.step op).2 ∧
      (view start b₁).Evolves (view start (b₁.step op).2) ∧
      Matching (SameAnswer op (view start b₁) (view start (b₁.step op).2))
        (b₁.step op).1 (b₂.step op).1 := by
  -- Nothing is refused that was handed out.
  have hordinary {b : Backend} (hm : Sound ⟨b, []⟩) : ¬ Refused (b.step op).1 := by
    rintro ⟨e, he, huntracked⟩
    rw [(exists_trail hm op).2 e he] at huntracked
    cases huntracked
  rcases agree_step h hop with hrefused | hrefused | hagreed
  · exact absurd hrefused (hordinary hm₁)
  · exact absurd hrefused (hordinary hm₂)
  · exact hagreed

/-- A tensor that an operation writes is one that no pass computes. -/
theorem hosted_of_writtenBy {a : Except KernelError Answer} {v v' : View}
    (hmatching : Matching (SameAnswer op v v') (b.step op).1 a) (hid : id ∈ writtenBy b op) :
    v'.Hosted id := by
  unfold writtenBy at hid
  split at hid
  · next handle hvalues hanswer =>
    obtain rfl := Option.some.inj hid
    rw [hanswer] at hmatching
    cases hmatching with
    | ok hsame =>
      cases hsame with
      | tensor _ hhosted => exact hhosted hvalues
  · cases hid

/-- Every session is carried out alike, and no pass computes what it writes. -/
theorem alike_after (h : Alike start b₁ b₂) (hm₁ : Sound ⟨b₁, []⟩) (hm₂ : Sound ⟨b₂, []⟩)
    (hops : Throughout Proper b₁ ops) :
    Alike start (b₁.after ops) (b₂.after ops) ∧
      (view start b₁).Evolves (view start (b₁.after ops)) ∧
      ∀ id ∈ written b₁ ops, (view start (b₁.after ops)).Hosted id := by
  induction ops generalizing b₁ b₂ with
  | nil => exact ⟨h, .refl _, fun id hid => absurd hid List.not_mem_nil⟩
  | cons op ops ih =>
    rcases hops with ⟨hop, hrest⟩
    rcases exists_trail hm₁ op with ⟨⟨t₁, htrail₁⟩, -⟩
    rcases exists_trail hm₂ op with ⟨⟨t₂, htrail₂⟩, -⟩
    rcases alike_step h hm₁ hm₂ hop with ⟨halike, hevolves, hmatching⟩
    rcases ih halike (htrail₁.sound hm₁) (htrail₂.sound hm₂) hrest with
      ⟨hlast, hevolves', hhosted⟩
    refine ⟨hlast, hevolves.trans hevolves', fun id hid => ?_⟩
    rcases List.mem_append.mp hid with hnow | hlater
    · exact (hosted_of_writtenBy hmatching (Option.mem_toList.mp hnow)).evolve hevolves'
    · exact hhosted id hlater

/-! ## A pair with a copied part -/

/-- A job with one operand and one result, both of one float. -/
def copyJob : Job where
  program := { label := "copy", outputShape := [1], operandNames := ["x"], wgslBody := some "" }
  inputs := [⟨0⟩]
  element := .float32

/-- Its kernel for such an operand. -/
def copyKernel : Kernel :=
  ⟨copyJob.program, [⟨"x", .float32, [1]⟩], ⟨Kernel.outputName, .float32, [1]⟩⟩

/-- The launch of that kernel: a pass of one workgroup. -/
def copyLaunch : Launch where
  grid := ⟨1, 1, 1⟩
  uniforms := [0, 0, 0xc0, 0x7f] ++ (List.replicate 6 [1, 0, 0, 0]).flatten

/-- The launch of the copying kernel is the one above. -/
theorem launch_copyKernel : Launch.of copyKernel 65535 [] = .ok copyLaunch := by
  have hstrides : Shape.outerStrides [1] = [] := by simp [Shape.outerStrides]
  have hcontents : copyKernel.program.uniformContents copyKernel.inputs [1] ⟨1, 1, 1⟩ [] =
      .ok [.notANumber, .counts [1], .counts [1], .counts [], .counts [1, 1, 1]] := by
    rw [Program.uniformContents, Program.standardContents, hstrides]
    rfl
  exact launch_eq_ok (by decide +kernel) hcontents (by decide +kernel)

/-- Two tensors of one float each, and a complex tensor of which they are the parts. -/
def pairing : List Operation :=
  [.write (.float32 [0x3f800000]) [1], .write (.float32 [0x40000000]) [1],
    .complex ⟨⟨0⟩, [1], .float32⟩ ⟨⟨1⟩, [1], .float32⟩]

/-- The backend after the pairing, for some batch size. -/
def paired (n : Nat) : Backend := (onDevice {} { batchSize := n }).after pairing

/-- The backend after the real part was copied. -/
def copied (n : Nat) : Backend := (copyJob.carryOut copyKernel copyLaunch (paired n)).2

private theorem step_copyJob (n : Nat) : ((paired n).step (.run copyJob)).2 = copied n := by
  have hlive : (paired n).disposed = false := by rfl
  have hkernel : copyJob.kernel (paired n).tensors = .ok copyKernel := by rfl
  have hrun : run copyJob (paired n) = copyJob.carryOut copyKernel copyLaunch (paired n) :=
    run_eq_carryOut hlive hkernel (by decide) launch_copyKernel
  have hstep : ((paired n).step (.run copyJob)).2 = (run copyJob (paired n)).2 :=
    snd_bind_pure _ _ _
  rw [hstep, hrun]
  rfl

private theorem after_copyJob (n : Nat) (ops : List Operation) :
    (onDevice {} { batchSize := n }).after (pairing ++ .run copyJob :: ops) =
      (copied n).after ops := by
  rw [after, List.foldl_append, List.foldl_cons, ← step_copyJob n]
  rfl

private theorem throughout_copyJob {n : Nat} (ops : List Operation)
    (hbefore : Throughout condition (onDevice {} { batchSize := n }) pairing)
    (hcopy : condition (paired n) (.run copyJob)) (hafter : Throughout condition (copied n) ops) :
    Throughout condition (onDevice {} { batchSize := n }) (pairing ++ .run copyJob :: ops) := by
  refine throughout_append.mpr ⟨hbefore, hcopy, ?_⟩
  change Throughout condition ((paired n).step (.run copyJob)).2 ops
  rw [step_copyJob n]
  exact hafter

/-! ## Batch sizes -/

/-- Backends on one device that differ in the batch size alone are alike to begin with. -/
theorem alike_onDevice (d : Device) (s : Config.Settings) (n₁ n₂ : Nat) :
    Alike d.batches.length (onDevice d { s with batchSize := n₁ })
      (onDevice d { s with batchSize := n₂ }) :=
  ⟨tidy_onDevice d _, tidy_onDevice d _, rfl⟩

/-- Passes that a backend on a device has submitted in batches since some moment, and then those that
are still open, without the buffers that they bind. -/
def passesSince (d : Device) (b : Backend) : List Pass :=
  ((b.device.batches.drop d.batches.length).flatten ++ b.encoder.getD []).map Pass.unbound

/-- Callers cannot tell batch sizes apart.  Take two backends on one device whose settings differ in
the batch size alone, and a session in which nothing is removed by force and no operation names a
tensor, or reads one by its parts, that is not referred to any more.  Then every operation fails alike
on both, the same tensors and counts are answered, tensors that were written from values on the host
are read alike, and the passes in the order of their dispatch are the same up to the buffers that they
bind. -/
theorem batching_is_unobservable (d : Device) (s : Config.Settings) (n₁ n₂ : Nat)
    (ops : List Operation) (op : Operation)
    (h : Throughout Proper (onDevice d { s with batchSize := n₁ }) (ops ++ [op])) :
    let session (n : Nat) := (onDevice d { s with batchSize := n }).after ops
    let answer (n : Nat) := ((session n).step op).1
    (∀ e, answer n₁ = .error e ↔ answer n₂ = .error e) ∧
      (∀ handle, answer n₁ = .ok (.tensor handle) ↔ answer n₂ = .ok (.tensor handle)) ∧
      (∀ count, answer n₁ = .ok (.count count) ↔ answer n₂ = .ok (.count count)) ∧
      (∀ id fault values, op = .read id fault →
        id ∈ written (onDevice d { s with batchSize := n₁ }) ops →
        (answer n₁ = .ok (.values values) ↔ answer n₂ = .ok (.values values))) ∧
      passesSince d ((session n₁).step op).2 = passesSince d ((session n₂).step op).2 := by
  intro session answer
  rcases throughout_append.mp h with ⟨hops, hop, -⟩
  have hfirst := alike_onDevice d s n₁ n₂
  have hm (n : Nat) : Sound ⟨session n, []⟩ := sound_after d _ ops
  rcases alike_after hfirst (sound_onDevice d _) (sound_onDevice d _) hops with ⟨halike, -, hhosted⟩
  rcases alike_step halike (hm n₁) (hm n₂) hop with ⟨hlast, -, hmatching⟩
  have hpasses := congrArg View.passes hlast.view_eq
  refine ⟨fun e => hmatching.error_iff, fun handle => ?_, fun count => ?_, ?_, hpasses⟩
  · apply hmatching.ok_iff
    intro a₁ a₂ hsame
    cases hsame <;> simp
  · apply hmatching.ok_iff
    intro a₁ a₂ hsame
    cases hsame <;> simp
  · intro id fault values hread hid
    apply hmatching.ok_iff
    intro a₁ a₂ hsame
    cases hsame with
    | values values₁ values₂ hvalues => rw [hvalues id fault hread (hhosted id hid)]
    | tensor => simp
    | count => simp
    | gone => simp
    | done => simp

/-- The part that was copied is read alike while the complex tensor still refers to it. -/
theorem copied_part_is_read_alike :
    let ops := pairing ++ [.run copyJob, .drop ⟨0⟩ false]
    let session (n : Nat) := (onDevice {} { batchSize := n }).after ops
    let values : Values := .float32 [0x3f800000]
    (((session 1).step (.read ⟨0⟩ none)).1 = .ok (.values values) ↔
        ((session 15).step (.read ⟨0⟩ none)).1 = .ok (.values values)) ∧
      passesSince {} ((session 1).step (.read ⟨0⟩ none)).2 =
        passesSince {} ((session 15).step (.read ⟨0⟩ none)).2 := by
  intro ops session values
  have hproper : Throughout Proper (onDevice {} { batchSize := 1 }) (ops ++ [.read ⟨0⟩ none]) :=
    throughout_copyJob [.drop ⟨0⟩ false, .read ⟨0⟩ none] (by decide +kernel)
      (by decide +kernel) (by decide +kernel)
  have hwritten : ⟨0⟩ ∈ written (onDevice {} { batchSize := 1 }) ops := by
    refine List.mem_append_left _ ?_
    decide +kernel
  rcases batching_is_unobservable {} {} 1 15 ops (.read ⟨0⟩ none) hproper with
    ⟨-, -, -, hread, hpasses⟩
  exact ⟨hread ⟨0⟩ none values rfl hwritten, hpasses⟩

/-- The same session, but for one more reference that is given up. -/
theorem parts_given_up_are_observable :
    let ops := pairing ++ [.run copyJob, .drop ⟨0⟩ false, .drop ⟨0⟩ false]
    let session (n : Nat) := (onDevice {} { batchSize := n }).after ops
    Throughout Decent (onDevice {} { batchSize := 1 }) (ops ++ [.read ⟨2⟩ none]) ∧
      Throughout Decent (onDevice {} { batchSize := 15 }) (ops ++ [.read ⟨2⟩ none]) ∧
      ((session 1).step (.read ⟨2⟩ none)).1 = .error (.unknownTensor ⟨0⟩) ∧
      ((session 15).step (.read ⟨2⟩ none)).1 =
        .ok (.values (.complex64 [0x3f800000, 0x40000000])) := by
  intro ops session
  have hsession (n : Nat) : session n = (copied n).after [.drop ⟨0⟩ false, .drop ⟨0⟩ false] :=
    after_copyJob n _
  rw [hsession, hsession]
  refine ⟨?_, ?_, by decide +kernel, by decide +kernel⟩
  · exact throughout_copyJob [.drop ⟨0⟩ false, .drop ⟨0⟩ false, .read ⟨2⟩ none]
      (by decide +kernel) (by decide +kernel) (by decide +kernel)
  · exact throughout_copyJob [.drop ⟨0⟩ false, .drop ⟨0⟩ false, .read ⟨2⟩ none]
      (by decide +kernel) (by decide +kernel) (by decide +kernel)

end ComputeKernels.Backend

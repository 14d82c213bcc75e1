import ComputeKernels.Backend.Session
import ComputeKernels.Proofs.Dispatch.Partitions

/-!
# Ordinary failures

A failure is ordinary unless it says that a buffer was given back that the pool had not handed out.
What a backend computes apart from its pool fails in ordinary ways alone.

Main results:

- Theorem `FailsOrdinarily.bind`: a sequence of steps fails in ordinary ways if each step does.
- Theorems `failsOrdinarily_kernel`, `failsOrdinarily_launch` and `failsOrdinarily_sourceOf`: so do the
  checks of a job, its launch and the generation of its code.
-/

namespace ComputeKernels

/-! ## Failures in general -/

/-- Whether a failure says that a buffer was given back that was not handed out. -/
def KernelError.isUntracked : KernelError → Bool
  | untrackedBuffer _ _ => true
  | _ => false

/-- If a computation fails, then in an ordinary way. -/
def FailsOrdinarily {α : Type} (r : Except KernelError α) : Prop :=
  ∀ e, r = .error e → e.isUntracked = false

variable {α β : Type}

/-- A value is no failure. -/
theorem failsOrdinarily_ok (a : α) : FailsOrdinarily (.ok a) := nofun

/-- A failure that concerns no untracked buffer is ordinary. -/
theorem failsOrdinarily_error {e : KernelError} (h : e.isUntracked = false) :
    FailsOrdinarily (.error e : Except KernelError α) := by
  intro e' he'
  obtain rfl := Except.error.inj he'
  exact h

/-- A sequence of steps fails in ordinary ways if each step does. -/
theorem FailsOrdinarily.bind {x : Except KernelError α} {f : α → Except KernelError β}
    (hx : FailsOrdinarily x) (hf : ∀ a, FailsOrdinarily (f a)) : FailsOrdinarily (x >>= f) := by
  cases x with
  | error e => exact failsOrdinarily_error (hx e rfl)
  | ok a => exact hf a

private theorem FailsOrdinarily.mapM {f : α → Except KernelError β}
    (hf : ∀ a, FailsOrdinarily (f a))
    (xs : List α) : FailsOrdinarily (xs.mapM f) := by
  induction xs with
  | nil => exact failsOrdinarily_ok []
  | cons x xs ih =>
    rw [List.mapM_cons]
    exact (hf x).bind fun _ => ih.bind fun _ => failsOrdinarily_ok _

private theorem FailsOrdinarily.forM {f : α → Except KernelError Unit}
    (hf : ∀ a, FailsOrdinarily (f a))
    (xs : List α) : FailsOrdinarily (xs.forM f) := by
  induction xs with
  | nil => exact failsOrdinarily_ok ()
  | cons x xs ih => exact (hf x).bind fun _ => ih

private theorem failsOrdinarily_require {condition : Bool} {e : KernelError}
    (h : e.isUntracked = false) :
    FailsOrdinarily (require condition e) := by
  unfold require
  split
  · exact failsOrdinarily_ok ()
  · exact failsOrdinarily_error h

private theorem failsOrdinarily_requireLayout (condition : Bool) (fault : LayoutFault) :
    FailsOrdinarily (requireLayout condition fault) :=
  failsOrdinarily_require rfl

/-! ## Checks of kernels -/

private theorem failsOrdinarily_checkVec4 (o : Operand) (output : Shape) :
    FailsOrdinarily (o.checkVec4 output) :=
  (failsOrdinarily_requireLayout _ _).bind fun _ =>
    (failsOrdinarily_requireLayout _ _).bind fun _ =>
      (failsOrdinarily_requireLayout _ _).bind fun _ =>
        (failsOrdinarily_requireLayout _ _).bind fun _ => failsOrdinarily_requireLayout _ _

private theorem failsOrdinarily_validateLayout (l : AxisLayout) (rank : Nat) :
    FailsOrdinarily (l.validate rank) := by
  rw [AxisLayout.validate_eq, AxisLayout.checkSeen]
  split
  · exact failsOrdinarily_error rfl
  · split
    · exact failsOrdinarily_error rfl
    · split
      · exact failsOrdinarily_ok ()
      · exact failsOrdinarily_error rfl

private theorem failsOrdinarily_checkElementwise (p : Program) :
    FailsOrdinarily (Kernel.checkElementwise p) := by
  unfold Kernel.checkElementwise
  split
  · exact failsOrdinarily_ok ()
  · exact (failsOrdinarily_requireLayout _ _).bind fun _ => failsOrdinarily_requireLayout _ _

private theorem failsOrdinarily_checkInput (k : Kernel) (o : Operand) :
    FailsOrdinarily (k.checkInput o) :=
  (failsOrdinarily_require rfl).bind fun _ =>
    (failsOrdinarily_require rfl).bind fun _ => failsOrdinarily_requireLayout _ _

private theorem failsOrdinarily_checkLanes (k : Kernel) : FailsOrdinarily k.checkLanes := by
  unfold Kernel.checkLanes
  split
  · exact .forM (fun o => failsOrdinarily_checkVec4 o _) _
  · exact failsOrdinarily_ok ()

private theorem failsOrdinarily_checkParts (k : Kernel) : FailsOrdinarily k.checkParts :=
  (failsOrdinarily_requireLayout _ _).bind fun _ =>
    (failsOrdinarily_require rfl).bind fun _ =>
      (failsOrdinarily_require rfl).bind fun _ =>
        (failsOrdinarily_validateLayout _ _).bind fun _ =>
          (failsOrdinarily_checkElementwise _).bind fun _ =>
            .forM (failsOrdinarily_checkInput k) _

private theorem failsOrdinarily_validate (k : Kernel) : FailsOrdinarily k.validate :=
  (failsOrdinarily_checkParts k).bind fun _ =>
    (failsOrdinarily_checkLanes k).bind fun _ =>
      .forM (fun _ => failsOrdinarily_require rfl) _

/-- Printing a kernel fails in ordinary ways. -/
theorem failsOrdinarily_sourceOf (k : Kernel) : FailsOrdinarily (Shader.sourceOf k) := by
  have hbody : FailsOrdinarily k.program.body := by
    unfold Program.body
    split
    · exact failsOrdinarily_ok _
    · exact failsOrdinarily_error rfl
  have hmodule : FailsOrdinarily (Shader.moduleOf k) :=
    (failsOrdinarily_validate k).bind fun _ => hbody.bind fun _ => failsOrdinarily_ok _
  exact hmodule.bind fun _ => failsOrdinarily_ok _

/-! ## Launches -/

private theorem failsOrdinarily_dispatch (p : Program) (limit : Nat) (keep : Nat → Nat) :
    FailsOrdinarily (p.dispatch limit keep) := by
  unfold Program.dispatch AxisLayout.foldCounts
  split
  · exact failsOrdinarily_ok _
  · split
    · exact failsOrdinarily_error rfl
    · simp only
      split
      · exact failsOrdinarily_ok _
      · split
        · exact failsOrdinarily_ok _
        · exact failsOrdinarily_error rfl

private theorem failsOrdinarily_extraContents (ds : List UniformDecl) (fs : List Uniform.Field) :
    FailsOrdinarily (Program.extraContents ds fs) := by
  induction ds generalizing fs with
  | nil => exact failsOrdinarily_ok []
  | cons d ds ih =>
    cases fs with
    | nil => exact failsOrdinarily_ok []
    | cons f fs =>
      unfold Program.extraContents
      split
      · exact (ih fs).bind fun _ => failsOrdinarily_ok _
      · exact failsOrdinarily_error rfl

private theorem failsOrdinarily_uniformFields (p : Program) (inputs : List Operand) (output : Shape)
    (dispatch : Grid) (extra : List Uniform.Field) :
    FailsOrdinarily (p.uniformFields inputs output dispatch extra) := by
  have hcontents : FailsOrdinarily (p.uniformContents inputs output dispatch extra) := by
    unfold Program.uniformContents
    split
    · exact (failsOrdinarily_extraContents _ _).bind fun _ => failsOrdinarily_ok _
    · exact failsOrdinarily_error rfl
  exact hcontents.bind fun _ => failsOrdinarily_ok _

private theorem failsOrdinarily_alignment (width : Nat) :
    FailsOrdinarily (Uniform.alignment width) := by
  unfold Uniform.alignment
  split
  · exact failsOrdinarily_ok _
  · exact failsOrdinarily_ok _
  · exact failsOrdinarily_ok _
  · exact failsOrdinarily_ok _
  · exact failsOrdinarily_error rfl

private theorem failsOrdinarily_pack (fields : List Uniform.Field) :
    FailsOrdinarily (Uniform.pack fields) := by
  have hpad (fields : List Uniform.Field) (offset : Nat) :
      FailsOrdinarily (Uniform.padFrom offset fields) := by
    induction fields generalizing offset with
    | nil => exact failsOrdinarily_ok []
    | cons f fields ih =>
      exact (failsOrdinarily_alignment _).bind fun _ => (ih _).bind fun _ => failsOrdinarily_ok _
  exact (hpad fields 0).bind fun _ => failsOrdinarily_ok _

namespace Backend

/-- Planning a launch fails in ordinary ways. -/
theorem failsOrdinarily_launch (k : Kernel) (limit : Nat) (extra : List Uniform.Field) :
    FailsOrdinarily (Launch.of k limit extra) :=
  (failsOrdinarily_dispatch _ _ _).bind fun _ =>
    (failsOrdinarily_uniformFields _ _ _ _ _).bind fun _ =>
      (failsOrdinarily_pack _).bind fun _ => failsOrdinarily_ok _

/-! ## Tensors -/

open Tensor

/-- Looking up a tensor fails in ordinary ways. -/
theorem failsOrdinarily_get (r : Registry) (id : TensorId) : FailsOrdinarily (r.get id) := by
  unfold Registry.get
  split
  · exact failsOrdinarily_ok _
  · exact failsOrdinarily_error rfl

/-- Checking a job fails in ordinary ways. -/
theorem failsOrdinarily_kernel (j : Job) (tensors : Registry) :
    FailsOrdinarily (j.kernel tensors) := by
  have hoperands : FailsOrdinarily (j.operands tensors) :=
    .mapM (fun _ => (failsOrdinarily_get _ _).bind fun _ => failsOrdinarily_ok _) _
  exact hoperands.bind fun _ => (failsOrdinarily_requireLayout _ _).bind fun _ =>
    (failsOrdinarily_validate _).bind fun _ => failsOrdinarily_ok _

/-- Checking values against a shape fails in ordinary ways. -/
theorem failsOrdinarily_checkShape (v : Values) (s : Shape) : FailsOrdinarily (v.checkShape s) := by
  have hpairs : FailsOrdinarily v.checkPairs := by
    unfold Values.checkPairs
    split
    · split
      · exact failsOrdinarily_ok ()
      · exact failsOrdinarily_error rfl
    · exact failsOrdinarily_ok ()
  apply hpairs.bind
  intro _
  split
  · exact failsOrdinarily_ok ()
  · exact failsOrdinarily_error rfl

/-- Taking complex values apart fails in ordinary ways. -/
theorem failsOrdinarily_parts (bits : List UInt32) : FailsOrdinarily (Values.parts bits) := by
  unfold Values.parts
  split
  · exact failsOrdinarily_ok _
  · exact failsOrdinarily_error rfl

/-- Putting complex values together fails in ordinary ways. -/
theorem failsOrdinarily_ofParts (real imag : Values) :
    FailsOrdinarily (Values.ofParts real imag) := by
  unfold Values.ofParts
  split
  · split
    · exact failsOrdinarily_ok _
    · exact failsOrdinarily_error rfl
  · exact failsOrdinarily_error rfl

/-- Sending values fails in ordinary ways. -/
theorem failsOrdinarily_deviceBytes (v : Values) : FailsOrdinarily v.deviceBytes := by
  have hwords : FailsOrdinarily v.deviceWords := by
    cases v with
    | complex64 bits => exact failsOrdinarily_error rfl
    | float32 bits => exact failsOrdinarily_ok _
    | int32 values => exact failsOrdinarily_ok _
    | bool values => exact failsOrdinarily_ok _
  exact hwords.bind fun _ => failsOrdinarily_ok _

/-- Reading values from bytes fails in ordinary ways. -/
theorem failsOrdinarily_ofDeviceBytes (element : ElementType) (bytes : List UInt8) (count : Nat)
    (keep : Nat → Nat) : FailsOrdinarily (Values.ofDeviceBytes element bytes count keep) := by
  simp only [Values.ofDeviceBytes]
  split
  · exact failsOrdinarily_error rfl
  · cases element with
    | complex64 => exact failsOrdinarily_error rfl
    | float32 => exact failsOrdinarily_ok _
    | int32 => exact failsOrdinarily_ok _
    | bool => exact failsOrdinarily_ok _

end Backend

end ComputeKernels

import ComputeKernels.Error

/-!
# Batches of passes

Compute passes are recorded into one open encoder and submitted together once there are enough of
them.  A batch keeps count of the recorded passes and of what must not be released before they are
submitted: the uniform data of each pass, and the tensors whose owners have given them up while the
encoder still refers to them.

Current gaps:

- Passes and submissions are numbers without a bound.
-/

namespace ComputeKernels.Submission

/-- Stage of the encoder. -/
inductive Stage
  /-- No encoder is open. -/
  | idle
  /-- Passes are being recorded. -/
  | recording
  /-- The encoder was handed over and what it held back is being released. -/
  | submitted
deriving DecidableEq

/-- What may be released once an encoder has been submitted or dropped. -/
structure Drained (υ : Type) where
  uniforms : List υ
  disposals : List TensorId

/-- Account of the passes in the open encoder. -/
structure Batch (υ : Type) where
  stage : Stage := .idle
  /-- Number of passes that are submitted together, at least one. -/
  capacity : Nat
  passes : Nat := 0
  /-- Tensors that a recorded pass refers to. -/
  touched : List TensorId := []
  /-- Tensors to dispose of after submission, in order of first request. -/
  deferred : List TensorId := []
  /-- Uniform data of the recorded passes, in order. -/
  uniforms : List υ := []
  submissions : Nat := 0

namespace Batch

variable {υ : Type}

/-- A batch without passes. -/
def ofCapacity (n : Nat) : Batch υ := { capacity := max n 1 }

/-- Prepares for recording a pass; the flag says whether an encoder has to be opened. -/
def beginPass (b : Batch υ) : Bool × Batch υ :=
  match b.stage with
  | .recording => (false, b)
  | .idle => (true, { b with stage := .recording })
  | .submitted => (true, { b with stage := .recording })

/-- Records a pass that refers to some tensors and owns uniform data; the flag says whether the batch
is full. -/
def record (b : Batch υ) (tensors : List TensorId) (uniform : υ) : Bool × Batch υ :=
  (decide (b.capacity ≤ b.passes + 1),
    { b with
      touched := b.touched ++ tensors
      uniforms := b.uniforms ++ [uniform]
      passes := b.passes + 1 })

/-- Whether the open encoder refers to a tensor. -/
def touches (b : Batch υ) (id : TensorId) : Bool := decide (id ∈ b.touched)

/-- Whether a tensor waits for disposal. -/
def defers (b : Batch υ) (id : TensorId) : Bool := decide (id ∈ b.deferred)

/-- Puts off the disposal of a tensor. -/
def defer (b : Batch υ) (id : TensorId) : Batch υ :=
  if b.defers id then b else { b with deferred := b.deferred ++ [id] }

/-- What a batch holds back. -/
def held (b : Batch υ) : Drained υ := ⟨b.uniforms, b.deferred⟩

/-- A batch that holds nothing back any more. -/
def emptied (b : Batch υ) (stage : Stage) : Batch υ :=
  { b with stage := stage, passes := 0, touched := [], deferred := [], uniforms := [] }

/-- Hands over the encoder. -/
def beginSubmit (b : Batch υ) : Drained υ × Batch υ :=
  (b.held, { b.emptied .submitted with submissions := b.submissions + 1 })

/-- Ends a submission. -/
def finishSubmit (b : Batch υ) : Batch υ := { b with stage := .idle }

/-- Drops the encoder without submitting it. -/
def abandon (b : Batch υ) : Drained υ × Batch υ := (b.held, b.emptied .idle)

end Batch

end ComputeKernels.Submission

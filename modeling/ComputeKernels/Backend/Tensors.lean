import ComputeKernels.Backend.Basic

/-!
# Tensors of a backend

Tensors are made from values on the host, without values, or from two parts.  Nothing reaches the
device before a program reads it.
-/

namespace ComputeKernels.Backend

open Tensor ComputeKernels.Backend.Action

/-! ## Making tensors -/

/-- Adds a tensor with values.  Complex values become two tensors of floats and one that pairs
them. -/
def write (values : Values) (shape : Shape) : Action Handle := do
  live
  of (values.checkShape shape)
  match values with
  | .complex64 bits =>
    let (re, im) ← of (Values.parts bits)
    let real ← insert { element := .float32, shape, values := some (.float32 re) }
    let imag ← insert { element := .float32, shape, values := some (.float32 im) }
    let id ← insert { element := .complex64, shape, parts := some (real, imag) }
    return ⟨id, shape, .complex64⟩
  | _ =>
    let id ← insert { element := values.element, shape, values := some values }
    return ⟨id, shape, values.element⟩

/-- Adds a tensor of a given element type, with or without values. -/
def make (shape : Shape) (element : ElementType) (values : Option Values) : Action Handle := do
  live
  match values with
  | some v =>
    if v.element = element then write v shape
    else throw (.unsupportedElement v.element .mismatchedValues)
  | none =>
    let id ← insert { element, shape }
    return ⟨id, shape, element⟩

/-- Accepts a part of a complex tensor. -/
def checkPart (part : Handle) : Action Unit := do
  let r ← record part.id
  if r.element = .float32 then return ()
  else throw (.unsupportedElement r.element .complexParts)

/-- Adds a complex tensor that refers to two tensors of floats as its parts. -/
def complex (real imag : Handle) : Action Handle := do
  live
  checkPart real
  checkPart imag
  if real.shape = imag.shape then
    discard <| Action.retain real.id
    discard <| Action.retain imag.id
    let id ← insert { element := .complex64, shape := real.shape, parts := some (real.id, imag.id) }
    return ⟨id, real.shape, .complex64⟩
  else throw (.unsupportedLayout (.complexShapes real.shape imag.shape))

/-- Counts one more reference to a tensor; answers with the new count. -/
def retain (id : TensorId) : Action Nat := do
  live
  Action.retain id

/-! ## Looking at tensors -/

/-- Number of references to a tensor; none if it is not live. -/
def references (b : Backend) (id : TensorId) : Nat :=
  match b.tensors.get id with
  | .ok r => r.references
  | .error _ => 0

/-- Whether a tensor is on the host alone and small. -/
def isSmallOnHost (b : Backend) (t : Handle) : Bool :=
  match b.tensors.get t.id with
  | .ok r => r.resource.isNone && decide (Shape.count t.shape < b.settings.cpuThreshold)
  | .error _ => false

/-- Whether work on some tensors had better stay on the host. -/
def prefersHost (b : Backend) (inputs : List Handle) : Bool :=
  b.settings.cpuForward && inputs.all b.isSmallOnHost

end ComputeKernels.Backend

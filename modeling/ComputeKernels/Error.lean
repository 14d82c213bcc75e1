import ComputeKernels.Element
import ComputeKernels.Shape.Basic
import ComputeKernels.Dispatch.Layout
import ComputeKernels.Buffer.Usage

/-!
# Failures

Everything that can go wrong when a kernel is described, compiled or run.  A failure is recorded by
its cause; `KernelError.message` is the only place that words it.
-/

namespace ComputeKernels

/-! ## Where a failure was noticed -/

/-- The part of the work that refused a rank or an element type. -/
inductive Place
  | dispatchLayout
  | symbolicStrides
  | programOutput
  | programOperand
  | mismatchedValues
  | complexParts
  | deviceUpload
  | deviceReadback
deriving DecidableEq

/-- Wording of a place. -/
def Place.text : Place → String
  | dispatchLayout => "dispatch layout"
  | symbolicStrides => "symbolic strides"
  | programOutput => "program output"
  | programOperand => "program operand"
  | mismatchedValues => "make_tensor_info with mismatched values"
  | complexParts => "complex parts"
  | deviceUpload => "device upload"
  | deviceReadback => "device readback"

/-! ## Layout faults -/

/-- Ways in which shapes, layouts and programs fail to fit together. -/
inductive LayoutFault
  /-- An axis is repeated or out of range. -/
  | notPartition (layout : AxisLayout) (rank : Nat)
  /-- An axis is missing. -/
  | unassignedAxes (layout : AxisLayout) (rank : Nat)
  | operandCount (program : String) (named supplied : Nat)
  | notFlat (program : String) (layout : AxisLayout)
  | noSizeField (program : String)
  | operandRank (operand : String) (rank outputRank : Nat)
  | vec4Rank (operand : String)
  | vec4Size (operand : String) (size : Nat)
  | vec4InnermostRepeats (operand : String)
  | vec4InnermostExtent (operand : String)
  | vec4RowsStraddle (operand : String)
  | unaryNotVec4 (operation : String)
  | binaryNotVec4 (operation : String)
  | noCommonShape (a b : Shape)
  | complexShapes (real imag : Shape)
  | complexKinds
  | oddSplit (count : Nat)
  | oddPairs (count : Nat)
  | valueCount (count : Nat) (shape : Shape)
deriving DecidableEq

/-- Wording of a layout fault. -/
def LayoutFault.text : LayoutFault → String
  | notPartition layout rank =>
    s!"{layout.text} is not a partition of the axes of a rank-{rank} output"
  | unassignedAxes layout rank => s!"{layout.text} leaves axes of a rank-{rank} output unassigned"
  | operandCount program named supplied =>
    s!"program '{program}' names {named} operands but {supplied} were supplied"
  | notFlat program layout =>
    s!"elementwise program '{program}' requires a flat layout, got {layout.text}"
  | noSizeField program => s!"elementwise program '{program}' must emit the size uniform"
  | operandRank operand rank outputRank =>
    s!"operand '{operand}' of rank {rank} cannot be sampled by a rank-{outputRank} output"
  | vec4Rank operand => s!"vec4 operand '{operand}' cannot be rank 0"
  | vec4Size operand size =>
    s!"vec4 operand '{operand}' has {size} elements, not a multiple of 4"
  | vec4InnermostRepeats operand => s!"vec4 operand '{operand}' broadcasts its innermost axis"
  | vec4InnermostExtent operand =>
    s!"vec4 operand '{operand}' must match the output's innermost extent"
  | vec4RowsStraddle operand =>
    s!"vec4 operand '{operand}' is broadcast but the innermost output extent is not a multiple of 4"
  | unaryNotVec4 operation => s!"unary op '{operation}' has no vec4 path"
  | binaryNotVec4 operation => s!"binary op '{operation}' has no vec4 path"
  | noCommonShape a b => s!"shapes {Text.sequence a} and {Text.sequence b} do not broadcast"
  | complexShapes real imag =>
    s!"complex parts disagree on shape: {Text.sequence real} vs {Text.sequence imag}"
  | complexKinds => "complex parts must be float32 tensors of equal size"
  | oddSplit count =>
    s!"interleaved complex data needs an even number of floats, got {count}"
  | oddPairs count => s!"{count} floats cannot be read as interleaved complex pairs"
  | valueCount count shape => s!"{count} values supplied for shape {Text.sequence shape}"

/-! ## Uniform faults -/

/-- Scalar kind of a uniform field. -/
inductive UniformKind
  | float32
  | int32
  | uint32
deriving DecidableEq

/-- Written name of a uniform kind. -/
def UniformKind.name : UniformKind → String
  | float32 => "Float32"
  | int32 => "Int32"
  | uint32 => "Uint32"

/-- Ways in which uniform data fails to fit its declaration. -/
inductive UniformFault
  | componentCount (count : Nat)
  | declaredWidth (name : String) (width : Nat)
  | extraCount (program : String) (declared supplied : Nat)
  | fieldMismatch (name : String) (width : Nat) (kind : UniformKind) (count : Nat)
      (supplied : UniformKind)
deriving DecidableEq

/-- Wording of a uniform fault. -/
def UniformFault.text : UniformFault → String
  | componentCount count => s!"uniform fields hold 1 to 4 components, got {count}"
  | declaredWidth name width => s!"uniform '{name}' must have 1 to 4 components, got {width}"
  | extraCount program declared supplied =>
    s!"program '{program}' declares {declared} extra uniforms, got {supplied}"
  | fieldMismatch name width kind count supplied =>
    s!"uniform '{name}' expects {width} x {kind.name}, got {count} x {supplied.name}"

/-! ## Readback faults -/

/-- Ways in which the host fails to read a device buffer. -/
inductive ReadbackFault
  | tooShort (expected mapped : Nat)
  | callbackDropped (context : String)
  | mapFailed (context reason : String)
deriving DecidableEq

/-- Wording of a readback fault. -/
def ReadbackFault.text : ReadbackFault → String
  | tooShort expected mapped => s!"expected {expected} bytes, mapped {mapped}"
  | callbackDropped context => s!"{context}: map_async callback dropped"
  | mapFailed context reason => s!"{context}: {reason}"

/-! ## Failures -/

/-- Handle number of a tensor. -/
structure TensorId where
  number : Nat
deriving DecidableEq

/-- Text of a tensor handle, as in `#3`. -/
def TensorId.text (id : TensorId) : String := "#" ++ toString id.number

/-- Causes of failure. -/
inductive KernelError
  | unsupportedRank (rank : Nat) (place : Place)
  | unsupportedLayout (fault : LayoutFault)
  | unsupportedElement (element : ElementType) (place : Place)
  | untrackedBuffer (size : Nat) (usage : BufferUsage)
  | unknownTensor (id : TensorId)
  | uninitializedTensor (id : TensorId)
  | disposed
  | noAdapter
  | deviceRequest (reason : String)
  | bufferTooLarge (size limit : Nat)
  | gridTooLarge (grid : Grid) (limit : Nat)
  | shaderCompile (label reason : String)
  | missingBody (program : String) (target : Target)
  | unknownOperation (name : String)
  | uniformMismatch (fault : UniformFault)
  | readback (fault : ReadbackFault)
deriving DecidableEq

/-- Wording of a failure. -/
def KernelError.message : KernelError → String
  | unsupportedRank rank place => s!"rank {rank} is not supported for {place.text}"
  | unsupportedLayout fault => s!"unsupported layout: {fault.text}"
  | unsupportedElement element place => s!"dtype {element.name} is not supported for {place.text}"
  | untrackedBuffer size usage =>
    s!"buffer of {size} bytes with usage {usage.text} was not acquired from this manager"
  | unknownTensor id => s!"unknown tensor {id.text}"
  | uninitializedTensor id => s!"tensor {id.text} has neither host values nor a device buffer"
  | disposed => "backend has been disposed"
  | noAdapter => "no compatible GPU adapter found"
  | deviceRequest reason => s!"device request failed: {reason}"
  | bufferTooLarge size limit =>
    s!"buffer of {size} bytes exceeds the device limit of {limit} bytes"
  | gridTooLarge grid limit =>
    s!"dispatch {grid.text} exceeds the per-dimension limit of {limit} workgroups"
  | shaderCompile label reason => s!"shader '{label}' failed to compile: {reason}"
  | missingBody program target => s!"program '{program}' has no {target.name} body"
  | unknownOperation name => s!"no shader snippet for op '{name}'"
  | uniformMismatch fault => s!"uniform mismatch: {fault.text}"
  | readback fault => s!"readback failed: {fault.text}"

end ComputeKernels

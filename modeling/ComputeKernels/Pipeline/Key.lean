import ComputeKernels.Program.Basic
import ComputeKernels.Shape.Broadcast

/-!
# Pipeline keys

A compiled pipeline can be used again for every kernel with the same key.  The key holds what the
generated source depends on, apart from the program's own code: ranks and repeated axes are in it,
extents are not.
-/

namespace ComputeKernels.Pipeline

/-- What the source depends on in one operand. -/
structure OperandSignature where
  name : String
  rank : Nat
  element : ElementType
  matchesOutput : Bool
  stretchedAxes : List Nat
deriving DecidableEq

/-- What the source depends on in a kernel. -/
structure Key where
  label : String
  entry : EntryKind
  lanes : Lanes
  target : Target
  workgroup : Grid
  layout : AxisLayout
  outputRank : Nat
  outputElement : ElementType
  operands : List OperandSignature
  uniforms : List UniformDecl
  hasSize : Bool
deriving DecidableEq

/-- Signature of an operand that is read for an output of a given shape. -/
def OperandSignature.of (output : Shape) (o : Operand) : OperandSignature where
  name := o.name
  rank := o.rank
  element := o.element
  matchesOutput := o.shape == output
  stretchedAxes := Shape.stretchedAxes o.shape output

/-- Key of a kernel. -/
def Key.of (k : Kernel) : Key where
  label := k.program.label
  entry := k.program.entry
  lanes := k.program.lanes
  target := k.program.target
  workgroup := k.program.workgroup
  layout := k.program.layout
  outputRank := k.outRank
  outputElement := k.output.element
  operands := k.inputs.map (OperandSignature.of k.output.shape)
  uniforms := k.program.uniforms
  hasSize := k.program.hasSize

/-! ## Labels -/

/-- Text of an operand within a label. -/
def OperandSignature.text (s : OperandSignature) : String :=
  "_" ++ s.name ++ "r" ++ toString s.rank ++ s.element.name ++
    (if s.matchesOutput then "s" else "") ++ Text.sequence s.stretchedAxes

/-- Label of a key.  It leaves out the entry, the workgroup extents and the added uniforms, so that
different keys may share a label. -/
def Key.text (k : Key) : String :=
  k.label ++ "_" ++ k.target.name ++ "_" ++ k.lanes.name ++ "_r" ++ toString k.outputRank ++
    k.outputElement.name ++ "_" ++ k.layout.text ++ (if k.hasSize then "_n" else "") ++
    String.join (k.operands.map OperandSignature.text)

end ComputeKernels.Pipeline

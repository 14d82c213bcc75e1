import ComputeKernels.Dispatch.Counts
import ComputeKernels.Uniform.Field

/-!
# Programs

A program describes one compute operation apart from the data it runs on.  Extents reach the shader
only as uniforms, so programs that differ in extents alone can share compiled code.  A kernel is a
program together with the operands and the output that it is applied to.
-/

namespace ComputeKernels

/-! ## Operands -/

/-- Name, element type and shape of one tensor that a program touches. -/
structure Operand where
  name : String
  element : ElementType
  shape : Shape
deriving DecidableEq

namespace Operand

/-- Number of axes. -/
def rank (o : Operand) : Nat := o.shape.length

/-- Number of elements. -/
def size (o : Operand) : Nat := Shape.size o.shape

/-- Number of elements as the host computes it. -/
def count (o : Operand) : Nat := Shape.count o.shape

end Operand

/-! ## Programs -/

/-- Declaration of a field that a program adds to its uniform block. -/
structure UniformDecl where
  name : String
  kind : UniformKind
  width : Nat
deriving DecidableEq

/-- Invocations per workgroup where a program does not say. -/
def defaultWorkgroup : Grid := ⟨64, 1, 1⟩

/-- One compute operation. -/
structure Program where
  /-- Name under which compiled code is kept. -/
  label : String
  outputShape : Shape
  layout : AxisLayout := .flat outputShape.length
  workgroup : Grid := defaultWorkgroup
  perThread : Grid := ⟨1, 1, 1⟩
  operandNames : List String := []
  lanes : Lanes := .scalar
  target : Target := .wgsl
  uniforms : List UniformDecl := []
  /-- Whether the uniform block holds the number of units to write. -/
  hasSize : Bool := false
  entry : EntryKind := .main
  wgslBody : Option String := none
  glslBody : Option String := none
deriving DecidableEq

namespace Program

/-- Whether the grid runs over all axes of the output in order on its first dimension. -/
def isFlat (p : Program) : Bool := p.layout.isFlat p.outputShape.length

/-- The program's own code for a target, if it has any. -/
def bodyFor? (p : Program) : Target → Option String
  | .wgsl => p.wgslBody
  | .glsl => p.glslBody

/-- The program's own code for its target. -/
def body (p : Program) : Except KernelError String :=
  match p.bodyFor? p.target with
  | some code => .ok code
  | none => .error (.missingBody p.label p.target)

/-- Workgroups to run, under a limit per grid dimension, where `keep` is what is kept of a product of
extents. -/
def dispatch (p : Program) (limit : Nat) (keep : Nat → Nat := id) : Except KernelError Grid :=
  p.layout.foldCounts (p.layout.groupCounts p.outputShape p.workgroup p.perThread keep) limit

end Program

/-! ## Kernels -/

/-- A program applied to operands and an output. -/
structure Kernel where
  program : Program
  inputs : List Operand
  output : Operand
deriving DecidableEq

namespace Kernel

/-- Name of the output in generated code. -/
def outputName : String := "result"

/-- Number of axes of the output. -/
def outRank (k : Kernel) : Nat := k.output.rank

/-- Whether one invocation handles four neighbouring elements. -/
def isVec4 (k : Kernel) : Bool := k.program.lanes == .vec4

end Kernel

end ComputeKernels

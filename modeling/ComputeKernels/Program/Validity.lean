import ComputeKernels.Program.Basic
import ComputeKernels.Shape.Broadcast

/-!
# Validity of kernels

The conditions under which code can be generated for a program and its operands.  They are checked
in a fixed order and the first that fails is reported.
-/

namespace ComputeKernels

/-- Succeeds if a condition holds. -/
def require (condition : Bool) (failure : KernelError) : Except KernelError Unit :=
  if condition then .ok () else .error failure

/-- Succeeds if a condition on shapes and layouts holds. -/
def requireLayout (condition : Bool) (fault : LayoutFault) : Except KernelError Unit :=
  require condition (.unsupportedLayout fault)

/-! ## Operands of four-wide programs -/

/-- Whether an operand repeats along the innermost axis of an output. -/
def Operand.repeatsInnermost (o : Operand) (output : Shape) : Bool :=
  decide (o.rank ≤ output.length) &&
    (Shape.stretchedAxes o.shape output).contains (output.length - 1)

/-- Whether the innermost extent of an operand differs from that of an output of no lower rank. -/
def Operand.innermostDiffers (o : Operand) (output : Shape) : Bool :=
  decide (o.rank ≤ output.length) && o.shape.getLast? != output.getLast?

/-- Whether the rows of an output fall into whole units of four. -/
def Shape.rowsOfFour (s : Shape) : Bool := s.getLast?.any (· % 4 == 0)

/-- Accepts the operands that can be read four elements at a time: units must not cross a row of the
output unless the operand has exactly the output's shape. -/
def Operand.checkVec4 (o : Operand) (output : Shape) : Except KernelError Unit := do
  requireLayout (o.rank != 0) (.vec4Rank o.name)
  requireLayout (o.count % 4 == 0) (.vec4Size o.name o.count)
  requireLayout (!o.repeatsInnermost output) (.vec4InnermostRepeats o.name)
  requireLayout (!o.innermostDiffers output) (.vec4InnermostExtent o.name)
  requireLayout (o.shape == output || Shape.rowsOfFour output) (.vec4RowsStraddle o.name)

/-! ## Kernels -/

namespace Kernel

/-- Elementwise programs need a flat layout and the number of units to write. -/
def checkElementwise (p : Program) : Except KernelError Unit :=
  match p.entry with
  | .main => .ok ()
  | .elementwise => do
    requireLayout p.isFlat (.notFlat p.label p.layout)
    requireLayout p.hasSize (.noSizeField p.label)

/-- Operands need an addressable rank and device storage; an elementwise program samples only
operands of no higher rank than its output. -/
def checkInput (k : Kernel) (o : Operand) : Except KernelError Unit := do
  require (decide (o.rank ≤ Shape.maxRank)) (.unsupportedRank o.rank .programOperand)
  require o.element.storage?.isSome (.unsupportedElement o.element .programOperand)
  requireLayout (k.program.entry != .elementwise || decide (o.rank ≤ k.outRank))
    (.operandRank o.name o.rank k.outRank)

/-- Four-wide programs need operands and an output that can be read in units of four. -/
def checkLanes (k : Kernel) : Except KernelError Unit :=
  if k.isVec4 then (k.inputs ++ [k.output]).forM (·.checkVec4 k.output.shape) else .ok ()

/-- Declared uniforms have one to four components. -/
def checkUniform (d : UniformDecl) : Except KernelError Unit :=
  require (d.width != 0 && decide (d.width ≤ 4)) (.uniformMismatch (.declaredWidth d.name d.width))

/-- The output and the layout fit the program, and so do the operands one by one. -/
def checkParts (k : Kernel) : Except KernelError Unit := do
  let p := k.program
  requireLayout (k.inputs.length == p.operandNames.length)
    (.operandCount p.label p.operandNames.length k.inputs.length)
  require (decide (k.outRank ≤ Shape.maxRank)) (.unsupportedRank k.outRank .programOutput)
  require k.output.element.storage?.isSome (.unsupportedElement k.output.element .programOutput)
  p.layout.validate k.outRank
  checkElementwise p
  k.inputs.forM k.checkInput

/-- Accepts the kernels that code can be generated for. -/
def validate (k : Kernel) : Except KernelError Unit := do
  k.checkParts
  k.checkLanes
  k.program.uniforms.forM checkUniform

/-! ## Builds that check their arithmetic -/

/-- Whether the elements of some operand of a four-wide program cannot be counted without losing bits,
while all operands before it are accepted. -/
def overflowsAmong (output : Shape) : List Operand → Bool
  | [] => false
  | o :: rest => o.shape.overflows || ((o.checkVec4 output).isOk && overflowsAmong output rest)

/-- Whether the check of a kernel comes to a number of elements that cannot be computed without losing
bits. -/
def overflowsInCheck (k : Kernel) : Bool :=
  k.checkParts.isOk && k.isVec4 && overflowsAmong k.output.shape (k.inputs ++ [k.output])

end Kernel

end ComputeKernels

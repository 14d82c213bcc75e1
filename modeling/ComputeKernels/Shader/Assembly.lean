import ComputeKernels.Program.Validity
import ComputeKernels.Shader.Printer
import ComputeKernels.Shader.Samplers

/-!
# Assembly of shaders

The complete module of a kernel: its uniform block, storage arrays, helpers, own code and entry
point.  The module is the same for all kernels that agree on ranks, element types, repeated axes and
the program; extents do not show.

Current gaps:

- What stops a build that checks its arithmetic is described for this stage alone: the products of the
  workgroup extents, and the counts of elements in the checks before it.
-/

namespace ComputeKernels.Shader

open ComputeKernels.Shader.Expr

/-! ## Resources -/

/-- Scalar type of a uniform kind. -/
def kindScalar : UniformKind → ScalarType
  | .float32 => .f32
  | .int32 => .i32
  | .uint32 => .u32

/-- Members of the uniform block, in the order of the packed fields. -/
def uniformMembers (k : Kernel) : List UniformMember :=
  [⟨"NAN", .scalar .f32⟩] ++
    k.inputs.map (fun o => ⟨shapeUniform o.name, .coords o.rank⟩) ++
    [⟨"outShape", .coords k.outRank⟩, ⟨"outShapeStrides", .coords (k.outRank - 1)⟩] ++
    (if k.program.hasSize then [⟨"size", .scalar .i32⟩] else []) ++
    [⟨"dispatchSize", .vector 3 .i32⟩] ++
    k.program.uniforms.map (fun d => ⟨d.name, .ofWidth d.width (kindScalar d.kind)⟩)

/-- Storage arrays: the output first, then the operands. -/
def storageBindings (k : Kernel) : List StorageBinding :=
  ⟨0, Kernel.outputName, storedUnit k k.output.element, .readWrite⟩ ::
    k.inputs.mapIdx fun i o => ⟨i + 1, o.name, storedUnit k o.element, .read⟩

/-! ## Code -/

/-- Ranks that have bound tests and index functions. -/
def helperRanks : List Nat := List.range' 1 Shape.maxRank

/-- Helper functions in the order in which they call each other. -/
def helpers (k : Kernel) : List Function :=
  [isNanFunction, isNanVec4Function, floorDivFunction] ++
    helperRanks.map inBoundsFunction ++ helperRanks.map indexFromCoordsFunction ++
    [outputIndexFunction k.outRank, coordsFromIndexFunction k.outRank,
      globalIndexFunction k.program.workgroup, outputCoordsFunction k] ++
    k.inputs.flatMap (samplers k) ++ writers k

/-- Samples of all operands at the invocation's unit. -/
def operandSamples (k : Kernel) : List Expr :=
  k.inputs.map fun o => .call ("get" ++ capitalized o.name ++ "ByOutputIndex") [ident "index"]

/-- Entry point.  An elementwise program writes the operation of its samples to every unit of the
output; any other has a main function of its own. -/
def entryBody (k : Kernel) : List Stmt :=
  match k.program.entry with
  | .elementwise => [
      .constant "index" (.scalar .i32) globalIndex,
      .ifThen (.binary .lt (ident "index") (uniform "size"))
        [.expr (.call "setOutputAtIndex" [ident "index", .call "operation" (operandSamples k)])]]
  | .main => [.expr (.call "userMain" (if k.program.isFlat then [globalIndex] else []))]

/-- Module of a kernel whose own code is given. -/
def moduleWith (k : Kernel) (userCode : String) : Module where
  uniforms := uniformMembers k
  uniformBinding := k.inputs.length + 1
  storage := storageBindings k
  helpers := helpers k
  userCode := userCode
  workgroup := k.program.workgroup
  entry := entryBody k

/-- Module of a valid kernel with code for its target. -/
def moduleOf (k : Kernel) : Except KernelError Module := do
  k.validate
  return moduleWith k (← k.program.body)

/-! ## Builds that check their arithmetic -/

/-- Whether the numbers of invocations in a layer and in the whole of a workgroup fit a machine number
with a sign. -/
def fitsSigned (workgroup : Grid) : Bool :=
  decide (workgroup.x * workgroup.y < UInt64.size / 2 ∧ workgroup.volume < UInt64.size / 2)

/-- The module of a kernel in a build that checks its arithmetic; none if that build stops at a product
that does not fit. -/
def checkedModuleOf (k : Kernel) : Option (Except KernelError Module) :=
  if k.overflowsInCheck then none
  else if (moduleOf k).isOk && !fitsSigned k.program.workgroup then none
  else some (moduleOf k)

/-! ## Source -/

/-- Source text with its target. -/
structure Source where
  target : Target
  text : String
deriving DecidableEq

namespace Source

/-- Name of the entry point of a source. -/
def entryPoint (s : Source) : String := s.target.entryPoint

end Source

/-- Source of a valid kernel in its program's target. -/
def sourceOf (k : Kernel) : Except KernelError Source := do
  let m ← moduleOf k
  return ⟨k.program.target, m.text k.program.target⟩

end ComputeKernels.Shader

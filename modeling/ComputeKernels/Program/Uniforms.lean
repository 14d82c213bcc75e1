import ComputeKernels.Program.Basic
import ComputeKernels.Uniform.Packing

/-!
# The uniform block of a dispatch

The fields come in the order of their declarations: the value that is not a number, the shape of each
operand, the shape and the strides of the output, the number of units to write if the program asks
for it, the workgroup counts, and last the fields that the program adds.

Current gaps:

- The number of units is exact until it becomes a word.  Wrapping on the host would not change the low
  32 bits that are kept of it.
-/

namespace ComputeKernels.Program

open ComputeKernels.Uniform

/-- Number of units that a program writes to an output. -/
def unitCount (p : Program) (output : Shape) : Nat :=
  match p.lanes with
  | .scalar => Shape.size output
  | .vec4 => Shape.size output / 4

/-- Contents of the fields that every program has. -/
def standardContents (p : Program) (inputs : List Operand) (output : Shape) (dispatch : Grid) :
    List Content :=
  [.notANumber] ++ inputs.map (fun o => .counts o.shape) ++
    [.counts output, .counts (Shape.outerStrides output)] ++
    (if p.hasSize then [.counts [p.unitCount output]] else []) ++
    [.counts dispatch.toList]

/-- Fields that a caller adds, checked against their declarations. -/
def extraContents : List UniformDecl → List Field → Except KernelError (List Content)
  | d :: ds, f :: fs =>
    if d.kind = f.kind ∧ d.width = f.width then do
      let rest ← extraContents ds fs
      return .given f :: rest
    else .error (.uniformMismatch (.fieldMismatch d.name d.width d.kind f.width f.kind))
  | _, _ => .ok []

/-- Contents of all fields of a dispatch. -/
def uniformContents (p : Program) (inputs : List Operand) (output : Shape) (dispatch : Grid)
    (extra : List Field) : Except KernelError (List Content) :=
  if p.uniforms.length = extra.length then do
    let added ← extraContents p.uniforms extra
    return p.standardContents inputs output dispatch ++ added
  else .error (.uniformMismatch (.extraCount p.label p.uniforms.length extra.length))

/-- All fields of a dispatch. -/
def uniformFields (p : Program) (inputs : List Operand) (output : Shape) (dispatch : Grid)
    (extra : List Field) : Except KernelError (List Field) := do
  return (← p.uniformContents inputs output dispatch extra).map Content.field

end ComputeKernels.Program

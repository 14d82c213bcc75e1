import ComputeKernels.Program.Operation
import ComputeKernels.Program.Validity
import ComputeKernels.Dispatch.SymbolicStride

/-!
# Ready-made programs

Programs for the elementwise operations and for filling a tensor with one value.  Four-wide programs
apply the scalar code of the operation to each of the four components.
-/

namespace ComputeKernels.Program

open ComputeKernels.Uniform

/-! ## Code of an elementwise program -/

/-- Type of a float unit in a target. -/
def unitType : Target → Lanes → String
  | .wgsl, .scalar => "f32"
  | .wgsl, .vec4 => "vec4<f32>"
  | .glsl, .scalar => "float"
  | .glsl, .vec4 => "vec4"

/-- Head of a function from units to a unit. -/
def unitHead (t : Target) (lanes : Lanes) (name : String) (params : List String) : String :=
  let ty := unitType t lanes
  match t with
  | .wgsl => "fn " ++ name ++ "(" ++ ", ".intercalate (params.map (· ++ " : " ++ ty)) ++ ") -> " ++ ty
  | .glsl => ty ++ " " ++ name ++ "(" ++ ", ".intercalate (params.map (ty ++ " " ++ ·)) ++ ")"

/-- A function on scalars with the given statements. -/
def scalarFunction (t : Target) (name : String) (params : List String) (code : String) : String :=
  unitHead t .scalar name params ++ " \x7b\n  " ++ code ++ "\n\x7d\n"

/-- The scalar operation applied to one component of each parameter. -/
def laneCall (params : List String) (component : String) : String :=
  "operationScalar(" ++ ", ".intercalate (params.map (· ++ "." ++ component)) ++ ")"

/-- A function on four components that applies the given scalar statements to each. -/
def vec4Function (t : Target) (params : List String) (code : String) : String :=
  scalarFunction t "operationScalar" params code ++ "\n" ++ unitHead t .vec4 "operation" params ++
    " \x7b\n  return " ++ unitType t .vec4 ++ "(" ++
    ", ".intercalate (componentNames.map (laneCall params)) ++ ");\n\x7d\n"

/-- Code that defines the operation of an elementwise program. -/
def operationCode (t : Target) (lanes : Lanes) (params : List String) (code : String) : String :=
  match lanes with
  | .scalar => scalarFunction t "operation" params code
  | .vec4 => vec4Function t params code

/-- An elementwise program over operands of the given names. -/
def elementwise (label : String) (output : Shape) (names params : List String)
    (code : Target → String) (target : Target) (lanes : Lanes) (workgroup : Grid) : Program where
  label := label
  outputShape := output
  operandNames := names
  entry := .elementwise
  hasSize := true
  target := target
  lanes := lanes
  perThread := ⟨lanes.width, 1, 1⟩
  workgroup := workgroup
  wgslBody := some (operationCode .wgsl lanes params (code .wgsl))
  glslBody := some (operationCode .glsl lanes params (code .glsl))

/-! ## Operations -/

/-- Program of an operation on one operand. -/
def unary (op : UnaryOperation) (shape : Shape) (target : Target) (lanes : Lanes)
    (workgroup : Grid) : Except KernelError Program := do
  requireLayout (lanes == .scalar || op.allowsVec4) (.unaryNotVec4 op.name)
  return elementwise ("unary_" ++ op.name) shape ["x"] ["a"] (fun t => op.code t) target lanes
    workgroup

/-- Program of an operation on two operands, whose shapes are broadcast. -/
def binary (op : BinaryOperation) (a b : Shape) (target : Target) (lanes : Lanes)
    (workgroup : Grid) : Except KernelError Program :=
  match Shape.join? a b with
  | none => .error (.unsupportedLayout (.noCommonShape a b))
  | some shape => do
    requireLayout (lanes == .scalar || op.allowsVec4) (.binaryNotVec4 op.name)
    return elementwise ("binary_" ++ op.name) shape ["A", "B"] ["a", "b"] (fun t => op.code t)
      target lanes workgroup

/-- Program of the operation on one operand that has a given name. -/
def unaryOfName (name : String) (shape : Shape) (target : Target) (lanes : Lanes)
    (workgroup : Grid) : Except KernelError Program :=
  match UnaryOperation.ofName? name with
  | some op => unary op shape target lanes workgroup
  | none => .error (.unknownOperation name)

/-- Program of the operation on two operands that has a given name. -/
def binaryOfName (name : String) (a b : Shape) (target : Target) (lanes : Lanes)
    (workgroup : Grid) : Except KernelError Program :=
  match BinaryOperation.ofName? name with
  | some op => binary op a b target lanes workgroup
  | none => .error (.unknownOperation name)

/-! ## Filling -/

/-- Statements that write the uniform value to one element. -/
def fillCode (head : String) : String :=
  head ++ " \x7b\n  if (index < uniforms.size) \x7b\n    setOutputAtIndex(index, uniforms.value);\n" ++
    "  \x7d\n\x7d\n"

/-- Program that writes one uniform value to every element. -/
def fill (shape : Shape) (target : Target) (workgroup : Grid) : Program where
  label := "fill"
  outputShape := shape
  hasSize := true
  target := target
  workgroup := workgroup
  uniforms := [⟨"value", .float32, 1⟩]
  wgslBody := some (fillCode "fn userMain(index : i32)")
  glslBody := some (fillCode "void userMain(int index)")

/-- Uniform field of a filling program that writes the number with some bits. -/
def fillFields (bits : UInt32) : List Field := [⟨.float32, [bits]⟩]

end ComputeKernels.Program

import ComputeKernels.Decimal.Float32
import ComputeKernels.Shader.Spelling
import ComputeKernels.Text.Blank

/-!
# Shader text

Printing of expressions, statements, functions and whole modules in a shading language.  A compound
expression stands in parentheses wherever it is an operand, the base of a selection or negated.
-/

namespace ComputeKernels.Shader

/-! ## Expressions -/

/-- Text of an expression as part of a larger one. -/
def Expr.enclose (e : Expr) (text : String) : String :=
  if e.isCompound then "(" ++ text ++ ")" else text

mutual

/-- Text of an expression. -/
def Expr.text (t : Target) : Expr → String
  | .ident name => name
  | .int value => toString value
  | .float bits => Decimal.Float32.text bits
  | .bool value => if value then "true" else "false"
  | .member base name => base.enclose (base.text t) ++ "." ++ name
  | .index base position => base.enclose (base.text t) ++ "[" ++ position.text t ++ "]"
  | .binary op left right =>
    left.enclose (left.text t) ++ " " ++ op.symbol ++ " " ++ right.enclose (right.text t)
  | .neg operand => "-" ++ operand.enclose (operand.text t)
  | .call name args => name ++ "(" ++ ", ".intercalate (Expr.texts t args) ++ ")"
  | .construct ty args => ty.spell t ++ "(" ++ ", ".intercalate (Expr.texts t args) ++ ")"
  | .builtin which => which.spell t

/-- Texts of a list of expressions. -/
def Expr.texts (t : Target) : List Expr → List String
  | [] => []
  | e :: es => e.text t :: Expr.texts t es

end

/-- Text of an expression where it is an operand of a larger one. -/
def Expr.operandText (t : Target) (e : Expr) : String := e.enclose (e.text t)

/-! ## Statements -/

/-- Blanks in front of a statement at some depth. -/
def indent (depth : Nat) : String := String.ofList (List.replicate (2 * depth) ' ')

mutual

/-- Lines of a statement at some depth. -/
def Stmt.text (t : Target) (depth : Nat) : Stmt → String
  | .constant name ty value =>
    indent depth ++ spellLocal t name ty false ++ " = " ++ value.text t ++ ";\n"
  | .variable name ty value =>
    indent depth ++ spellLocal t name ty true ++ " = " ++ value.text t ++ ";\n"
  | .assign place value => indent depth ++ place.text t ++ " = " ++ value.text t ++ ";\n"
  | .ifThen condition body =>
    indent depth ++ "if (" ++ condition.text t ++ ") \x7b\n" ++ Stmt.blockText t (depth + 1) body ++
      indent depth ++ "\x7d\n"
  | .ret (some value) => indent depth ++ "return " ++ value.text t ++ ";\n"
  | .ret none => indent depth ++ "return;\n"
  | .expr value => indent depth ++ value.text t ++ ";\n"

/-- Lines of a list of statements at some depth. -/
def Stmt.blockText (t : Target) (depth : Nat) : List Stmt → String
  | [] => ""
  | s :: ss => s.text t depth ++ Stmt.blockText t depth ss

end

/-! ## Functions and modules -/

/-- Text of a function, with a blank line after it. -/
def Function.text (t : Target) (f : Function) : String :=
  f.signature t ++ " \x7b\n" ++ Stmt.blockText t 1 f.body ++ "\x7d\n\n"

/-- Texts of a list, one after the other. -/
def concatMap {α : Type} (f : α → String) (xs : List α) : String := String.join (xs.map f)

/-- Text of the helpers and the program's own code, which both targets print alike. -/
def Module.codeText (t : Target) (m : Module) : String :=
  concatMap (Function.text t) m.helpers ++ Text.trimEnd m.userCode ++ "\n\n"

/-- Three extents with a separator between them. -/
def Module.workgroupText (m : Module) (first second third : String) : String :=
  first ++ toString m.workgroup.x ++ second ++ toString m.workgroup.y ++ third ++
    toString m.workgroup.z

/-! ### Struct and variables -/

/-- Word for an access. -/
def Access.name : Access → String
  | read => "read"
  | readWrite => "read_write"

/-- Declarations of the uniform block and the storage arrays. -/
def Module.wgslResources (m : Module) : String :=
  "struct Uniforms \x7b\n" ++
    concatMap (fun u => "  " ++ spellTyped .wgsl u.name u.ty ++ ",\n") m.uniforms ++ "\x7d\n\n" ++
    concatMap (fun s => "@group(0) @binding(" ++ toString s.binding ++ ") var<storage, " ++
      s.access.name ++ "> " ++ s.name ++ " : array<" ++ s.element.spell .wgsl ++ ">;\n") m.storage ++
    "@group(0) @binding(" ++ toString m.uniformBinding ++ ") var<uniform> uniforms : Uniforms;\n\n" ++
    "var<private> localId : vec3<u32>;\nvar<private> globalId : vec3<u32>;\n" ++
    "var<private> workgroupId : vec3<u32>;\n\n"

/-- Entry point, which first keeps the positions it is given. -/
def Module.wgslEntry (m : Module) : String :=
  "@compute @workgroup_size(" ++ m.workgroupText "" ", " ", " ++ ")\n" ++
    "fn " ++ Target.wgsl.entryPoint ++ "(@builtin(local_invocation_id) LocalId : vec3<u32>, " ++
    "@builtin(global_invocation_id) GlobalId : vec3<u32>, " ++
    "@builtin(workgroup_id) WorkgroupId : vec3<u32>) \x7b\n" ++
    "  localId = LocalId;\n  globalId = GlobalId;\n  workgroupId = WorkgroupId;\n" ++
    Stmt.blockText .wgsl 1 m.entry ++ "\x7d\n"

/-! ### Layout blocks -/

/-- Qualifier of a storage block. -/
def Access.qualifier : Access → String
  | read => "readonly "
  | readWrite => ""

/-- Workgroup extents, storage blocks and the uniform block. -/
def Module.glslResources (m : Module) : String :=
  "#version 450\n\nlayout(" ++
    m.workgroupText "local_size_x = " ", local_size_y = " ", local_size_z = " ++ ") in;\n\n" ++
    concatMap (fun s => "layout(std430, set = 0, binding = " ++ toString s.binding ++ ") " ++
      s.access.qualifier ++ "buffer ssb_" ++ s.name ++ " \x7b\n  " ++ s.element.spell .glsl ++ " " ++
      s.name ++ "[];\n\x7d;\n") m.storage ++
    "layout(std140, set = 0, binding = " ++ toString m.uniformBinding ++ ") uniform Uniforms \x7b\n" ++
    concatMap (fun u => "  " ++ spellTyped .glsl u.name u.ty ++ ";\n") m.uniforms ++
    "\x7d uniforms;\n\n"

/-- Entry point. -/
def Module.glslEntry (m : Module) : String :=
  "void " ++ Target.glsl.entryPoint ++ "() \x7b\n" ++ Stmt.blockText .glsl 1 m.entry ++ "\x7d\n"

/-- Text of a module in a target. -/
def Module.text (t : Target) (m : Module) : String :=
  match t with
  | .wgsl => m.wgslResources ++ m.codeText .wgsl ++ m.wgslEntry
  | .glsl => m.glslResources ++ m.codeText .glsl ++ m.glslEntry

end ComputeKernels.Shader

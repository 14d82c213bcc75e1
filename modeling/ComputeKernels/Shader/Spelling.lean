import ComputeKernels.Element
import ComputeKernels.Shader.Syntax

/-!
# Spelling of the two shading languages

How each language names types and built-in positions, declares locals and heads functions, and the
operators that both share.
-/

namespace ComputeKernels.Shader

/-- Symbol of an operator. -/
def Operator.symbol : Operator → String
  | add => "+"
  | sub => "-"
  | mul => "*"
  | div => "/"
  | rem => "%"
  | lt => "<"
  | ge => ">="
  | gt => ">"
  | eq => "=="
  | ne => "!="
  | and => "&&"
  | or => "||"

/-- Name of a built-in position. -/
def Builtin.spell : Target → Builtin → String
  | .wgsl, localId => "localId"
  | .wgsl, globalId => "globalId"
  | .wgsl, workgroupId => "workgroupId"
  | .glsl, localId => "gl_LocalInvocationID"
  | .glsl, globalId => "gl_GlobalInvocationID"
  | .glsl, workgroupId => "gl_WorkGroupID"

/-- Name of a scalar type. -/
def ScalarType.spell : Target → ScalarType → String
  | .wgsl, f32 => "f32"
  | .wgsl, i32 => "i32"
  | .wgsl, u32 => "u32"
  | .wgsl, bool => "bool"
  | .glsl, f32 => "float"
  | .glsl, i32 => "int"
  | .glsl, u32 => "uint"
  | .glsl, bool => "bool"

/-- Stem of the name of a vector type in the language that has no type arguments. -/
def ScalarType.vectorStem : ScalarType → String
  | f32 => "vec"
  | i32 => "ivec"
  | u32 => "uvec"
  | bool => "bvec"

/-- Name of a type. -/
def ShaderType.spell (t : Target) : ShaderType → String
  | .scalar s => s.spell t
  | .vector n s =>
    match t with
    | .wgsl => "vec" ++ toString n ++ "<" ++ s.spell .wgsl ++ ">"
    | .glsl => s.vectorStem ++ toString n

/-- Name and type of a parameter or a local. -/
def spellTyped (t : Target) (name : String) (ty : ShaderType) : String :=
  match t with
  | .wgsl => name ++ " : " ++ ty.spell .wgsl
  | .glsl => ty.spell .glsl ++ " " ++ name

/-- Declaration of a local, up to its value. -/
def spellLocal (t : Target) (name : String) (ty : ShaderType) (isVariable : Bool) : String :=
  match t with
  | .wgsl => (if isVariable then "var " else "let ") ++ spellTyped .wgsl name ty
  | .glsl => spellTyped .glsl name ty

/-- Parameters of a function, separated by commas. -/
def spellParams (t : Target) (params : List Param) : String :=
  ", ".intercalate (params.map fun p => spellTyped t p.name p.ty)

/-- Head of a function. -/
def Function.signature (t : Target) (f : Function) : String :=
  let params := "(" ++ spellParams t f.params ++ ")"
  match t with
  | .wgsl =>
    "fn " ++ f.name ++ params ++
      match f.result with
      | some ty => " -> " ++ ty.spell .wgsl
      | none => ""
  | .glsl =>
    (match f.result with
      | some ty => ty.spell .glsl
      | none => "void") ++ " " ++ f.name ++ params

end ComputeKernels.Shader

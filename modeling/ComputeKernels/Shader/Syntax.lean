import ComputeKernels.Dispatch.Layout

/-!
# Shader syntax

Shaders are assembled as trees that belong to no shading language and are printed in one afterwards.
A module lists its helper functions in the order in which they are printed, so a helper calls only
helpers before it.
-/

namespace ComputeKernels.Shader

/-! ## Types -/

/-- Scalar types of shader values. -/
inductive ScalarType
  | f32
  | i32
  | u32
  | bool
deriving DecidableEq

/-- Types of shader values. -/
inductive ShaderType
  | scalar (scalar : ScalarType)
  | vector (width : Nat) (scalar : ScalarType)
deriving DecidableEq

namespace ShaderType

/-- Vector widths are kept in eight bits. -/
def widthBits (n : Nat) : Nat := n % 256

/-- Type of the coordinates of a tensor; one axis or none need only a scalar. -/
def coords (rank : Nat) : ShaderType :=
  if rank ≤ 1 then .scalar .i32 else .vector (widthBits rank) .i32

/-- Type of some number of components; one or none is a scalar. -/
def ofWidth (width : Nat) (s : ScalarType) : ShaderType :=
  if width ≤ 1 then .scalar s else .vector (widthBits width) s

/-- Number of components. -/
def width : ShaderType → Nat
  | .scalar _ => 1
  | .vector n _ => n

/-- Type of one component. -/
def component : ShaderType → ScalarType
  | .scalar s => s
  | .vector _ s => s

end ShaderType

/-! ## Expressions -/

/-- Operators between two expressions. -/
inductive Operator
  | add
  | sub
  | mul
  | div
  | rem
  | lt
  | ge
  | gt
  | eq
  | ne
  | and
  | or
deriving DecidableEq

/-- Positions that an invocation is given. -/
inductive Builtin
  | localId
  | globalId
  | workgroupId
deriving DecidableEq

/-- Expressions. -/
inductive Expr
  | ident (name : String)
  | int (value : Int)
  /-- A float literal, given by its bits. -/
  | float (bits : UInt32)
  | bool (value : Bool)
  /-- A field or a selection of components. -/
  | member (base : Expr) (name : String)
  | index (base position : Expr)
  | binary (op : Operator) (left right : Expr)
  | neg (operand : Expr)
  | call (name : String) (args : List Expr)
  /-- A value of a type made from its parts, or from a value of another type. -/
  | construct (ty : ShaderType) (args : List Expr)
  | builtin (which : Builtin)

namespace Expr

/-- A field of the uniform block. -/
def uniform (name : String) : Expr := .member (.ident "uniforms") name

/-- Terms joined by an operator from the left; without terms, a given expression. -/
def chain (op : Operator) (terms : List Expr) (empty : Expr) : Expr :=
  match terms with
  | [] => empty
  | t :: ts => ts.foldl (.binary op) t

/-- Whether an expression is wrapped in parentheses where it is part of a larger one. -/
def isCompound : Expr → Bool
  | .binary .. => true
  | .neg _ => true
  | _ => false

end Expr

/-! ## Statements and functions -/

/-- Statements. -/
inductive Stmt
  /-- A local that is not assigned again. -/
  | constant (name : String) (ty : ShaderType) (value : Expr)
  /-- A local that may be assigned again. -/
  | variable (name : String) (ty : ShaderType) (value : Expr)
  | assign (place value : Expr)
  | ifThen (condition : Expr) (body : List Stmt)
  | ret (value : Option Expr)
  | expr (value : Expr)

/-- Parameter of a function. -/
structure Param where
  name : String
  ty : ShaderType
deriving DecidableEq

/-- Functions; one without a result type returns nothing. -/
structure Function where
  name : String
  params : List Param
  result : Option ShaderType
  body : List Stmt

/-! ## Modules -/

/-- How a shader uses a storage array. -/
inductive Access
  | read
  | readWrite
deriving DecidableEq

/-- A storage array of unbounded length. -/
structure StorageBinding where
  binding : Nat
  name : String
  element : ShaderType
  access : Access
deriving DecidableEq

/-- A member of the uniform block. -/
structure UniformMember where
  name : String
  ty : ShaderType
deriving DecidableEq

/-- A complete compute shader. -/
structure Module where
  uniforms : List UniformMember
  uniformBinding : Nat
  storage : List StorageBinding
  helpers : List Function
  /-- Code of the program itself, between the helpers and the entry point. -/
  userCode : String
  workgroup : Grid
  entry : List Stmt

end ComputeKernels.Shader

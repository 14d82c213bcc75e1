/-!
# Elements and shading targets

The small vocabularies that every other part of the library speaks: the element type of a tensor,
the scalar it is stored as on the device, the shading language a program is written for, how many
elements one invocation handles, and how the entry point of a shader hands over control.
-/

namespace ComputeKernels

/-! ## Element types -/

/-- Scalar that a device buffer holds. -/
inductive StorageType
  | f32
  | i32
deriving DecidableEq

/-- Element type of a tensor as its owner sees it. -/
inductive ElementType
  | float32
  | int32
  | bool
  | complex64
deriving DecidableEq

namespace ElementType

/-- Bytes of one element on the host. -/
def byteWidth : ElementType → Nat
  | complex64 => 8
  | _ => 4

/-- Device scalar of an element; a complex tensor has none of its own, its two parts do. -/
def storage? : ElementType → Option StorageType
  | float32 => some .f32
  | int32 => some .i32
  | bool => some .i32
  | complex64 => none

/-- Written name of an element type. -/
def name : ElementType → String
  | float32 => "float32"
  | int32 => "int32"
  | bool => "bool"
  | complex64 => "complex64"

end ElementType

/-! ## Shading targets -/

/-- Shading language that a program's source is written in. -/
inductive Target
  | glsl
  | wgsl
deriving DecidableEq

namespace Target

/-- Name of the compute entry point in a target's sources. -/
def entryPoint : Target → String
  | glsl => "main"
  | wgsl => "_start"

/-- Written name of a target. -/
def name : Target → String
  | glsl => "glsl"
  | wgsl => "wgsl"

/-- The target with a given written name. -/
def ofName? : String → Option Target
  | "glsl" => some glsl
  | "wgsl" => some wgsl
  | _ => none

end Target

/-! ## Lanes and entries -/

/-- Number of neighbouring elements that one invocation reads and writes as a unit. -/
inductive Lanes
  | scalar
  | vec4
deriving DecidableEq

namespace Lanes

/-- Elements per unit. -/
def width : Lanes → Nat
  | scalar => 1
  | vec4 => 4

/-- Written name of a lane count, as it stands in pipeline labels. -/
def name : Lanes → String
  | scalar => "Scalar"
  | vec4 => "Vec4"

end Lanes

/-- How the generated entry point hands control to the program's own code. -/
inductive EntryKind
  /-- The program defines an operation on values; the entry samples every operand at the
  invocation's index and writes the result. -/
  | elementwise
  /-- The program defines a main function and does its own reading and writing. -/
  | main
deriving DecidableEq

end ComputeKernels

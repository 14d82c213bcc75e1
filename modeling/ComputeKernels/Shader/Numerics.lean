import ComputeKernels.Dispatch.SymbolicStride
import ComputeKernels.Shader.Syntax

/-!
# Numeric functions of generated code

Tests for values that are not numbers, and integer division that rounds toward negative infinity.
They are the same in every shader.
-/

namespace ComputeKernels.Shader

open ComputeKernels.Shader.Expr

/-- Bits of the float literal zero. -/
def zeroFloat : Expr := .float 0

/-- Returns false if the value stands in some relation to zero. -/
def rejectIf (op : Operator) : Stmt :=
  .ifThen (.binary op (ident "val") zeroFloat) [.ret (some (.bool false))]

/-- A value is not a number if it is neither above, below nor equal to zero. -/
def isNanFunction : Function where
  name := "isnanCustom"
  params := [⟨"val", .scalar .f32⟩]
  result := some (.scalar .bool)
  body := [rejectIf .gt, rejectIf .lt, rejectIf .eq, .ret (some (.bool true))]

/-- The test applied to each of four components. -/
def isNanVec4Function : Function where
  name := "isnanCustomVec4"
  params := [⟨"val", .vector 4 .f32⟩]
  result := some (.vector 4 .bool)
  body := [.ret (some (.construct (.vector 4 .bool)
    (componentNames.map fun c => .call "isnanCustom" [.member (ident "val") c])))]

/-- Division that truncates, corrected by one where the signs differ and a remainder is left. -/
def floorDivFunction : Function where
  name := "idiv"
  params := [⟨"a", .scalar .i32⟩, ⟨"b", .scalar .i32⟩, ⟨"signValue", .scalar .f32⟩]
  result := some (.scalar .i32)
  body := [
    .variable "res" (.scalar .i32) (.binary .div (ident "a") (ident "b")),
    .constant "modulo" (.scalar .i32) (.binary .rem (ident "a") (ident "b")),
    .ifThen
      (.binary .and (.binary .lt (ident "signValue") zeroFloat)
        (.binary .ne (ident "modulo") (.int 0)))
      [.assign (ident "res") (.binary .sub (ident "res") (.int 1))],
    .ret (some (ident "res"))]

end ComputeKernels.Shader

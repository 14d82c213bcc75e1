import ComputeKernels.Program.Basic
import ComputeKernels.Shader.Numerics

/-!
# Coordinates in generated code

The functions of a shader that go between coordinates and flat indices, test coordinates against a
shape, and find the position of the current invocation.  Extents and strides are read from the
uniform block, so only ranks show in the code.

Current gaps:

- Products of workgroup extents wrap as the host's do, but coordinates, extents and strides are names
  here: what they stand for, and whether the arithmetic of the shader is exact, is left to the meaning
  that a reader gives to expressions.
-/

namespace ComputeKernels.Shader

open ComputeKernels.Shader.Expr

/-- Name of the component of an axis. -/
def componentName (axis : Nat) : String := componentNames.getD axis ""

/-- Component of a vector that belongs to an axis. -/
def axisOf (base : Expr) (axis : Nat) : Expr := .member base (componentName axis)

/-- Name of the local that holds the coordinate of an axis. -/
def coordName (axis : Nat) : String := "d" ++ toString axis

/-- Locals that hold the coordinates of the first axes. -/
def coordLocals (rank : Nat) : List Expr := (List.range rank).map fun i => ident (coordName i)

/-- Parameters that take the coordinates of the first axes. -/
def coordParams (rank : Nat) : List Param :=
  (List.range rank).map fun i => ⟨coordName i, .scalar .i32⟩

/-! ## Any shape of a rank -/

/-- Tests that one coordinate is at least zero and below an extent. -/
def boundTests (coord extent : Expr) : List Expr :=
  [.binary .ge coord (.int 0), .binary .lt coord extent]

/-- Tests coordinates of a rank against a shape. -/
def inBoundsFunction (rank : Nat) : Function where
  name := "coordsInBounds" ++ toString rank ++ "D"
  params := [⟨"coord", .coords rank⟩, ⟨"shape", .coords rank⟩]
  result := some (.scalar .bool)
  body :=
    let tests :=
      if rank = 1 then boundTests (ident "coord") (ident "shape")
      else (List.range rank).flatMap fun i =>
        boundTests (axisOf (ident "coord") i) (axisOf (ident "shape") i)
    [.ret (some (chain .and tests (.bool true)))]

/-- One coordinate times the extents inside its axis. -/
def weightedCoord (rank axis : Nat) : Expr :=
  let coord := axisOf (ident "coords") axis
  if axis + 1 = rank then coord
  else
    let inner := (List.range' (axis + 1) (rank - (axis + 1))).map (axisOf (ident "shape"))
    .binary .mul coord (chain .mul inner (.int 1))

/-- Flat index of coordinates of a rank within a shape. -/
def indexFromCoordsFunction (rank : Nat) : Function where
  name := "getIndexFromCoords" ++ toString rank ++ "D"
  params := [⟨"coords", .coords rank⟩, ⟨"shape", .coords rank⟩]
  result := some (.scalar .i32)
  body :=
    let value :=
      if rank = 1 then ident "coords"
      else chain .add ((List.range rank).map (weightedCoord rank)) (.int 0)
    [.ret (some value)]

/-! ## The output -/

/-- Stride of an output axis, from the uniform block. -/
def outStride (rank axis : Nat) : Expr :=
  let strides := uniform "outShapeStrides"
  if rank ≤ 2 then strides else axisOf strides axis

/-- Flat index of output coordinates. -/
def outputIndexFunction (rank : Nat) : Function where
  name := "getOutputIndexFromCoords"
  params := [⟨"coords", .coords rank⟩]
  result := some (.scalar .i32)
  body :=
    let coords := ident "coords"
    let value :=
      if rank ≤ 1 then coords
      else chain .add
        ((List.range (rank - 1)).map (fun i => .binary .mul (axisOf coords i) (outStride rank i)) ++
          [axisOf coords (rank - 1)]) (.int 0)
    [.ret (some value)]

/-- Splits off the coordinate of one axis: the running number divided by a stride, and what is left
of it. -/
def splitAxis (running : String) (axis : Nat) (stride : Expr) : List Stmt :=
  [.constant (coordName axis) (.scalar .i32) (.binary .div (ident running) stride),
    .assign (ident running)
      (.binary .sub (ident running) (.binary .mul (ident (coordName axis)) stride))]

/-- Output coordinates of a flat index. -/
def coordsFromIndexFunction (rank : Nat) : Function where
  name := "getCoordsFromIndex"
  params := [⟨"index", .scalar .i32⟩]
  result := some (.coords rank)
  body :=
    if rank ≤ 1 then [.ret (some (ident "index"))]
    else
      .variable "remainder" (.scalar .i32) (ident "index") ::
        (List.range (rank - 1)).flatMap (fun i => splitAxis "remainder" i (outStride rank i)) ++
        [.ret (some (.construct (.coords rank)
          (coordLocals (rank - 1) ++ [ident "remainder"])))]

/-! ## The current invocation -/

/-- One component of a built-in position, as a signed number. -/
def position (which : Builtin) (component : String) : Expr :=
  .construct (.scalar .i32) [.member (.builtin which) component]

/-- Workgroup count of one grid dimension, from the uniform block. -/
def gridExtent (component : String) : Expr := .member (uniform "dispatchSize") component

/-- Invocations in a layer of a workgroup, as the host computes them. -/
def layerCount (workgroup : Grid) : Int := Word.wrapSigned (workgroup.x * workgroup.y)

/-- Invocations in a workgroup, as the host computes them. -/
def invocationCount (workgroup : Grid) : Int := Word.wrapSigned (layerCount workgroup * workgroup.z)

/-- Position of the invocation within its workgroup. -/
def localIndex (workgroup : Grid) : Expr :=
  chain .add [
    .binary .mul (position .localId "z") (.int (layerCount workgroup)),
    .binary .mul (position .localId "y") (.int workgroup.x),
    position .localId "x"] (.int 0)

/-- Position of the workgroup within the grid. -/
def workgroupIndex : Expr :=
  chain .add [
    .binary .mul (position .workgroupId "z") (.binary .mul (gridExtent "x") (gridExtent "y")),
    .binary .mul (position .workgroupId "y") (gridExtent "x"),
    position .workgroupId "x"] (.int 0)

/-- Position of the invocation among all invocations of the grid, however it was folded. -/
def globalIndexFunction (workgroup : Grid) : Function where
  name := "getGlobalIndex"
  params := []
  result := some (.scalar .i32)
  body := [
    .constant "localIndex" (.scalar .i32) (localIndex workgroup),
    .constant "workgroupIndex" (.scalar .i32) workgroupIndex,
    .ret (some (.binary .add
      (.binary .mul (ident "workgroupIndex") (.int (invocationCount workgroup))) (ident "localIndex")))]

/-- Call of the function that finds the position of the invocation. -/
def globalIndex : Expr := .call "getGlobalIndex" []

/-- Product of the extents of some output axes, from the uniform block. -/
def strideExpr (s : SymbolicStride) : Expr :=
  chain .mul (s.axes.map (axisOf (uniform "outShape"))) (.int 1)

/-- Splits a running number over several axes, the last of which takes what is left. -/
def splitAxes (running : String) : List Nat → List Stmt
  | [] => []
  | [last] => [.constant (coordName last) (.scalar .i32) (ident running)]
  | axis :: rest@(_ :: _) =>
    splitAxis running axis (strideExpr ⟨rest⟩) ++ splitAxes running rest

/-- Coordinates of the axes that one grid dimension enumerates. -/
def dimensionCoords (dimension : Nat) (source : Expr) (axes : List Nat) : List Stmt :=
  match axes with
  | [] => []
  | [axis] => [.constant (coordName axis) (.scalar .i32) source]
  | _ =>
    let running := "index" ++ componentName dimension
    .variable running (.scalar .i32) source :: splitAxes running axes

/-- Position of the invocation along one grid dimension. -/
def dimensionSource (layout : AxisLayout) (dimension : Nat) : Expr :=
  if dimension = 0 ∧ layout.usesOnlyX then globalIndex
  else position .globalId (componentName dimension)

/-- Coordinates gathered into one value. -/
def gatherCoords (rank : Nat) : Expr :=
  if rank ≤ 1 then ident (coordName 0) else .construct (.coords rank) (coordLocals rank)

/-- Output coordinates of the invocation.  A flat layout splits the position in the grid; otherwise
every grid dimension is split over its own axes. -/
def outputCoordsFunction (k : Kernel) : Function where
  name := "getOutputCoords"
  params := []
  result := some (.coords k.outRank)
  body :=
    let layout := k.program.layout
    if k.program.isFlat then
      let first := if k.isVec4 then .binary .mul globalIndex (.int 4) else globalIndex
      [.ret (some (.call "getCoordsFromIndex" [first]))]
    else
      dimensionCoords 0 (dimensionSource layout 0) layout.x ++
        dimensionCoords 1 (dimensionSource layout 1) layout.y ++
        dimensionCoords 2 (dimensionSource layout 2) layout.z ++
        [.ret (some (gatherCoords k.outRank))]

end ComputeKernels.Shader

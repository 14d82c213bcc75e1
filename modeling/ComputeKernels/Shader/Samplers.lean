import ComputeKernels.Shader.Coordinates
import ComputeKernels.Shape.Broadcast

/-!
# Samplers and writers

Every operand has functions that read it: at its own coordinates, at a flat unit index, at the
coordinates of the output, and at the flat index of the output.  The output has functions that write
it.  Four-wide programs read and write units of four elements.
-/

namespace ComputeKernels.Shader

open ComputeKernels.Shader.Expr

/-! ## Names and types -/

/-- A name with its first letter capitalised. -/
def capitalized (name : String) : String :=
  match name.toList with
  | [] => ""
  | c :: cs => String.ofList (c.toUpper :: cs)

/-- Name of the uniform that holds the shape of an operand: `aShape` for `A`. -/
def shapeUniform (name : String) : String :=
  match name.toList with
  | [] => "Shape"
  | c :: cs => String.ofList (c.toLower :: cs) ++ "Shape"

/-- Type of a unit of a kernel. -/
def unitOf (k : Kernel) (s : ScalarType) : ShaderType :=
  if k.isVec4 then .vector 4 s else .scalar s

/-- Scalar type that an element is stored as. -/
def storedScalar (element : ElementType) : ScalarType :=
  match element.storage? with
  | some .f32 => .f32
  | _ => .i32

/-- Type of a unit in storage. -/
def storedUnit (k : Kernel) (element : ElementType) : ShaderType := unitOf k (storedScalar element)

/-! ## Reading -/

/-- A storage unit converted to float. -/
def loadUnit (k : Kernel) (name : String) (unit : Expr) : Expr :=
  .construct (unitOf k .f32) [.index (ident name) unit]

/-- The unit that holds an element. -/
def loadElement (k : Kernel) (name : String) (element : Expr) : Expr :=
  loadUnit k name (if k.isVec4 then .binary .div element (.int 4) else element)

/-- Flat index of the coordinates of an operand. -/
def operandIndex (o : Operand) : Expr :=
  match o.rank with
  | 0 => .int 0
  | 1 => ident (coordName 0)
  | r => .call ("getIndexFromCoords" ++ toString r ++ "D")
      [.construct (.coords r) (coordLocals r), uniform (shapeUniform o.name)]

/-- Reads an operand at its own coordinates. -/
def readAtCoords (k : Kernel) (o : Operand) : Function where
  name := "get" ++ capitalized o.name
  params := coordParams o.rank
  result := some (unitOf k .f32)
  body := [.ret (some
    (if o.rank = 0 then loadUnit k o.name (.int 0) else loadElement k o.name (operandIndex o)))]

/-- Reads an operand at a flat unit index. -/
def readAtIndex (k : Kernel) (o : Operand) : Function where
  name := "get" ++ capitalized o.name ++ "ByIndex"
  params := [⟨"index", .scalar .i32⟩]
  result := some (unitOf k .f32)
  body := [.ret (some (loadUnit k o.name (ident "index")))]

/-- Whether an operand has the same flat indices as the output. -/
def sharesIndices (k : Kernel) (o : Operand) : Bool :=
  o.shape == k.output.shape && k.program.isFlat

/-- Sets the coordinates of repeated axes to zero. -/
def pinAxes (rank : Nat) (axes : List Nat) : List Stmt :=
  axes.map fun axis =>
    .assign (if rank ≤ 1 then ident "coords" else axisOf (ident "coords") axis) (.int 0)

/-- Coordinates of an operand, taken from the innermost coordinates of the output. -/
def trailingCoords (outRank rank : Nat) (coords : Expr) : List Expr :=
  if outRank ≤ 1 then [coords]
  else (List.range' (outRank - rank) rank).map (axisOf coords)

/-- Statements that read an operand at output coordinates through its own coordinates. -/
def readThroughBroadcast (k : Kernel) (o : Operand) : List Stmt :=
  let read (coords : Expr) : Stmt :=
    .ret (some (.call ("get" ++ capitalized o.name) (trailingCoords k.outRank o.rank coords)))
  match Shape.stretchedAxes o.shape k.output.shape with
  | [] => [read (ident "coordsIn")]
  | axes =>
    .variable "coords" (.coords k.outRank) (ident "coordsIn") :: pinAxes k.outRank axes ++
      [read (ident "coords")]

/-- Reads an operand at output coordinates. -/
def readAtOutCoords (k : Kernel) (o : Operand) : Function where
  name := "get" ++ capitalized o.name ++ "AtOutCoords"
  params := [⟨"coordsIn", .coords k.outRank⟩]
  result := some (unitOf k .f32)
  body :=
    if sharesIndices k o then
      [.ret (some (loadElement k o.name (.call "getOutputIndexFromCoords" [ident "coordsIn"])))]
    else if o.rank = 0 then [.ret (some (.call ("get" ++ capitalized o.name) []))]
    else readThroughBroadcast k o

/-- Reads an operand at a flat unit index of the output. -/
def readAtOutputIndex (k : Kernel) (o : Operand) : Function where
  name := "get" ++ capitalized o.name ++ "ByOutputIndex"
  params := [⟨"globalIndex", .scalar .i32⟩]
  result := some (unitOf k .f32)
  body :=
    let unit := ident "globalIndex"
    if sharesIndices k o then [.ret (some (loadUnit k o.name unit))]
    else
      let element := if k.isVec4 then .binary .mul unit (.int 4) else unit
      [.ret (some (.call ("get" ++ capitalized o.name ++ "AtOutCoords")
        [.call "getCoordsFromIndex" [element]]))]

/-- The functions that read an operand.  One of higher rank than the output is read only at its own
positions. -/
def samplers (k : Kernel) (o : Operand) : List Function :=
  [readAtCoords k o, readAtIndex k o] ++
    if o.rank ≤ k.outRank then [readAtOutCoords k o, readAtOutputIndex k o] else []

/-! ## Writing -/

/-- Suffixes of the writers and the scalar types of the values that they take. -/
def writerKinds : List (String × ScalarType) := [("", .f32), ("I32", .i32)]

/-- Writes a unit of the output at a flat unit index. -/
def writeAtIndex (k : Kernel) (suffix : String) (s : ScalarType) : Function where
  name := "setOutputAtIndex" ++ suffix
  params := [⟨"flatIndex", .scalar .i32⟩, ⟨"value", unitOf k s⟩]
  result := none
  body := [.assign (.index (ident Kernel.outputName) (ident "flatIndex"))
    (.construct (storedUnit k k.output.element) [ident "value"])]

/-- Writes a unit of the output at coordinates. -/
def writeAtCoords (k : Kernel) (suffix : String) (s : ScalarType) : Function where
  name := "setOutputAtCoords" ++ suffix
  params := coordParams (max k.outRank 1) ++ [⟨"value", unitOf k s⟩]
  result := none
  body :=
    let flat := ident "flatIndex"
    let unit := if k.isVec4 then .binary .div flat (.int 4) else flat
    [.constant "flatIndex" (.scalar .i32)
        (.call "getOutputIndexFromCoords" [gatherCoords k.outRank]),
      .expr (.call ("setOutputAtIndex" ++ suffix) [unit, ident "value"])]

/-- The functions that write the output. -/
def writers (k : Kernel) : List Function :=
  writerKinds.map (fun (suffix, s) => writeAtIndex k suffix s) ++
    writerKinds.map (fun (suffix, s) => writeAtCoords k suffix s)

end ComputeKernels.Shader

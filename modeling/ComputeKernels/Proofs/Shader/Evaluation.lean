import ComputeKernels.Shader.Assembly
import Mathlib.Algebra.GroupWithZero.Nat

/-!
# Evaluation of generated code

What the code of a shader computes, as both shading languages define it.  Integers are either exact
or cut to 32 bits in two's complement; whole programs are run under both readings.  Element values
are left uninterpreted: a value that is read is known by the slot it comes from and by the types
that it was converted to.

A helper calls only helpers before it, so the functions of a module get their meaning one after the
other.  A name means the innermost local that has it, then a storage array.

Main definitions:

- `Expr.eval`: value of an expression.
- `Stmt.run`: effect of a statement on locals and storage.
- `callsOf`: what the functions of a list mean.
- `blockValues`: values of the members of a uniform block.
-/

namespace ComputeKernels.Shader

open ComputeKernels.Uniform

/-! ## Values -/

/-- Readings of integer operations. -/
inductive Arithmetic
  /-- Integers of any size. -/
  | exact
  /-- Results are cut to 32 bits and read as signed. -/
  | wrapping
deriving DecidableEq

/-- Result of an integer operation, given the exact one. -/
def Arithmetic.settle : Arithmetic → Int → Int
  | exact, n => n
  | wrapping, n => n.bmod (2 ^ 32)

/-- Single components. -/
inductive Atom
  | int (value : Int)
  | float (bits : UInt32)
  | bool (value : Bool)
deriving DecidableEq

/-- Values of expressions. -/
inductive Value
  | atom (value : Atom)
  | vector (components : List Atom)
  /-- What a slot of a storage array holds when the shader starts. -/
  | slot (array : String) (position : Int)
  /-- A value as another type; what becomes of an element is not looked into. -/
  | converted (ty : ShaderType) (value : Value)
deriving DecidableEq

namespace Value

/-- A signed number. -/
abbrev int (n : Int) : Value := .atom (.int n)

/-- The component that a value consists of. -/
def atom? : Value → Option Atom
  | .atom a => some a
  | _ => none

/-- The number that a value consists of. -/
def int? : Value → Option Int
  | .atom (.int n) => some n
  | _ => none

/-- The component with a name. -/
def component? (v : Value) (name : String) : Option Value :=
  match v with
  | .vector components => do
    let axis ← componentNames.idxOf? name
    return .atom (← components[axis]?)
  | _ => none

/-- The value with the named component replaced. -/
def setComponent? (v : Value) (name : String) (a : Atom) : Option Value :=
  match v with
  | .vector components => do
    let axis ← componentNames.idxOf? name
    if axis < components.length then return .vector (components.set axis a) else none
  | _ => none

/-- Several numbers; one alone is no vector, and none counts as the number one. -/
def ofCounts (a : Arithmetic) (counts : List Nat) : Value :=
  match counts with
  | [] => .int 1
  | [n] => .int (a.settle n)
  | ns => .vector (ns.map fun n : Nat => .int (a.settle (n : Int)))

end Value

/-! ## Operators -/

/-- Place of a float among all floats; none for a value that is not a number. -/
def floatRank? (bits : UInt32) : Option Int :=
  let magnitude : Nat := bits.toNat % 2 ^ 31
  if 0x7f800000 < magnitude then none
  else if bits.toNat < 2 ^ 31 then some magnitude
  else some (-(magnitude : Int))

namespace Operator

/-- Exact result of an operator on integers; none where there is none. -/
def calculate? : Operator → Int → Int → Option Int
  | add, m, n => some (m + n)
  | sub, m, n => some (m - n)
  | mul, m, n => some (m * n)
  | div, m, n => if n = 0 then none else some (m.tdiv n)
  | rem, m, n => if n = 0 then none else some (m.tmod n)
  | _, _, _ => none

/-- Whether a comparison holds between two numbers; none for other operators. -/
def compare? : Operator → Int → Int → Option Bool
  | lt, m, n => some (decide (m < n))
  | ge, m, n => some (decide (n ≤ m))
  | gt, m, n => some (decide (n < m))
  | eq, m, n => some (decide (m = n))
  | ne, m, n => some (decide (m ≠ n))
  | _, _, _ => none

/-- Result of a comparison with a value that is not a number. -/
def compareUnordered? : Operator → Option Bool
  | lt => some false
  | ge => some false
  | gt => some false
  | eq => some false
  | ne => some true
  | _ => none

/-- Result of an operator that is known from its left side alone. -/
def shortcut? : Operator → Atom → Option Atom
  | .and, .bool false => some (.bool false)
  | .or, .bool true => some (.bool true)
  | _, _ => none

/-- Result of an operator. -/
def apply (a : Arithmetic) (op : Operator) : Atom → Atom → Option Atom
  | .int m, .int n =>
    match op.calculate? m n with
    | some r => some (.int (a.settle r))
    | none => (op.compare? m n).map .bool
  | .float x, .float y =>
    match floatRank? x, floatRank? y with
    | some m, some n => (op.compare? m n).map .bool
    | _, _ => op.compareUnordered?.map .bool
  | .bool p, .bool q =>
    match op with
    | .and => some (.bool (p && q))
    | .or => some (.bool (p || q))
    | .eq => some (.bool (p == q))
    | .ne => some (.bool (p != q))
    | _ => none
  | _, _ => none

end Operator

/-- A value of a type made from one of another type.  A position becomes a signed number; elements
are kept as they are. -/
def ShaderType.convert (a : Arithmetic) (ty : ShaderType) (v : Value) : Value :=
  match ty, v with
  | .scalar .i32, .atom (.int n) => .int (a.settle n)
  | ty, v => .converted ty v

/-- A value of a type made from its components, or from a value of another type. -/
def ShaderType.build? (a : Arithmetic) (ty : ShaderType) : List Value → Option Value
  | [v] => some (ty.convert a v)
  | vs => do
    let components ← vs.mapM Value.atom?
    if components.length = ty.width then return .vector components else none

/-! ## Expressions -/

/-- A value that is written to a slot of a storage array. -/
structure Write where
  array : String
  position : Int
  value : Value
deriving DecidableEq

/-- What a call leads to: the value that is returned, if any, and what is written. -/
structure Outcome where
  result : Option Value
  writes : List Write
deriving DecidableEq

/-- Meaning of functions. -/
abbrev Calls := String → List Value → Option Outcome

/-- Values of locals, innermost first. -/
abbrev Locals := List (String × Value)

/-- What one invocation reads from outside its code. -/
structure Setting where
  arithmetic : Arithmetic
  /-- Members of the uniform block. -/
  uniforms : String → Option Value
  /-- Names of the storage arrays. -/
  arrays : List String
  position : Builtin → Grid

namespace Setting

/-- The storage array that an expression names where the given locals are in scope. -/
def array? (s : Setting) (locals : Locals) : Expr → Option String
  | .ident name => if (locals.lookup name).isNone ∧ name ∈ s.arrays then some name else none
  | _ => none

end Setting

/-- Whether an expression is the uniform block. -/
def Expr.isBlock : Expr → Bool
  | .ident name => name == "uniforms"
  | _ => false

mutual

/-- Value of an expression.  A call in an expression must not write. -/
def Expr.eval (s : Setting) (calls : Calls) (locals : Locals) : Expr → Option Value
  | .ident name => locals.lookup name
  | .int value => some (.int (s.arithmetic.settle value))
  | .float bits => some (.atom (.float bits))
  | .bool value => some (.atom (.bool value))
  | .member base name =>
    if base.isBlock then s.uniforms name
    else do (← base.eval s calls locals).component? name
  | .index base position => do
    let array ← s.array? locals base
    let n ← (← position.eval s calls locals).int?
    return .slot array n
  | .binary op left right => do
    let x ← (← left.eval s calls locals).atom?
    match op.shortcut? x with
    | some result => return .atom result
    | none =>
      let y ← (← right.eval s calls locals).atom?
      return .atom (← op.apply s.arithmetic x y)
  | .neg operand => do
    let n ← (← operand.eval s calls locals).int?
    return .int (s.arithmetic.settle (-n))
  | .call name args => do
    let outcome ← calls name (← Expr.evalAll s calls locals args)
    if outcome.writes = [] then outcome.result else none
  | .construct ty args => do ty.build? s.arithmetic (← Expr.evalAll s calls locals args)
  | .builtin which =>
    some (.vector ((s.position which).toList.map fun n : Nat => .int n))

/-- Values of a list of expressions. -/
def Expr.evalAll (s : Setting) (calls : Calls) (locals : Locals) : List Expr → Option (List Value)
  | [] => some []
  | e :: es => do
    let v ← e.eval s calls locals
    return v :: (← Expr.evalAll s calls locals es)

end

attribute [grind =] Expr.eval Expr.evalAll

/-! ## Statements -/

/-- State of a function while it runs. -/
structure Frame where
  locals : Locals
  writes : List Write := []
  /-- What is returned, once the function returns. -/
  returned : Option (Option Value) := none

/-- Locals with the innermost of a name replaced. -/
def Locals.replace? (name : String) (v : Value) : Locals → Option Locals
  | [] => none
  | (n, w) :: rest =>
    if n = name then some ((n, v) :: rest) else (Locals.replace? name v rest).map ((n, w) :: ·)

namespace Frame

/-- The frame with one more local. -/
def declare (f : Frame) (name : String) (v : Value) : Frame :=
  { f with locals := (name, v) :: f.locals }

/-- The frame with a local replaced. -/
def replace? (f : Frame) (name : String) (v : Value) : Option Frame :=
  (Locals.replace? name v f.locals).map fun locals => { f with locals }

/-- The frame after more was written. -/
def wrote (f : Frame) (writes : List Write) : Frame := { f with writes := f.writes ++ writes }

/-- The frame after a block, whose own locals go out of scope. -/
def leaveBlock (f inner : Frame) : Frame :=
  { inner with locals := inner.locals.drop (inner.locals.length - f.locals.length) }

end Frame

/-- Effect of an assignment: to a local, to a component of one, or to a slot of a storage array. -/
def Expr.assign? (s : Setting) (calls : Calls) (f : Frame) (v : Value) : Expr → Option Frame
  | .ident name => f.replace? name v
  | .member (.ident name) component => do
    let whole ← f.locals.lookup name
    f.replace? name (← whole.setComponent? component (← v.atom?))
  | .index base position => do
    let array ← s.array? f.locals base
    let n ← (← position.eval s calls f.locals).int?
    return f.wrote [⟨array, n, v⟩]
  | _ => none

mutual

/-- Effect of a statement. -/
def Stmt.run (s : Setting) (calls : Calls) (f : Frame) : Stmt → Option Frame
  | .constant name _ value => do return f.declare name (← value.eval s calls f.locals)
  | .variable name _ value => do return f.declare name (← value.eval s calls f.locals)
  | .assign place value => do place.assign? s calls f (← value.eval s calls f.locals)
  | .ifThen condition body => do
    match ← condition.eval s calls f.locals with
    | .atom (.bool true) => return f.leaveBlock (← Stmt.runAll s calls f body)
    | .atom (.bool false) => return f
    | _ => none
  | .ret none => some { f with returned := some none }
  | .ret (some value) => do
    return { f with returned := some (some (← value.eval s calls f.locals)) }
  | .expr (.call name args) => do
    let outcome ← calls name (← Expr.evalAll s calls f.locals args)
    return f.wrote outcome.writes
  | .expr _ => none

/-- Effect of a list of statements, which ends with the first that returns. -/
def Stmt.runAll (s : Setting) (calls : Calls) (f : Frame) : List Stmt → Option Frame
  | [] => some f
  | statement :: rest => do
    let g ← statement.run s calls f
    if g.returned.isSome then return g else Stmt.runAll s calls g rest

end

attribute [grind =] Stmt.run Stmt.runAll

/-! ## Functions -/

/-- What a call of a function leads to. -/
def Function.apply (s : Setting) (calls : Calls) (f : Function) (args : List Value) :
    Option Outcome :=
  if args.length = f.params.length then do
    let final ← Stmt.runAll s calls { locals := (f.params.map (·.name)).zip args } f.body
    return ⟨final.returned.getD none, final.writes⟩
  else none

/-- What functions mean once one more is defined. -/
def Calls.define (s : Setting) (calls : Calls) (f : Function) : Calls := fun name args =>
  if name = f.name then f.apply s calls args else calls name args

/-- What the functions of a list mean, each of which calls only functions before it. -/
def callsOf (s : Setting) (functions : List Function) : Calls :=
  functions.foldl (Calls.define s) fun _ _ => none

/-! ## Modules -/

/-- Value of the words of a field. -/
def fieldAtom (kind : UniformKind) (w : UInt32) : Atom :=
  match kind with
  | .float32 => .float w
  | .int32 => .int ((w.toNat : Int).bmod (2 ^ 32))
  | .uint32 => .int w.toNat

/-- Value of what a field is to hold. -/
def contentValue (a : Arithmetic) : Content → Value
  | .notANumber => .atom (.float notANumberBits)
  | .counts ns => .ofCounts a ns
  | .given ⟨kind, [w]⟩ => .atom (fieldAtom kind w)
  | .given ⟨kind, ws⟩ => .vector (ws.map (fieldAtom kind))

/-- Values of the members of a uniform block, given what they are to hold. -/
def blockValues (a : Arithmetic) (members : List UniformMember) (contents : List Content) :
    String → Option Value :=
  fun name => ((members.map (·.name)).zip (contents.map (contentValue a))).lookup name

/-- One invocation: its workgroup within the grid and its position within the workgroup. -/
structure Invocation where
  group : Grid
  cell : Grid
deriving DecidableEq

/-- Positions that an invocation is given. -/
def Invocation.position (i : Invocation) (workgroup : Grid) : Builtin → Grid
  | .localId => i.cell
  | .workgroupId => i.group
  | .globalId =>
    ⟨i.group.x * workgroup.x + i.cell.x, i.group.y * workgroup.y + i.cell.y,
      i.group.z * workgroup.z + i.cell.z⟩

/-- What an invocation of a module reads, given the contents of its uniform block. -/
def Module.setting (m : Module) (a : Arithmetic) (contents : List Content) (i : Invocation) :
    Setting where
  arithmetic := a
  uniforms := blockValues a m.uniforms contents
  arrays := m.storage.map (·.name)
  position := i.position m.workgroup

end ComputeKernels.Shader

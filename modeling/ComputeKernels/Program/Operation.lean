import ComputeKernels.Element

/-!
# Elementwise operations

The operations that have ready-made programs: their names, and the code of each for one scalar in
either shading language.
-/

namespace ComputeKernels

/-! ## One operand -/

/-- Operations on one operand. -/
inductive UnaryOperation
  | linear
  | relu
  | relu6
  | elu
  | sigmoid
  | abs
  | neg
  | exp
  | log
  | sqrt
  | square
  | tanh
  | floor
  | ceil
  | sin
  | cos
  | isNan
  | logicalNot
deriving DecidableEq

namespace UnaryOperation

/-- All operations, in table order. -/
def all : List UnaryOperation :=
  [linear, relu, relu6, elu, sigmoid, abs, neg, exp, log, sqrt, square, tanh, floor, ceil, sin, cos,
    isNan, logicalNot]

/-- Name of an operation. -/
def name : UnaryOperation → String
  | linear => "linear"
  | relu => "relu"
  | relu6 => "relu6"
  | elu => "elu"
  | sigmoid => "sigmoid"
  | abs => "abs"
  | neg => "neg"
  | exp => "exp"
  | log => "log"
  | sqrt => "sqrt"
  | square => "square"
  | tanh => "tanh"
  | floor => "floor"
  | ceil => "ceil"
  | sin => "sin"
  | cos => "cos"
  | isNan => "is_nan"
  | logicalNot => "logical_not"

/-- The operation with a given name. -/
def ofName? (s : String) : Option UnaryOperation := all.find? (·.name == s)

/-- Keyword that declares a local float in a target. -/
def localFloat : Target → String
  | .wgsl => "let"
  | .glsl => "float"

/-- Statements that compute an operation on the scalar `a`. -/
def code (t : Target) : UnaryOperation → String
  | linear => "return a;"
  | relu => "if (a < 0.0) \x7b return 0.0; \x7d\n  return a;"
  | relu6 => "if (isnanCustom(a)) \x7b return a; \x7d\n  return clamp(a, 0.0, 6.0);"
  | elu => "if (a >= 0.0) \x7b return a; \x7d\n  return exp(a) - 1.0;"
  | sigmoid => "return 1.0 / (1.0 + exp(-1.0 * a));"
  | abs => "return abs(a);"
  | neg => "return -a;"
  | exp => "return exp(a);"
  | log => "if (a < 0.0) \x7b return uniforms.NAN; \x7d\n  return log(a);"
  | sqrt => "return sqrt(a);"
  | square => "return a * a;"
  | tanh =>
    localFloat t ++
      " e2x = exp(-2.0 * abs(a));\n  return sign(a) * (1.0 - e2x) / (1.0 + e2x);"
  | floor => "return floor(a);"
  | ceil => "return ceil(a);"
  | sin => "return sin(a);"
  | cos => "return cos(a);"
  | isNan => "if (isnanCustom(a)) \x7b return 1.0; \x7d\n  return 0.0;"
  | logicalNot => "if (a == 0.0) \x7b return 1.0; \x7d\n  return 0.0;"

/-- Whether an operation is offered four elements at a time; the predicates are not. -/
def allowsVec4 : UnaryOperation → Bool
  | isNan => false
  | logicalNot => false
  | _ => true

end UnaryOperation

/-! ## Two operands -/

/-- Operations on two operands. -/
inductive BinaryOperation
  | add
  | sub
  | mul
  | div
  | intDiv
  | pow
  | maximum
  | minimum
  | equal
  | less
  | greater
  | prelu
deriving DecidableEq

namespace BinaryOperation

/-- All operations, in table order. -/
def all : List BinaryOperation :=
  [add, sub, mul, div, intDiv, pow, maximum, minimum, equal, less, greater, prelu]

/-- Name of an operation. -/
def name : BinaryOperation → String
  | add => "add"
  | sub => "sub"
  | mul => "mul"
  | div => "div"
  | intDiv => "int_div"
  | pow => "pow"
  | maximum => "maximum"
  | minimum => "minimum"
  | equal => "equal"
  | less => "less"
  | greater => "greater"
  | prelu => "prelu"

/-- The operation with a given name. -/
def ofName? (s : String) : Option BinaryOperation := all.find? (·.name == s)

/-- Rounded integer division through the floor division of the generated code. -/
def intDivCode : Target → String
  | .wgsl =>
    "let s = sign(a) * sign(b);\n  let ia = i32(round(a));\n  let ib = i32(round(b));\n" ++
      "  return f32(idiv(ia, ib, s));"
  | .glsl =>
    "float s = sign(a) * sign(b);\n  int ia = int(round(a));\n  int ib = int(round(b));\n" ++
      "  return float(idiv(ia, ib, s));"

/-- Remainder of the absolute value of `b` by two. -/
def parityCode : Target → String
  | .wgsl => "abs(b) % 2.0"
  | .glsl => "mod(abs(b), 2.0)"

/-- Statements that compute an operation on the scalars `a` and `b`. -/
def code (t : Target) : BinaryOperation → String
  | add => "return a + b;"
  | sub => "return a - b;"
  | mul => "return a * b;"
  | div => "return a / b;"
  | intDiv => intDivCode t
  | pow =>
    "if (a < 0.0 && floor(b) < b) \x7b return uniforms.NAN; \x7d\n" ++
      "  if (b == 0.0) \x7b return 1.0; \x7d\n" ++
      "  if (round(" ++ parityCode t ++ ") != 1.0) \x7b return pow(abs(a), b); \x7d\n" ++
      "  return sign(a) * pow(abs(a), b);"
  | maximum =>
    "if (isnanCustom(a)) \x7b return a; \x7d\n  if (isnanCustom(b)) \x7b return b; \x7d\n" ++
      "  return max(a, b);"
  | minimum =>
    "if (isnanCustom(a)) \x7b return a; \x7d\n  if (isnanCustom(b)) \x7b return b; \x7d\n" ++
      "  return min(a, b);"
  | equal => "if (a == b) \x7b return 1.0; \x7d\n  return 0.0;"
  | less => "if (a < b) \x7b return 1.0; \x7d\n  return 0.0;"
  | greater => "if (a > b) \x7b return 1.0; \x7d\n  return 0.0;"
  | prelu => "if (a < 0.0) \x7b return b * a; \x7d\n  return a;"

/-- Whether an operation is offered four elements at a time: the comparisons and the integer
division are not. -/
def allowsVec4 : BinaryOperation → Bool
  | intDiv => false
  | equal => false
  | less => false
  | greater => false
  | _ => true

end BinaryOperation

end ComputeKernels

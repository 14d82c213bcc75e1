import ComputeKernels.Shader.Printer
import ComputeKernels.Text.Pattern.Basic

/-!
# Expressions and their texts

The subexpressions of an expression, with induction over them, and the characters that an expression is
printed as, one equation for each way to build an expression.

Main definitions:

- `Expr.subexpressions`: an expression with everything that it is made of.
- `IsIdentifier`: the names that both shading languages know as identifiers.

Main results:

- Theorem `Expr.induction`: induction in which an argument is a subexpression like every other.
- Theorem `Expr.induction_parts`: the same with one case for all ways to build an expression.
-/

namespace ComputeKernels.Shader

/-! ## Subexpressions -/

namespace Expr

/-- What holds of every expression if it passes from the parts to the whole, where the parts of a call or
of a construction are its arguments. -/
@[elab_as_elim]
theorem induction {motive : Expr → Prop} (ident : ∀ name, motive (.ident name))
    (int : ∀ value, motive (.int value)) (float : ∀ bits, motive (.float bits))
    (bool : ∀ value, motive (.bool value))
    (member : ∀ base name, motive base → motive (.member base name))
    (index : ∀ base position, motive base → motive position → motive (.index base position))
    (binary : ∀ op left right, motive left → motive right → motive (.binary op left right))
    (neg : ∀ operand, motive operand → motive (.neg operand))
    (call : ∀ name args, (∀ arg ∈ args, motive arg) → motive (.call name args))
    (construct : ∀ ty args, (∀ arg ∈ args, motive arg) → motive (.construct ty args))
    (builtin : ∀ which, motive (.builtin which)) (e : Expr) : motive e :=
  @Expr.rec motive (fun args => ∀ arg ∈ args, motive arg) ident int float bool member index binary
    neg call construct builtin (by simp) (by simp_all) e

mutual

/-- An expression with everything that it is made of. -/
def subexpressions : Expr → List Expr
  | .member base name => .member base name :: base.subexpressions
  | .index base position =>
    .index base position :: (base.subexpressions ++ position.subexpressions)
  | .binary op left right => .binary op left right :: (left.subexpressions ++ right.subexpressions)
  | .neg operand => .neg operand :: operand.subexpressions
  | .call name args => .call name args :: allSubexpressions args
  | .construct ty args => .construct ty args :: allSubexpressions args
  | e => [e]

/-- Some expressions with everything that they are made of. -/
def allSubexpressions : List Expr → List Expr
  | [] => []
  | e :: es => e.subexpressions ++ allSubexpressions es

end

@[simp]
theorem forall_mem_allSubexpressions {es : List Expr} {p : Expr → Prop} :
    (∀ s ∈ allSubexpressions es, p s) ↔ ∀ e ∈ es, ∀ s ∈ e.subexpressions, p s := by
  induction es with
  | nil => simp [allSubexpressions]
  | cons e es ih => rw [allSubexpressions, List.forall_mem_append, ih, List.forall_mem_cons]

/-- What an expression is made of directly. -/
def parts : Expr → List Expr
  | .member base _ => [base]
  | .index base position => [base, position]
  | .binary _ left right => [left, right]
  | .neg operand => [operand]
  | .call _ args => args
  | .construct _ args => args
  | _ => []

/-- What holds of every expression if it passes from the parts to the whole. -/
@[elab_as_elim]
theorem induction_parts {motive : Expr → Prop}
    (step : ∀ e : Expr, (∀ part ∈ e.parts, motive part) → motive e) (e : Expr) : motive e := by
  induction e using Expr.induction with
  | call name args ih => exact step _ ih
  | construct ty args ih => exact step _ ih
  | member base name ih => exact step _ (by simpa [parts] using ih)
  | index base position ihbase ihposition =>
    exact step _ (by simpa [parts] using ⟨ihbase, ihposition⟩)
  | binary op left right ihleft ihright =>
    exact step _ (by simpa [parts] using ⟨ihleft, ihright⟩)
  | neg operand ih => exact step _ (by simpa [parts] using ih)
  | _ => exact step _ (by simp [parts])

/-- What holds of an expression and of all that its parts are made of holds of all that it is made
of. -/
theorem forall_mem_subexpressions {e : Expr} {p : Expr → Prop} :
    (∀ s ∈ e.subexpressions, p s) ↔ p e ∧ ∀ part ∈ e.parts, ∀ s ∈ part.subexpressions, p s := by
  cases e <;> simp [subexpressions, parts, or_imp, forall_and]

/-! ## Characters -/

variable (t : Target)

/-- Characters of an expression. -/
def chars (e : Expr) : List Char := (e.text t).toList

/-- Characters of an expression where it is an operand of a larger one. -/
def operandChars (e : Expr) : List Char := (e.operandText t).toList

/-- Characters of arguments, with a comma and a blank between two of them. -/
def argumentChars (args : List Expr) : List Char := [',', ' '].intercalate (args.map (chars t))

private theorem map_toList_texts (es : List Expr) :
    (texts t es).map String.toList = es.map (chars t) := by
  induction es with
  | nil => rfl
  | cons e es ih => rw [texts, List.map_cons, ih, List.map_cons, chars]

/-- Calls and constructions are printed alike: what is applied, and the arguments in brackets. -/
private theorem toList_application (head : String) (args : List Expr) :
    (head ++ "(" ++ ", ".intercalate (texts t args) ++ ")").toList =
      head.toList ++ '(' :: (argumentChars t args ++ [')']) := by
  simp [map_toList_texts, argumentChars]

/-- A compound operand is put into brackets. -/
theorem operandChars_of_compound {e : Expr} (h : e.isCompound = true) :
    e.operandChars t = '(' :: (e.chars t ++ [')']) := by
  simp [operandChars, operandText, enclose, h, chars]

/-- A simple operand is printed as it is. -/
theorem operandChars_of_simple {e : Expr} (h : e.isCompound = false) :
    e.operandChars t = e.chars t := by
  simp [operandChars, operandText, enclose, h, chars]

@[simp]
theorem chars_ident (name : String) : (ident name).chars t = name.toList := rfl

@[simp]
theorem chars_int (value : Int) : (int value).chars t = (toString value).toList := rfl

@[simp]
theorem chars_float (bits : UInt32) :
    (float bits).chars t = (Decimal.Float32.text bits).toList := rfl

@[simp]
theorem chars_bool (value : Bool) :
    (bool value).chars t = (if value then "true" else "false").toList := rfl

@[simp]
theorem chars_member (base : Expr) (name : String) :
    (member base name).chars t = base.operandChars t ++ '.' :: name.toList := by
  show (base.operandText t ++ "." ++ name).toList = (base.operandText t).toList ++ _
  simp

@[simp]
theorem chars_index (base position : Expr) :
    (index base position).chars t =
      base.operandChars t ++ '[' :: (position.chars t ++ [']']) := by
  show (base.operandText t ++ "[" ++ position.text t ++ "]").toList =
    (base.operandText t).toList ++ '[' :: ((position.text t).toList ++ _)
  simp

@[simp]
theorem chars_binary (op : Operator) (left right : Expr) :
    (binary op left right).chars t =
      left.operandChars t ++ ' ' :: (op.symbol.toList ++ ' ' :: right.operandChars t) := by
  show (left.operandText t ++ " " ++ op.symbol ++ " " ++ right.operandText t).toList =
    (left.operandText t).toList ++ ' ' :: (op.symbol.toList ++ ' ' :: (right.operandText t).toList)
  simp

@[simp]
theorem chars_neg (operand : Expr) : (neg operand).chars t = '-' :: operand.operandChars t := by
  show ("-" ++ operand.operandText t).toList = '-' :: (operand.operandText t).toList
  simp

@[simp]
theorem chars_call (name : String) (args : List Expr) :
    (call name args).chars t = name.toList ++ '(' :: (argumentChars t args ++ [')']) :=
  toList_application t name args

@[simp]
theorem chars_construct (ty : ShaderType) (args : List Expr) :
    (construct ty args).chars t =
      (ty.spell t).toList ++ '(' :: (argumentChars t args ++ [')']) :=
  toList_application t (ty.spell t) args

@[simp]
theorem chars_builtin (which : Builtin) :
    (builtin which).chars t = (which.spell t).toList := rfl

end Expr

/-! ## Names -/

/-- A name that is an identifier: a word of letters, digits and underscores that does not start with a
digit. -/
structure IsIdentifier (name : String) : Prop where
  ne_nil : name.toList ≠ []
  word : ∀ c ∈ name.toList, Text.isAsciiWordChar c = true
  start : ∀ c ∈ name.toList.head?, c.isDigit = false

instance : DecidablePred IsIdentifier := fun name =>
  decidable_of_iff (name.toList ≠ [] ∧ name.toList.all Text.isAsciiWordChar = true ∧
      name.toList.head?.all (!·.isDigit) = true)
    ⟨fun h => ⟨h.1, List.all_eq_true.mp h.2.1, by simpa [Option.all_eq_true] using h.2.2⟩,
      fun h => ⟨h.ne_nil, List.all_eq_true.mpr h.word, by simpa [Option.all_eq_true] using h.start⟩⟩

namespace Expr

/-- The name that an expression adds to those of its parts. -/
def name? : Expr → Option String
  | .ident name => some name
  | .member _ name => some name
  | .call name _ => some name
  | _ => none

/-- Every name in an expression is an identifier. -/
def PlainlyNamed (e : Expr) : Prop :=
  ∀ s ∈ e.subexpressions, ∀ name ∈ s.name?, IsIdentifier name

/-- An expression is plainly named if its own name is an identifier and its parts are plainly named. -/
theorem plainlyNamed_iff {e : Expr} :
    e.PlainlyNamed ↔ (∀ name ∈ e.name?, IsIdentifier name) ∧ ∀ part ∈ e.parts, part.PlainlyNamed :=
  forall_mem_subexpressions

@[simp]
theorem plainlyNamed_ident {name : String} : (ident name).PlainlyNamed ↔ IsIdentifier name := by
  refine plainlyNamed_iff.trans ?_
  show (∀ n ∈ some name, IsIdentifier n) ∧ (∀ part ∈ ([] : List Expr), part.PlainlyNamed) ↔ _
  simp

@[simp]
theorem plainlyNamed_member {base : Expr} {name : String} :
    (member base name).PlainlyNamed ↔ IsIdentifier name ∧ base.PlainlyNamed := by
  refine plainlyNamed_iff.trans ?_
  show (∀ n ∈ some name, IsIdentifier n) ∧ (∀ part ∈ [base], part.PlainlyNamed) ↔ _
  simp

@[simp]
theorem plainlyNamed_index {base position : Expr} :
    (index base position).PlainlyNamed ↔ base.PlainlyNamed ∧ position.PlainlyNamed := by
  refine plainlyNamed_iff.trans ?_
  show (∀ n ∈ none, IsIdentifier n) ∧ (∀ part ∈ [base, position], part.PlainlyNamed) ↔ _
  simp

@[simp]
theorem plainlyNamed_binary {op : Operator} {left right : Expr} :
    (binary op left right).PlainlyNamed ↔ left.PlainlyNamed ∧ right.PlainlyNamed := by
  refine plainlyNamed_iff.trans ?_
  show (∀ n ∈ none, IsIdentifier n) ∧ (∀ part ∈ [left, right], part.PlainlyNamed) ↔ _
  simp

@[simp]
theorem plainlyNamed_neg {operand : Expr} :
    (neg operand).PlainlyNamed ↔ operand.PlainlyNamed := by
  refine plainlyNamed_iff.trans ?_
  show (∀ n ∈ none, IsIdentifier n) ∧ (∀ part ∈ [operand], part.PlainlyNamed) ↔ _
  simp

@[simp]
theorem plainlyNamed_call {name : String} {args : List Expr} :
    (call name args).PlainlyNamed ↔ IsIdentifier name ∧ ∀ arg ∈ args, arg.PlainlyNamed := by
  refine plainlyNamed_iff.trans ?_
  show (∀ n ∈ some name, IsIdentifier n) ∧ (∀ arg ∈ args, arg.PlainlyNamed) ↔ _
  simp

@[simp]
theorem plainlyNamed_construct {ty : ShaderType} {args : List Expr} :
    (construct ty args).PlainlyNamed ↔ ∀ arg ∈ args, arg.PlainlyNamed := by
  refine plainlyNamed_iff.trans ?_
  show (∀ n ∈ none, IsIdentifier n) ∧ (∀ arg ∈ args, arg.PlainlyNamed) ↔ _
  simp

end Expr

/-! ## Spellings -/

/-- Digits are characters of words. -/
theorem isAsciiWordChar_of_isDigit {c : Char} (h : c.isDigit = true) :
    Text.isAsciiWordChar c = true := by
  simp [Text.isAsciiWordChar, Char.isAlphanum, h]

/-- The name of a type is a word, apart from the brackets around a type argument. -/
theorem ShaderType.mem_spell {t : Target} {ty : ShaderType} {c : Char}
    (h : c ∈ (ty.spell t).toList) : Text.isAsciiWordChar c = true ∨ c ∈ ['<', '>'] := by
  have hscalar (t : Target) (s : ScalarType) :
      ∀ c ∈ (s.spell t).toList, Text.isAsciiWordChar c = true :=
    List.all_eq_true.mp (by cases t <;> cases s <;> decide)
  have hstem (s : ScalarType) : ∀ c ∈ s.vectorStem.toList, Text.isAsciiWordChar c = true :=
    List.all_eq_true.mp (by cases s <;> decide)
  have hwidth (n : Nat) : ∀ c ∈ (toString n).toList, Text.isAsciiWordChar c = true := by
    rw [Nat.toString_eq_ofList_toDigits, String.toList_ofList]
    exact fun c hc =>
      isAsciiWordChar_of_isDigit (Nat.isDigit_of_mem_toDigits (by decide) (by decide) hc)
  cases ty with
  | scalar s => exact .inl (hscalar t s c h)
  | vector n s =>
    cases t with
    | glsl =>
      simp only [spell, String.toList_append, List.mem_append] at h
      exact .inl (h.elim (hstem s c) (hwidth n c))
    | wgsl =>
      simp only [spell, String.toList_append, List.mem_append] at h
      rcases h with (((h | h) | h) | h) | h
      · exact .inl (List.all_eq_true.mp (by decide : "vec".toList.all Text.isAsciiWordChar) c h)
      · exact .inl (hwidth n c h)
      · exact .inr (by simp_all)
      · exact .inl (hscalar .wgsl s c h)
      · exact .inr (by simp_all)

end ComputeKernels.Shader

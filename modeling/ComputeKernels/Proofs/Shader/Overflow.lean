import ComputeKernels.Proofs.Shader.Meaning
import ComputeKernels.Proofs.Shader.Subexpressions

/-!
# Evaluation without overflow

The numbers that the evaluation of code comes across before it has its result.  As long as none of them
needs more than 32 bits, the code computes the same whether integers are exact or cut to 32 bits.  It is
not enough that the result fits: a quotient or a remainder depends on what was cut off before.

Main definitions:

- `IsInt32`: the signed numbers of 32 bits.
- `Expr.numbers`, `Stmt.numbers`: the numbers that exact evaluation comes across.

Main results:

- Theorem `Expr.eval_under`: an expression has its exact value under any arithmetic.
- Theorem `Stmt.runAll_under`: statements have their exact effect.
- Theorem `Function.apply_under`: a function returns and writes what it does on exact integers.
-/

namespace ComputeKernels.Shader

variable {s : Setting} {calls : Calls} {locals : Locals}

/-! ## Signed numbers of 32 bits -/

/-- The signed numbers of 32 bits. -/
def IsInt32 (n : Int) : Prop := -2 ^ 31 ≤ n ∧ n < 2 ^ 31

instance : DecidablePred IsInt32 := fun n => inferInstanceAs (Decidable (-2 ^ 31 ≤ n ∧ n < 2 ^ 31))

/-- A number of 32 bits is kept. -/
theorem settle_of_isInt32 (a : Arithmetic) {n : Int} (h : IsInt32 n) : a.settle n = n := by
  cases a with
  | exact => rfl
  | wrapping =>
    rw [Arithmetic.settle]
    rcases h with ⟨hlower, hupper⟩
    apply Int.bmod_eq_of_le <;> omega

/-- What a run finds outside its code, under another arithmetic. -/
def Setting.under (s : Setting) (a : Arithmetic) : Setting := { s with arithmetic := a }

@[simp]
theorem Setting.arithmetic_under (s : Setting) (a : Arithmetic) : (s.under a).arithmetic = a :=
  rfl

/-! ## Operators -/

/-- A result that fits is the exact one. -/
theorem Operator.apply_eq_exact (a : Arithmetic) {op : Operator} {x y : Atom}
    (h : ∀ n, op.apply .exact x y = some (.int n) → IsInt32 n) :
    op.apply a x y = op.apply .exact x y := by
  match x, y with
  | .int m, .int n =>
    simp only [apply] at h ⊢
    cases hresult : op.calculate? m n with
    | none => rfl
    | some r =>
      simp only [hresult, settle_exact] at h ⊢
      rw [settle_of_isInt32 a (h r rfl)]
  | .int _, .float _ | .int _, .bool _ => rfl
  | .float _, y => cases y <;> rfl
  | .bool _, y => cases y <;> rfl

/-- So is a number that fits and is made from another value. -/
theorem ShaderType.convert_eq_exact (a : Arithmetic) {ty : ShaderType} {v : Value}
    (h : ∀ n, ty.convert .exact v = .int n → IsInt32 n) : ty.convert a v = ty.convert .exact v := by
  unfold convert at h ⊢
  split
  · next n =>
    rw [settle_of_isInt32 a (h n rfl), settle_exact]
  · rfl

private theorem ShaderType.build?_eq_exact (a : Arithmetic) {ty : ShaderType} {vs : List Value}
    (h : ∀ n, ty.build? .exact vs = some (.int n) → IsInt32 n) :
    ty.build? a vs = ty.build? .exact vs := by
  match vs with
  | [] => rfl
  | [v] =>
    change some (ty.convert a v) = some (ty.convert .exact v)
    rw [convert_eq_exact a fun n hn => h n (congrArg some hn)]
  | _ :: _ :: _ => rfl

/-! ## Expressions -/

namespace Expr

/-- The numbers that an expression and the expressions that it is made of have as their values. -/
def numbers (s : Setting) (calls : Calls) (locals : Locals) (e : Expr) : List Int :=
  e.subexpressions.filterMap fun part => (part.eval s calls locals).bind Value.int?

@[simp]
theorem numbers_ident (name : String) :
    (ident name).numbers s calls locals = ((locals.lookup name).bind Value.int?).toList := by
  cases h : (locals.lookup name).bind Value.int? <;>
    simp [numbers, subexpressions, eval_ident, h]

@[simp]
theorem numbers_int (n : Int) : (int n).numbers (s.under .exact) calls locals = [n] := by
  simp [numbers, subexpressions, eval, Value.int?]

@[simp]
theorem numbers_float (bits : UInt32) : (float bits).numbers s calls locals = [] := by
  simp [numbers, subexpressions, eval, Value.int?]

/-- An operation comes across its result, if that is a number, and across what its operands do. -/
theorem numbers_binary {op : Operator} {left right : Expr} {v : Value}
    (h : (binary op left right).eval s calls locals = some v) :
    (binary op left right).numbers s calls locals =
      v.int?.toList ++ (left.numbers s calls locals ++ right.numbers s calls locals) := by
  cases hv : v.int? <;> simp [numbers, subexpressions, h, hv]

/-- What holds of the value of an expression and of the numbers of its parts holds of its numbers. -/
theorem forall_mem_numbers {e : Expr} {p : Int → Prop} :
    (∀ n ∈ e.numbers s calls locals, p n) ↔
      (∀ n, e.eval s calls locals = some (.int n) → p n) ∧
        ∀ part ∈ e.parts, ∀ n ∈ part.numbers s calls locals, p n := by
  have hnumbers : ∀ e : Expr, (∀ n ∈ e.numbers s calls locals, p n) ↔
      ∀ part ∈ e.subexpressions, ∀ n, part.eval s calls locals = some (.int n) → p n := by
    intro e
    simp only [numbers, List.mem_filterMap, Option.bind_eq_some_iff]
    constructor
    · exact fun h part hpart n hn => h n ⟨part, hpart, .int n, hn, rfl⟩
    · rintro h n ⟨part, hpart, v, hv, hint⟩
      unfold Value.int? at hint
      split at hint
      · next m =>
        obtain rfl : m = n := Option.some.inj hint
        exact h part hpart m hv
      · cases hint
  rw [hnumbers, forall_mem_subexpressions]
  exact and_congr_right fun _ => forall₂_congr fun part _ => (hnumbers part).symm

private theorem evalAll_congr {t : Setting} {es : List Expr}
    (h : ∀ e ∈ es, e.eval s calls locals = e.eval t calls locals) :
    evalAll s calls locals es = evalAll t calls locals es := by
  induction es with
  | nil => rw [evalAll, evalAll]
  | cons e es ih =>
    rw [List.forall_mem_cons] at h
    rw [evalAll, evalAll, h.1, ih h.2]

/-- An expression has its exact value under any arithmetic, if no number on the way to it needs more
than 32 bits. -/
theorem eval_under (a : Arithmetic) {e : Expr}
    (h : ∀ n ∈ e.numbers (s.under .exact) calls locals, IsInt32 n) :
    e.eval (s.under a) calls locals = e.eval (s.under .exact) calls locals := by
  induction e using Expr.induction with
  | ident name => rw [eval, eval]
  | float bits => rw [eval, eval]
  | bool value => rw [eval, eval]
  | builtin which => rw [eval, eval]; rfl
  | int value =>
    rw [forall_mem_numbers] at h
    have hvalue : IsInt32 value := h.1 value (eval_int rfl value)
    rw [eval, eval, settle_of_isInt32 _ hvalue, settle_of_isInt32 _ hvalue]
  | member base name ih =>
    rw [forall_mem_numbers] at h
    rw [eval, eval, ih (h.2 base (by simp [parts]))]
    rfl
  | index base position ihbase ihposition =>
    rw [forall_mem_numbers] at h
    rw [eval, eval, ihposition (h.2 position (by simp [parts]))]
    rfl
  | binary op left right ihleft ihright =>
    rw [forall_mem_numbers] at h
    have hleft := ihleft (h.2 left (by simp [parts]))
    have hright := ihright (h.2 right (by simp [parts]))
    have hvalue := h.1
    rw [eval] at hvalue
    rw [eval, eval, hleft, hright]
    refine Option.bind_congr fun u hu => Option.bind_congr fun x hx => ?_
    cases hshortcut : op.shortcut? x with
    | some result => rfl
    | none =>
      refine Option.bind_congr fun v hv => Option.bind_congr fun y hy => ?_
      have hfits : ∀ n, op.apply .exact x y = some (.int n) → IsInt32 n := fun n hn =>
        hvalue n (by simp [hu, hx, hshortcut, hv, hy, hn])
      rw [Setting.arithmetic_under, Operator.apply_eq_exact a hfits, Setting.arithmetic_under]
  | neg operand ih =>
    rw [forall_mem_numbers] at h
    have hoperand := ih (h.2 operand (by simp [parts]))
    have hvalue := h.1
    rw [eval] at hvalue
    rw [eval, eval, hoperand]
    refine Option.bind_congr fun u hu => Option.bind_congr fun n hn => ?_
    have hfits : IsInt32 (-n) := hvalue (-n) (by simp [hu, hn])
    simp only [settle_of_isInt32 _ hfits]
  | call name args ih =>
    rw [forall_mem_numbers] at h
    rw [eval, eval, evalAll_congr fun arg harg => ih arg harg (h.2 arg harg)]
  | construct ty args ih =>
    rw [forall_mem_numbers] at h
    have hvalue := h.1
    rw [eval] at hvalue
    rw [eval, eval, evalAll_congr fun arg harg => ih arg harg (h.2 arg harg)]
    refine Option.bind_congr fun vs hvs => ShaderType.build?_eq_exact a fun n hn => hvalue n ?_
    rw [hvs]
    exact hn

/-- The numbers that finding the place of an assignment comes across. -/
def placeNumbers (s : Setting) (calls : Calls) (locals : Locals) : Expr → List Int
  | .index _ position => position.numbers s calls locals
  | _ => []

private theorem assign?_under (a : Arithmetic) {f : Frame} {v : Value} {place : Expr}
    (h : ∀ n ∈ place.placeNumbers (s.under .exact) calls f.locals, IsInt32 n) :
    place.assign? (s.under a) calls f v = place.assign? (s.under .exact) calls f v := by
  cases place with
  | index base position =>
    simp only [assign?, eval_under a h]
    rfl
  | member base component => cases base <;> rfl
  | _ => rfl

end Expr

/-! ## Statements -/

mutual

/-- The numbers that the effect of a statement comes across. -/
def Stmt.numbers (s : Setting) (calls : Calls) (f : Frame) : Stmt → List Int
  | .constant _ _ value => value.numbers s calls f.locals
  | .variable _ _ value => value.numbers s calls f.locals
  | .assign place value =>
    value.numbers s calls f.locals ++ place.placeNumbers s calls f.locals
  | .ifThen condition body =>
    condition.numbers s calls f.locals ++
      if condition.eval s calls f.locals = some (.atom (.bool true)) then
        Stmt.allNumbers s calls f body
      else []
  | .ret none => []
  | .ret (some value) => value.numbers s calls f.locals
  | .expr value => value.numbers s calls f.locals

/-- The numbers that the effect of a list of statements comes across, up to the first that returns. -/
def Stmt.allNumbers (s : Setting) (calls : Calls) (f : Frame) : List Stmt → List Int
  | [] => []
  | statement :: rest =>
    statement.numbers s calls f ++
      match statement.run s calls f with
      | some g => if g.returned.isSome then [] else Stmt.allNumbers s calls g rest
      | none => []

end

/-- A statement that does not return is followed by those after it. -/
theorem Stmt.runAll_cons {statement : Stmt} {rest : List Stmt} {f g : Frame}
    (hrun : statement.run s calls f = some g) (hopen : g.returned = none) :
    Stmt.runAll s calls f (statement :: rest) = Stmt.runAll s calls g rest := by
  simp [Stmt.runAll, hrun, hopen]

/-- The numbers of a statement come before those of the rest. -/
theorem Stmt.allNumbers_cons {statement : Stmt} {rest : List Stmt} {f g : Frame}
    (hrun : statement.run s calls f = some g) (hopen : g.returned = none) :
    Stmt.allNumbers s calls f (statement :: rest) =
      statement.numbers s calls f ++ Stmt.allNumbers s calls g rest := by
  simp [Stmt.allNumbers, hrun, hopen]

/-- Nothing after a return has numbers. -/
theorem Stmt.allNumbers_ret {e : Expr} {rest : List Stmt} {f : Frame} {v : Value}
    (he : e.eval s calls f.locals = some v) :
    Stmt.allNumbers s calls f (.ret (some e) :: rest) = e.numbers s calls f.locals := by
  simp [Stmt.allNumbers, Stmt.numbers, Stmt.run, he]

mutual

private theorem Stmt.run_under (a : Arithmetic) (f : Frame) :
    ∀ statement : Stmt, (∀ n ∈ statement.numbers (s.under .exact) calls f, IsInt32 n) →
    statement.run (s.under a) calls f = statement.run (s.under .exact) calls f
  | .constant name ty value, h => by
    rw [Stmt.numbers] at h
    rw [Stmt.run, Stmt.run, Expr.eval_under a h]
  | .variable name ty value, h => by
    rw [Stmt.numbers] at h
    rw [Stmt.run, Stmt.run, Expr.eval_under a h]
  | .assign place value, h => by
    rw [Stmt.numbers, List.forall_mem_append] at h
    rw [Stmt.run, Stmt.run, Expr.eval_under a h.1]
    exact Option.bind_congr fun v _ => Expr.assign?_under a h.2
  | .ifThen condition body, h => by
    rw [Stmt.numbers, List.forall_mem_append] at h
    rw [Stmt.run, Stmt.run, Expr.eval_under a h.1]
    refine Option.bind_congr fun v hv => ?_
    split
    · next =>
      have hbody := h.2
      rw [if_pos hv] at hbody
      rw [Stmt.runAll_under a f body hbody]
    · rfl
    · rfl
  | .ret none, _ => by rw [Stmt.run, Stmt.run]
  | .ret (some value), h => by
    rw [Stmt.numbers] at h
    rw [Stmt.run, Stmt.run, Expr.eval_under a h]
  | .expr value, h => by
    rw [Stmt.numbers, Expr.forall_mem_numbers] at h
    cases value with
    | call name args =>
      have hargs : Expr.evalAll (s.under a) calls f.locals args =
          Expr.evalAll (s.under .exact) calls f.locals args :=
        Expr.evalAll_congr fun arg harg => Expr.eval_under a (h.2 arg harg)
      rw [Stmt.run, Stmt.run, hargs]
    | _ => rfl

/-- Where all numbers fit 32 bits, statements run on cut numbers as on exact ones. -/
theorem Stmt.runAll_under (a : Arithmetic) (f : Frame) : ∀ statements : List Stmt,
    (∀ n ∈ Stmt.allNumbers (s.under .exact) calls f statements, IsInt32 n) →
    Stmt.runAll (s.under a) calls f statements = Stmt.runAll (s.under .exact) calls f statements
  | [], _ => by rw [Stmt.runAll, Stmt.runAll]
  | statement :: rest, h => by
    rw [Stmt.allNumbers, List.forall_mem_append] at h
    rw [Stmt.runAll, Stmt.runAll, Stmt.run_under a f statement h.1]
    refine Option.bind_congr fun g hg => ?_
    split
    · rfl
    · next hopen =>
      have hrest := h.2
      simp only [hg, if_neg hopen] at hrest
      exact Stmt.runAll_under a g rest hrest

end

/-! ## Functions -/

namespace Function

/-- The numbers that a call of a function comes across. -/
def numbers (s : Setting) (calls : Calls) (g : Function) (args : List Value) : List Int :=
  Stmt.allNumbers s calls { locals := (g.params.map (·.name)).zip args } g.body

/-- A function returns and writes what it does on exact integers, if no number on the way needs more
than 32 bits. -/
theorem apply_under (a : Arithmetic) {g : Function} {args : List Value}
    (h : ∀ n ∈ g.numbers (s.under .exact) calls args, IsInt32 n) :
    g.apply (s.under a) calls args = g.apply (s.under .exact) calls args := by
  rw [apply, apply, Stmt.runAll_under a _ g.body h]

end Function

end ComputeKernels.Shader

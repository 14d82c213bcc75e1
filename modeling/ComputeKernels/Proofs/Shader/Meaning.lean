import ComputeKernels.Proofs.Shader.Evaluation
import Mathlib.Algebra.Ring.Int.Defs
import Mathlib.Data.List.Forall2
import Mathlib.Data.List.Nodup

/-!
# Laws of evaluation

How the values of expressions follow from those of their parts, how statements change the locals of a
function, and what the names of a list of functions mean.

Main results:

- Theorems `eval_sum` and `eval_product`: chains of numbers have their sum and their product.
- Theorem `exists_runAll_assign`: an assignment that replaces a local leaves the others.
- Theorem `exists_calls_of_split`: a function of a list runs where all functions before it mean what
  they mean at the end.
- Theorem `blockValues_of_mem`: a member of a block has the value of its contents.
-/

namespace ComputeKernels.Shader

open ComputeKernels.Uniform

variable {s : Setting} {calls : Calls} {locals : Locals}

@[simp]
theorem settle_exact (n : Int) : Arithmetic.exact.settle n = n :=
  rfl

/-- Numbers of 31 bits are kept. -/
theorem settle_of_lt (a : Arithmetic) {n : Nat} (h : n < 2 ^ 31) : a.settle n = n := by
  cases a with
  | exact => rfl
  | wrapping =>
    rw [Arithmetic.settle]
    apply Int.bmod_eq_of_le <;> omega

/-! ## Vectors of numbers -/

namespace Value

/-- A vector of exact numbers. -/
def numbers (ns : List Nat) : Value := .vector (ns.map fun n : Nat => .int n)

/-- A vector of integers. -/
def integers (ns : List Int) : Value := .vector (ns.map .int)

/-- Numbers are integers of the same size. -/
theorem integers_natCast (ns : List Nat) : integers (ns.map Nat.cast) = numbers ns := by
  simp [integers, numbers, Function.comp_def]

/-- Two counts or more are a vector of what they settle to. -/
theorem ofCounts_eq_integers {a : Arithmetic} {ns : List Nat} (h : 2 ≤ ns.length) :
    ofCounts a ns = integers (ns.map fun n : Nat => a.settle n) := by
  match ns with
  | [] => simp at h
  | [n] => simp at h
  | m :: n :: ns => simp [ofCounts, integers]

/-- On exact numbers two counts or more are a vector of them. -/
theorem ofCounts_of_two_le {ns : List Nat} (h : 2 ≤ ns.length) :
    ofCounts .exact ns = numbers ns := by
  simp only [ofCounts_eq_integers h, settle_exact, integers_natCast]

end Value

/-! ## Expressions -/

/-- A name has the value of its local. -/
theorem eval_ident (name : String) :
    (Expr.ident name).eval s calls locals = locals.lookup name := by
  rw [Expr.eval]

/-- A uniform member has the value that the setting gives it. -/
theorem eval_uniform (name : String) :
    (Expr.uniform name).eval s calls locals = s.uniforms name := by
  simp [Expr.uniform, Expr.eval, Expr.isBlock]

/-- On exact numbers a literal has its own value. -/
theorem eval_int (hs : s.arithmetic = .exact) (n : Int) :
    (Expr.int n).eval s calls locals = some (.int n) := by
  rw [Expr.eval, hs, settle_exact]

/-- An operation on two numbers. -/
theorem eval_binary {op : Operator} {left right : Expr} {m n r : Int}
    (hleft : left.eval s calls locals = some (.int m))
    (hright : right.eval s calls locals = some (.int n)) (hop : op.calculate? m n = some r) :
    (Expr.binary op left right).eval s calls locals = some (.int (s.arithmetic.settle r)) := by
  have hshortcut : op.shortcut? (.int m) = none := by cases op <;> rfl
  have happly : op.apply s.arithmetic (.int m) (.int n) = some (.int (s.arithmetic.settle r)) := by
    simp only [Operator.apply, hop]
  simp [Expr.eval, hleft, hright, Value.atom?, hshortcut, happly]

private theorem eval_add (hs : s.arithmetic = .exact) {left right : Expr} {m n : Int}
    (hleft : left.eval s calls locals = some (.int m))
    (hright : right.eval s calls locals = some (.int n)) :
    (Expr.binary .add left right).eval s calls locals = some (.int (m + n)) := by
  rw [eval_binary hleft hright rfl, hs, settle_exact]

/-- The product of two integers. -/
theorem eval_signedMul (hs : s.arithmetic = .exact) {left right : Expr} {m n : Int}
    (hleft : left.eval s calls locals = some (.int m))
    (hright : right.eval s calls locals = some (.int n)) :
    (Expr.binary .mul left right).eval s calls locals = some (.int (m * n)) := by
  rw [eval_binary hleft hright rfl, hs, settle_exact]

/-- The product of two numbers. -/
theorem eval_mul (hs : s.arithmetic = .exact) {left right : Expr} {m n : Nat}
    (hleft : left.eval s calls locals = some (.int m))
    (hright : right.eval s calls locals = some (.int n)) :
    (Expr.binary .mul left right).eval s calls locals = some (.int (m * n : Nat)) := by
  rw [eval_signedMul hs hleft hright, Int.natCast_mul]

/-- The quotient of two numbers. -/
theorem eval_div (hs : s.arithmetic = .exact) {left right : Expr} {m n : Nat}
    (hleft : left.eval s calls locals = some (.int m))
    (hright : right.eval s calls locals = some (.int n)) (hn : n ≠ 0) :
    (Expr.binary .div left right).eval s calls locals = some (.int (m / n : Nat)) := by
  have hop : Operator.div.calculate? (m : Int) n = some ((m / n : Nat) : Int) := by
    simp [Operator.calculate?, hn]
  rw [eval_binary hleft hright hop, hs, settle_exact]

/-- A comparison of two numbers. -/
theorem eval_compare {op : Operator} {left right : Expr} {m n : Int} {holds : Bool}
    (hleft : left.eval s calls locals = some (.int m))
    (hright : right.eval s calls locals = some (.int n)) (hop : op.compare? m n = some holds) :
    (Expr.binary op left right).eval s calls locals = some (.atom (.bool holds)) := by
  have hshortcut : op.shortcut? (.int m) = none := by cases op <;> rfl
  have hcalculate : op.calculate? m n = none := by cases op <;> simp_all [Operator.compare?] <;> rfl
  have happly : op.apply s.arithmetic (.int m) (.int n) = some (.bool holds) := by
    simp only [Operator.apply, hcalculate, hop, Option.map_some]
  simp [Expr.eval, hleft, hright, Value.atom?, hshortcut, happly]

/-- One integer compared with another from below. -/
theorem eval_lt {left right : Expr} {m n : Int}
    (hleft : left.eval s calls locals = some (.int m))
    (hright : right.eval s calls locals = some (.int n)) :
    (Expr.binary .lt left right).eval s calls locals = some (.atom (.bool (decide (m < n)))) :=
  eval_compare hleft hright rfl

/-- One integer compared with another from above. -/
theorem eval_ge {left right : Expr} {m n : Int}
    (hleft : left.eval s calls locals = some (.int m))
    (hright : right.eval s calls locals = some (.int n)) :
    (Expr.binary .ge left right).eval s calls locals = some (.atom (.bool (decide (n ≤ m)))) :=
  eval_compare hleft hright rfl

/-- A conjunction, whose right side is not looked at if the left one fails. -/
theorem eval_and {left right : Expr} {p q : Bool}
    (hleft : left.eval s calls locals = some (.atom (.bool p)))
    (hright : right.eval s calls locals = some (.atom (.bool q))) :
    (Expr.binary .and left right).eval s calls locals = some (.atom (.bool (p && q))) := by
  cases p <;>
    simp [Expr.eval, hleft, hright, Value.atom?, Operator.shortcut?, Operator.apply]

/-- The expressions of a list have the numbers of another as their values, in order. -/
abbrev EvalNumbers (s : Setting) (calls : Calls) (locals : Locals) :
    List Expr → List Nat → Prop :=
  List.Forall₂ fun e (n : Nat) => e.eval s calls locals = some (.int n)

/-- The same for integers. -/
abbrev EvalIntegers (s : Setting) (calls : Calls) (locals : Locals) :
    List Expr → List Int → Prop :=
  List.Forall₂ fun e (n : Int) => e.eval s calls locals = some (.int n)

/-- A chain of additions has the sum of its terms. -/
theorem eval_sum (hs : s.arithmetic = .exact) {terms : List Expr} {ns : List Int}
    (h : EvalIntegers s calls locals terms ns) :
    (Expr.chain .add terms (.int 0)).eval s calls locals = some (.int ns.sum) := by
  have hfold : ∀ {terms : List Expr} {ns : List Int} {e : Expr} {n : Int},
      EvalIntegers s calls locals terms ns → e.eval s calls locals = some (.int n) →
      (terms.foldl (.binary .add) e).eval s calls locals = some (.int (n + ns.sum)) := by
    intro terms ns e n hterms
    induction hterms generalizing e n with
    | nil => exact fun he => by simpa using he
    | cons ht _ ih =>
      intro he
      rw [List.foldl_cons, ih (eval_add hs he ht), List.sum_cons, Int.add_assoc]
  cases h with
  | nil => exact eval_int hs 0
  | cons ht hrest => exact hfold hrest ht

/-- The expressions of a list are tests with the given outcomes, in order. -/
abbrev EvalTests (s : Setting) (calls : Calls) (locals : Locals) :
    List Expr → List Bool → Prop :=
  List.Forall₂ fun e p => e.eval s calls locals = some (.atom (.bool p))

/-- A chain of conjunctions holds if all its terms do. -/
theorem eval_all {terms : List Expr} {ps : List Bool} (h : EvalTests s calls locals terms ps) :
    (Expr.chain .and terms (.bool true)).eval s calls locals =
      some (.atom (.bool (ps.all id))) := by
  have hfold : ∀ {terms : List Expr} {ps : List Bool} {e : Expr} {p : Bool},
      EvalTests s calls locals terms ps → e.eval s calls locals = some (.atom (.bool p)) →
      (terms.foldl (.binary .and) e).eval s calls locals =
        some (.atom (.bool (p && ps.all id))) := by
    intro terms ps e p hterms
    induction hterms generalizing e p with
    | nil => exact fun he => by simpa using he
    | cons ht _ ih =>
      intro he
      rw [List.foldl_cons, ih (eval_and he ht), List.all_cons, Bool.and_assoc, id]
  cases h with
  | nil => simp [Expr.chain, Expr.eval]
  | cons ht hrest => exact hfold hrest ht

/-- A chain of multiplications has the product of its terms. -/
theorem eval_product (hs : s.arithmetic = .exact) {terms : List Expr} {ns : List Nat}
    (h : EvalNumbers s calls locals terms ns) :
    (Expr.chain .mul terms (.int 1)).eval s calls locals = some (.int (Shape.size ns : Nat)) := by
  have hfold : ∀ {terms : List Expr} {ns : List Nat} {e : Expr} {n : Nat},
      EvalNumbers s calls locals terms ns → e.eval s calls locals = some (.int n) →
      (terms.foldl (.binary .mul) e).eval s calls locals =
        some (.int (n * Shape.size ns : Nat)) := by
    intro terms ns e n hterms
    induction hterms generalizing e n with
    | nil => exact fun he => by simpa using he
    | cons ht _ ih =>
      intro he
      rw [List.foldl_cons, ih (eval_mul hs he ht), Shape.size_cons, Nat.mul_assoc]
  cases h with
  | nil => exact eval_int hs 1
  | cons ht hrest => exact hfold hrest ht

/-- The first four components have names. -/
theorem idxOf?_componentName (axis : Nat) (h : axis < 4) :
    componentNames.idxOf? (componentName axis) = some axis := by
  have haxis : axis = 0 ∨ axis = 1 ∨ axis = 2 ∨ axis = 3 := by omega
  rcases haxis with rfl | rfl | rfl | rfl <;> decide

/-- A component of a vector of integers. -/
theorem eval_signedAxisOf {base : Expr} {ns : List Int} {axis : Nat} (hblock : base.isBlock = false)
    (hbase : base.eval s calls locals = some (.integers ns)) (hfour : ns.length ≤ 4)
    (haxis : axis < ns.length) :
    (axisOf base axis).eval s calls locals = some (.int ns[axis]) := by
  have hname := idxOf?_componentName axis (by omega)
  simp [axisOf, Expr.eval, hblock, hbase, Value.component?, hname, Value.integers, haxis]

/-- A component of a vector of numbers. -/
theorem eval_axisOf {base : Expr} {ns : List Nat} {axis : Nat} (hblock : base.isBlock = false)
    (hbase : base.eval s calls locals = some (.numbers ns)) (hfour : ns.length ≤ 4)
    (haxis : axis < ns.length) :
    (axisOf base axis).eval s calls locals = some (.int ns[axis]) := by
  rw [← Value.integers_natCast] at hbase
  rw [eval_signedAxisOf hblock hbase (by simpa using hfour) (by simpa using haxis),
    List.getElem_map]

/-- Components of a vector of numbers, one after the other. -/
theorem evalNumbers_axes {base : Expr} {ns : List Nat} (hblock : base.isBlock = false)
    (hbase : base.eval s calls locals = some (.numbers ns)) (hfour : ns.length ≤ 4)
    {start count : Nat} (hcount : start + count = ns.length) :
    EvalNumbers s calls locals ((List.range' start count).map (axisOf base)) (ns.drop start) := by
  rw [EvalNumbers, List.forall₂_iff_get]
  refine ⟨by simp; omega, fun i hi hdrop => ?_⟩
  have haxis : start + i < ns.length := by simpa using Nat.add_lt_of_lt_sub' (by simpa using hdrop)
  simpa using eval_axisOf hblock hbase hfour haxis

/-- Expressions one by one have their values together. -/
theorem evalAll_of_forall₂ {es : List Expr} {vs : List Value}
    (h : List.Forall₂ (fun e v => e.eval s calls locals = some v) es vs) :
    Expr.evalAll s calls locals es = some vs := by
  induction h with
  | nil => rw [Expr.evalAll]
  | cons he _ ih => simp [Expr.evalAll, he, ih]

/-- Integers one by one have their values together. -/
theorem EvalIntegers.evalAll {es : List Expr} {ns : List Int}
    (h : EvalIntegers s calls locals es ns) :
    Expr.evalAll s calls locals es = some (ns.map .int) :=
  evalAll_of_forall₂ (List.forall₂_map_right_iff.mpr h)

/-- Numbers one by one have their values together. -/
theorem EvalNumbers.evalAll {es : List Expr} {ns : List Nat} (h : EvalNumbers s calls locals es ns) :
    Expr.evalAll s calls locals es = some (ns.map fun n : Nat => .int n) :=
  evalAll_of_forall₂ (List.forall₂_map_right_iff.mpr h)

/-- A vector of two or more integers is made from them. -/
theorem eval_construct_integers {ty : ShaderType} {es : List Expr} {ns : List Int}
    (h : EvalIntegers s calls locals es ns) (hlength : 2 ≤ ns.length)
    (hwidth : ns.length = ty.width) :
    (Expr.construct ty es).eval s calls locals = some (.integers ns) := by
  have hatoms : ∀ ms : List Int, (ms.map Value.int).mapM Value.atom? = some (ms.map Atom.int) := by
    intro ms
    induction ms with
    | nil => rfl
    | cons m ms ih => simp [ih, Value.atom?]
  have hbuild : ty.build? s.arithmetic (ns.map Value.int) = some (.integers ns) := by
    match ns, hlength with
    | m :: n :: ns, _ =>
      change ((m :: n :: ns).map Value.int).mapM Value.atom? >>= _ = _
      rw [hatoms]
      simp [Value.integers, ← hwidth]
  simp [Expr.eval, h.evalAll, hbuild]

/-- A vector of two or more numbers is made from them. -/
theorem eval_construct_numbers {ty : ShaderType} {es : List Expr} {ns : List Nat}
    (h : EvalNumbers s calls locals es ns) (hlength : 2 ≤ ns.length) (hwidth : ns.length = ty.width) :
    (Expr.construct ty es).eval s calls locals = some (.numbers ns) := by
  rw [← Value.integers_natCast]
  exact eval_construct_integers (List.forall₂_map_right_iff.mpr h) (by simpa using hlength)
    (by simpa using hwidth)

/-- The content of a slot, converted. -/
theorem eval_load {ty : ShaderType} {array : String} {position : Expr} {n : Int}
    (hvisible : locals.lookup array = none) (harray : array ∈ s.arrays)
    (hposition : position.eval s calls locals = some (.int n)) :
    (Expr.construct ty [.index (.ident array) position]).eval s calls locals =
      some (.converted ty (.slot array n)) := by
  simp [Expr.eval, Expr.evalAll, Setting.array?, hvisible, harray, hposition, Value.int?,
    ShaderType.build?, ShaderType.convert]

/-- A call of a function that writes nothing. -/
theorem eval_call {name : String} {args : List Expr} {vs : List Value} {v : Value}
    (hargs : Expr.evalAll s calls locals args = some vs)
    (hcall : calls name vs = some ⟨some v, []⟩) :
    (Expr.call name args).eval s calls locals = some v := by
  simp [Expr.eval, hargs, hcall]

/-! ## Statements -/

private theorem Locals.lookup_cons (n m : String) (v : Value) :
    List.lookup m ((n, v) :: locals) = if m = n then some v else locals.lookup m := by
  by_cases h : m = n
  · simp [h]
  · rw [List.lookup_cons, beq_eq_false_iff_ne.mpr h, if_neg h]

/-- Replacing a local leaves the others. -/
theorem Locals.exists_replace {name : String} {w : Value} (v : Value)
    (h : locals.lookup name = some w) :
    ∃ after, Locals.replace? name v locals = some after ∧
      ∀ m, after.lookup m = if m = name then some v else locals.lookup m := by
  induction locals with
  | nil => simp at h
  | cons l rest ih =>
    rcases l with ⟨n, u⟩
    rw [Locals.lookup_cons] at h
    by_cases hn : n = name
    · subst hn
      refine ⟨(n, v) :: rest, by simp [Locals.replace?], fun m => ?_⟩
      rw [Locals.lookup_cons, Locals.lookup_cons]
      split <;> rfl
    · rw [if_neg (Ne.symm hn)] at h
      rcases ih h with ⟨after, hafter, hlookup⟩
      refine ⟨(n, u) :: after, by simp [Locals.replace?, hn, hafter], fun m => ?_⟩
      rw [Locals.lookup_cons, Locals.lookup_cons, hlookup]
      by_cases hm : m = name
      · rw [if_pos hm, if_pos hm, if_neg (hm ▸ Ne.symm hn)]
      · rw [if_neg hm, if_neg hm]

/-- A declared local has its value, and hides only what had its name. -/
theorem Frame.lookup_declare (f : Frame) (name m : String) (v : Value) :
    (f.declare name v).locals.lookup m = if m = name then some v else f.locals.lookup m :=
  Locals.lookup_cons name m v

variable {f : Frame}

/-- A constant is declared with the value of its expression. -/
theorem runAll_constant {name : String} {ty : ShaderType} {e : Expr} {v : Value}
    {rest : List Stmt} (hf : f.returned = none) (he : e.eval s calls f.locals = some v) :
    Stmt.runAll s calls f (.constant name ty e :: rest) =
      Stmt.runAll s calls (f.declare name v) rest := by
  simp [Stmt.runAll, Stmt.run, he, Frame.declare, hf]

/-- So is a variable. -/
theorem runAll_variable {name : String} {ty : ShaderType} {e : Expr} {v : Value}
    {rest : List Stmt} (hf : f.returned = none) (he : e.eval s calls f.locals = some v) :
    Stmt.runAll s calls f (.variable name ty e :: rest) =
      Stmt.runAll s calls (f.declare name v) rest := by
  simp [Stmt.runAll, Stmt.run, he, Frame.declare, hf]

/-- Returning ends the statements with the value of the expression. -/
theorem runAll_ret {e : Expr} {v : Value} {rest : List Stmt}
    (he : e.eval s calls f.locals = some v) :
    Stmt.runAll s calls f (.ret (some e) :: rest) = some { f with returned := some (some v) } := by
  simp [Stmt.runAll, Stmt.run, he]

/-- A call as a statement leaves nothing but what it wrote. -/
theorem runAll_call {name : String} {args : List Expr} {vs : List Value} {outcome : Outcome}
    {rest : List Stmt} (hf : f.returned = none)
    (hargs : Expr.evalAll s calls f.locals args = some vs) (hcall : calls name vs = some outcome) :
    Stmt.runAll s calls f (.expr (.call name args) :: rest) =
      Stmt.runAll s calls (f.wrote outcome.writes) rest := by
  simp [Stmt.runAll, Stmt.run, hargs, hcall, Frame.wrote, hf]

/-- Where the condition holds, a conditional statement runs its block. -/
theorem runAll_ifThen_true {condition : Expr} {body rest : List Stmt} {g : Frame}
    (hcondition : condition.eval s calls f.locals = some (.atom (.bool true)))
    (hbody : Stmt.runAll s calls f body = some g) (hg : g.returned = none) :
    Stmt.runAll s calls f (.ifThen condition body :: rest) =
      Stmt.runAll s calls (f.leaveBlock g) rest := by
  simp [Stmt.runAll, Stmt.run, hcondition, hbody, Frame.leaveBlock, hg]

/-- Where it does not hold, a conditional statement does nothing. -/
theorem runAll_ifThen_false {condition : Expr} {body rest : List Stmt} (hf : f.returned = none)
    (hcondition : condition.eval s calls f.locals = some (.atom (.bool false))) :
    Stmt.runAll s calls f (.ifThen condition body :: rest) = Stmt.runAll s calls f rest := by
  simp [Stmt.runAll, Stmt.run, hcondition, hf]

/-- Assigning to a slot of an array writes to it. -/
theorem runAll_assign_slot {array : String} {place e : Expr} {n : Int} {v : Value}
    {rest : List Stmt} (hf : f.returned = none) (hvisible : f.locals.lookup array = none)
    (harray : array ∈ s.arrays) (hplace : place.eval s calls f.locals = some (.int n))
    (he : e.eval s calls f.locals = some v) :
    Stmt.runAll s calls f (.assign (.index (.ident array) place) e :: rest) =
      Stmt.runAll s calls (f.wrote [⟨array, n, v⟩]) rest := by
  simp [Stmt.runAll, Stmt.run, he, Expr.assign?, Setting.array?, hvisible, harray, hplace,
    Value.int?, Frame.wrote, hf]

/-- An assignment that replaces a local leaves the others. -/
theorem exists_runAll_assign {place e : Expr} {name : String} {u v w : Value}
    (hf : f.returned = none) (hlookup : f.locals.lookup name = some w)
    (he : e.eval s calls f.locals = some u)
    (hplace : place.assign? s calls f u = f.replace? name v) :
    ∃ g : Frame, (∀ rest, Stmt.runAll s calls f (.assign place e :: rest) =
        Stmt.runAll s calls g rest) ∧
      g.returned = none ∧ g.writes = f.writes ∧
      ∀ m, g.locals.lookup m = if m = name then some v else f.locals.lookup m := by
  rcases Locals.exists_replace v hlookup with ⟨after, hafter, hother⟩
  refine ⟨{ f with locals := after }, fun rest => ?_, hf, rfl, hother⟩
  simp [Stmt.runAll, Stmt.run, he, hplace, Frame.replace?, hafter, hf]

/-! ## Functions -/

/-- A function that runs to a return and writes nothing. -/
theorem apply_of_runAll {g : Function} {args : List Value} {final : Frame} {v : Value}
    (hargs : args.length = g.params.length)
    (hrun : Stmt.runAll s calls { locals := (g.params.map (·.name)).zip args } g.body = some final)
    (hreturned : final.returned = some (some v)) (hwrites : final.writes = []) :
    g.apply s calls args = some ⟨some v, []⟩ := by
  simp [Function.apply, hargs, hrun, hreturned, hwrites]

/-- A function whose body is one return. -/
theorem apply_of_ret {g : Function} {args : List Value} {e : Expr} {v : Value}
    (hbody : g.body = [.ret (some e)]) (hargs : args.length = g.params.length)
    (he : e.eval s calls ((g.params.map (·.name)).zip args) = some v) :
    g.apply s calls args = some ⟨some v, []⟩ := by
  let f : Frame := { locals := (g.params.map (·.name)).zip args }
  have hrun : Stmt.runAll s calls f g.body = some { f with returned := some (some v) } := by
    rw [hbody]
    exact runAll_ret he
  exact apply_of_runAll hargs hrun rfl rfl

private theorem foldl_define_of_not_mem {functions : List Function} {name : String}
    (h : name ∉ functions.map (·.name)) :
    functions.foldl (Calls.define s) calls name = calls name := by
  induction functions generalizing calls with
  | nil => rfl
  | cons g functions ih =>
    rw [List.map_cons, List.mem_cons, not_or] at h
    rw [List.foldl_cons, ih h.2]
    funext args
    rw [Calls.define, if_neg h.1]

/-- Functions of other names do not change what a name means. -/
theorem callsOf_append_of_not_mem {before after : List Function} {name : String}
    (h : name ∉ after.map (·.name)) : callsOf s (before ++ after) name = callsOf s before name := by
  rw [callsOf, List.foldl_append, foldl_define_of_not_mem h, callsOf]

/-- Where names are distinct, a function of a list runs where all functions before it mean what they
mean at the end. -/
theorem exists_calls_of_split {before after : List Function} {g : Function}
    (hnames : ((before ++ g :: after).map (·.name)).Nodup) :
    ∃ earlier : Calls,
      (∀ args, callsOf s (before ++ g :: after) g.name args = g.apply s earlier args) ∧
      ∀ h ∈ before, earlier h.name = callsOf s (before ++ g :: after) h.name := by
  rw [List.map_append, List.nodup_append] at hnames
  rcases hnames with ⟨-, htail, hdisjoint⟩
  refine ⟨callsOf s before, fun args => ?_, fun h hh => ?_⟩
  · have hafter : g.name ∉ after.map (·.name) := (List.nodup_cons.mp htail).1
    rw [List.append_cons, callsOf_append_of_not_mem hafter, callsOf, List.foldl_append]
    exact if_pos rfl
  · have hlater : h.name ∉ (g :: after).map (·.name) := fun hmem =>
      hdisjoint h.name (List.mem_map_of_mem hh) h.name hmem rfl
    exact (callsOf_append_of_not_mem hlater).symm

/-- Where names are distinct, a function of a list runs its body. -/
theorem exists_apply_of_mem {functions : List Function}
    (hnames : (functions.map (·.name)).Nodup) {g : Function} (hg : g ∈ functions) :
    ∃ earlier : Calls, ∀ args, callsOf s functions g.name args = g.apply s earlier args := by
  obtain ⟨before, after, rfl⟩ := List.append_of_mem hg
  rcases exists_calls_of_split hnames with ⟨earlier, hcall, -⟩
  exact ⟨earlier, hcall⟩

/-! ## Uniform blocks -/

/-- A name of a list without repetitions has the value that stands at its place. -/
theorem lookup_zip_of_nodup {names : List String} {vs : List Value} (hnames : names.Nodup)
    {name : String} {v : Value} (hmem : (name, v) ∈ names.zip vs) :
    (names.zip vs).lookup name = some v := by
  induction names generalizing vs with
  | nil => simp at hmem
  | cons n names ih =>
    cases vs with
    | nil => simp at hmem
    | cons u vs =>
      rw [List.nodup_cons] at hnames
      rw [List.zip_cons_cons, Locals.lookup_cons]
      rw [List.zip_cons_cons, List.mem_cons, Prod.mk.injEq] at hmem
      rcases hmem with ⟨rfl, rfl⟩ | hmem
      · exact if_pos rfl
      · have hne : name ≠ n := by
          rintro rfl
          exact hnames.1 (List.of_mem_zip hmem).1
        rw [if_neg hne]
        exact ih hnames.2 hmem

/-- A member of a block without repeated names has the value of its contents. -/
theorem blockValues_of_mem {a : Arithmetic} {members : List UniformMember} {contents : List Content}
    (hnames : (members.map (·.name)).Nodup) {m : UniformMember} {c : Content}
    (hmem : (m, c) ∈ members.zip contents) :
    blockValues a members contents m.name = some (contentValue a c) := by
  apply lookup_zip_of_nodup hnames
  rw [List.zip_map]
  exact List.mem_map_of_mem hmem

end ComputeKernels.Shader

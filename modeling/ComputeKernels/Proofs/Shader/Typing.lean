import ComputeKernels.Shader.Assembly

/-!
# Types of generated code

When generated code is well scoped and well typed, as both shading languages ask for it.  A name means
the innermost local that has it, then a storage array, then the uniform block.  A function may be
called after it was declared, with arguments of exactly the types of its parameters.  Only locals that
are declared as variables, and the storage array that may be written, are assigned.

Main definitions:

- `Typed`: an expression has a type in a scope.
- `BodyTyped`: statements are well typed one after the other.
- `Module.WellTyped`: every helper is well typed where the helpers before it can be called, and so is
  the entry point where all of them can.

Main results:

- Theorem `typed_chain`: a chain has the type of its terms.
- Theorem `function?_of_mem`: among functions of different names each is found by its name.
-/

namespace ComputeKernels.Shader

/-! ## Scopes -/

/-- What an expression stands for. -/
inductive ExprKind
  | value (ty : ShaderType)
  /-- A storage array of elements of a type. -/
  | array (element : ShaderType)
  /-- The uniform block. -/
  | block
  /-- The call of a function that returns nothing. -/
  | nothing
deriving DecidableEq

/-- A signed number. -/
abbrev ExprKind.int : ExprKind := .value (.scalar .i32)

/-- A parameter or local of a function, and whether it may be assigned again. -/
structure Declaration where
  name : String
  ty : ShaderType
  assignable : Bool
deriving DecidableEq

/-- How a function is called. -/
structure Interface where
  name : String
  params : List ShaderType
  result : Option ShaderType
deriving DecidableEq

namespace Interface

/-- What a call stands for. -/
def kind (g : Interface) : ExprKind := g.result.elim .nothing .value

end Interface

/-- How a helper is called. -/
def Function.interface (f : Function) : Interface := ⟨f.name, f.params.map (·.ty), f.result⟩

/-- What code at some place can refer to; the locals are given innermost first. -/
structure Scope where
  uniforms : List UniformMember
  storage : List StorageBinding
  callable : List Interface
  locals : List Declaration

namespace Scope

/-- The innermost local of a name. -/
def declared? (Γ : Scope) (name : String) : Option Declaration := Γ.locals.find? (·.name == name)

/-- The storage array of a name. -/
def array? (Γ : Scope) (name : String) : Option StorageBinding := Γ.storage.find? (·.name == name)

/-- What a name means. -/
def resolve? (Γ : Scope) (name : String) : Option ExprKind :=
  match Γ.declared? name with
  | some d => some (.value d.ty)
  | none =>
    match Γ.array? name with
    | some b => some (.array b.element)
    | none => if name = "uniforms" then some .block else none

/-- Type of a member of the uniform block. -/
def member? (Γ : Scope) (name : String) : Option ShaderType :=
  (Γ.uniforms.find? (·.name == name)).map (·.ty)

/-- The function of a name. -/
def function? (Γ : Scope) (name : String) : Option Interface :=
  Γ.callable.find? (·.name == name)

/-- Whether an expression is a place that may be assigned. -/
def assignable (Γ : Scope) : Expr → Bool
  | .ident name => (Γ.declared? name).any (·.assignable)
  | .member base _ => Γ.assignable base
  | .index (.ident name) _ =>
    (Γ.declared? name).isNone && (Γ.array? name).any (·.access == .readWrite)
  | _ => false

/-- The scope after a declaration. -/
def declare (Γ : Scope) (d : Declaration) : Scope := { Γ with locals := d :: Γ.locals }

/-- The scope after functions were declared. -/
def define (Γ : Scope) (fs : List Function) : Scope :=
  { Γ with callable := Γ.callable ++ fs.map Function.interface }

/-- The scope in which the body of a function starts. -/
def enter (Γ : Scope) (params : List Param) : Scope :=
  { Γ with locals := params.map fun p => ⟨p.name, p.ty, false⟩ }

end Scope

/-! ## Operators and parts -/

/-- Type of the result of an operator between two values of a type; none where it does not apply. -/
def Operator.result? (op : Operator) (ty : ShaderType) : Option ShaderType :=
  match op, ty with
  | .add, ty | .sub, ty | .mul, ty | .div, ty => if ty.component = .bool then none else some ty
  | .rem, ty => if ty.component = .i32 ∨ ty.component = .u32 then some ty else none
  | .lt, .scalar s | .ge, .scalar s | .gt, .scalar s =>
    if s = .bool then none else some (.scalar .bool)
  | .eq, .scalar _ | .ne, .scalar _ => some (.scalar .bool)
  | .and, .scalar .bool | .or, .scalar .bool => some (.scalar .bool)
  | _, _ => none

/-- Whether a value of a type can be made from parts: from one of as many components, which are
converted, or from its components. -/
def ShaderType.accepts (ty : ShaderType) : List ShaderType → Bool
  | [part] => part.width == ty.width
  | parts => parts.length == ty.width && parts.all (· == .scalar ty.component)

/-! ## Typing rules -/

mutual

/-- An expression has a type in a scope. -/
inductive Typed : Scope → Expr → ExprKind → Prop
  | ident {Γ : Scope} {name : String} {kind : ExprKind} (h : Γ.resolve? name = some kind) :
    Typed Γ (.ident name) kind
  | int {Γ : Scope} {value : Int} : Typed Γ (.int value) .int
  | float {Γ : Scope} {bits : UInt32} : Typed Γ (.float bits) (.value (.scalar .f32))
  | bool {Γ : Scope} {value : Bool} : Typed Γ (.bool value) (.value (.scalar .bool))
  | field {Γ : Scope} {base : Expr} {name : String} {ty : ShaderType} (hbase : Typed Γ base .block)
    (h : Γ.member? name = some ty) : Typed Γ (.member base name) (.value ty)
  | component {Γ : Scope} {base : Expr} {name : String} {width axis : Nat} {s : ScalarType}
    (hbase : Typed Γ base (.value (.vector width s)))
    (hname : componentNames.idxOf? name = some axis) (haxis : axis < width) :
    Typed Γ (.member base name) (.value (.scalar s))
  | index {Γ : Scope} {base position : Expr} {element : ShaderType}
    (hbase : Typed Γ base (.array element)) (hposition : Typed Γ position .int) :
    Typed Γ (.index base position) (.value element)
  | binary {Γ : Scope} {op : Operator} {left right : Expr} {ty result : ShaderType}
    (hleft : Typed Γ left (.value ty)) (hright : Typed Γ right (.value ty))
    (hop : op.result? ty = some result) : Typed Γ (.binary op left right) (.value result)
  | neg {Γ : Scope} {operand : Expr} {ty : ShaderType} (h : Typed Γ operand (.value ty))
    (hnumeric : ty.component ≠ .bool) : Typed Γ (.neg operand) (.value ty)
  | call {Γ : Scope} {name : String} {args : List Expr} {g : Interface}
    (hfunction : Γ.function? name = some g) (hargs : ArgumentsTyped Γ args g.params) :
    Typed Γ (.call name args) g.kind
  | construct {Γ : Scope} {ty : ShaderType} {args : List Expr} {parts : List ShaderType}
    (hargs : ArgumentsTyped Γ args parts) (hparts : ty.accepts parts = true) :
    Typed Γ (.construct ty args) (.value ty)
  | builtin {Γ : Scope} {which : Builtin} : Typed Γ (.builtin which) (.value (.vector 3 .u32))

/-- Expressions are values of some types, in order. -/
inductive ArgumentsTyped : Scope → List Expr → List ShaderType → Prop
  | nil {Γ : Scope} : ArgumentsTyped Γ [] []
  | cons {Γ : Scope} {e : Expr} {es : List Expr} {ty : ShaderType} {tys : List ShaderType}
    (he : Typed Γ e (.value ty)) (hes : ArgumentsTyped Γ es tys) :
    ArgumentsTyped Γ (e :: es) (ty :: tys)

end

mutual

/-- A statement of a function with a result type is well typed in a scope, and what is in scope after
it. -/
inductive StmtTyped (result : Option ShaderType) : Scope → Stmt → Scope → Prop
  | constant {Γ : Scope} {name : String} {ty : ShaderType} {value : Expr}
    (h : Typed Γ value (.value ty)) :
    StmtTyped result Γ (.constant name ty value) (Γ.declare ⟨name, ty, false⟩)
  | variable {Γ : Scope} {name : String} {ty : ShaderType} {value : Expr}
    (h : Typed Γ value (.value ty)) :
    StmtTyped result Γ (.variable name ty value) (Γ.declare ⟨name, ty, true⟩)
  | assign {Γ : Scope} {place value : Expr} {ty : ShaderType} (hplace : Typed Γ place (.value ty))
    (hassignable : Γ.assignable place = true) (hvalue : Typed Γ value (.value ty)) :
    StmtTyped result Γ (.assign place value) Γ
  | ifThen {Γ inner : Scope} {condition : Expr} {body : List Stmt}
    (hcondition : Typed Γ condition (.value (.scalar .bool))) (hbody : BodyTyped result Γ body inner) :
    StmtTyped result Γ (.ifThen condition body) Γ
  | ret {Γ : Scope} {value : Expr} {ty : ShaderType} (h : Typed Γ value (.value ty))
    (hresult : result = some ty) : StmtTyped result Γ (.ret (some value)) Γ
  | leave {Γ : Scope} (hresult : result = none) : StmtTyped result Γ (.ret none) Γ
  | expr {Γ : Scope} {value : Expr} {kind : ExprKind} (h : Typed Γ value kind) :
    StmtTyped result Γ (.expr value) Γ

/-- Statements of a function with a result type are well typed one after the other, and what is in
scope after them. -/
inductive BodyTyped (result : Option ShaderType) : Scope → List Stmt → Scope → Prop
  | nil {Γ : Scope} : BodyTyped result Γ [] Γ
  | cons {Γ next final : Scope} {statement : Stmt} {rest : List Stmt}
    (hstatement : StmtTyped result Γ statement next) (hrest : BodyTyped result next rest final) :
    BodyTyped result Γ (statement :: rest) final

end

/-- The body of a function is well typed where its parameters are the only locals. -/
def Function.WellTyped (Γ : Scope) (f : Function) : Prop :=
  ∃ final, BodyTyped f.result (Γ.enter f.params) f.body final

/-- Functions are well typed one after the other, each where those before it can be called. -/
def AllTyped (Γ : Scope) : List Function → Prop
  | [] => True
  | f :: fs => f.WellTyped Γ ∧ AllTyped (Γ.define [f]) fs

/-- What can be referred to before the first helper of a module. -/
def Module.scope (m : Module) : Scope := ⟨m.uniforms, m.storage, [], []⟩

/-- The helpers of a module are well typed in their order, and its entry point is well typed where it
can call all of them and functions of the module's own code. -/
structure Module.WellTyped (m : Module) (own : List Interface) : Prop where
  helpers : AllTyped m.scope m.helpers
  entry : ∃ final,
    BodyTyped none { m.scope with callable := own ++ m.helpers.map Function.interface } m.entry final

/-! ## Names -/

/-- In a list of different keys each element is found under its own. -/
theorem find?_eq_some_of_nodup {α : Type} {l : List α} {key : α → String} {a : α}
    (hnodup : (l.map key).Nodup) (ha : a ∈ l) : l.find? (key · == key a) = some a := by
  induction l with
  | nil => simp at ha
  | cons b l ih =>
    rw [List.map_cons, List.nodup_cons] at hnodup
    rcases List.mem_cons.mp ha with rfl | ha
    · simp
    · have hne : key b ≠ key a := fun h => hnodup.1 (h ▸ List.mem_map_of_mem ha)
      rw [List.find?_cons_of_neg (by simpa using hne)]
      exact ih hnodup.2 ha

namespace Scope

variable {Γ : Scope}

/-- A name that was declared means its declaration. -/
theorem resolve?_of_declared {name : String} {d : Declaration} (h : Γ.declared? name = some d) :
    Γ.resolve? name = some (.value d.ty) := by
  rw [resolve?, h]

/-- A name that was not declared may mean a storage array. -/
theorem resolve?_of_array {name : String} {b : StorageBinding} (hvisible : Γ.declared? name = none)
    (h : Γ.array? name = some b) : Γ.resolve? name = some (.array b.element) := by
  rw [resolve?, hvisible, h]

/-- The uniform block is visible unless its name is hidden. -/
theorem resolve?_uniforms (hvisible : Γ.declared? "uniforms" = none)
    (harray : Γ.array? "uniforms" = none) : Γ.resolve? "uniforms" = some .block := by
  rw [resolve?, hvisible, harray]
  rfl

/-- A declaration is found under its name, and the others as before. -/
theorem declared?_declare (d : Declaration) (name : String) :
    (Γ.declare d).declared? name = if d.name = name then some d else Γ.declared? name := by
  by_cases h : d.name = name
  · simp [declared?, declare, h]
  · simp [declared?, declare, h]

/-- Among functions of different names each is found by its name. -/
theorem function?_of_mem {fs : List Function} {f : Function}
    (hΓ : Γ.callable = fs.map Function.interface) (hnodup : (fs.map (·.name)).Nodup) (hf : f ∈ fs) :
    Γ.function? f.name = some f.interface := by
  rw [function?, hΓ, List.find?_map]
  have hfind : fs.find? ((fun g : Interface => g.name == f.name) ∘ Function.interface) = some f :=
    find?_eq_some_of_nodup hnodup hf
  rw [hfind, Option.map_some]

end Scope

/-! ## Expressions -/

variable {Γ : Scope}

/-- A chain has the type of its terms. -/
theorem typed_chain {op : Operator} {ty : ShaderType} {terms : List Expr} {empty : Expr}
    (hop : op.result? ty = some ty) (hterms : ∀ t ∈ terms, Typed Γ t (.value ty))
    (hempty : Typed Γ empty (.value ty)) : Typed Γ (.chain op terms empty) (.value ty) := by
  have hfold : ∀ (rest : List Expr) (first : Expr), Typed Γ first (.value ty) →
      (∀ t ∈ rest, Typed Γ t (.value ty)) → Typed Γ (rest.foldl (.binary op) first) (.value ty) := by
    intro rest
    induction rest with
    | nil => exact fun _ hfirst _ => hfirst
    | cons t rest ih =>
      intro first hfirst hrest
      exact ih _ (.binary hfirst (hrest t List.mem_cons_self) hop)
        fun u hu => hrest u (List.mem_cons_of_mem _ hu)
  cases terms with
  | nil => exact hempty
  | cons t rest =>
    exact hfold rest t (hterms t List.mem_cons_self) fun u hu => hterms u (List.mem_cons_of_mem _ hu)

/-- A component of coordinates is a number. -/
theorem typed_axisOf {base : Expr} {rank axis : Nat} (hbase : Typed Γ base (.value (.coords rank)))
    (htwo : 2 ≤ rank) (hfour : rank ≤ Shape.maxRank) (haxis : axis < rank) :
    Typed Γ (axisOf base axis) .int := by
  have hcoords : ShaderType.coords rank = .vector rank .i32 := by
    rw [ShaderType.coords, if_neg (by omega), ShaderType.widthBits,
      Nat.mod_eq_of_lt (Nat.lt_of_le_of_lt hfour (by decide))]
  rw [hcoords] at hbase
  have hname : componentNames.idxOf? (componentName axis) = some axis := by
    have hlt : axis < 4 := Nat.lt_of_lt_of_le haxis hfour
    have hcases : axis = 0 ∨ axis = 1 ∨ axis = 2 ∨ axis = 3 := by omega
    rcases hcases with rfl | rfl | rfl | rfl <;> decide
  exact .component hbase hname haxis

/-- Arguments of one type may be repeated. -/
theorem argumentsTyped_replicate {es : List Expr} {ty : ShaderType}
    (h : ∀ e ∈ es, Typed Γ e (.value ty)) :
    ArgumentsTyped Γ es (List.replicate es.length ty) := by
  induction es with
  | nil => exact .nil
  | cons e es ih =>
    exact .cons (h e List.mem_cons_self) (ih fun e he => h e (List.mem_cons_of_mem _ he))

/-- One argument of the right type is enough for one parameter. -/
theorem argumentsTyped_singleton {e : Expr} {ty : ShaderType} (h : Typed Γ e (.value ty)) :
    ArgumentsTyped Γ [e] [ty] :=
  .cons h .nil

/-- Coordinates are made from one number for each axis. -/
theorem typed_construct_coords {rank : Nat} {es : List Expr} (htwo : 2 ≤ rank)
    (hfour : rank ≤ Shape.maxRank) (hlength : es.length = rank) (h : ∀ e ∈ es, Typed Γ e .int) :
    Typed Γ (.construct (.coords rank) es) (.value (.coords rank)) := by
  refine .construct (argumentsTyped_replicate h) ?_
  subst hlength
  match es, htwo with
  | d :: e :: es, _ =>
    have hwidth : (d :: e :: es).length % 256 = (d :: e :: es).length :=
      Nat.mod_eq_of_lt (Nat.lt_of_le_of_lt hfour (by decide))
    simpa [ShaderType.accepts, ShaderType.coords, ShaderType.widthBits, ShaderType.width,
      ShaderType.component, List.replicate_succ] using hwidth.symm

/-! ## Statements and functions -/

variable {result : Option ShaderType}

/-- Typed statements may follow each other. -/
theorem BodyTyped.append {middle final : Scope} {first second : List Stmt}
    (hfirst : BodyTyped result Γ first middle) (hsecond : BodyTyped result middle second final) :
    BodyTyped result Γ (first ++ second) final := by
  induction first generalizing Γ with
  | nil =>
    cases hfirst with
    | nil => exact hsecond
  | cons statement first ih =>
    cases hfirst with
    | cons hstatement hrest => exact .cons hstatement (ih hrest)

/-- One typed statement is a typed body. -/
theorem BodyTyped.singleton {next : Scope} {statement : Stmt}
    (h : StmtTyped result Γ statement next) : BodyTyped result Γ [statement] next :=
  .cons h .nil

/-- A function that returns a value of its result type, and does nothing else, is well typed. -/
theorem Function.wellTyped_of_ret {f : Function} {e : Expr} {ty : ShaderType}
    (hbody : f.body = [.ret (some e)]) (hresult : f.result = some ty)
    (h : Typed (Γ.enter f.params) e (.value ty)) : f.WellTyped Γ := by
  refine ⟨Γ.enter f.params, ?_⟩
  rw [hbody]
  exact .cons (.ret h hresult) .nil

/-- Functions may be defined in two groups. -/
theorem Scope.define_define (fs gs : List Function) :
    (Γ.define fs).define gs = Γ.define (fs ++ gs) := by
  simp [Scope.define, List.append_assoc]

/-- Functions are well typed in two groups, the second after the first. -/
theorem allTyped_append {fs gs : List Function} :
    AllTyped Γ (fs ++ gs) ↔ AllTyped Γ fs ∧ AllTyped (Γ.define fs) gs := by
  induction fs generalizing Γ with
  | nil => simp [AllTyped, Scope.define]
  | cons f fs ih =>
    simp only [List.cons_append, AllTyped, ih, Scope.define_define, and_assoc, List.nil_append]

/-- Functions that are well typed wherever they stand are so one after the other. -/
theorem allTyped_of_forall {fs : List Function} (h : ∀ f ∈ fs, ∀ Δ : Scope, f.WellTyped Δ) :
    AllTyped Γ fs := by
  induction fs generalizing Γ with
  | nil => trivial
  | cons f fs ih =>
    exact ⟨h f List.mem_cons_self Γ, ih fun g hg => h g (List.mem_cons_of_mem _ hg)⟩

end ComputeKernels.Shader

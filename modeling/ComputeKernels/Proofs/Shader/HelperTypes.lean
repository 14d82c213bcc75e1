import ComputeKernels.Proofs.Shader.Sampling
import ComputeKernels.Proofs.Shader.Typing

/-!
# Scopes of helpers

The helpers that are the same in every module are well typed wherever they stand.  Of the scopes of a
kernel it is known what the uniform block and the storage arrays are, and that neither is hidden.

Locals of most helpers are numbers, so their scopes are described by which names they have and not by
the order of these.

Main results:

- Theorem `typed_uniform`: a member of the uniform block has its type.
- Theorem `typed_loadUnit`: an operand is read as a unit of floats.
- Theorem `Scope.Counts.typed_ident`: whatever is declared among numbers is a number.
-/

namespace ComputeKernels.Shader

variable {Γ : Scope} {k : Kernel} {o : Operand} {result : Option ShaderType}

/-! ## Helpers of every module -/

/-- A call of a known function has its result type. -/
theorem typed_call {f : Function} {args : List Expr} {ty : ShaderType}
    (hf : Γ.function? f.name = some f.interface) (hargs : ArgumentsTyped Γ args (f.params.map (·.ty)))
    (hresult : f.result = some ty) : Typed Γ (.call f.name args) (.value ty) := by
  have hkind : f.interface.kind = .value ty := by
    rw [Interface.kind, Function.interface, hresult, Option.elim_some]
  exact hkind ▸ .call hf hargs

/-- The function that finds what is not a number is well typed. -/
theorem wellTyped_isNanFunction : isNanFunction.WellTyped Γ := by
  have hreject : ∀ {op : Operator}, op.result? (.scalar .f32) = some (.scalar .bool) →
      StmtTyped isNanFunction.result (Γ.enter isNanFunction.params) (rejectIf op)
        (Γ.enter isNanFunction.params) := fun hop =>
    .ifThen (.binary (.ident rfl) .float hop) (.singleton (.ret .bool rfl))
  exact ⟨_, .cons (hreject rfl) (.cons (hreject rfl) (.cons (hreject rfl)
    (.singleton (.ret .bool rfl))))⟩

/-- So is the one for four components. -/
theorem wellTyped_isNanVec4Function
    (hcall : Γ.function? isNanFunction.name = some isNanFunction.interface) :
    isNanVec4Function.WellTyped Γ := by
  have htest : ∀ c axis, componentNames.idxOf? c = some axis → axis < 4 →
      Typed (Γ.enter isNanVec4Function.params) (.call "isnanCustom" [.member (.ident "val") c])
        (.value (.scalar .bool)) := fun c axis hname haxis =>
    typed_call (f := isNanFunction) hcall
      (argumentsTyped_singleton (.component (.ident rfl) hname haxis)) rfl
  apply Function.wellTyped_of_ret rfl rfl
  have hall : ∀ e ∈ componentNames.map fun c => Expr.call "isnanCustom" [.member (.ident "val") c],
      Typed (Γ.enter isNanVec4Function.params) e (.value (.scalar .bool)) := ?_
  · exact .construct (argumentsTyped_replicate hall) rfl
  intro e he
  obtain ⟨c, hc, rfl⟩ := List.mem_map.mp he
  have hcases : c = "x" ∨ c = "y" ∨ c = "z" ∨ c = "w" := by simpa [componentNames] using hc
  rcases hcases with rfl | rfl | rfl | rfl
  · exact htest _ 0 rfl (by decide)
  · exact htest _ 1 rfl (by decide)
  · exact htest _ 2 rfl (by decide)
  · exact htest _ 3 rfl (by decide)

/-- The function that divides and rounds down is well typed. -/
theorem wellTyped_floorDivFunction : floorDivFunction.WellTyped Γ :=
  ⟨_, .cons (.variable (.binary (.ident rfl) (.ident rfl) rfl))
    (.cons (.constant (.binary (.ident rfl) (.ident rfl) rfl))
    (.cons (.ifThen (.binary (.binary (.ident rfl) .float rfl) (.binary (.ident rfl) .int rfl) rfl)
      (.singleton (.assign (.ident rfl) rfl (.binary (.ident rfl) .int rfl))))
    (.singleton (.ret (.ident rfl) rfl))))⟩

private theorem helperRanks_bounds {rank : Nat} (h : rank ∈ helperRanks) :
    1 ≤ rank ∧ rank ≤ Shape.maxRank := by
  rw [helperRanks, List.mem_range'] at h
  omega

private theorem typed_boundTests {coord extent : Expr} (hcoord : Typed Γ coord .int)
    (hextent : Typed Γ extent .int) :
    ∀ t ∈ boundTests coord extent, Typed Γ t (.value (.scalar .bool)) := by
  intro t ht
  rcases List.mem_pair.mp ht with rfl | rfl
  · exact .binary hcoord .int rfl
  · exact .binary hcoord hextent rfl

/-- The functions that test coordinates are well typed. -/
theorem wellTyped_inBoundsFunction {rank : Nat} (h : rank ∈ helperRanks) :
    (inBoundsFunction rank).WellTyped Γ := by
  obtain ⟨hpos, hfour⟩ := helperRanks_bounds h
  apply Function.wellTyped_of_ret rfl rfl
  apply typed_chain rfl _ .bool
  have hcoord : Typed (Γ.enter (inBoundsFunction rank).params) (.ident "coord")
    (.value (.coords rank)) := .ident rfl
  have hshape : Typed (Γ.enter (inBoundsFunction rank).params) (.ident "shape")
    (.value (.coords rank)) := .ident rfl
  split
  · next hone =>
    subst hone
    exact typed_boundTests hcoord hshape
  · next hone =>
    intro t ht
    obtain ⟨axis, haxis, ht⟩ := List.mem_flatMap.mp ht
    rw [List.mem_range] at haxis
    exact typed_boundTests (typed_axisOf hcoord (by omega) hfour haxis)
      (typed_axisOf hshape (by omega) hfour haxis) t ht

/-- The functions from coordinates to indices are well typed. -/
theorem wellTyped_indexFromCoordsFunction {rank : Nat} (h : rank ∈ helperRanks) :
    (indexFromCoordsFunction rank).WellTyped Γ := by
  obtain ⟨hpos, hfour⟩ := helperRanks_bounds h
  apply Function.wellTyped_of_ret rfl rfl
  have hcoords : Typed (Γ.enter (indexFromCoordsFunction rank).params) (.ident "coords")
    (.value (.coords rank)) := .ident rfl
  have hshape : Typed (Γ.enter (indexFromCoordsFunction rank).params) (.ident "shape")
    (.value (.coords rank)) := .ident rfl
  split
  · next hone =>
    subst hone
    exact hcoords
  · next hone =>
    apply typed_chain rfl _ .int
    intro t ht
    obtain ⟨axis, haxis, rfl⟩ := List.mem_map.mp ht
    rw [List.mem_range] at haxis
    have hcoord := typed_axisOf hcoords (by omega) hfour haxis
    unfold weightedCoord
    split
    · exact hcoord
    · refine .binary hcoord (typed_chain rfl ?_ .int) rfl
      intro extent hextent
      obtain ⟨inner, hinner, rfl⟩ := List.mem_map.mp hextent
      rw [List.mem_range'] at hinner
      exact typed_axisOf hshape (by omega) hfour (by omega)

/-! ## Scopes of a kernel -/

/-- The uniform block and the storage arrays of a scope are those of a kernel. -/
structure Scope.OfKernel (Γ : Scope) (k : Kernel) : Prop where
  uniforms : Γ.uniforms = uniformMembers k
  storage : Γ.storage = storageBindings k

/-- No local is named like an operand. -/
theorem operand_ne_of_localName (hn : WellNamed k) (ho : o ∈ k.inputs) {name : String}
    (hname : name ∈ localNames) : name ≠ o.name := fun h => hn.operands o ho (h ▸ hname)

/-- No storage array is called like a local that is not the output. -/
theorem array?_eq_none (hΓ : Γ.OfKernel k) (hn : WellNamed k) {name : String}
    (hname : name ∈ localNames) (houtput : name ≠ Kernel.outputName) : Γ.array? name = none := by
  rw [Scope.array?, hΓ.storage, List.find?_eq_none]
  intro b hb
  rw [beq_iff_eq]
  rcases List.mem_cons.mp hb with rfl | hb
  · exact houtput.symm
  · obtain ⟨i, hi, rfl⟩ := List.mem_mapIdx.mp hb
    exact (operand_ne_of_localName hn (List.getElem_mem hi) hname).symm

/-- A member of the uniform block has its type wherever no local hides the block. -/
theorem typed_uniform (hΓ : Γ.OfKernel k) (hn : WellNamed k)
    (hvisible : Γ.declared? "uniforms" = none) {m : UniformMember} (hm : m ∈ uniformMembers k) :
    Typed Γ (.uniform m.name) (.value m.ty) := by
  have hblock : Γ.array? "uniforms" = none :=
    array?_eq_none hΓ hn (by simp [localNames]) (by decide)
  refine .field (.ident (Γ.resolve?_uniforms hvisible hblock)) ?_
  rw [Scope.member?, hΓ.uniforms, find?_eq_some_of_nodup hn.members hm, Option.map_some]

private theorem width_unitOf (k : Kernel) (s t : ScalarType) :
    (unitOf k s).width = (unitOf k t).width := by
  unfold unitOf
  split
  · rfl
  · rfl

/-- Units of one kernel have one width. -/
theorem accepts_unitOf (k : Kernel) (s t : ScalarType) : (unitOf k s).accepts [unitOf k t] = true := by
  rw [ShaderType.accepts, beq_iff_eq]
  exact width_unitOf k t s

/-- An operand that no local hides is read as a unit of floats. -/
theorem typed_loadUnit (hΓ : Γ.OfKernel k) (ho : o ∈ k.inputs)
    (hvisible : Γ.declared? o.name = none) {position : Expr} (hposition : Typed Γ position .int) :
    Typed Γ (loadUnit k o.name position) (.value (unitOf k .f32)) := by
  have hmem : ∃ b ∈ Γ.storage, b.name = o.name := by
    obtain ⟨i, hi, rfl⟩ := List.mem_iff_getElem.mp ho
    rw [hΓ.storage]
    exact ⟨_, List.mem_cons_of_mem _ (List.mem_mapIdx.mpr ⟨i, hi, rfl⟩), rfl⟩
  obtain ⟨b, hb⟩ : ∃ b, Γ.array? o.name = some b := by
    rw [← Option.isSome_iff_exists, Scope.array?, List.find?_isSome]
    simpa using hmem
  obtain ⟨s, hs⟩ : ∃ s, b.element = unitOf k s := by
    have hstored := List.mem_of_find?_eq_some hb
    rw [hΓ.storage] at hstored
    rcases List.mem_cons.mp hstored with rfl | hstored
    · exact ⟨_, rfl⟩
    · obtain ⟨i, hi, rfl⟩ := List.mem_mapIdx.mp hstored
      exact ⟨_, rfl⟩
  have hunit : Typed Γ (.index (.ident o.name) position) (.value b.element) :=
    .index (.ident (Scope.resolve?_of_array hvisible hb)) hposition
  exact .construct (argumentsTyped_singleton hunit) (hs ▸ accepts_unitOf k .f32 s)

/-- An element that is loaded from an operand is a unit of floats. -/
theorem typed_loadElement (hΓ : Γ.OfKernel k) (ho : o ∈ k.inputs)
    (hvisible : Γ.declared? o.name = none) {element : Expr} (helement : Typed Γ element .int) :
    Typed Γ (loadElement k o.name element) (.value (unitOf k .f32)) := by
  apply typed_loadUnit hΓ ho hvisible
  split
  · exact .binary helement .int rfl
  · exact helement

/-! ## Scopes of numbers -/

namespace Scope

/-- All locals are numbers, and none hides the uniform block. -/
def Counts (Γ : Scope) : Prop := ∀ d ∈ Γ.locals, d.ty = .scalar .i32 ∧ d.name ≠ "uniforms"

/-- Names of the locals. -/
def names (Γ : Scope) : List String := Γ.locals.map (·.name)

/-- A name that was not declared has no declaration. -/
theorem declared?_eq_none {name : String} (h : name ∉ Γ.names) : Γ.declared? name = none := by
  rw [declared?, List.find?_eq_none]
  intro d hd
  rw [beq_iff_eq]
  exact fun heq => h (heq ▸ List.mem_map_of_mem hd)

/-- Counters do not hide the uniform block. -/
theorem Counts.uniforms_visible (h : Γ.Counts) : Γ.declared? "uniforms" = none := by
  apply declared?_eq_none
  intro hmem
  obtain ⟨d, hd, hname⟩ := List.mem_map.mp hmem
  exact (h d hd).2 hname

/-- Counters are whole numbers. -/
theorem Counts.declared? (h : Γ.Counts) {name : String} (hname : name ∈ Γ.names) :
    ∃ d, Γ.declared? name = some d ∧ d.ty = .scalar .i32 := by
  obtain ⟨d, hd⟩ : ∃ d, Γ.declared? name = some d := by
    rw [← Option.isSome_iff_exists, Scope.declared?, List.find?_isSome]
    simpa [names] using hname
  exact ⟨d, hd, (h d (List.mem_of_find?_eq_some hd)).1⟩

/-- Whatever is declared among numbers is a number. -/
theorem Counts.typed_ident (h : Γ.Counts) {name : String} (hname : name ∈ Γ.names) :
    Typed Γ (.ident name) .int := by
  obtain ⟨d, hd, hty⟩ := h.declared? hname
  exact .ident (by rw [resolve?_of_declared hd, hty])

/-- One more counter may be declared under any name but that of the uniform block. -/
theorem Counts.declare (h : Γ.Counts) {name : String} (assignable : Bool)
    (hname : name ≠ "uniforms") : (Γ.declare ⟨name, .scalar .i32, assignable⟩).Counts := by
  intro d hd
  rcases List.mem_cons.mp hd with rfl | hd
  · exact ⟨rfl, hname⟩
  · exact h d hd

/-- The scope after the coordinates of some axes were declared, the first of them first. -/
def withCoords (Γ : Scope) (axes : List Nat) : Scope :=
  { Γ with
    locals := (axes.map fun axis => ⟨coordName axis, .scalar .i32, false⟩).reverse ++ Γ.locals }

private theorem declare_withCoords (axis : Nat) (axes : List Nat) :
    (Γ.declare ⟨coordName axis, .scalar .i32, false⟩).withCoords axes = Γ.withCoords (axis :: axes) := by
  simp [declare, withCoords]

/-- Coordinates of two lists of axes are declared one after the other. -/
theorem withCoords_withCoords (first second : List Nat) :
    (Γ.withCoords first).withCoords second = Γ.withCoords (first ++ second) := by
  simp [withCoords]

/-- Coordinates are counters. -/
theorem Counts.withCoords (h : Γ.Counts) (axes : List Nat) : (Γ.withCoords axes).Counts := by
  intro d hd
  rcases List.mem_append.mp hd with hd | hd
  · obtain ⟨axis, -, rfl⟩ := List.mem_map.mp (List.mem_reverse.mp hd)
    exact ⟨rfl, coordName_ne (by decide)⟩
  · exact h d hd

/-- The names in a scope with coordinates are theirs and those before. -/
theorem mem_names_withCoords {axes : List Nat} {name : String} :
    name ∈ (Γ.withCoords axes).names ↔ (∃ axis ∈ axes, coordName axis = name) ∨ name ∈ Γ.names := by
  simp [names, withCoords]

/-- Entering a function keeps the resources of the kernel. -/
theorem OfKernel.enter (hΓ : Γ.OfKernel k) (params : List Param) : (Γ.enter params).OfKernel k :=
  ⟨hΓ.uniforms, hΓ.storage⟩

/-- Defining functions keeps the resources of the kernel. -/
theorem OfKernel.define (hΓ : Γ.OfKernel k) (fs : List Function) : (Γ.define fs).OfKernel k :=
  ⟨hΓ.uniforms, hΓ.storage⟩

/-- Declaring a local keeps the resources of the kernel. -/
theorem OfKernel.declare (hΓ : Γ.OfKernel k) (d : Declaration) : (Γ.declare d).OfKernel k :=
  ⟨hΓ.uniforms, hΓ.storage⟩

/-- Declaring coordinates keeps the resources of the kernel. -/
theorem OfKernel.withCoords (hΓ : Γ.OfKernel k) (axes : List Nat) :
    (Γ.withCoords axes).OfKernel k :=
  ⟨hΓ.uniforms, hΓ.storage⟩

/-- Coordinates hide no other name. -/
theorem declared?_withCoords {axes : List Nat} {name : String}
    (hne : ∀ axis ∈ axes, coordName axis ≠ name) :
    (Γ.withCoords axes).declared? name = Γ.declared? name := by
  induction axes generalizing Γ with
  | nil => rfl
  | cons axis axes ih =>
    rw [← declare_withCoords, ih fun a ha => hne a (List.mem_cons_of_mem _ ha), declared?_declare,
      if_neg (hne axis List.mem_cons_self)]

end Scope

end ComputeKernels.Shader

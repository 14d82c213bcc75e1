import ComputeKernels.Proofs.Shader.Components
import ComputeKernels.Proofs.Shader.CoordinateTypes
import ComputeKernels.Proofs.Shader.Invocations

/-!
# Generated modules are well typed

The functions of an operand and of the output are well typed after the helpers that they call, and the
entry point after all of them.  One function is an exception: without output axes, a layout that is not
flat leaves the coordinates of the invocation undeclared.

Main results:

- Theorems `allTyped_samplers` and `allTyped_writers`: the functions of an operand and of the output
  are well typed one after the other.
- Theorem `wellTyped_moduleWith_iff`: the module of an accepted kernel is well typed exactly if its
  layout is flat or its output has axes.
- Theorem `checkedModuleOf_eq_some_iff`: a build that checks its arithmetic has the same module exactly if
  no count of elements and no product of workgroup extents loses bits.
-/

namespace ComputeKernels.Shader

variable {Γ : Scope} {k : Kernel} {o : Operand}

/-! ## Scopes after some helpers -/

/-- A scope of a kernel in which just some helpers of different names were declared. -/
structure Scope.After (Γ : Scope) (k : Kernel) (earlier : List Function) : Prop where
  kernel : Γ.OfKernel k
  callable : Γ.callable = earlier.map Function.interface
  names : (earlier.map (·.name)).Nodup

/-- The helpers of a list can be called. -/
def Scope.Knows (Γ : Scope) (fs : List Function) : Prop :=
  ∀ f ∈ fs, Γ.function? f.name = some f.interface

namespace Scope.After

variable {earlier : List Function}

private theorem knows (h : Γ.After k earlier) {fs : List Function} (hfs : fs ⊆ earlier) :
    Γ.Knows fs :=
  fun _ hf => function?_of_mem h.callable h.names (hfs hf)

/-- The scope after the first of further functions. -/
theorem define (h : Γ.After k earlier) (before : List Function) {after : List Function}
    (hnames : ((earlier ++ (before ++ after)).map (·.name)).Nodup) :
    (Γ.define before).After k (earlier ++ before) := by
  rw [← List.append_assoc, List.map_append] at hnames
  refine ⟨h.kernel.define before, ?_, (List.nodup_append.mp hnames).1⟩
  rw [Scope.define, h.callable, List.map_append]

end Scope.After

/-! ## Fixed helpers -/

private theorem allTyped_indexHelpers (h : Γ.After k []) (hk : k.Acceptable) (hn : WellNamed k) :
    AllTyped Γ (indexHelpers k) := by
  have hcallable : Γ.callable = [] := h.callable
  have hfour := hk.outRank_le
  unfold indexHelpers
  rw [allTyped_append, allTyped_append, allTyped_append]
  refine ⟨⟨⟨⟨wellTyped_isNanFunction, wellTyped_isNanVec4Function ?_, wellTyped_floorDivFunction,
    trivial⟩, ?_⟩, ?_⟩, ?_, ?_, ?_, trivial⟩
  · rw [Scope.function?, Scope.define, hcallable]
    rfl
  · apply allTyped_of_forall
    intro f hf Δ
    obtain ⟨rank, hrank, rfl⟩ := List.mem_map.mp hf
    exact wellTyped_inBoundsFunction hrank
  · apply allTyped_of_forall
    intro f hf Δ
    obtain ⟨rank, hrank, rfl⟩ := List.mem_map.mp hf
    exact wellTyped_indexFromCoordsFunction hrank
  · exact wellTyped_outputIndexFunction (h.kernel.define _) hn hfour
  · exact wellTyped_coordsFromIndexFunction ((h.kernel.define _).define _) hn hfour
  · exact wellTyped_globalIndexFunction (((h.kernel.define _).define _).define _) hn _

private theorem wellTyped_outputCoordsFunction_of_after (h : Γ.After k (indexHelpers k))
    (hk : k.Acceptable)
    (hn : WellNamed k) (haxes : k.program.isFlat = true ∨ k.outRank ≠ 0) :
    (outputCoordsFunction k).WellTyped Γ := by
  have hknown := h.knows (List.Subset.refl _)
  have hindex : globalIndexFunction k.program.workgroup ∈ indexHelpers k := by simp [indexHelpers]
  have hcoords : coordsFromIndexFunction k.outRank ∈ indexHelpers k := by simp [indexHelpers]
  exact wellTyped_outputCoordsFunction h.kernel hk hn (hknown _ hindex) (hknown _ hcoords) haxes

/-! ## Reading -/

private theorem typed_operandIndex (hΓ : Γ.OfKernel k) (hcounts : Γ.Counts) (hn : WellNamed k)
    (hknown : Γ.Knows (fixedHelpers k)) (ho : o ∈ k.inputs) (hrank : o.rank ≤ Shape.maxRank)
    (hcoords : ∀ axis < o.rank, coordName axis ∈ Γ.names) : Typed Γ (operandIndex o) .int := by
  unfold operandIndex
  split
  · exact .int
  · next hone => exact hcounts.typed_ident (hcoords 0 (by omega))
  · next rank hzero hone =>
    have htwo : 2 ≤ o.rank := by
      have hne : o.rank ≠ 0 := hzero
      have hne' : o.rank ≠ 1 := hone
      omega
    have hshape : (⟨shapeUniform o.name, .coords o.rank⟩ : UniformMember) ∈ uniformMembers k := by
      simp only [uniformMembers, List.mem_append, List.mem_map]
      exact .inl (.inl (.inl (.inl (.inr ⟨o, ho, rfl⟩))))
    have hcall := hknown _ (indexFromCoordsFunction_mem (by omega) hrank)
    refine typed_call (f := indexFromCoordsFunction o.rank) hcall (.cons ?_ (.cons ?_ .nil)) rfl
    · exact typed_construct_coords htwo hrank (by simp [coordLocals])
        (typed_coordLocals fun axis haxis => hcounts.typed_ident (hcoords axis haxis))
    · exact typed_uniform hΓ hn hcounts.uniforms_visible hshape

private theorem names_enter (params : List Param) :
    (Γ.enter params).names = params.map (·.name) := by
  simp [Scope.names, Scope.enter]

private theorem counts_coordParams (Γ : Scope) (rank : Nat) :
    (Γ.enter (coordParams rank)).Counts := by
  intro d hd
  obtain ⟨p, hp, rfl⟩ := List.mem_map.mp hd
  obtain ⟨axis, -, rfl⟩ := List.mem_map.mp hp
  exact ⟨rfl, coordName_ne (by decide)⟩

private theorem coordName_mem_coordParams {rank axis : Nat} (h : axis < rank) :
    coordName axis ∈ (Γ.enter (coordParams rank)).names := by
  rw [names_enter]
  simp only [coordParams, List.map_map, List.mem_map, List.mem_range]
  exact ⟨axis, h, rfl⟩

/-- An operand is visible in a function whose parameters have names of locals. -/
theorem operand_visible (hn : WellNamed k) (ho : o ∈ k.inputs) {params : List Param}
    (h : ∀ p ∈ params, p.name ∈ localNames) : (Γ.enter params).declared? o.name = none := by
  apply Scope.declared?_eq_none
  rw [names_enter]
  intro hmem
  obtain ⟨p, hp, hname⟩ := List.mem_map.mp hmem
  exact operand_ne_of_localName hn ho (h p hp) hname

private theorem wellTyped_readAtCoords (hΓ : Γ.OfKernel k) (hk : k.Acceptable) (hn : WellNamed k)
    (hknown : Γ.Knows (fixedHelpers k)) (ho : o ∈ k.inputs) : (readAtCoords k o).WellTyped Γ := by
  have hrank := (hk.inputs o ho).rank_le
  have hvisible : (Γ.enter (coordParams o.rank)).declared? o.name = none := by
    apply operand_visible hn ho
    intro p hp
    obtain ⟨axis, haxis, rfl⟩ := List.mem_map.mp hp
    exact coordName_mem_localNames axis (Nat.lt_of_lt_of_le (List.mem_range.mp haxis) hrank)
  apply Function.wellTyped_of_ret rfl rfl
  split
  · exact typed_loadUnit (hΓ.enter _) ho hvisible .int
  · exact typed_loadElement (hΓ.enter _) ho hvisible (typed_operandIndex (hΓ.enter _)
      (counts_coordParams Γ o.rank) hn hknown ho hrank fun _ haxis => coordName_mem_coordParams haxis)

private theorem wellTyped_readAtIndex (hΓ : Γ.OfKernel k) (hn : WellNamed k) (ho : o ∈ k.inputs) :
    (readAtIndex k o).WellTyped Γ :=
  Function.wellTyped_of_ret rfl rfl (typed_loadUnit (hΓ.enter _) ho
    (operand_visible hn ho (by simp [readAtIndex, localNames])) (.ident rfl))

/-- The innermost coordinates of the output are the arguments of an operand's own coordinates. -/
theorem argumentsTyped_trailingCoords {coords : Expr} {outRank rank : Nat}
    (hcoords : Typed Γ coords (.value (.coords outRank))) (hpos : 1 ≤ rank) (hle : rank ≤ outRank)
    (hfour : outRank ≤ Shape.maxRank) :
    ArgumentsTyped Γ (trailingCoords outRank rank coords) ((coordParams rank).map (·.ty)) := by
  have hparams : (coordParams rank).map (·.ty) = List.replicate rank (.scalar .i32) := by
    simp [coordParams, List.map_map, Function.comp_def]
  have hlength : (trailingCoords outRank rank coords).length = rank := by
    unfold trailingCoords
    split
    · next hone => simp; omega
    · simp
  have hnumbers : ∀ e ∈ trailingCoords outRank rank coords, Typed Γ e .int := by
    unfold trailingCoords
    split
    · next hone =>
      intro e he
      obtain rfl := List.mem_singleton.mp he
      rwa [coords_of_le_one hone] at hcoords
    · next hone =>
      intro e he
      obtain ⟨axis, haxis, rfl⟩ := List.mem_map.mp he
      rw [List.mem_range'] at haxis
      exact typed_axisOf hcoords (by omega) hfour (by omega)
  have hargs := argumentsTyped_replicate hnumbers
  rwa [hlength, ← hparams] at hargs

/-- Setting coordinates of a variable to zero is well typed and declares nothing. -/
theorem bodyTyped_pinAxes {result : Option ShaderType} {rank : Nat} (hfour : rank ≤ Shape.maxRank)
    (hcoords : Γ.declared? "coords" = some ⟨"coords", .coords rank, true⟩) {axes : List Nat}
    (haxes : ∀ axis ∈ axes, axis < rank) : BodyTyped result Γ (pinAxes rank axes) Γ := by
  have hvalue : Typed Γ (.ident "coords") (.value (.coords rank)) :=
    .ident (Scope.resolve?_of_declared hcoords)
  have hassignable : Γ.assignable (.ident "coords") = true := by
    rw [Scope.assignable, hcoords, Option.any_some]
  induction axes with
  | nil => exact .nil
  | cons axis axes ih =>
    refine .cons ?_ (ih fun a ha => haxes a (List.mem_cons_of_mem _ ha))
    have haxis := haxes axis List.mem_cons_self
    split
    · next hone => exact .assign (coords_of_le_one hone ▸ hvalue) hassignable .int
    · next hone => exact .assign (typed_axisOf hvalue (by omega) hfour haxis) hassignable .int

private theorem exists_bodyTyped_readThroughBroadcast (hk : k.Acceptable)
    (hown : Γ.function? (readAtCoords k o).name = some (readAtCoords k o).interface)
    (hpos : 1 ≤ o.rank) (hle : o.rank ≤ k.outRank) :
    ∃ final, BodyTyped (some (unitOf k .f32)) (Γ.enter [⟨"coordsIn", .coords k.outRank⟩])
      (readThroughBroadcast k o) final := by
  have hread : ∀ {Δ : Scope} {name : String}, Δ.callable = Γ.callable →
      Δ.declared? name = some ⟨name, .coords k.outRank, true⟩ ∨
        Δ.declared? name = some ⟨name, .coords k.outRank, false⟩ →
      StmtTyped (some (unitOf k .f32)) Δ (.ret (some (.call ("get" ++ capitalized o.name)
        (trailingCoords k.outRank o.rank (.ident name))))) Δ := by
    intro Δ name hΔ hname
    have hvalue : Typed Δ (.ident name) (.value (.coords k.outRank)) := by
      rcases hname with hname | hname
      · exact .ident (Scope.resolve?_of_declared hname)
      · exact .ident (Scope.resolve?_of_declared hname)
    have hcall : Δ.function? (readAtCoords k o).name = some (readAtCoords k o).interface := by
      rw [Scope.function?, hΔ]
      exact hown
    exact .ret (typed_call (f := readAtCoords k o) hcall
      (argumentsTyped_trailingCoords hvalue hpos hle hk.outRank_le) rfl) rfl
  unfold readThroughBroadcast
  split
  · exact ⟨_, .singleton (hread rfl (.inr rfl))⟩
  · next hsome =>
    have haxes : ∀ axis ∈ Shape.stretchedAxes o.shape k.output.shape, axis < k.outRank :=
      fun axis haxis => Shape.lt_of_mem_stretchedAxes haxis
    exact ⟨_, .cons (.variable (.ident rfl)) ((bodyTyped_pinAxes hk.outRank_le rfl haxes).append
      (.singleton (hread rfl (.inl rfl))))⟩

private theorem wellTyped_readAtOutCoords (hΓ : Γ.OfKernel k) (hk : k.Acceptable) (hn : WellNamed k)
    (hknown : Γ.Knows (fixedHelpers k)) (ho : o ∈ k.inputs)
    (hown : Γ.function? (readAtCoords k o).name = some (readAtCoords k o).interface)
    (hle : o.rank ≤ k.outRank) : (readAtOutCoords k o).WellTyped Γ := by
  have hvisible : (Γ.enter (readAtOutCoords k o).params).declared? o.name = none :=
    operand_visible hn ho (by simp [readAtOutCoords, localNames])
  have hcoords : Typed (Γ.enter (readAtOutCoords k o).params) (.ident "coordsIn")
    (.value (.coords k.outRank)) := .ident rfl
  by_cases hshares : sharesIndices k o = true
  · have hbody : (readAtOutCoords k o).body = [.ret (some (loadElement k o.name
        (.call "getOutputIndexFromCoords" [.ident "coordsIn"])))] := by
      simp [readAtOutCoords, hshares]
    apply Function.wellTyped_of_ret hbody rfl
    apply typed_loadElement (hΓ.enter _) ho hvisible
    exact typed_call (f := outputIndexFunction k.outRank) (hknown _ outputIndexFunction_mem)
      (argumentsTyped_singleton hcoords) rfl
  · by_cases hzero : o.rank = 0
    · have hbody : (readAtOutCoords k o).body =
          [.ret (some (.call ("get" ++ capitalized o.name) []))] := by
        simp [readAtOutCoords, hshares, hzero]
      have hparams : (readAtCoords k o).params.map (·.ty) = [] := by
        simp [readAtCoords, coordParams, hzero]
      apply Function.wellTyped_of_ret hbody rfl
      exact typed_call (f := readAtCoords k o) hown (hparams ▸ .nil) rfl
    · have hbody : (readAtOutCoords k o).body = readThroughBroadcast k o := by
        simp [readAtOutCoords, hshares, hzero]
      rw [Function.WellTyped, hbody]
      exact exists_bodyTyped_readThroughBroadcast hk hown (by omega) hle

private theorem wellTyped_readAtOutputIndex (hΓ : Γ.OfKernel k) (hn : WellNamed k)
    (hknown : Γ.Knows (fixedHelpers k)) (ho : o ∈ k.inputs)
    (hcoords : Γ.function? (readAtOutCoords k o).name = some (readAtOutCoords k o).interface) :
    (readAtOutputIndex k o).WellTyped Γ := by
  have hunit : Typed (Γ.enter (readAtOutputIndex k o).params) (.ident "globalIndex") .int :=
    .ident rfl
  by_cases hshares : sharesIndices k o = true
  · have hbody : (readAtOutputIndex k o).body =
        [.ret (some (loadUnit k o.name (.ident "globalIndex")))] := by
      simp [readAtOutputIndex, hshares]
    have hvisible : (Γ.enter (readAtOutputIndex k o).params).declared? o.name = none :=
      operand_visible hn ho (by simp [readAtOutputIndex, localNames])
    exact Function.wellTyped_of_ret hbody rfl (typed_loadUnit (hΓ.enter _) ho hvisible hunit)
  · have hbody : (readAtOutputIndex k o).body =
        [.ret (some (.call ("get" ++ capitalized o.name ++ "AtOutCoords") [.call "getCoordsFromIndex"
          [if k.isVec4 then .binary .mul (.ident "globalIndex") (.int 4)
            else .ident "globalIndex"]]))] := by
      simp [readAtOutputIndex, hshares]
    have helement : Typed (Γ.enter (readAtOutputIndex k o).params)
        (if k.isVec4 then .binary .mul (.ident "globalIndex") (.int 4)
          else .ident "globalIndex") .int := by
      split
      · exact .binary hunit .int rfl
      · exact hunit
    apply Function.wellTyped_of_ret hbody rfl
    exact typed_call (f := readAtOutCoords k o) hcoords (argumentsTyped_singleton
      (typed_call (f := coordsFromIndexFunction k.outRank) (hknown _ coordsFromIndexFunction_mem)
        (argumentsTyped_singleton helement) rfl)) rfl

/-- The functions of an operand are well typed after the fixed helpers. -/
theorem allTyped_samplers {earlier : List Function} (h : Γ.After k earlier) (hk : k.Acceptable)
    (hn : WellNamed k) (hfixed : fixedHelpers k ⊆ earlier) (ho : o ∈ k.inputs)
    (hnames : ((earlier ++ samplers k o).map (·.name)).Nodup) : AllTyped Γ (samplers k o) := by
  have hown : (readAtCoords k o).WellTyped Γ :=
    wellTyped_readAtCoords h.kernel hk hn (h.knows hfixed) ho
  have hindex : (readAtIndex k o).WellTyped (Γ.define [readAtCoords k o]) :=
    wellTyped_readAtIndex (h.kernel.define _) hn ho
  by_cases hle : o.rank ≤ k.outRank
  · have hsplit : samplers k o =
        [readAtCoords k o, readAtIndex k o, readAtOutCoords k o, readAtOutputIndex k o] := by
      simp [samplers, hle]
    rw [hsplit] at hnames ⊢
    have htwo := h.define [readAtCoords k o, readAtIndex k o] hnames
    have hthree := h.define [readAtCoords k o, readAtIndex k o, readAtOutCoords k o] hnames
    have hcoords := wellTyped_readAtOutCoords htwo.kernel hk hn
      (htwo.knows (List.subset_append_of_subset_left _ hfixed)) ho
      (htwo.knows (List.Subset.refl _) _ (by simp)) hle
    have houtput := wellTyped_readAtOutputIndex hthree.kernel hn
      (hthree.knows (List.subset_append_of_subset_left _ hfixed)) ho
      (hthree.knows (List.Subset.refl _) _ (by simp))
    simp only [AllTyped, Scope.define_define, List.cons_append, List.nil_append]
    exact ⟨hown, hindex, hcoords, houtput, trivial⟩
  · have hsplit : samplers k o = [readAtCoords k o, readAtIndex k o] := by simp [samplers, hle]
    rw [hsplit]
    exact ⟨hown, hindex, trivial⟩

/-- So are the functions of several operands. -/
theorem allTyped_flatMap_samplers {earlier : List Function} {os : List Operand}
    (h : Γ.After k earlier) (hk : k.Acceptable) (hn : WellNamed k) (hfixed : fixedHelpers k ⊆ earlier)
    (hos : os ⊆ k.inputs) (hnames : ((earlier ++ os.flatMap (samplers k)).map (·.name)).Nodup) :
    AllTyped Γ (os.flatMap (samplers k)) := by
  induction os generalizing Γ earlier with
  | nil => trivial
  | cons o os ih =>
    rw [List.flatMap_cons] at hnames ⊢
    have hafter := h.define (samplers k o) hnames
    rw [← List.append_assoc] at hnames
    rw [allTyped_append]
    refine ⟨?_, ih hafter (List.subset_append_of_subset_left _ hfixed)
      (fun o ho => hos (List.mem_cons_of_mem _ ho)) hnames⟩
    exact allTyped_samplers h hk hn hfixed (hos List.mem_cons_self) hafter.names

/-! ## Writing -/

private theorem wellTyped_writeAtIndex (hΓ : Γ.OfKernel k) (suffix : String) (s : ScalarType) :
    (writeAtIndex k suffix s).WellTyped Γ := by
  have harray : (Γ.enter (writeAtIndex k suffix s).params).array? Kernel.outputName =
      some ⟨0, Kernel.outputName, storedUnit k k.output.element, .readWrite⟩ := by
    rw [Scope.array?, (hΓ.enter _).storage]
    rfl
  have hplace : Typed (Γ.enter (writeAtIndex k suffix s).params)
      (.index (.ident Kernel.outputName) (.ident "flatIndex"))
      (.value (storedUnit k k.output.element)) :=
    .index (.ident (Scope.resolve?_of_array rfl harray)) (.ident rfl)
  have hassignable : (Γ.enter (writeAtIndex k suffix s).params).assignable
      (.index (.ident Kernel.outputName) (.ident "flatIndex")) = true := by
    rw [Scope.assignable, harray]
    rfl
  exact ⟨_, .singleton (.assign hplace hassignable (.construct
    (argumentsTyped_singleton (.ident rfl)) (accepts_unitOf k _ s)))⟩

/-- Parameters in front of others are found first. -/
theorem declared?_enter_append (first second : List Param) (name : String) :
    (Γ.enter (first ++ second)).declared? name =
      ((Γ.enter first).declared? name).or ((Γ.enter second).declared? name) := by
  simp only [Scope.declared?, Scope.enter, List.map_append, List.find?_append]

private theorem wellTyped_writeAtCoords (hk : k.Acceptable) (hknown : Γ.Knows (fixedHelpers k))
    {suffix : String} {s : ScalarType}
    (hown : Γ.function? (writeAtIndex k suffix s).name = some (writeAtIndex k suffix s).interface) :
    (writeAtCoords k suffix s).WellTyped Γ := by
  let inner := Γ.enter (coordParams (max k.outRank 1) ++ [⟨"value", unitOf k s⟩])
  have hcoord : ∀ axis < max k.outRank 1, Typed inner (.ident (coordName axis)) .int := by
    intro axis haxis
    obtain ⟨d, hd, hty⟩ := (counts_coordParams Γ (max k.outRank 1)).declared?
      (coordName_mem_coordParams haxis)
    have hinner : inner.declared? (coordName axis) = some d := by
      rw [declared?_enter_append, hd, Option.some_or]
    exact .ident (by rw [Scope.resolve?_of_declared hinner, hty])
  have hflat : Typed inner (.call "getOutputIndexFromCoords" [gatherCoords k.outRank]) .int :=
    typed_call (f := outputIndexFunction k.outRank) (hknown _ outputIndexFunction_mem)
      (argumentsTyped_singleton (typed_gatherCoords hk.outRank_le hcoord)) rfl
  let outer := inner.declare ⟨"flatIndex", .scalar .i32, false⟩
  have hvalue : outer.declared? "value" = some ⟨"value", unitOf k s, false⟩ := by
    have hnone : (Γ.enter (coordParams (max k.outRank 1))).declared? "value" = none := by
      apply Scope.declared?_eq_none
      rw [names_enter]
      intro hmem
      obtain ⟨p, hp, hname⟩ := List.mem_map.mp hmem
      obtain ⟨axis, -, rfl⟩ := List.mem_map.mp hp
      exact coordName_ne (by decide) hname
    rw [Scope.declared?_declare, if_neg (by decide), declared?_enter_append, hnone, Option.none_or]
    rfl
  have hindex : Typed outer (.ident "flatIndex") .int := .ident rfl
  have hunit : Typed outer (if k.isVec4 then .binary .div (.ident "flatIndex") (.int 4)
      else .ident "flatIndex") .int := by
    split
    · exact .binary hindex .int rfl
    · exact hindex
  have hargs : ArgumentsTyped outer [if k.isVec4 then .binary .div (.ident "flatIndex") (.int 4)
      else .ident "flatIndex", .ident "value"] ((writeAtIndex k suffix s).params.map (·.ty)) :=
    .cons hunit (.cons (.ident (Scope.resolve?_of_declared hvalue)) .nil)
  exact ⟨outer, .cons (.constant hflat) (.singleton (.expr (.call hown hargs)))⟩

/-- The functions that write the output are well typed after the fixed helpers. -/
theorem allTyped_writers {earlier : List Function} (h : Γ.After k earlier) (hk : k.Acceptable)
    (hfixed : fixedHelpers k ⊆ earlier) (hnames : ((earlier ++ writers k).map (·.name)).Nodup) :
    AllTyped Γ (writers k) := by
  have htwo := h.define [writeAtIndex k "" .f32, writeAtIndex k "I32" .i32] hnames
  have hthree := h.define [writeAtIndex k "" .f32, writeAtIndex k "I32" .i32,
    writeAtCoords k "" .f32] hnames
  have hknown := htwo.knows (List.subset_append_of_subset_left _ hfixed)
  have hknown' := hthree.knows (List.subset_append_of_subset_left _ hfixed)
  have hfloat := wellTyped_writeAtCoords hk hknown
    (htwo.knows (List.Subset.refl _) (writeAtIndex k "" .f32) (by simp))
  have hint := wellTyped_writeAtCoords hk hknown'
    (hthree.knows (List.Subset.refl _) (writeAtIndex k "I32" .i32) (by simp))
  have hwriters : writers k = [writeAtIndex k "" .f32, writeAtIndex k "I32" .i32,
    writeAtCoords k "" .f32, writeAtCoords k "I32" .i32] := rfl
  rw [hwriters]
  simp only [AllTyped, Scope.define_define, List.cons_append, List.nil_append]
  exact ⟨wellTyped_writeAtIndex h.kernel _ _, wellTyped_writeAtIndex (h.kernel.define _) _ _, hfloat,
    hint, trivial⟩

/-! ## Modules -/

/-- The function that the code of a kernel's program defines, as it is documented: an operation on a unit
of every operand, or a main function that is given the index of the invocation if the layout is flat. -/
def ownInterfaces (k : Kernel) : List Interface :=
  match k.program.entry with
  | .elementwise =>
    [⟨"operation", List.replicate k.inputs.length (unitOf k .f32), some (unitOf k .f32)⟩]
  | .main => [⟨"userMain", if k.program.isFlat then [.scalar .i32] else [], none⟩]

private theorem allTyped_helpers (h : Γ.After k []) (hk : k.Acceptable) (hn : WellNamed k)
    (haxes : k.program.isFlat = true ∨ k.outRank ≠ 0) : AllTyped Γ (helpers k) := by
  have hnames := hn.functions
  rw [helpers_eq_append] at hnames ⊢
  have hwriters := h.define (fixedHelpers k ++ k.inputs.flatMap (samplers k)) hnames
  rw [List.append_assoc] at hnames
  have hsamplers := h.define (fixedHelpers k) hnames
  rw [fixedHelpers_eq_concat, List.append_assoc] at hnames
  have hcoords := h.define (indexHelpers k) hnames
  rw [allTyped_append, allTyped_append, fixedHelpers_eq_concat, allTyped_append]
  refine ⟨⟨⟨allTyped_indexHelpers h hk hn,
    wellTyped_outputCoordsFunction_of_after hcoords hk hn haxes, trivial⟩, ?_⟩, ?_⟩
  · exact allTyped_flatMap_samplers hsamplers hk hn (List.Subset.refl _) (List.Subset.refl _)
      hwriters.names
  · rw [← fixedHelpers_eq_concat]
    exact allTyped_writers hwriters hk (List.subset_append_left _ _) hn.functions

/-- A helper is found among the functions that the entry point can call. -/
theorem function?_of_mem_helpers (hn : WellNamed k) {f : Function} (hf : f ∈ helpers k)
    (hcallable : Γ.callable = ownInterfaces k ++ (helpers k).map Function.interface)
    (hne : f.name ≠ "operation" ∧ f.name ≠ "userMain") :
    Γ.function? f.name = some f.interface := by
  have hown : (ownInterfaces k).find? (·.name == f.name) = none := by
    rw [List.find?_eq_none]
    intro g hg
    rw [beq_iff_eq]
    unfold ownInterfaces at hg
    split at hg
    · obtain rfl := List.mem_singleton.mp hg
      exact hne.1.symm
    · obtain rfl := List.mem_singleton.mp hg
      exact hne.2.symm
  rw [Scope.function?, hcallable, List.find?_append, hown, Option.none_or]
  exact @Scope.function?_of_mem ⟨[], [], (helpers k).map Function.interface, []⟩ _ _ rfl hn.functions hf

private theorem sampler_ne_userMain (name : String) :
    "get" ++ name ++ "ByOutputIndex" ≠ "userMain" := by
  intro h
  have hfirst := congrArg (fun s : String => s.toList.head?) h
  simp at hfirst

section Entry

variable (hcallable : Γ.callable = ownInterfaces k ++ (helpers k).map Function.interface)
  (hk : k.Acceptable) (hn : WellNamed k) (hentry : k.program.entry = .elementwise)

include hcallable hk hn hentry in
/-- The operands are sampled in units. -/
theorem typed_operandSamples (hindex : Typed Γ (.ident "index") .int) :
    ∀ e ∈ operandSamples k, Typed Γ e (.value (unitOf k .f32)) := by
  intro e he
  obtain ⟨o, ho, rfl⟩ := List.mem_map.mp he
  have hsampler : readAtOutputIndex k o ∈ helpers k := by
    rw [helpers_eq_append]
    refine List.mem_append_left _ (List.mem_append_right _ (List.mem_flatMap.mpr ⟨o, ho, ?_⟩))
    simp [samplers, (hk.inputs o ho).sampled hentry]
  exact typed_call (f := readAtOutputIndex k o) (function?_of_mem_helpers hn hsampler hcallable
    ⟨sampler_ne_operation _, sampler_ne_userMain _⟩) (argumentsTyped_singleton hindex) rfl

include hcallable hk hn hentry in
/-- The operation makes one unit of one unit of each operand. -/
theorem typed_operation (hindex : Typed Γ (.ident "index") .int) :
    Typed Γ (.call "operation" (operandSamples k)) (.value (unitOf k .f32)) := by
  have hown : Γ.function? "operation" = some ⟨"operation",
      List.replicate (operandSamples k).length (unitOf k .f32), some (unitOf k .f32)⟩ := by
    have hlength : (operandSamples k).length = k.inputs.length := by simp [operandSamples]
    rw [hlength, Scope.function?, hcallable, ownInterfaces, hentry]
    rfl
  exact .call hown (argumentsTyped_replicate (typed_operandSamples hcallable hk hn hentry hindex))

include hcallable hn in
/-- A unit is written at an index. -/
theorem typed_write {value : Expr} (hindex : Typed Γ (.ident "index") .int)
    (hvalue : Typed Γ value (.value (unitOf k .f32))) :
    Typed Γ (.call "setOutputAtIndex" [.ident "index", value]) .nothing := by
  have hwriter : writeAtIndex k "" .f32 ∈ helpers k := by
    rw [helpers_eq_append]
    exact List.mem_append_right _ (by simp [writers, writerKinds])
  have hwriterCall : Γ.function? "setOutputAtIndex" = some (writeAtIndex k "" .f32).interface :=
    function?_of_mem_helpers hn hwriter hcallable
      (show "setOutputAtIndex" ≠ "operation" ∧ "setOutputAtIndex" ≠ "userMain" by decide)
  exact .call hwriterCall (.cons hindex (.cons hvalue .nil))

end Entry

/-- The entry point samples all operands, applies the operation to the samples and writes its result,
or it calls the main function. -/
theorem exists_bodyTyped_entryBody (hΓ : Γ.OfKernel k) (hlocals : Γ.locals = [])
    (hcallable : Γ.callable = ownInterfaces k ++ (helpers k).map Function.interface)
    (hk : k.Acceptable) (hn : WellNamed k) : ∃ final, BodyTyped none Γ (entryBody k) final := by
  have hindexCall : Γ.function? "getGlobalIndex" =
      some (globalIndexFunction k.program.workgroup).interface :=
    function?_of_mem_helpers hn (mem_helpers_of_mem_fixedHelpers globalIndexFunction_mem) hcallable
      (show "getGlobalIndex" ≠ "operation" ∧ "getGlobalIndex" ≠ "userMain" by decide)
  unfold entryBody
  split
  · next hentry =>
    obtain ⟨-, hsize⟩ := hk.elementwise hentry
    let Δ := Γ.declare ⟨"index", .scalar .i32, false⟩
    have hΔ : Δ.OfKernel k := hΓ.declare _
    have hvisible : Δ.declared? "uniforms" = none := by
      rw [Scope.declared?_declare, if_neg (by decide), Scope.declared?, hlocals]
      rfl
    have hindex : Typed Δ (.ident "index") .int := .ident rfl
    have hmember : (⟨"size", .scalar .i32⟩ : UniformMember) ∈ uniformMembers k := by
      simp [uniformMembers, hsize]
    have hcallableΔ : Δ.callable = ownInterfaces k ++ (helpers k).map Function.interface :=
      hcallable
    have hwrite := typed_write hcallableΔ hn hindex
      (typed_operation hcallableΔ hk hn hentry hindex)
    exact ⟨Δ, .cons (.constant (typed_globalIndex hindexCall)) (.singleton (.ifThen
      (.binary hindex (typed_uniform hΔ hn hvisible hmember) rfl) (.singleton (.expr hwrite))))⟩
  · next hentry =>
    have hown : Γ.function? "userMain" =
        some ⟨"userMain", if k.program.isFlat then [.scalar .i32] else [], none⟩ := by
      rw [Scope.function?, hcallable, ownInterfaces, hentry]
      rfl
    refine ⟨Γ, .singleton (.expr (.call hown ?_))⟩
    split
    · exact argumentsTyped_singleton (typed_globalIndex hindexCall)
    · exact .nil

/-- Without output axes, an accepted layout has none either. -/
theorem layout_eq_of_outRank_eq_zero (hk : k.Acceptable) (hrank : k.outRank = 0) :
    k.program.layout = ⟨[], [], []⟩ := by
  obtain ⟨-, hperm⟩ := AxisLayout.validate_eq_ok_iff.mp hk.layout
  have hnone : k.program.layout.axes = [] := by
    rw [hrank] at hperm
    exact hperm.eq_nil
  obtain ⟨hxy, hz⟩ := List.append_eq_nil_iff.mp hnone
  obtain ⟨hx, hy⟩ := List.append_eq_nil_iff.mp hxy
  cases hlayout : k.program.layout with
  | mk x y z =>
    rw [hlayout] at hx hy hz
    obtain ⟨rfl, rfl, rfl⟩ : x = [] ∧ y = [] ∧ z = [] := ⟨hx, hy, hz⟩
    rfl

/-- Without output axes, a layout that is not flat leaves the coordinates of the invocation
undeclared. -/
theorem not_wellTyped_outputCoordsFunction (hΓ : Γ.OfKernel k) (hk : k.Acceptable) (hn : WellNamed k)
    (hflat : k.program.isFlat ≠ true) (hrank : k.outRank = 0) :
    ¬ (outputCoordsFunction k).WellTyped Γ := by
  have hbody : (outputCoordsFunction k).body = [.ret (some (.ident "d0"))] := by
    simp only [outputCoordsFunction, hflat, layout_eq_of_outRank_eq_zero hk hrank, hrank]
    rfl
  have hunknown : (Γ.enter (outputCoordsFunction k).params).resolve? "d0" = none := by
    have harray : (Γ.enter (outputCoordsFunction k).params).array? "d0" = none :=
      array?_eq_none (hΓ.enter _) hn (by simp [localNames]) (by decide)
    have hlocal : (Γ.enter (outputCoordsFunction k).params).declared? "d0" = none := rfl
    rw [Scope.resolve?, hlocal, harray]
    rfl
  rintro ⟨final, htyped⟩
  rw [hbody] at htyped
  cases htyped with
  | cons hret _ =>
    cases hret with
    | ret hvalue _ =>
      cases hvalue with
      | ident hresolve => exact absurd (hunknown.symm.trans hresolve) (by simp)

/-- The module of an accepted kernel is well typed exactly if its layout is flat or its output has
axes. -/
theorem wellTyped_moduleWith_iff (hk : k.Acceptable) (hn : WellNamed k) (code : String) :
    (moduleWith k code).WellTyped (ownInterfaces k) ↔
      k.program.isFlat = true ∨ k.outRank ≠ 0 := by
  have hstart : (moduleWith k code).scope.After k [] := ⟨⟨rfl, rfl⟩, rfl, List.nodup_nil⟩
  constructor
  · intro h
    by_contra hloose
    obtain ⟨hflat, hrank⟩ := not_or.mp hloose
    have hhelpers : AllTyped (moduleWith k code).scope (indexHelpers k ++ outputCoordsFunction k ::
        (k.inputs.flatMap (samplers k) ++ writers k)) := by
      have hall := h.helpers
      rwa [show (moduleWith k code).helpers = helpers k from rfl, helpers_eq_append,
        fixedHelpers_eq_concat, List.append_assoc, List.append_assoc] at hall
    exact not_wellTyped_outputCoordsFunction (hstart.kernel.define _) hk hn hflat
      (not_not.mp hrank) (allTyped_append.mp hhelpers).2.1
  · intro haxes
    exact ⟨allTyped_helpers hstart hk hn haxes,
      exists_bodyTyped_entryBody ⟨rfl, rfl⟩ rfl rfl hk hn⟩

/-- For an output of the program's own rank, an accepted layout is flat or has axes. -/
theorem isFlat_or_outRank_ne_zero (hk : k.Acceptable)
    (hrank : k.outRank = k.program.outputShape.length) :
    k.program.isFlat = true ∨ k.outRank ≠ 0 := by
  refine Decidable.or_iff_not_imp_right.mpr fun hzero => ?_
  rw [ne_eq, not_not] at hzero
  rw [Program.isFlat, layout_eq_of_outRank_eq_zero hk hzero, ← hrank, hzero]
  rfl

private theorem moduleOf_eq_ok_iff {m : Module} :
    moduleOf k = .ok m ↔ k.validate = .ok () ∧
      ∃ code, k.program.bodyFor? k.program.target = some code ∧ m = moduleWith k code := by
  unfold moduleOf
  rw [Except.check_bind_eq_ok_iff, Except.bind_eq_ok_iff]
  refine and_congr_right fun _ => exists_congr fun code => ?_
  have hbody : k.program.body = .ok code ↔ k.program.bodyFor? k.program.target = some code := by
    unfold Program.body
    cases k.program.bodyFor? k.program.target with
    | none => simp
    | some own => simp
  rw [hbody]
  exact and_congr_right fun _ => ⟨fun h => (Except.ok.inj h).symm, fun h => h ▸ rfl⟩

/-- A build that checks its arithmetic comes to an end if the elements can be counted and the
invocations of a workgroup fit. -/
theorem checkedModuleOf_eq (hcount : k.Countable) (hfits : fitsSigned k.program.workgroup = true) :
    checkedModuleOf k = some (moduleOf k) := by
  simp [checkedModuleOf, Kernel.overflowsInCheck_eq_false hcount, hfits]

/-- For a kernel that has a module it comes to an end in no other case. -/
theorem checkedModuleOf_eq_some_iff {m : Module} (hm : moduleOf k = .ok m) :
    checkedModuleOf k = some (.ok m) ↔
      k.Countable ∧ fitsSigned k.program.workgroup = true := by
  refine ⟨fun h => ?_, fun ⟨hcount, hfits⟩ => ?_⟩
  · have hbuilt : (moduleOf k).isOk = true := by rw [hm]; rfl
    simp only [checkedModuleOf, hbuilt, Bool.true_and, Bool.not_eq_true'] at h
    split at h
    · cases h
    · next hcount =>
      split at h
      · cases h
      · next hfits =>
        rw [Bool.not_eq_true] at hcount
        rw [Bool.not_eq_false] at hfits
        exact ⟨(Kernel.overflowsInCheck_eq_false_iff (moduleOf_eq_ok_iff.mp hm).1).mp hcount, hfits⟩
  · rw [checkedModuleOf_eq hcount hfits, hm]

/-- A module is built exactly for the accepted kernels whose program has code for its target; all
components and strides that are looked up on the way exist.  A build that checks its arithmetic builds
the same if no elements of four-wide operands are too many to be counted and the invocations of a
workgroup fit a machine number with a sign; otherwise it stops where it would build a module.  If no
name is declared twice and no operand is hidden, the module is well scoped and well typed exactly if the
layout is flat or the output has axes, and so always for an output of the program's own rank. -/
theorem modules_are_well_typed_but_for_undeclared_coordinates (k : Kernel) :
    (∀ m, moduleOf k = .ok m ↔ k.validate = .ok () ∧
      ∃ code, k.program.bodyFor? k.program.target = some code ∧ m = moduleWith k code) ∧
    (k.validate = .ok () →
      (∀ axes ∈ k.program.layout.dims,
        SymbolicStride.ofAxes axes = .ok (SymbolicStride.ofTails axes)) ∧
      (∀ f ∈ helpers k, f.complete = true) ∧ Stmt.completeAll (entryBody k) = true) ∧
    (k.Countable → fitsSigned k.program.workgroup = true → checkedModuleOf k = some (moduleOf k)) ∧
    (∀ m, moduleOf k = .ok m →
      (checkedModuleOf k = some (.ok m) ↔
        k.Countable ∧ fitsSigned k.program.workgroup = true)) ∧
    (∀ m, moduleOf k = .ok m → WellNamed k →
      (m.WellTyped (ownInterfaces k) ↔ k.program.isFlat = true ∨ k.outRank ≠ 0) ∧
      (k.outRank = k.program.outputShape.length → m.WellTyped (ownInterfaces k))) := by
  refine ⟨fun m => moduleOf_eq_ok_iff, fun hvalid => ?_, checkedModuleOf_eq,
    fun m => checkedModuleOf_eq_some_iff, fun m hm hn => ?_⟩
  · have hk := Kernel.validate_eq_ok_iff.mp hvalid
    exact ⟨ofAxes_of_acceptable hk, complete_helpers hk, complete_entryBody k⟩
  · obtain ⟨hvalid, code, -, rfl⟩ := moduleOf_eq_ok_iff.mp hm
    have hk := Kernel.validate_eq_ok_iff.mp hvalid
    have htyped := wellTyped_moduleWith_iff hk hn code
    exact ⟨htyped, fun hrank => htyped.mpr (isFlat_or_outRank_ne_zero hk hrank)⟩

/-- A kernel that exchanges two axes, each of which has a grid dimension of its own. -/
def transposingKernel : Kernel where
  program := {
    label := "transpose", outputShape := [8, 6], layout := ⟨[1], [0], []⟩, workgroup := ⟨8, 8, 1⟩,
    operandNames := ["x"], wgslBody := some "fn userMain() \x7b \x7d\n" }
  inputs := [⟨"x", .float32, [6, 8]⟩]
  output := ⟨"result", .float32, [8, 6]⟩

/-- The module of the exchange is well typed. -/
theorem transposingKernel_is_well_typed :
    ∃ m, moduleOf transposingKernel = .ok m ∧ m.WellTyped (ownInterfaces transposingKernel) := by
  have hm : moduleOf transposingKernel =
      .ok (moduleWith transposingKernel "fn userMain() \x7b \x7d\n") := by rfl
  have hnames : WellNamed transposingKernel := by decide +kernel
  have hmodules := modules_are_well_typed_but_for_undeclared_coordinates transposingKernel
  exact ⟨_, hm, (hmodules.2.2.2.2 _ hm hnames).2 rfl⟩

/-- A kernel whose output has no axes, unlike its program's. -/
def collapsingKernel : Kernel where
  program := {
    label := "total", outputShape := [3], layout := ⟨[], [], []⟩,
    wgslBody := some "fn userMain() \x7b \x7d\n" }
  inputs := []
  output := ⟨"result", .float32, []⟩

/-- The same exchange of axes by workgroups that are too wide to be counted. -/
def wideKernel : Kernel :=
  { transposingKernel with
    program := { transposingKernel.program with workgroup := ⟨2 ^ 32 - 1, 2 ^ 32 - 1, 1⟩ } }

/-- A kernel without operands is accepted, and the function that its module declares for the coordinates
of the invocation returns a local that it does not have.  And a kernel is accepted and has a module whose
workgroups come to a negative number of invocations; a build that checks its arithmetic stops there. -/
theorem accepted_kernels_may_be_built_badly :
    (WellNamed collapsingKernel ∧ ∃ m, moduleOf collapsingKernel = .ok m ∧
      (∃ f ∈ m.helpers, f.name = "getOutputCoords" ∧ f.params = [] ∧
        f.body = [.ret (some (.ident "d0"))]) ∧
      ¬ m.WellTyped (ownInterfaces collapsingKernel)) ∧
    (∃ m, moduleOf wideKernel = .ok m) ∧
      invocationCount wideKernel.program.workgroup = -8589934591 ∧
      checkedModuleOf wideKernel = none := by
  have hnames : WellNamed collapsingKernel := by decide +kernel
  have hvalid : collapsingKernel.validate = .ok () := by rfl
  have hk := Kernel.validate_eq_ok_iff.mp hvalid
  refine ⟨⟨hnames, moduleWith collapsingKernel "fn userMain() \x7b \x7d\n", rfl,
    ⟨outputCoordsFunction collapsingKernel, ?_, rfl, rfl, rfl⟩, fun htyped => ?_⟩, ?_, ?_, ?_⟩
  · exact mem_helpers_of_mem_fixedHelpers (by simp [fixedHelpers])
  · rw [wellTyped_moduleWith_iff hk hnames] at htyped
    exact absurd htyped (by decide)
  · exact ⟨moduleWith wideKernel "fn userMain() \x7b \x7d\n", rfl⟩
  · decide
  · rfl

end ComputeKernels.Shader

import ComputeKernels.Proofs.Dispatch.Partitions
import ComputeKernels.Proofs.Shader.HelperTypes

/-!
# Types of coordinates

The helpers of a kernel that go between coordinates and flat indices, and those that find the position
of the invocation, are well typed.  Each coordinate is declared before it is used: splitting a number
over some axes declares the coordinates of just these axes.

Main results:

- Theorem `wellTyped_coordsFromIndexFunction`: splitting an index declares every coordinate before use.
- Theorem `bodyTyped_layoutCoords`: splitting the position along the grid dimensions of an accepted
  layout declares the coordinates of all of its axes.
- Theorem `wellTyped_outputCoordsFunction`: the coordinates of the invocation are declared if the layout
  is flat or the output has axes.
-/

namespace ComputeKernels.Shader

variable {Γ : Scope} {k : Kernel} {result : Option ShaderType}

/-! ## Splitting a number -/

/-- Splitting off an axis declares its coordinate. -/
theorem bodyTyped_splitAxis (hΓ : Γ.Counts) {running : String} {axis : Nat} {stride : Expr}
    (hrunning : Γ.declared? running = some ⟨running, .scalar .i32, true⟩)
    (hne : coordName axis ≠ running) (hstride : Typed Γ stride .int)
    (hstrideAfter : Typed (Γ.withCoords [axis]) stride .int) :
    BodyTyped result Γ (splitAxis running axis stride) (Γ.withCoords [axis]) := by
  have hnumber : Typed Γ (.ident running) .int := .ident (Scope.resolve?_of_declared hrunning)
  have hkept : (Γ.withCoords [axis]).declared? running = some ⟨running, .scalar .i32, true⟩ := by
    rw [Scope.declared?_withCoords (by simpa using hne), hrunning]
  have hrest : Typed (Γ.withCoords [axis]) (.ident running) .int :=
    .ident (Scope.resolve?_of_declared hkept)
  have hcoord : Typed (Γ.withCoords [axis]) (.ident (coordName axis)) .int :=
    (hΓ.withCoords [axis]).typed_ident (Scope.mem_names_withCoords.mpr (.inl ⟨axis, by simp, rfl⟩))
  have hassignable : (Γ.withCoords [axis]).assignable (.ident running) = true := by
    rw [Scope.assignable, hkept, Option.any_some]
  exact .cons (.constant (.binary hnumber hstride rfl))
    (.singleton (.assign hrest hassignable (.binary hrest (.binary hcoord hstrideAfter rfl) rfl)))

/-- Splitting off some axes one after the other declares their coordinates. -/
theorem bodyTyped_splitAll (hΓ : Γ.Counts) {running : String} {axes : List Nat} {stride : Nat → Expr}
    (hrunning : Γ.declared? running = some ⟨running, .scalar .i32, true⟩)
    (hne : ∀ axis, coordName axis ≠ running)
    (hstride : ∀ axis ∈ axes, ∀ done, Typed (Γ.withCoords done) (stride axis) .int) :
    BodyTyped result Γ (axes.flatMap fun axis => splitAxis running axis (stride axis))
      (Γ.withCoords axes) := by
  induction axes generalizing Γ with
  | nil => exact .nil
  | cons axis axes ih =>
    have hfirst : BodyTyped result Γ (splitAxis running axis (stride axis)) (Γ.withCoords [axis]) :=
      bodyTyped_splitAxis hΓ hrunning (hne axis) (hstride axis List.mem_cons_self [])
        (hstride axis List.mem_cons_self [axis])
    have hkept : (Γ.withCoords [axis]).declared? running = some ⟨running, .scalar .i32, true⟩ := by
      rw [Scope.declared?_withCoords (by simpa using hne axis), hrunning]
    have hrest := ih (hΓ.withCoords [axis]) hkept fun a ha done => by
      rw [Scope.withCoords_withCoords]
      exact hstride a (List.mem_cons_of_mem _ ha) _
    rw [Scope.withCoords_withCoords] at hrest
    exact hfirst.append hrest

/-- Splitting a number over some axes, the last of which takes what is left, declares the coordinates
of all of them. -/
theorem bodyTyped_splitAxes (hΓ : Γ.Counts) {running : String} {axes : List Nat}
    (hrunning : Γ.declared? running = some ⟨running, .scalar .i32, true⟩)
    (hne : ∀ axis, coordName axis ≠ running)
    (hstride : ∀ rest, rest ⊆ axes → ∀ done, Typed (Γ.withCoords done) (strideExpr ⟨rest⟩) .int) :
    BodyTyped result Γ (splitAxes running axes) (Γ.withCoords axes) := by
  fun_induction splitAxes running axes generalizing Γ with
  | case1 => exact .nil
  | case2 last => exact .singleton (.constant (.ident (Scope.resolve?_of_declared hrunning)))
  | case3 axis next rest ih =>
    have hfirst : BodyTyped result Γ (splitAxis running axis (strideExpr ⟨next :: rest⟩))
        (Γ.withCoords [axis]) :=
      bodyTyped_splitAxis hΓ hrunning (hne axis) (hstride _ (List.subset_cons_self _ _) [])
        (hstride _ (List.subset_cons_self _ _) [axis])
    have hkept : (Γ.withCoords [axis]).declared? running = some ⟨running, .scalar .i32, true⟩ := by
      rw [Scope.declared?_withCoords (by simpa using hne axis), hrunning]
    have hrest := ih (hΓ.withCoords [axis]) hkept fun inner hinner done => by
      rw [Scope.withCoords_withCoords]
      exact hstride inner (List.subset_cons_of_subset _ hinner) _
    rw [Scope.withCoords_withCoords] at hrest
    exact hfirst.append hrest

/-! ## Coordinates of the output -/

private theorem outShape_mem (k : Kernel) : ⟨"outShape", .coords k.outRank⟩ ∈ uniformMembers k := by
  simp [uniformMembers]

private theorem outShapeStrides_mem (k : Kernel) :
    ⟨"outShapeStrides", .coords (k.outRank - 1)⟩ ∈ uniformMembers k := by
  simp [uniformMembers]

/-- Coordinates of at most one axis are a number. -/
theorem coords_of_le_one {rank : Nat} (h : rank ≤ 1) : ShaderType.coords rank = .scalar .i32 :=
  if_pos h

/-- The stride of an output axis is a number. -/
theorem typed_outStride (hΓ : Γ.OfKernel k) (hn : WellNamed k)
    (hvisible : Γ.declared? "uniforms" = none) (hfour : k.outRank ≤ Shape.maxRank) {axis : Nat}
    (haxis : axis < k.outRank - 1) : Typed Γ (outStride k.outRank axis) .int := by
  have hstrides := typed_uniform hΓ hn hvisible (outShapeStrides_mem k)
  unfold outStride
  split
  · next htwo =>
    rw [coords_of_le_one (by omega)] at hstrides
    exact hstrides
  · next htwo => exact typed_axisOf hstrides (by omega) (by omega) haxis

/-- The function from output coordinates to an index is well typed. -/
theorem wellTyped_outputIndexFunction (hΓ : Γ.OfKernel k) (hn : WellNamed k)
    (hfour : k.outRank ≤ Shape.maxRank) : (outputIndexFunction k.outRank).WellTyped Γ := by
  apply Function.wellTyped_of_ret rfl rfl
  have hcoords : Typed (Γ.enter (outputIndexFunction k.outRank).params) (.ident "coords")
    (.value (.coords k.outRank)) := .ident rfl
  split
  · next hone => exact coords_of_le_one hone ▸ hcoords
  · next hone =>
    apply typed_chain rfl _ .int
    intro t ht
    rcases List.mem_append.mp ht with ht | ht
    · obtain ⟨axis, haxis, rfl⟩ := List.mem_map.mp ht
      rw [List.mem_range] at haxis
      exact .binary (typed_axisOf hcoords (by omega) hfour (by omega))
        (typed_outStride (hΓ.enter _) hn rfl hfour haxis) rfl
    · obtain rfl := List.mem_singleton.mp ht
      exact typed_axisOf hcoords (by omega) hfour (by omega)

/-- Coordinates in locals are numbers. -/
theorem typed_coordLocals {rank : Nat}
    (h : ∀ axis < rank, Typed Γ (.ident (coordName axis)) .int) :
    ∀ e ∈ coordLocals rank, Typed Γ e .int := by
  intro e he
  obtain ⟨axis, haxis, rfl⟩ := List.mem_map.mp he
  exact h axis (List.mem_range.mp haxis)

/-- Coordinates of the output that were all declared are gathered into one value. -/
theorem typed_gatherCoords {rank : Nat} (hfour : rank ≤ Shape.maxRank)
    (h : ∀ axis < max rank 1, Typed Γ (.ident (coordName axis)) .int) :
    Typed Γ (gatherCoords rank) (.value (.coords rank)) := by
  unfold gatherCoords
  split
  · next hone =>
    rw [coords_of_le_one hone]
    exact h 0 (by omega)
  · next hone =>
    exact typed_construct_coords (by omega) hfour (by simp [coordLocals])
      (typed_coordLocals fun axis haxis => h axis (by omega))

/-- Splitting an index declares every coordinate before use. -/
theorem wellTyped_coordsFromIndexFunction (hΓ : Γ.OfKernel k) (hn : WellNamed k)
    (hfour : k.outRank ≤ Shape.maxRank) : (coordsFromIndexFunction k.outRank).WellTyped Γ := by
  by_cases hone : k.outRank ≤ 1
  · have hbody : (coordsFromIndexFunction k.outRank).body = [.ret (some (.ident "index"))] :=
      if_pos hone
    apply Function.wellTyped_of_ret hbody rfl
    rw [coords_of_le_one hone]
    exact .ident rfl
  · let Δ := (Γ.enter [⟨"index", .scalar .i32⟩]).declare ⟨"remainder", .scalar .i32, true⟩
    have hΔ : Δ.Counts := by
      intro d hd
      rcases List.mem_pair.mp hd with rfl | rfl
      · exact ⟨rfl, by decide⟩
      · exact ⟨rfl, by decide⟩
    have hkernel : Δ.OfKernel k := (hΓ.enter _).declare _
    have hsplit : BodyTyped (coordsFromIndexFunction k.outRank).result Δ
        ((List.range (k.outRank - 1)).flatMap fun axis =>
          splitAxis "remainder" axis (outStride k.outRank axis))
        (Δ.withCoords (List.range (k.outRank - 1))) := by
      apply bodyTyped_splitAll hΔ rfl coordName_ne_remainder
      intro axis haxis done
      exact typed_outStride (hkernel.withCoords done) hn (hΔ.withCoords done).uniforms_visible hfour
        (List.mem_range.mp haxis)
    have hresult : Typed (Δ.withCoords (List.range (k.outRank - 1)))
        (.construct (.coords k.outRank) (coordLocals (k.outRank - 1) ++ [.ident "remainder"]))
        (.value (.coords k.outRank)) := by
      apply typed_construct_coords (by omega) hfour (by simp [coordLocals]; omega)
      intro e he
      rcases List.mem_append.mp he with he | he
      · apply typed_coordLocals _ e he
        intro axis haxis
        exact (hΔ.withCoords _).typed_ident
          (Scope.mem_names_withCoords.mpr (.inl ⟨axis, List.mem_range.mpr haxis, rfl⟩))
      · obtain rfl := List.mem_singleton.mp he
        exact (hΔ.withCoords _).typed_ident
          (Scope.mem_names_withCoords.mpr (.inr (by simp [Δ, Scope.names, Scope.declare])))
    have hbody : (coordsFromIndexFunction k.outRank).body =
        .variable "remainder" (.scalar .i32) (.ident "index") ::
          (List.range (k.outRank - 1)).flatMap (fun axis =>
            splitAxis "remainder" axis (outStride k.outRank axis)) ++
          [.ret (some (.construct (.coords k.outRank)
            (coordLocals (k.outRank - 1) ++ [.ident "remainder"])))] := if_neg hone
    refine ⟨Δ.withCoords (List.range (k.outRank - 1)), ?_⟩
    rw [hbody]
    exact (BodyTyped.cons (.variable (.ident rfl)) hsplit).append (.singleton (.ret hresult rfl))

/-! ## The current invocation -/

private theorem typed_position (which : Builtin) {component : String} {axis : Nat}
    (hname : componentNames.idxOf? component = some axis) (haxis : axis < 3) :
    Typed Γ (position which component) .int :=
  .construct (argumentsTyped_singleton (.component .builtin hname haxis)) rfl

/-- The three components of a position. -/
theorem typed_positions (which : Builtin) : Typed Γ (position which "x") .int ∧
    Typed Γ (position which "y") .int ∧ Typed Γ (position which "z") .int :=
  ⟨typed_position which rfl (by decide), typed_position which rfl (by decide),
    typed_position which rfl (by decide)⟩

private theorem typed_gridExtent (hΓ : Γ.OfKernel k) (hn : WellNamed k)
    (hvisible : Γ.declared? "uniforms" = none) {component : String} {axis : Nat}
    (hname : componentNames.idxOf? component = some axis) (haxis : axis < 3) :
    Typed Γ (gridExtent component) .int := by
  have hmem : ⟨"dispatchSize", .vector 3 .i32⟩ ∈ uniformMembers k := by simp [uniformMembers]
  exact .component (typed_uniform hΓ hn hvisible hmem) hname haxis

private theorem typed_localIndex (workgroup : Grid) : Typed Γ (localIndex workgroup) .int := by
  obtain ⟨hx, hy, hz⟩ := @typed_positions Γ .localId
  exact .binary (.binary (.binary hz .int rfl) (.binary hy .int rfl) rfl) hx rfl

private theorem typed_workgroupIndex (hΓ : Γ.OfKernel k) (hn : WellNamed k)
    (hvisible : Γ.declared? "uniforms" = none) : Typed Γ workgroupIndex .int := by
  obtain ⟨hx, hy, hz⟩ := @typed_positions Γ .workgroupId
  have hcolumns : Typed Γ (gridExtent "x") .int :=
    typed_gridExtent hΓ hn hvisible rfl (by decide)
  have hrows : Typed Γ (gridExtent "y") .int := typed_gridExtent hΓ hn hvisible rfl (by decide)
  exact .binary (.binary (.binary hz (.binary hcolumns hrows rfl) rfl) (.binary hy hcolumns rfl) rfl)
    hx rfl

/-- The function that finds the number of the invocation is well typed. -/
theorem wellTyped_globalIndexFunction (hΓ : Γ.OfKernel k) (hn : WellNamed k) (workgroup : Grid) :
    (globalIndexFunction workgroup).WellTyped Γ :=
  ⟨_, .cons (.constant (typed_localIndex workgroup))
    (.cons (.constant (typed_workgroupIndex ((hΓ.enter _).declare _) hn rfl))
    (.singleton (.ret (.binary (.binary (.ident rfl) .int rfl) (.ident rfl) rfl) rfl)))⟩

/-- The number of the invocation is a number. -/
theorem typed_globalIndex {workgroup : Grid}
    (hcall : Γ.function? "getGlobalIndex" = some (globalIndexFunction workgroup).interface) :
    Typed Γ globalIndex .int :=
  typed_call (f := globalIndexFunction workgroup) hcall .nil rfl

/-! ## Coordinates of the current invocation -/

/-- The product of the extents of some output axes is a number if the output has two axes or more. -/
theorem typed_strideExpr (hΓ : Γ.OfKernel k) (hn : WellNamed k)
    (hvisible : Γ.declared? "uniforms" = none) (htwo : 2 ≤ k.outRank)
    (hfour : k.outRank ≤ Shape.maxRank) {axes : List Nat} (haxes : ∀ axis ∈ axes, axis < k.outRank) :
    Typed Γ (strideExpr ⟨axes⟩) .int := by
  apply typed_chain rfl _ .int
  intro extent hextent
  obtain ⟨axis, haxis, rfl⟩ := List.mem_map.mp hextent
  exact typed_axisOf (typed_uniform hΓ hn hvisible (outShape_mem k)) htwo hfour (haxes axis haxis)

/-- Name of the number that is left while a grid dimension is split. -/
def runningName (dimension : Nat) : String := "index" ++ componentName dimension

private theorem coordName_ne_runningName (dimension axis : Nat) :
    coordName axis ≠ runningName dimension :=
  coordName_ne (by simp [runningName])

private theorem runningName_ne_uniforms (dimension : Nat) : runningName dimension ≠ "uniforms" := by
  intro h
  have hfirst := congrArg (fun name : String => name.toList.head?) h
  simp [runningName] at hfirst

/-- A scope in which positions of the invocation can be split: its locals are numbers, and it has the
uniform block of a kernel and the function that finds the position. -/
structure Scope.Splits (Γ : Scope) (k : Kernel) : Prop where
  counts : Γ.Counts
  kernel : Γ.OfKernel k
  callable : Γ.function? "getGlobalIndex" = some (globalIndexFunction k.program.workgroup).interface

namespace Scope

/-- The scope after a grid dimension was split over some axes.  Only two or more need a number that is
left while they are split. -/
def withDimension (Γ : Scope) (dimension : Nat) : List Nat → Scope
  | [] => Γ
  | [axis] => Γ.withCoords [axis]
  | axes => (Γ.declare ⟨runningName dimension, .scalar .i32, true⟩).withCoords axes

private theorem Splits.withDimension (h : Γ.Splits k) (dimension : Nat) (axes : List Nat) :
    (Γ.withDimension dimension axes).Splits k := by
  unfold Scope.withDimension
  split
  · exact h
  · exact ⟨h.counts.withCoords _, h.kernel.withCoords _, h.callable⟩
  · have hrunning := h.counts.declare true (runningName_ne_uniforms dimension)
    exact ⟨hrunning.withCoords _, (h.kernel.declare _).withCoords _, h.callable⟩

private theorem mem_names_withDimension {dimension : Nat} {axes : List Nat} {name : String}
    (h : (∃ axis ∈ axes, coordName axis = name) ∨ name ∈ Γ.names) :
    name ∈ (Γ.withDimension dimension axes).names := by
  unfold withDimension
  split
  · exact h.resolve_left (by simp)
  · exact mem_names_withCoords.mpr h
  · exact mem_names_withCoords.mpr (h.imp_right (List.mem_cons_of_mem _))

/-- The scope after all grid dimensions were split. -/
def withLayout (Γ : Scope) (l : AxisLayout) : Scope :=
  ((Γ.withDimension 0 l.x).withDimension 1 l.y).withDimension 2 l.z

private theorem Splits.withLayout (h : Γ.Splits k) (l : AxisLayout) : (Γ.withLayout l).Splits k :=
  ((h.withDimension 0 l.x).withDimension 1 l.y).withDimension 2 l.z

/-- The coordinates of all axes of a layout are declared in the end. -/
theorem coordName_mem_withLayout {l : AxisLayout} {axis : Nat} (h : axis ∈ l.axes) :
    coordName axis ∈ (Γ.withLayout l).names := by
  rcases List.mem_append.mp h with hxy | hz
  · apply mem_names_withDimension
    rcases List.mem_append.mp hxy with hx | hy
    · exact .inr (mem_names_withDimension (.inr (mem_names_withDimension (.inl ⟨axis, hx, rfl⟩))))
    · exact .inr (mem_names_withDimension (.inl ⟨axis, hy, rfl⟩))
  · exact mem_names_withDimension (.inl ⟨axis, hz, rfl⟩)

end Scope

private theorem typed_dimensionSource (h : Γ.Splits k) (l : AxisLayout) {dimension : Nat}
    (hdimension : dimension < 3) : Typed Γ (dimensionSource l dimension) .int := by
  unfold dimensionSource
  split
  · exact typed_globalIndex h.callable
  · exact typed_position .globalId (idxOf?_componentName dimension (by omega)) hdimension

/-- Splitting the position along a grid dimension declares the coordinates of its axes. -/
theorem bodyTyped_dimensionCoords (h : Γ.Splits k) (hn : WellNamed k)
    (hfour : k.outRank ≤ Shape.maxRank) {dimension : Nat} {source : Expr} {axes : List Nat}
    (hsource : Typed Γ source .int) (haxes : ∀ axis ∈ axes, axis < k.outRank) (hnodup : axes.Nodup) :
    BodyTyped result Γ (dimensionCoords dimension source axes) (Γ.withDimension dimension axes) := by
  match axes, haxes, hnodup with
  | [], _, _ => exact .nil
  | [axis], _, _ => exact .singleton (.constant hsource)
  | first :: second :: rest, haxes, hnodup =>
    -- Two different axes below the rank: the output is not of rank one, so its shape is a vector.
    have htwo : 2 ≤ k.outRank := by
      have hfirst := haxes first (by simp)
      have hsecond := haxes second (by simp)
      have hne : first ≠ second := by
        rintro rfl
        simp at hnodup
      omega
    have hcounts := h.counts.declare true (runningName_ne_uniforms dimension)
    have hrunning : (Γ.declare ⟨runningName dimension, .scalar .i32, true⟩).declared?
        (runningName dimension) = some ⟨runningName dimension, .scalar .i32, true⟩ := by
      rw [Scope.declared?_declare, if_pos rfl]
    refine .cons (.variable hsource) (bodyTyped_splitAxes hcounts hrunning
      (coordName_ne_runningName dimension) fun tail htail done => ?_)
    exact typed_strideExpr ((h.kernel.declare _).withCoords done) hn
      (hcounts.withCoords done).uniforms_visible htwo hfour fun axis haxis => haxes axis (htail haxis)

/-- Splitting the position along all grid dimensions of a layout declares the coordinates of the output,
if the layout is accepted. -/
theorem bodyTyped_layoutCoords (h : Γ.Splits k) (hn : WellNamed k) {l : AxisLayout}
    (hlayout : l.validate k.outRank = .ok ()) :
    BodyTyped result Γ (dimensionCoords 0 (dimensionSource l 0) l.x ++
      dimensionCoords 1 (dimensionSource l 1) l.y ++ dimensionCoords 2 (dimensionSource l 2) l.z)
      (Γ.withLayout l) := by
  obtain ⟨hfour, hperm⟩ := AxisLayout.validate_eq_ok_iff.mp hlayout
  obtain ⟨hlt, hnodup, -⟩ := AxisLayout.perm_range_iff.mp hperm
  obtain ⟨hxy, hz, -⟩ := List.nodup_append.mp hnodup
  obtain ⟨hx, hy, -⟩ := List.nodup_append.mp hxy
  have hsecond := h.withDimension 0 l.x
  have hthird := hsecond.withDimension 1 l.y
  have hmemx : l.x ⊆ l.axes := fun _ hmem => List.mem_append_left _ (List.mem_append_left _ hmem)
  have hmemy : l.y ⊆ l.axes := fun _ hmem => List.mem_append_left _ (List.mem_append_right _ hmem)
  have hmemz : l.z ⊆ l.axes := fun _ hmem => List.mem_append_right _ hmem
  exact ((bodyTyped_dimensionCoords h hn hfour (typed_dimensionSource h l (by decide))
      (fun axis haxis => hlt axis (hmemx haxis)) hx).append
    (bodyTyped_dimensionCoords hsecond hn hfour (typed_dimensionSource hsecond l (by decide))
      (fun axis haxis => hlt axis (hmemy haxis)) hy)).append
    (bodyTyped_dimensionCoords hthird hn hfour (typed_dimensionSource hthird l (by decide))
      (fun axis haxis => hlt axis (hmemz haxis)) hz)

/-- The position of the invocation is split into coordinates that were declared before use, if the
layout is flat or the output has axes. -/
theorem wellTyped_outputCoordsFunction (hΓ : Γ.OfKernel k) (hk : k.Acceptable) (hn : WellNamed k)
    (hindex : Γ.function? "getGlobalIndex" =
      some (globalIndexFunction k.program.workgroup).interface)
    (hcoords : Γ.function? "getCoordsFromIndex" = some (coordsFromIndexFunction k.outRank).interface)
    (haxes : k.program.isFlat = true ∨ k.outRank ≠ 0) : (outputCoordsFunction k).WellTyped Γ := by
  by_cases hflat : k.program.isFlat = true
  · have hbody : (outputCoordsFunction k).body = [.ret (some (.call "getCoordsFromIndex"
        [if k.isVec4 then .binary .mul globalIndex (.int 4) else globalIndex]))] := if_pos hflat
    have hglobal : Typed (Γ.enter []) globalIndex .int := typed_globalIndex hindex
    apply Function.wellTyped_of_ret hbody rfl
    refine typed_call (f := coordsFromIndexFunction k.outRank) hcoords
      (argumentsTyped_singleton ?_) rfl
    split
    · exact .binary hglobal .int rfl
    · exact hglobal
  · have hbody : (outputCoordsFunction k).body =
        dimensionCoords 0 (dimensionSource k.program.layout 0) k.program.layout.x ++
          dimensionCoords 1 (dimensionSource k.program.layout 1) k.program.layout.y ++
          dimensionCoords 2 (dimensionSource k.program.layout 2) k.program.layout.z ++
          [.ret (some (gatherCoords k.outRank))] := if_neg hflat
    obtain ⟨-, hperm⟩ := AxisLayout.validate_eq_ok_iff.mp hk.layout
    have hsplits : (Γ.enter []).Splits k :=
      ⟨fun d hd => absurd hd List.not_mem_nil, hΓ.enter [], hindex⟩
    have hfinal := hsplits.withLayout k.program.layout
    have hgather : Typed ((Γ.enter []).withLayout k.program.layout) (gatherCoords k.outRank)
        (.value (.coords k.outRank)) := by
      apply typed_gatherCoords hk.outRank_le
      intro axis haxis
      have hpos := haxes.resolve_left hflat
      exact hfinal.counts.typed_ident (Scope.coordName_mem_withLayout
        (hperm.mem_iff.mpr (List.mem_range.mpr (by omega))))
    refine ⟨(Γ.enter []).withLayout k.program.layout, ?_⟩
    rw [hbody]
    exact (bodyTyped_layoutCoords hsplits hn hk.layout).append (.singleton (.ret hgather rfl))

end ComputeKernels.Shader

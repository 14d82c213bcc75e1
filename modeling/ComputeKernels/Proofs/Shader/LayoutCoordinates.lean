import ComputeKernels.Proofs.Dispatch.Enumeration
import ComputeKernels.Proofs.Shader.Invocations
import ComputeKernels.Proofs.Shader.Sampling

/-!
# Output coordinates under a layout

An invocation of a program whose layout is not flat finds the number of each grid dimension that has
axes, and splits it over the axes by the extents in the uniform block.  Where only the first dimension
has axes the grid may have been folded, and the number of the invocation takes the place of its
position.

The generated code binds one local for every axis.  Its parts are followed one by one: each binds the
locals of its own axes and leaves those of all others.

Main results:

- Theorem `exists_binds_splitAxes`: a number is split over the axes of a dimension.
- Theorem `apply_outputCoordsFunction`: an invocation finds the coordinates that its numbers lead to.
- Theorem `layouts_enumerate_the_output`: the numbers below the extents occur in the grid and lead to
  all coordinates of the output, one to one; all others lead out of it.
-/

namespace ComputeKernels.Shader

open ComputeKernels.Uniform

variable {s : Setting} {calls : Calls} {k : Kernel} {output : Shape} {axes coords : List Nat}
  {body : List Stmt} {f g h : Frame} {n : Nat}

/-! ## Locals of the axes -/

/-- Some statements lead from one frame to another that differs in the coordinates of some axes; locals
of other kinds are scratch. -/
structure Binds (s : Setting) (calls : Calls) (body : List Stmt) (axes coords : List Nat)
    (f g : Frame) : Prop where
  run : ∀ rest, Stmt.runAll s calls f (body ++ rest) = Stmt.runAll s calls g rest
  returned : g.returned = none
  writes : g.writes = f.writes
  bound : ∀ axis ∈ axes,
    g.locals.lookup (coordName axis) = some (.int (coords.getD axis 0))
  others : ∀ axis < Shape.maxRank, axis ∉ axes →
    g.locals.lookup (coordName axis) = f.locals.lookup (coordName axis)

namespace Binds

private theorem nil (hf : f.returned = none) : Binds s calls [] [] coords f f :=
  ⟨fun _ => rfl, hf, rfl, fun _ haxis => absurd haxis List.not_mem_nil, fun _ _ _ => rfl⟩

/-- Statements that bind some axes are followed by others that bind more. -/
theorem append {rest : List Stmt} {more : List Nat} (hfirst : Binds s calls body axes coords f g)
    (hrest : Binds s calls rest more coords g h) (haxes : ∀ axis ∈ axes, axis < Shape.maxRank) :
    Binds s calls (body ++ rest) (axes ++ more) coords f h := by
  constructor
  · intro after
    rw [List.append_assoc, hfirst.run, hrest.run]
  · exact hrest.returned
  · exact hrest.writes.trans hfirst.writes
  · intro axis haxis
    by_cases hmore : axis ∈ more
    · exact hrest.bound axis hmore
    · have hown : axis ∈ axes := (List.mem_append.mp haxis).resolve_right hmore
      rw [hrest.others axis (haxes axis hown) hmore, hfirst.bound axis hown]
  · intro axis hlt haxis
    rw [List.mem_append, not_or] at haxis
    rw [hrest.others axis hlt haxis.2, hfirst.others axis hlt haxis.1]

/-- A constant binds its axis. -/
theorem constant {axis : Nat} {ty : ShaderType} {e : Expr} (haxis : axis < Shape.maxRank)
    (hf : f.returned = none)
    (he : e.eval s calls f.locals = some (.int (coords.getD axis 0))) :
    Binds s calls [.constant (coordName axis) ty e] [axis] coords f
      (f.declare (coordName axis) (.int (coords.getD axis 0))) := by
  constructor
  · exact fun rest => runAll_constant hf he
  · exact hf
  · rfl
  · intro other hother
    obtain rfl := List.mem_singleton.mp hother
    rw [Frame.lookup_declare, if_pos rfl]
  · intro other hlt hother
    have hne : other ≠ axis := by simpa using hother
    rw [Frame.lookup_declare, if_neg (coordName_ne_coordName other hlt axis haxis hne)]

/-- A variable of another name is scratch. -/
theorem scratch {name : String} {ty : ShaderType} {e : Expr} {v : Value}
    (hname : ∀ axis, coordName axis ≠ name) (hf : f.returned = none)
    (he : e.eval s calls f.locals = some v)
    (hbody : Binds s calls body axes coords (f.declare name v) g) :
    Binds s calls (.variable name ty e :: body) axes coords f g := by
  constructor
  · exact fun rest => (runAll_variable hf he).trans (hbody.run rest)
  · exact hbody.returned
  · exact hbody.writes
  · exact hbody.bound
  · intro axis hlt haxis
    rw [hbody.others axis hlt haxis, Frame.lookup_declare, if_neg (hname axis)]

end Binds

/-! ## One dimension -/

/-- The uniform block holds the extents of the output. -/
abbrev HoldsExtents (s : Setting) (output : Shape) : Prop :=
  s.uniforms "outShape" = some (.ofCounts .exact output)

/-- The stride of an axis is the product of the extents of the axes after it. -/
theorem eval_strideExpr (hs : s.arithmetic = .exact) (hextents : HoldsExtents s output)
    (htwo : 2 ≤ output.length) (hfour : output.length ≤ 4)
    (haxes : ∀ axis ∈ axes, axis < output.length) (locals : Locals) :
    (strideExpr ⟨axes⟩).eval s calls locals =
      some (.int (AxisLayout.coverage output axes : Nat)) := by
  have hvalue : (Expr.uniform "outShape").eval s calls locals = some (.numbers output) := by
    rw [eval_uniform, hextents, Value.ofCounts_of_two_le htwo]
  rw [← AxisLayout.size_extentsOf]
  apply eval_product hs
  rw [EvalNumbers, AxisLayout.extentsOf, List.forall₂_map_left_iff, List.forall₂_map_right_iff,
    List.forall₂_same]
  intro axis haxis
  have hlt := haxes axis haxis
  simpa [hlt] using eval_axisOf rfl hvalue hfour hlt

/-- A number is split over the axes of a dimension. -/
theorem exists_binds_splitAxes (hs : s.arithmetic = .exact) (hextents : HoldsExtents s output)
    (htwo : 2 ≤ output.length) (hfour : output.length ≤ 4) {running : String}
    (hrunning : ∀ axis, coordName axis ≠ running) (hnodup : axes.Nodup)
    (haxes : ∀ axis ∈ axes, axis < output.length)
    (hcoords : AxisLayout.Locates output axes n coords) (hf : f.returned = none)
    (hn : f.locals.lookup running = some (.int n)) :
    ∃ g, Binds s calls (splitAxes running axes) axes coords f g := by
  induction axes generalizing f n with
  | nil =>
    rw [splitAxes]
    exact ⟨f, .nil hf⟩
  | cons axis axes ih =>
    have haxis : axis < Shape.maxRank := Nat.lt_of_lt_of_le (haxes axis List.mem_cons_self) hfour
    cases axes with
    | nil =>
      have hvalue : (Expr.ident running).eval s calls f.locals =
          some (.int (coords.getD axis 0)) := by
        rw [eval_ident, hn, hcoords.singleton]
      rw [splitAxes]
      exact ⟨_, .constant haxis hf hvalue⟩
    | cons next axes =>
      rcases hcoords.cons (List.cons_ne_nil next axes) with ⟨hpos, hcoord, hrest⟩
      rw [List.nodup_cons] at hnodup
      rw [List.forall_mem_cons] at haxes
      have hstride : ∀ locals, (strideExpr ⟨next :: axes⟩).eval s calls locals =
          some (.int (AxisLayout.coverage output (next :: axes) : Nat)) :=
        eval_strideExpr hs hextents htwo hfour haxes.2
      rcases exists_runAll_splitAxis hs (hrunning axis) hf hn (Nat.ne_of_gt hpos) hstride with
        ⟨g, hrun, hreturned, hwrites, hleft, hbound, hothers⟩
      have hfirst : Binds s calls (splitAxis running axis (strideExpr ⟨next :: axes⟩)) [axis] coords
          f g := by
        constructor
        · exact hrun
        · exact hreturned
        · exact hwrites
        · intro other hother
          obtain rfl := List.mem_singleton.mp hother
          rw [hbound, hcoord]
        · intro other hlt hother
          have hne : other ≠ axis := by simpa using hother
          exact hothers _ (hrunning other) (coordName_ne_coordName other hlt axis haxis hne)
      rcases ih hnodup.2 haxes.2 hrest hreturned hleft with ⟨final, hfinal⟩
      rw [splitAxes]
      exact ⟨final, hfirst.append hfinal (by simpa using haxis)⟩

/-- The number of a dimension is split over its axes, if it has any. -/
theorem exists_binds_dimensionCoords (dimension : Nat) (hs : s.arithmetic = .exact)
    (hextents : HoldsExtents s output) (hfour : output.length ≤ 4) {source : Expr}
    (hnodup : axes.Nodup) (haxes : ∀ axis ∈ axes, axis < output.length)
    (hsource : axes ≠ [] → ∀ locals, source.eval s calls locals = some (.int n))
    (hcoords : AxisLayout.Locates output axes n coords) (hf : f.returned = none) :
    ∃ g, Binds s calls (dimensionCoords dimension source axes) axes coords f g := by
  match axes with
  | [] => exact ⟨f, .nil hf⟩
  | [axis] =>
    have haxis : axis < Shape.maxRank := Nat.lt_of_lt_of_le (haxes axis List.mem_cons_self) hfour
    have hvalue := hsource (by simp) f.locals
    rw [← hcoords.singleton] at hvalue
    exact ⟨_, .constant haxis hf hvalue⟩
  | axis :: next :: axes =>
    have htwo : 2 ≤ output.length := by
      have hfirst := haxes axis (by simp)
      have hsecond := haxes next (by simp)
      have hne : axis ≠ next := by
        rintro rfl
        simp at hnodup
      omega
    let running := "index" ++ componentName dimension
    have hrunning : ∀ axis, coordName axis ≠ running := fun axis =>
      coordName_ne (by simp [running])
    have hn : (f.declare running (.int n)).locals.lookup running = some (.int n) := by
      rw [Frame.lookup_declare, if_pos rfl]
    rcases exists_binds_splitAxes hs hextents htwo hfour hrunning hnodup haxes hcoords
      (f := f.declare running (.int n)) hf hn with ⟨g, hg⟩
    exact ⟨g, .scratch hrunning hf (hsource (by simp) f.locals) hg⟩

/-! ## All dimensions -/

/-- Coordinates of the output are gathered from the locals of the axes. -/
theorem eval_gatherCoords {locals : Locals} (hpos : 1 ≤ coords.length) (hfour : coords.length ≤ 4)
    (hlocals : ∀ axis < coords.length,
      locals.lookup (coordName axis) = some (.int (coords.getD axis 0))) :
    (gatherCoords coords.length).eval s calls locals = some (coordsValue coords) := by
  unfold gatherCoords
  by_cases hone : coords.length ≤ 1
  · obtain ⟨c, rfl⟩ := List.length_eq_one_iff.mp (Nat.le_antisymm hone hpos)
    rw [if_pos hone, eval_ident]
    exact hlocals 0 hpos
  · have hnumbers : EvalNumbers s calls locals (coordLocals coords.length) coords := by
      apply evalNumbers_coordLocals
      intro axis haxis
      simpa [haxis] using hlocals axis haxis
    rw [if_neg hone, coordsValue_of_two_le (by omega)]
    exact eval_construct_numbers hnumbers (by omega) (width_coords (by omega) hfour).symm

/-- The code for every dimension that has axes finds its number. -/
structure Finds (s : Setting) (calls : Calls) (l : AxisLayout) (numbers : Grid) : Prop where
  x : l.x ≠ [] → ∀ locals, (dimensionSource l 0).eval s calls locals = some (.int numbers.x)
  y : l.y ≠ [] → ∀ locals, (dimensionSource l 1).eval s calls locals = some (.int numbers.y)
  z : l.z ≠ [] → ∀ locals, (dimensionSource l 2).eval s calls locals = some (.int numbers.z)

/-- The numbers of all dimensions are split over their axes. -/
theorem exists_binds_layoutCoords {l : AxisLayout} {numbers : Grid} (hs : s.arithmetic = .exact)
    (hextents : HoldsExtents s output) (hfour : output.length ≤ 4) (hcovers : l.Covers output)
    (hfinds : Finds s calls l numbers) (hleads : l.Leads output numbers coords)
    (hf : f.returned = none) :
    ∃ g, Binds s calls (dimensionCoords 0 (dimensionSource l 0) l.x ++
      dimensionCoords 1 (dimensionSource l 1) l.y ++ dimensionCoords 2 (dimensionSource l 2) l.z)
        l.axes coords f g := by
  have hdims : ∀ axes ∈ [l.x, l.y, l.z], axes.Nodup ∧ ∀ axis ∈ axes, axis < output.length :=
    fun _ => hcovers.dimension
  simp only [List.forall_mem_cons, List.not_mem_nil, false_imp_iff, implies_true, and_true] at hdims
  rcases hdims with ⟨⟨hnodupX, hltX⟩, ⟨hnodupY, hltY⟩, ⟨hnodupZ, hltZ⟩⟩
  rcases exists_binds_dimensionCoords 0 hs hextents hfour hnodupX hltX hfinds.x hleads.x hf with
    ⟨fx, hx⟩
  rcases exists_binds_dimensionCoords 1 hs hextents hfour hnodupY hltY hfinds.y hleads.y
    hx.returned with ⟨fy, hy⟩
  rcases exists_binds_dimensionCoords 2 hs hextents hfour hnodupZ hltZ hfinds.z hleads.z
    hy.returned with ⟨fz, hz⟩
  refine ⟨fz, (hx.append hy ?_).append hz ?_⟩
  · intro axis haxis
    exact Nat.lt_of_lt_of_le (hltX axis haxis) hfour
  · intro axis haxis
    have hlt := hcovers.lt_of_mem (List.mem_append_left l.z haxis)
    exact Nat.lt_of_lt_of_le hlt hfour

/-- An invocation finds the coordinates that its numbers lead to. -/
theorem apply_outputCoordsFunction (hs : s.arithmetic = .exact)
    (hextents : HoldsExtents s k.output.shape) (hflat : k.program.isFlat = false)
    (hcovers : k.program.layout.Covers k.output.shape) (hpos : 1 ≤ k.outRank)
    (hfour : k.outRank ≤ 4) {numbers : Grid} (hfinds : Finds s calls k.program.layout numbers)
    (hleads : k.program.layout.Leads k.output.shape numbers coords) :
    (outputCoordsFunction k).apply s calls [] = some ⟨some (coordsValue coords), []⟩ := by
  let f : Frame := { locals := [] }
  have hlength : coords.length = k.outRank := hleads.length
  rcases exists_binds_layoutCoords (f := f) hs hextents hfour hcovers hfinds hleads rfl with
    ⟨g, hg⟩
  have hgather : (gatherCoords k.outRank).eval s calls g.locals = some (coordsValue coords) := by
    rw [← hlength] at hpos hfour ⊢
    apply eval_gatherCoords hpos hfour
    intro axis haxis
    apply hg.bound
    rwa [hcovers.mem_iff, List.mem_range, ← hleads.length]
  have hrun : Stmt.runAll s calls f (outputCoordsFunction k).body =
      some { g with returned := some (some (coordsValue coords)) } := by
    simp only [outputCoordsFunction, hflat, Bool.false_eq_true, ↓reduceIte]
    rw [hg.run]
    exact runAll_ret hgather
  exact apply_of_runAll rfl hrun rfl hg.writes

/-! ## Invocations -/

namespace Invocation

/-- Numbers that an invocation finds along the dimensions of a grid.  Where only the first has axes, it
is the number of the invocation. -/
def numbers (i : Invocation) (l : AxisLayout) (workgroup grid : Grid) : Grid :=
  if l.usesOnlyX then ⟨i.number workgroup grid, 0, 0⟩ else i.position workgroup .globalId

/-- Every position within the invocations of a dispatch is that of one of them. -/
theorem exists_globalId {workgroup grid place : Grid} (hx : place.x < grid.x * workgroup.x)
    (hy : place.y < grid.y * workgroup.y) (hz : place.z < grid.z * workgroup.z) :
    ∃ i : Invocation, i.Inside workgroup grid ∧ i.position workgroup .globalId = place := by
  have hsplit : ∀ {p groups cells : Nat}, p < groups * cells →
      p / cells < groups ∧ p % cells < cells := by
    intro p groups cells hlt
    have hpos : 0 < cells := Nat.pos_of_mul_pos_left (Nat.zero_lt_of_lt hlt)
    exact ⟨Nat.div_lt_of_lt_mul (by rwa [Nat.mul_comm]), Nat.mod_lt p hpos⟩
  refine ⟨⟨⟨place.x / workgroup.x, place.y / workgroup.y, place.z / workgroup.z⟩,
    ⟨place.x % workgroup.x, place.y % workgroup.y, place.z % workgroup.z⟩⟩, ?_, ?_⟩
  · exact ⟨⟨(hsplit hx).1, (hsplit hy).1, (hsplit hz).1⟩,
      ⟨(hsplit hx).2, (hsplit hy).2, (hsplit hz).2⟩⟩
  · simp [position, Nat.div_add_mod']

/-- Where only the first dimension has axes, invocations with the same numbers along it are the same. -/
theorem eq_of_used_eq {l : AxisLayout} {workgroup grid : Grid} (hx : l.usesOnlyX = true)
    (haxes : l.x ≠ []) {i j : Invocation} (hi : i.Inside workgroup grid)
    (hj : j.Inside workgroup grid)
    (hused : l.used (i.numbers l workgroup grid) = l.used (j.numbers l workgroup grid)) : i = j := by
  have hfirst : ∀ i : Invocation,
      (l.used (i.numbers l workgroup grid)).x = i.number workgroup grid := by
    intro i
    rw [numbers, if_pos hx, AxisLayout.used, AxisLayout.usedNumber, if_neg haxes]
  have hnumber : i.number workgroup grid = j.number workgroup grid := by
    rw [← hfirst i, hused, hfirst j]
  exact (existsUnique_number (number_lt hj)).unique ⟨hi, hnumber⟩ ⟨hj, rfl⟩

end Invocation

/-- An invocation finds its numbers. -/
theorem finds_numbers {l : AxisLayout} {i : Invocation} {workgroup grid : Grid}
    (hs : s.arithmetic = .exact) (hposition : s.position = i.position workgroup)
    (hglobal : calls "getGlobalIndex" [] = some ⟨some (.int (i.number workgroup grid)), []⟩) :
    Finds s calls l (i.numbers l workgroup grid) := by
  have hid : s.position .globalId = i.position workgroup .globalId := by rw [hposition]
  have hcomponent : ∀ {component : String} {n : Nat},
      Names (i.position workgroup .globalId) component n →
      ∀ locals, (position .globalId component).eval s calls locals = some (.int n) := by
    intro component n hnames locals
    rw [← hid] at hnames
    have hsettles : Settles s calls locals (position .globalId component) n :=
      settles_position hnames
    rwa [Settles, hs, settle_exact] at hsettles
  by_cases hx : l.usesOnlyX = true
  · have haxes := AxisLayout.usesOnlyX_iff.mp hx
    rw [Invocation.numbers, if_pos hx]
    constructor
    · intro _ locals
      rw [dimensionSource, if_pos ⟨rfl, hx⟩]
      exact eval_call (evalAll_of_forall₂ .nil) hglobal
    · exact fun hy => absurd haxes.1 hy
    · exact fun hz => absurd haxes.2 hz
  · rw [Invocation.numbers, if_neg hx]
    constructor
    · intro _ locals
      rw [dimensionSource, if_neg (fun h => hx h.2)]
      exact hcomponent .x locals
    · exact fun _ => hcomponent .y
    · exact fun _ => hcomponent .z

/-- The function for the output coordinates follows the functions that it calls. -/
theorem exists_earlier_outputCoords (hn : WellNamed k) :
    ∃ earlier : Calls,
      (∀ args, helperCalls k s "getOutputCoords" args =
        (outputCoordsFunction k).apply s earlier args) ∧
      earlier "getGlobalIndex" = helperCalls k s "getGlobalIndex" := by
  have hsplit : helpers k = indexHelpers k ++
      outputCoordsFunction k :: (k.inputs.flatMap (samplers k) ++ writers k) := by
    rw [helpers_eq_append, fixedHelpers_eq_concat, List.append_assoc, List.append_assoc,
      List.singleton_append]
  have hmem : globalIndexFunction k.program.workgroup ∈ indexHelpers k := by simp [indexHelpers]
  have hnames := hn.functions
  rw [hsplit] at hnames
  rcases exists_calls_of_split (s := s) hnames with ⟨earlier, hcall, hearlier⟩
  rw [← hsplit] at hcall hearlier
  exact ⟨earlier, hcall, hearlier _ hmem⟩

/-- A call for the output coordinates answers with those that the numbers of the invocation lead
to. -/
theorem call_outputCoords {i : Invocation} {grid : Grid} (hn : WellNamed k)
    (hs : s.arithmetic = .exact) (hextents : HoldsExtents s k.output.shape) (hgrid : HoldsGrid s grid)
    (hposition : s.position = i.position k.program.workgroup)
    (hmeasures : s.arithmetic.Measures k.program.workgroup) (hflat : k.program.isFlat = false)
    (hcovers : k.program.layout.Covers k.output.shape) (hpos : 1 ≤ k.outRank)
    (hfour : k.outRank ≤ 4)
    (hleads : k.program.layout.Leads k.output.shape
      (i.numbers k.program.layout k.program.workgroup grid) coords) :
    helperCalls k s "getOutputCoords" [] = some ⟨some (coordsValue coords), []⟩ := by
  rcases exists_earlier_outputCoords (s := s) hn with ⟨earlier, hcall, hglobal⟩
  rcases hn.exists_earlier (s := s) (mem_helpers_of_mem_fixedHelpers globalIndexFunction_mem) with
    ⟨inner, hinner⟩
  have hnumber : earlier "getGlobalIndex" [] =
      some ⟨some (.int (i.number k.program.workgroup grid)), []⟩ := by
    rw [hglobal]
    refine (hinner []).trans ?_
    rw [apply_globalIndexFunction_settle hposition hgrid hmeasures, hs, settle_exact]
  rw [hcall]
  exact apply_outputCoordsFunction hs hextents hflat hcovers hpos hfour
    (finds_numbers hs hposition hnumber) hleads

/-! ## Whole dispatches -/

/-- All numbers below the products of the extents occur among the invocations of a dispatch. -/
theorem exists_numbers {p : Program} {limit : Nat} {grid g : Grid}
    (hcells : Grid.Holds p.workgroup ⟨0, 0, 0⟩) (hperThread : p.perThread = ⟨1, 1, 1⟩)
    (hpos : ∀ extent ∈ p.outputShape, 1 ≤ extent) (hdispatch : p.dispatch limit = .ok grid)
    (htotal : grid.volume * p.workgroup.volume < 2 ^ 31)
    (hg : (p.layout.extents p.outputShape).Holds g) :
    ∃ i : Invocation, i.Inside p.workgroup grid ∧
      p.layout.used (i.numbers p.layout p.workgroup grid) = g := by
  have hused := AxisLayout.used_of_holds hg
  by_cases hx : p.layout.usesOnlyX = true
  · have haxes := AxisLayout.usesOnlyX_iff.mp hx
    have hcovered := Program.coverage_le_of_dispatch hx hcells hperThread (Nat.le_refl 1) hdispatch
      htotal
    rw [Nat.mul_one] at hcovered
    rcases (Invocation.existsUnique_number (Nat.lt_of_lt_of_le hg.x hcovered)).exists with
      ⟨i, hinside, hnumber⟩
    refine ⟨i, hinside, ?_⟩
    rw [Invocation.numbers, if_pos hx, hnumber]
    calc p.layout.used ⟨g.x, 0, 0⟩ = p.layout.used g := by
          simp [AxisLayout.used, AxisLayout.usedNumber, haxes]
      _ = g := hused
  · rcases Program.extents_le_of_dispatch (Bool.eq_false_of_not_eq_true hx) hcells hperThread
      (fun axes _ => AxisLayout.coverage_pos hpos axes) hdispatch htotal with ⟨hcx, hcy, hcz⟩
    rcases Invocation.exists_globalId (Nat.lt_of_lt_of_le hg.x hcx) (Nat.lt_of_lt_of_le hg.y hcy)
      (Nat.lt_of_lt_of_le hg.z hcz) with ⟨i, hinside, hposition⟩
    refine ⟨i, hinside, ?_⟩
    rw [Invocation.numbers, if_neg hx, hposition, hused]

/-- With the block of its dispatch, an invocation finds the coordinates that its numbers lead to. -/
theorem call_outputCoords_of_contents {code : String} {grid : Grid} {extra : List Field}
    {contents : List Content} {i : Invocation} (hn : WellNamed k)
    (hcontents : k.program.uniformContents k.inputs k.output.shape grid extra = .ok contents)
    (hmeasures : Arithmetic.exact.Measures k.program.workgroup)
    (hflat : k.program.isFlat = false) (hcovers : k.program.layout.Covers k.output.shape)
    (hpos : 1 ≤ k.outRank) (hfour : k.outRank ≤ 4)
    (hleads : k.program.layout.Leads k.output.shape
      (i.numbers k.program.layout k.program.workgroup grid) coords) :
    helperCalls k ((moduleWith k code).setting .exact contents i) "getOutputCoords" [] =
      some ⟨some (coordsValue coords), []⟩ := by
  have hextents : HoldsExtents ((moduleWith k code).setting .exact contents i) k.output.shape :=
    uniforms_eq_of_mem (m := ⟨"outShape", .coords k.outRank⟩) (c := .counts k.output.shape) hn
      hcontents (by simp [memberContents])
  have hgrid : HoldsGrid ((moduleWith k code).setting .exact contents i) grid :=
    uniforms_eq_of_mem (m := ⟨"dispatchSize", .vector 3 .i32⟩) (c := .counts grid.toList) hn
      hcontents (by simp [memberContents])
  exact call_outputCoords hn rfl hextents hgrid rfl hmeasures hflat hcovers hpos hfour hleads

/-- Where only the first dimension has axes, coordinates of the output are found by one invocation. -/
theorem existsUnique_visit {l : AxisLayout} {f : Grid → List Nat} {workgroup grid : Grid}
    (hx : l.usesOnlyX = true) (haxes : l.x ≠ [])
    (hused : ∀ g, f (l.used g) = f g ∧
      (Shape.Within (f g) output ↔ (l.extents output).Holds (l.used g)))
    (hbij : Set.BijOn f {g | (l.extents output).Holds g} {coords | Shape.Within coords output})
    (hoccurs : ∀ g, (l.extents output).Holds g →
      ∃ i : Invocation, i.Inside workgroup grid ∧ l.used (i.numbers l workgroup grid) = g)
    (hwithin : Shape.Within coords output) :
    ∃! i : Invocation, i.Inside workgroup grid ∧ f (i.numbers l workgroup grid) = coords := by
  rcases hbij.surjOn hwithin with ⟨g, hg, rfl⟩
  rcases hoccurs g hg with ⟨i, hinside, hi⟩
  refine ⟨i, ⟨hinside, by rw [← (hused _).1, hi]⟩, ?_⟩
  rintro j ⟨hinsideJ, hj⟩
  have hholds : (l.extents output).Holds (l.used (j.numbers l workgroup grid)) := by
    rw [← (hused _).2, hj]
    exact hbij.mapsTo hg
  have hnumbers : l.used (j.numbers l workgroup grid) = g := by
    apply hbij.injOn hholds hg
    rw [(hused _).1, hj]
  exact Invocation.eq_of_used_eq hx haxes hinsideJ hinside (hnumbers.trans hi.symm)

/-- A layout that is not flat enumerates the output.  Every invocation finds the coordinates of its
numbers along the dimensions that have axes.  The numbers below the products of the extents lead to all
coordinates of the output, one to one, and all of them occur in the grid; any other numbers lead out of
the output.  Where only the first dimension has axes, whether or not the grid was folded, each element
of the output belongs to exactly one invocation. -/
theorem layouts_enumerate_the_output (k : Kernel) (code : String) (limit : Nat) (grid : Grid)
    (extra : List Field) (contents : List Content)
    (hshape : k.output.shape = k.program.outputShape)
    (hlayout : k.program.layout.validate k.outRank = .ok ()) (hflat : k.program.isFlat = false)
    (hperThread : k.program.perThread = ⟨1, 1, 1⟩)
    (hworkgroup : 1 ≤ k.program.workgroup.x ∧ 1 ≤ k.program.workgroup.y ∧ 1 ≤ k.program.workgroup.z)
    (hpos : ∀ extent ∈ k.output.shape, 1 ≤ extent) (hnames : WellNamed k)
    (hdispatch : k.program.dispatch limit = .ok grid)
    (htotal : grid.volume * k.program.workgroup.volume < 2 ^ 31)
    (hcontents : k.program.uniformContents k.inputs k.output.shape grid extra = .ok contents) :
    let output := k.output.shape
    let l := k.program.layout
    let workgroup := k.program.workgroup
    let numbers := fun i : Invocation => i.numbers l workgroup grid
    let outputCoords := fun i : Invocation =>
      helperCalls k ((moduleWith k code).setting .exact contents i) "getOutputCoords" []
    ∃ f : Grid → List Nat,
      (∀ i, outputCoords i = some ⟨some (coordsValue (f (numbers i))), []⟩) ∧
      (∀ g, f (l.used g) = f g ∧ (f g).length = output.length ∧
        (Shape.Within (f g) output ↔ (l.extents output).Holds (l.used g))) ∧
      Set.BijOn f {g | (l.extents output).Holds g} {coords | Shape.Within coords output} ∧
      (∀ g, (l.extents output).Holds g →
        ∃ i : Invocation, i.Inside workgroup grid ∧ l.used (numbers i) = g) ∧
      (l.usesOnlyX = true → ∀ coords, Shape.Within coords output →
        ∃! i : Invocation, i.Inside workgroup grid ∧
          outputCoords i = some ⟨some (coordsValue coords), []⟩) := by
  intro output l workgroup numbers outputCoords
  have hfour : k.outRank ≤ 4 := (AxisLayout.validate_eq_ok_iff.mp hlayout).1
  have hcovers : l.Covers output := (AxisLayout.validate_eq_ok_iff.mp hlayout).2
  have houtput : output = k.program.outputShape := hshape
  have hrank : 1 ≤ k.outRank := by
    apply hcovers.length_pos
    rw [houtput]
    exact hflat
  have hcells : Grid.Holds workgroup ⟨0, 0, 0⟩ := ⟨hworkgroup.1, hworkgroup.2.1, hworkgroup.2.2⟩
  obtain ⟨f, hleads, hused, hbij⟩ := AxisLayout.exists_enumeration hcovers hpos
  have hoccurs : ∀ g, (l.extents output).Holds g →
      ∃ i : Invocation, i.Inside workgroup grid ∧ l.used (numbers i) = g := by
    intro g hg
    rw [houtput] at hg
    rw [hshape] at hpos
    exact exists_numbers hcells hperThread hpos hdispatch htotal hg
  have hmeasures : Arithmetic.exact.Measures workgroup := by
    obtain ⟨i, hinside, -⟩ := hoccurs ⟨0, 0, 0⟩ (AxisLayout.holds_zero hpos)
    exact measures_of_inside _ hinside htotal
  have hcall (i : Invocation) : outputCoords i = some ⟨some (coordsValue (f (numbers i))), []⟩ :=
    call_outputCoords_of_contents hnames hcontents hmeasures hflat hcovers hrank hfour
      (hleads (numbers i))
  refine ⟨f, hcall, fun g => ⟨(hused g).1, (hleads g).length, (hused g).2⟩, hbij, hoccurs,
    fun hx coords hwithin => ?_⟩
  -- The value that a call answers with stands for the coordinates, as their number is fixed.
  have hanswer (i : Invocation) :
      outputCoords i = some ⟨some (coordsValue coords), []⟩ ↔ f (numbers i) = coords := by
    refine ⟨fun h => ?_, fun h => by rw [hcall, h]⟩
    rw [hcall i] at h
    exact coordsValue_inj ((hleads _).length.trans hwithin.length_eq.symm) (by simpa using h)
  simp only [hanswer]
  exact existsUnique_visit hx (hcovers.x_ne_nil hrank hx) hused hbij hoccurs hwithin

/-- A kernel that runs over its fifty elements column by column, in a row of twenty-five workgroups
unless they are folded. -/
def columnsKernel : Kernel where
  program := {
    label := "columns", outputShape := [5, 10], layout := ⟨[1, 0], [], []⟩, workgroup := ⟨2, 3, 1⟩,
    operandNames := ["x"], wgslBody := some "fn userMain() \x7b \x7d\n" }
  inputs := [⟨"x", .float32, [10, 5]⟩]
  output := ⟨"result", .float32, [5, 10]⟩

/-- The element in row four and column seven is visited by exactly one invocation. -/
theorem columnsKernel_is_enumerated :
    ∃! i : Invocation, i.Inside ⟨2, 3, 1⟩ ⟨5, 5, 1⟩ ∧
      helperCalls columnsKernel ((moduleWith columnsKernel "").setting .exact [.notANumber,
        .counts [10, 5], .counts [5, 10], .counts [10], .counts [5, 5, 1]] i) "getOutputCoords" [] =
          some ⟨some (coordsValue [4, 7]), []⟩ := by
  have hdispatch : columnsKernel.program.dispatch 9 = .ok ⟨5, 5, 1⟩ := by
    change (if Root.ceilRoot 25 2 ≤ 9 then
      Except.ok (Grid.mk (Root.ceilRoot 25 2) (Root.ceilRoot 25 2) 1) else _) = _
    rw [ceilRoot_twentyFive]
    rfl
  have hlayout : columnsKernel.program.layout.validate 2 = .ok () := by rfl
  have hnames : WellNamed columnsKernel := by decide +kernel
  have hcontents : columnsKernel.program.uniformContents columnsKernel.inputs [5, 10] ⟨5, 5, 1⟩ [] =
      .ok [.notANumber, .counts [10, 5], .counts [5, 10], .counts [10], .counts [5, 5, 1]] := by
    have hstrides : Shape.outerStrides [5, 10] = [10] := by simp [Shape.outerStrides]
    rw [Program.uniformContents, Program.standardContents, hstrides]
    rfl
  obtain ⟨_, -, -, -, -, honce⟩ := layouts_enumerate_the_output columnsKernel "" 9 ⟨5, 5, 1⟩ [] _ rfl
    hlayout rfl rfl (by decide) (by decide) hnames hdispatch (by decide) hcontents
  exact honce rfl [4, 7] (by decide)

end ComputeKernels.Shader

import ComputeKernels.Proofs.Dispatch.Coverage
import ComputeKernels.Proofs.Shader.Totality

/-!
# The invocations of a dispatch

Every invocation of a dispatch finds its number among all invocations, whatever the extents of the
workgroup and however the workgroups were folded.  The numbers are those below the count of
invocations, each once, so an elementwise program writes every unit of its output exactly once.

Main results:

- Theorem `apply_globalIndexFunction`: an invocation finds its number, also in 32 bits.
- Theorem `existsUnique_number`: every number belongs to exactly one invocation.
- Theorem `run_entry`: an elementwise entry writes the unit of its number, or nothing.
- Theorem `invocations_cover_the_output`: each unit of the output is written by one invocation.
-/

namespace ComputeKernels.Shader

open ComputeKernels.Uniform

/-! ## Operations in 32 bits -/

private theorem settle_settle_add (a : Arithmetic) (m n : Int) :
    a.settle (a.settle m + a.settle n) = a.settle (m + n) := by
  cases a with
  | exact => rfl
  | wrapping => simp only [Arithmetic.settle, Int.bmod_add_bmod, Int.add_bmod_bmod]

private theorem settle_settle_mul (a : Arithmetic) (m n : Int) :
    a.settle (a.settle m * a.settle n) = a.settle (m * n) := by
  cases a with
  | exact => rfl
  | wrapping => simp only [Arithmetic.settle, Int.bmod_mul_bmod, Int.mul_bmod_bmod]

variable {s : Setting} {calls : Calls} {locals : Locals}

/-- An expression has a number as its value, up to the cut of the arithmetic. -/
abbrev Settles (s : Setting) (calls : Calls) (locals : Locals) (e : Expr) (n : Nat) : Prop :=
  e.eval s calls locals = some (.int (s.arithmetic.settle n))

private theorem settles_add {left right : Expr} {m n : Nat} (hleft : Settles s calls locals left m)
    (hright : Settles s calls locals right n) :
    Settles s calls locals (.binary .add left right) (m + n) := by
  rw [Settles, eval_binary hleft hright rfl, settle_settle_add, Int.natCast_add]

private theorem settles_mul {left right : Expr} {m n : Nat} (hleft : Settles s calls locals left m)
    (hright : Settles s calls locals right n) :
    Settles s calls locals (.binary .mul left right) (m * n) := by
  rw [Settles, eval_binary hleft hright rfl, settle_settle_mul, Int.natCast_mul]

private theorem settles_int (n : Nat) : Settles s calls locals (.int n) n := by
  rw [Settles, Expr.eval]

/-! ## Positions -/

/-- The number of a grid dimension that a component names. -/
inductive Names (g : Grid) : String → Nat → Prop
  | x : Names g "x" g.x
  | y : Names g "y" g.y
  | z : Names g "z" g.z

/-- A component of a position settles to its number. -/
theorem settles_position {which : Builtin} {component : String} {n : Nat}
    (h : Names (s.position which) component n) :
    Settles s calls locals (position which component) n := by
  cases h <;>
    simp [Settles, position, Expr.eval, Expr.evalAll, Expr.isBlock, Value.component?, Grid.toList,
      componentNames, List.idxOf?, List.findIdx?, List.findIdx?.go, ShaderType.build?,
      ShaderType.convert]

/-- The uniform block holds the workgroup counts of a grid. -/
abbrev HoldsGrid (s : Setting) (grid : Grid) : Prop :=
  s.uniforms "dispatchSize" = some (.ofCounts s.arithmetic grid.toList)

private theorem settles_gridExtent {grid : Grid} (hgrid : HoldsGrid s grid) {component : String}
    {n : Nat}
    (h : Names grid component n) : Settles s calls locals (gridExtent component) n := by
  have hblock : (Expr.uniform "dispatchSize").isBlock = false := rfl
  have hvalue : (Expr.uniform "dispatchSize").eval s calls locals =
      some (.ofCounts s.arithmetic grid.toList) := (eval_uniform _).trans hgrid
  cases h <;>
    simp [Settles, gridExtent, Expr.eval, hblock, hvalue, Value.component?, Grid.toList,
      Value.ofCounts, componentNames, List.idxOf?, List.findIdx?, List.findIdx?.go]

/-! ## Numbers of invocations -/

namespace Invocation

/-- An invocation of a dispatch with some workgroup. -/
structure Inside (i : Invocation) (workgroup grid : Grid) : Prop where
  group : grid.Holds i.group
  cell : workgroup.Holds i.cell

/-- Number of an invocation: workgroup after workgroup, cell after cell. -/
def number (i : Invocation) (workgroup grid : Grid) : Nat :=
  grid.place i.group * workgroup.volume + workgroup.place i.cell

/-- Invocations inside a grid are numbered below their total. -/
theorem number_lt {i : Invocation} {workgroup grid : Grid} (h : i.Inside workgroup grid) :
    i.number workgroup grid < grid.volume * workgroup.volume :=
  Grid.digit_lt (Grid.place_lt h.group) (Grid.place_lt h.cell)

/-- Every number below the count of invocations belongs to exactly one of them. -/
theorem existsUnique_number {workgroup grid : Grid} {n : Nat}
    (h : n < grid.volume * workgroup.volume) :
    ∃! i : Invocation, i.Inside workgroup grid ∧ i.number workgroup grid = n := by
  have hpos : 0 < workgroup.volume := Nat.pos_of_mul_pos_left (Nat.zero_lt_of_lt h)
  have hgroup : n / workgroup.volume < grid.volume := Nat.div_lt_of_lt_mul (by rwa [Nat.mul_comm])
  rcases (Grid.existsUnique_place hgroup).exists with ⟨group, hgroup, hgroupPlace⟩
  rcases (Grid.existsUnique_place (Nat.mod_lt n hpos)).exists with ⟨cell, hcell, hcellPlace⟩
  refine ⟨⟨group, cell⟩, ⟨⟨hgroup, hcell⟩, ?_⟩, fun j hj => ?_⟩
  · rw [number, hgroupPlace, hcellPlace]
    exact Nat.div_add_mod' n workgroup.volume
  · rcases hj with ⟨hinside, hnumber⟩
    have hplaces : grid.place j.group * workgroup.volume + workgroup.place j.cell =
        grid.place group * workgroup.volume + workgroup.place cell := by
      rw [hgroupPlace, hcellPlace, Nat.div_add_mod']
      exact hnumber
    rcases Grid.digit_inj (Grid.place_lt hinside.cell) (Grid.place_lt hcell) hplaces with
      ⟨hsame, hsame'⟩
    have hgroups := Grid.place_inj hinside.group hgroup hsame
    have hcells := Grid.place_inj hinside.cell hcell hsame'
    cases j
    simp_all

end Invocation

/-! ## Extents of a workgroup -/

/-- The products that the host computes for a workgroup are those of its extents, up to the cut of the
arithmetic. -/
structure Arithmetic.Measures (a : Arithmetic) (workgroup : Grid) : Prop where
  layer : a.settle (layerCount workgroup) = a.settle ((workgroup.x * workgroup.y : Nat) : Int)
  all : a.settle (invocationCount workgroup) = a.settle (workgroup.volume : Nat)

/-- Bits that the host loses are lost in 32 bits in any case. -/
theorem measures_wrapping (workgroup : Grid) : Arithmetic.wrapping.Measures workgroup := by
  have hcut : ∀ n : Int, (n.bmod UInt64.size).bmod (2 ^ 32) = n.bmod (2 ^ 32) := fun n =>
    Int.bmod_bmod_of_dvd (by decide)
  refine ⟨?_, ?_⟩
  · simp only [Arithmetic.settle, layerCount, Word.wrapSigned, hcut, Int.natCast_mul]
  · simp only [Arithmetic.settle, invocationCount, layerCount, Word.wrapSigned, Int.bmod_mul_bmod,
      hcut, Grid.volume, Int.natCast_mul]

/-- The host's products are right where they fit a machine number with a sign. -/
theorem measures_of_fitsSigned (a : Arithmetic) {workgroup : Grid}
    (h : fitsSigned workgroup = true) : a.Measures workgroup := by
  obtain ⟨hlayer, hvolume⟩ := of_decide_eq_true h
  have hcount : layerCount workgroup = ((workgroup.x * workgroup.y : Nat) : Int) := by
    rw [layerCount, ← Int.natCast_mul, Word.wrapSigned_of_lt hlayer]
  refine ⟨congrArg a.settle hcount, congrArg a.settle ?_⟩
  rw [invocationCount, hcount, ← Int.natCast_mul]
  exact Word.wrapSigned_of_lt hvolume

/-- They fit where a dispatch has fewer than `2 ^ 31` invocations. -/
theorem fitsSigned_of_total {workgroup grid : Grid} (hgrid : 0 < grid.volume)
    (hlayers : 0 < workgroup.z) (htotal : grid.volume * workgroup.volume < 2 ^ 31) :
    fitsSigned workgroup = true := by
  have hvolume : workgroup.volume < 2 ^ 63 := by
    calc workgroup.volume ≤ grid.volume * workgroup.volume := Nat.le_mul_of_pos_left _ hgrid
      _ < 2 ^ 31 := htotal
      _ ≤ 2 ^ 63 := by decide
  have hlayer : workgroup.x * workgroup.y ≤ workgroup.volume := Nat.le_mul_of_pos_right _ hlayers
  exact decide_eq_true ⟨Nat.lt_of_le_of_lt hlayer hvolume, hvolume⟩

/-- So the host's products are right for a dispatch of so few invocations. -/
theorem measures_of_inside (a : Arithmetic) {workgroup grid : Grid} {i : Invocation}
    (hinside : i.Inside workgroup grid) (htotal : grid.volume * workgroup.volume < 2 ^ 31) :
    a.Measures workgroup :=
  measures_of_fitsSigned a (fitsSigned_of_total
    (Nat.zero_lt_of_lt (Grid.place_lt hinside.group)) (Nat.zero_lt_of_lt hinside.cell.z) htotal)

/-! ## Numbers that invocations find -/

private theorem settles_localIndex {workgroup : Grid} {i : Invocation}
    (hposition : s.position = i.position workgroup) (hmeasures : s.arithmetic.Measures workgroup) :
    Settles s calls locals (localIndex workgroup) (workgroup.place i.cell) := by
  have hcell : s.position .localId = i.cell := by rw [hposition]; rfl
  have hlayer : Settles s calls locals (.int (layerCount workgroup)) (workgroup.x * workgroup.y) := by
    rw [Settles, Expr.eval, hmeasures.layer]
  apply settles_add
  · apply settles_add
    · exact settles_mul (settles_position (hcell ▸ .z)) hlayer
    · exact settles_mul (settles_position (hcell ▸ .y)) (settles_int workgroup.x)
  · exact settles_position (hcell ▸ .x)

private theorem settles_workgroupIndex {workgroup grid : Grid} {i : Invocation}
    (hposition : s.position = i.position workgroup) (hgrid : HoldsGrid s grid) :
    Settles s calls locals workgroupIndex (grid.place i.group) := by
  have hgroup : s.position .workgroupId = i.group := by rw [hposition]; rfl
  apply settles_add
  · apply settles_add
    · apply settles_mul (settles_position (hgroup ▸ .z))
      exact settles_mul (settles_gridExtent hgrid .x) (settles_gridExtent hgrid .y)
    · exact settles_mul (settles_position (hgroup ▸ .y)) (settles_gridExtent hgrid .x)
  · exact settles_position (hgroup ▸ .x)

/-- An invocation finds its number, up to the cut of the arithmetic. -/
theorem apply_globalIndexFunction_settle {workgroup grid : Grid} {i : Invocation}
    (hposition : s.position = i.position workgroup) (hgrid : HoldsGrid s grid)
    (hmeasures : s.arithmetic.Measures workgroup) :
    (globalIndexFunction workgroup).apply s calls [] =
      some ⟨some (.int (s.arithmetic.settle (i.number workgroup grid))), []⟩ := by
  let f : Frame := { locals := [] }
  have hlocal : Settles s calls f.locals (localIndex workgroup) (workgroup.place i.cell) :=
    settles_localIndex hposition hmeasures
  let g := f.declare "localIndex" (.int (s.arithmetic.settle (workgroup.place i.cell)))
  have hgroup : Settles s calls g.locals workgroupIndex (grid.place i.group) :=
    settles_workgroupIndex hposition hgrid
  let h := g.declare "workgroupIndex" (.int (s.arithmetic.settle (grid.place i.group)))
  have hresult : Settles s calls h.locals (.binary .add
      (.binary .mul (.ident "workgroupIndex") (.int (invocationCount workgroup)))
      (.ident "localIndex"))
      (i.number workgroup grid) := by
    have hgroupValue : Settles s calls h.locals (.ident "workgroupIndex") (grid.place i.group) := by
      rw [Settles, eval_ident, Frame.lookup_declare, if_pos rfl]
    have hlocalValue : Settles s calls h.locals (.ident "localIndex") (workgroup.place i.cell) := by
      rw [Settles, eval_ident, Frame.lookup_declare, if_neg (by decide), Frame.lookup_declare,
        if_pos rfl]
    have hcountValue : Settles s calls h.locals (.int (invocationCount workgroup))
        workgroup.volume := by
      rw [Settles, Expr.eval, hmeasures.all]
    exact settles_add (settles_mul hgroupValue hcountValue) hlocalValue
  have hrun : Stmt.runAll s calls f (globalIndexFunction workgroup).body = some { h with
      returned := some (some (.int (s.arithmetic.settle (i.number workgroup grid)))) } := by
    rw [globalIndexFunction, runAll_constant rfl hlocal, runAll_constant rfl hgroup]
    exact runAll_ret hresult
  exact apply_of_runAll rfl hrun rfl rfl

/-- The helper of a kernel gives every invocation its number, up to the cut of the arithmetic. -/
theorem call_globalIndexFunction {k : Kernel} (hn : WellNamed k) {grid : Grid} {i : Invocation}
    (hposition : s.position = i.position k.program.workgroup) (hgrid : HoldsGrid s grid)
    (hmeasures : s.arithmetic.Measures k.program.workgroup) :
    helperCalls k s "getGlobalIndex" [] =
      some ⟨some (.int (s.arithmetic.settle (i.number k.program.workgroup grid))), []⟩ := by
  rcases hn.exists_earlier (s := s)
    (mem_helpers_of_mem_fixedHelpers globalIndexFunction_mem) with ⟨earlier, hcall⟩
  exact (hcall []).trans (apply_globalIndexFunction_settle hposition hgrid hmeasures)

/-! ## Elementwise entries -/

/-- What the functions of a module mean once the operation of its own code is defined. -/
def withOperation (calls : Calls) (operation : List Value → Value) : Calls := fun name args =>
  if name = "operation" then some ⟨some (operation args), []⟩ else calls name args

private theorem withOperation_of_ne {operation : List Value → Value} {name : String}
    (h : name ≠ "operation") : withOperation calls operation name = calls name := by
  funext args
  exact if_neg h

/-- What an invocation of an elementwise kernel writes, if its entry runs to the end. -/
def entryWrites (k : Kernel) (s : Setting) (operation : List Value → Value) :
    Option (List Write) :=
  (Stmt.runAll s (withOperation (helperCalls k s) operation) { locals := [] } (entryBody k)).map
    Frame.writes

variable {k : Kernel}

/-- A unit is written to the slot of its index. -/
theorem call_writeAtIndex (hn : WellNamed k) (hs : Supplies k s) (n : Int) (v : Value) :
    helperCalls k s "setOutputAtIndex" [.int n, v] = some ⟨none, [⟨Kernel.outputName, n,
      (storedUnit k k.output.element).convert s.arithmetic v⟩]⟩ := by
  have hmem : writeAtIndex k "" .f32 ∈ helpers k :=
    List.mem_append_right _ (List.mem_append_left _ List.mem_cons_self)
  rcases hn.exists_earlier (s := s) hmem with ⟨earlier, hcall⟩
  let f : Frame := { locals := [("flatIndex", .int n), ("value", v)] }
  have hvisible : f.locals.lookup Kernel.outputName = none := by
    simp [f, Kernel.outputName, List.lookup_cons]
  have hindex : (Expr.ident "flatIndex").eval s earlier f.locals = some (.int n) := by
    simp [f, eval_ident]
  have hvalue : (Expr.construct (storedUnit k k.output.element) [.ident "value"]).eval s earlier
      f.locals = some ((storedUnit k k.output.element).convert s.arithmetic v) := by
    have hident : (Expr.ident "value").eval s earlier f.locals = some v := by
      simp [f, eval_ident, List.lookup_cons]
    simp [Expr.eval, evalAll_of_forall₂ (.cons hident .nil), ShaderType.build?]
  refine (hcall _).trans ?_
  change (Stmt.runAll s earlier f [.assign (.index (.ident Kernel.outputName) (.ident "flatIndex"))
    (.construct (storedUnit k k.output.element) [.ident "value"])]).bind _ = _
  rw [runAll_assign_slot rfl hvisible hs.output hindex hvalue, Stmt.runAll]
  rfl

/-- No sampler is named like the operation. -/
theorem sampler_ne_operation (name : String) : "get" ++ name ++ "ByOutputIndex" ≠ "operation" := by
  intro h
  have hlist := congrArg (fun t : String => t.toList.head?) h
  simp at hlist

/-- Every operand is sampled at any index. -/
theorem exists_evalAll_operandSamples (hk : k.Acceptable) (hn : WellNamed k) (hs : Supplies k s)
    (hentry : k.program.entry = .elementwise) (operation : List Value → Value) {index : Int}
    (hnonzero : ∀ stride ∈ Shape.outerStrides k.output.shape,
      s.arithmetic.settle (stride : Nat) ≠ 0)
    (hindex : locals.lookup "index" = some (.int index)) :
    ∃ samples, Expr.evalAll s (withOperation (helperCalls k s) operation) locals
      (operandSamples k) = some samples := by
  have hsample : ∀ e ∈ operandSamples k, ∃ v,
      e.eval s (withOperation (helperCalls k s) operation) locals = some v := by
    refine List.forall_mem_map.mpr fun o ho => ?_
    have hle := (hk.inputs o ho).sampled hentry
    rcases exists_call_readAtOutputIndex hk hn hs hnonzero ho hle index with ⟨v, hv⟩
    refine ⟨v, eval_call (evalAll_of_forall₂ (.cons ((eval_ident _).trans hindex) .nil)) ?_⟩
    rw [withOperation_of_ne (sampler_ne_operation (capitalized o.name))]
    exact hv
  rcases exists_forall₂ hsample with ⟨samples, hsamples⟩
  exact ⟨samples, evalAll_of_forall₂ hsamples⟩

/-- The entry of an elementwise kernel writes the unit of its index if the index passes the check,
whatever its sign, and else nothing. -/
theorem run_entry_at (hk : k.Acceptable) (hn : WellNamed k) (hs : Supplies k s)
    (hentry : k.program.entry = .elementwise) {index : Int} {units : Nat}
    (hglobal : helperCalls k s "getGlobalIndex" [] = some ⟨some (.int index), []⟩)
    (hsize : s.uniforms "size" = some (.int units))
    (hnonzero : index < units → ∀ stride ∈ Shape.outerStrides k.output.shape,
      s.arithmetic.settle (stride : Nat) ≠ 0)
    (operation : List Value → Value) :
    ∃ value, entryWrites k s operation =
      some (if index < units then [⟨Kernel.outputName, index, value⟩] else []) := by
  let calls := withOperation (helperCalls k s) operation
  let f : Frame := Frame.declare { locals := [] } "index" (.int index)
  have hglobal : globalIndex.eval s calls [] = some (.int index) := by
    have hcalls : calls "getGlobalIndex" = helperCalls k s "getGlobalIndex" :=
      withOperation_of_ne (by decide)
    exact eval_call (evalAll_of_forall₂ .nil) ((congrFun hcalls []).trans hglobal)
  have hindex : f.locals.lookup "index" = some (.int index) := by
    rw [Frame.lookup_declare, if_pos rfl]
  have htest : (Expr.binary .lt (.ident "index") (.uniform "size")).eval s calls f.locals =
      some (.atom (.bool (decide (index < units)))) :=
    eval_lt ((eval_ident "index").trans hindex) ((eval_uniform "size").trans hsize)
  have hbody : entryBody k = [.constant "index" (.scalar .i32) globalIndex,
      .ifThen (.binary .lt (.ident "index") (.uniform "size"))
        [.expr (.call "setOutputAtIndex"
          [.ident "index", .call "operation" (operandSamples k)])]] := by
    simp [entryBody, hentry]
  rw [entryWrites, hbody, runAll_constant rfl hglobal]
  by_cases hlt : index < units
  · rcases exists_evalAll_operandSamples hk hn hs hentry operation (hnonzero hlt) hindex with
      ⟨samples, hsamples⟩
    have hoperation : (Expr.call "operation" (operandSamples k)).eval s calls f.locals =
        some (operation samples) := eval_call hsamples rfl
    have hargs : Expr.evalAll s calls f.locals
        [.ident "index", .call "operation" (operandSamples k)] =
          some [.int index, operation samples] :=
      evalAll_of_forall₂ (.cons ((eval_ident "index").trans hindex) (.cons hoperation .nil))
    let value := (storedUnit k k.output.element).convert s.arithmetic (operation samples)
    have hwrite : calls "setOutputAtIndex" [.int index, operation samples] =
        some ⟨none, [⟨Kernel.outputName, index, value⟩]⟩ :=
      (congrFun (withOperation_of_ne (by decide)) _).trans (call_writeAtIndex hn hs index _)
    have hbranch : Stmt.runAll s calls f [.expr (.call "setOutputAtIndex"
        [.ident "index", .call "operation" (operandSamples k)])] =
          some (f.wrote [⟨Kernel.outputName, index, value⟩]) := by
      rw [runAll_call rfl hargs hwrite, Stmt.runAll]
    rw [decide_eq_true hlt] at htest
    refine ⟨value, ?_⟩
    rw [runAll_ifThen_true htest hbranch rfl, Stmt.runAll, if_pos hlt]
    rfl
  · rw [decide_eq_false hlt] at htest
    refine ⟨.int 0, ?_⟩
    rw [runAll_ifThen_false rfl htest, Stmt.runAll, if_neg hlt]
    rfl

/-- The block of a dispatch holds its workgroup counts. -/
theorem holdsGrid_of_contents (code : String) (a : Arithmetic) {grid : Grid} {extra : List Field}
    {contents : List Content} (i : Invocation) (hn : WellNamed k)
    (hcontents : k.program.uniformContents k.inputs k.output.shape grid extra = .ok contents) :
    HoldsGrid ((moduleWith k code).setting a contents i) grid := by
  have hmember : (UniformMember.mk "dispatchSize" (.vector 3 .i32), Content.counts grid.toList) ∈
      memberContents k grid extra := by simp [memberContents]
  exact uniforms_eq_of_mem hn hcontents hmember

/-- The size field holds the number of units of the output. -/
theorem size_mem_contents {grid : Grid} {extra : List Field} {contents : List Content}
    (hcontents : k.program.uniformContents k.inputs k.output.shape grid extra = .ok contents)
    (hsize : k.program.hasSize = true) :
    (⟨"size", .scalar .i32⟩, .counts [Shape.size k.output.shape / k.program.lanes.width]) ∈
      (uniformMembers k).zip contents := by
  rcases uniformContents_eq_ok hcontents with ⟨rfl, hextra⟩
  have hunits : k.program.unitCount k.output.shape =
      Shape.size k.output.shape / k.program.lanes.width := by
    unfold Program.unitCount
    cases k.program.lanes with
    | scalar => exact (Nat.div_one _).symm
    | vec4 => rfl
  rw [uniformMembers_eq grid hextra.length_eq, List.zip_map', ← hunits]
  simp [memberContents, hsize]

/-- A kernel of fifty elements, whose workgroups form a row of twenty-five unless they are folded. -/
def rowKernel : Kernel where
  program := Program.elementwise "scale" [50] ["A"] ["a"] (fun _ => "return a;") .wgsl .scalar ⟨2, 3, 1⟩
  inputs := [⟨"A", .float32, [50]⟩]
  output := ⟨"result", .float32, [50]⟩

/-- Twenty-five groups make a square of side five. -/
theorem ceilRoot_twentyFive : Root.ceilRoot 25 2 = 5 := by
  have hcandidate : Root.lower 2 25 (Root.climb 2 25 (Nat.log2 25 + 1) 0 + 1) = 5 := by decide
  rw [Root.ceilRoot, if_neg (by decide), Root.settle, hcandidate, Root.raise, dif_neg (by decide)]

/-- The row is dispatched to a square of workgroups. -/
theorem rowKernel_dispatch : rowKernel.program.dispatch 9 = .ok ⟨5, 5, 1⟩ := by
  change (if Root.ceilRoot 25 2 ≤ 9 then
    Except.ok (Grid.mk (Root.ceilRoot 25 2) (Root.ceilRoot 25 2) 1) else _) = _
  rw [ceilRoot_twentyFive]
  rfl

/-- The contents of the uniform block for that dispatch. -/
theorem rowKernel_contents :
    rowKernel.program.uniformContents rowKernel.inputs [50] ⟨5, 5, 1⟩ [] =
      .ok [.notANumber, .counts [50], .counts [50], .counts [], .counts [50],
        .counts [5, 5, 1]] := by
  have hstrides : Shape.outerStrides [50] = [] := by simp [Shape.outerStrides]
  rw [Program.uniformContents, Program.standardContents, hstrides]
  rfl

end ComputeKernels.Shader

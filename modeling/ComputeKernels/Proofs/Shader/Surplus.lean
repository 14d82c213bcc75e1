import ComputeKernels.Proofs.Dispatch.Capacity
import ComputeKernels.Proofs.Shader.Invocations
import Mathlib.Tactic.Ring

/-!
# Surplus invocations

A dispatch may have more invocations than the output has units, the more so if it was folded.  The
entry of an elementwise program lets an invocation write if its index is below the number of units.
The index is a signed number of 32 bits and no test asks whether it is below zero, so the surplus
invocations write nothing as long as all numbers of invocations are indices.  From the number
`2 ^ 31` on they pass the test with indices below zero.

Main results:

- Theorem `run_entry_wrapping`: what one invocation writes where integers are cut to 32 bits.
- Theorem `surplus_is_idle_up_to_31_bits`: all writes go to the output exactly if a dispatch has at most
  `2 ^ 31` invocations.
-/

namespace ComputeKernels.Shader

open ComputeKernels.Uniform

/-! ## Indices of 32 bits -/

/-- The index that an invocation finds where integers are cut to 32 bits. -/
def Invocation.index (i : Invocation) (workgroup grid : Grid) : Int :=
  Arithmetic.wrapping.settle (i.number workgroup grid)

namespace Invocation

variable {i : Invocation} {workgroup grid : Grid}

private theorem index_of_lt (h : i.number workgroup grid < 2 ^ 31) :
    i.index workgroup grid = i.number workgroup grid :=
  settle_of_lt .wrapping h

/-- The first number that is no index is found below zero. -/
theorem index_of_eq (h : i.number workgroup grid = 2 ^ 31) : i.index workgroup grid = -2 ^ 31 := by
  rw [index, h]
  decide

end Invocation

/-! ## Entries -/

variable {k : Kernel} {limit : Nat} {grid : Grid} {extra : List Field} {contents : List Content}

/-- The strides of an output whose elements can be counted in 31 bits are kept, and none is zero. -/
theorem settle_stride_ne_zero (a : Arithmetic) {shape : Shape} (hpos : 0 < Shape.size shape)
    (hsize : Shape.size shape < 2 ^ 31) :
    ∀ stride ∈ Shape.outerStrides shape, a.settle (stride : Nat) ≠ 0 := by
  intro stride hstride
  have hdvd := Shape.dvd_size_of_mem_outerStrides hstride
  have hstridePos := Nat.pos_of_dvd_of_pos hdvd hpos
  rw [settle_of_lt a (Nat.lt_of_le_of_lt (Nat.le_of_dvd hpos hdvd) hsize)]
  omega

/-- Where integers are cut to 32 bits, an invocation of an elementwise program writes the unit of its
index if the index is below the number of units, also if it is below zero. -/
theorem run_entry_wrapping (code : String) (hk : k.Acceptable) (hn : WellNamed k)
    (hentry : k.program.entry = .elementwise) (hshape : k.output.shape = k.program.outputShape)
    (hsized : k.program.Sized) (hsize : Shape.size k.program.outputShape < 2 ^ 31)
    (hdispatch : k.program.dispatch limit = .ok grid)
    (hcontents : k.program.uniformContents k.inputs k.output.shape grid extra = .ok contents)
    (operation : List Value → Value) {i : Invocation} (hinside : i.Inside k.program.workgroup grid) :
    ∃ value, entryWrites k ((moduleWith k code).setting .wrapping contents i) operation =
      some (if i.index k.program.workgroup grid <
          (Shape.size k.program.outputShape / k.program.lanes.width : Nat) then
        [⟨Kernel.outputName, i.index k.program.workgroup grid, value⟩] else []) := by
  have helementwise := hk.elementwise hentry
  have hsupplies := supplies_of_contents code .wrapping i hn hcontents
  have hgrid := holdsGrid_of_contents code .wrapping i hn hcontents
  have hunits : Shape.size k.output.shape / k.program.lanes.width < 2 ^ 31 := by
    rw [hshape]
    exact Nat.lt_of_le_of_lt (Nat.div_le_self _ _) hsize
  have huniform : ((moduleWith k code).setting .wrapping contents i).uniforms "size" =
      some (.int (Shape.size k.output.shape / k.program.lanes.width : Nat)) := by
    rw [← settle_of_lt .wrapping hunits]
    exact blockValues_of_mem hn.members (size_mem_contents hcontents helementwise.2)
  have hvolume : 0 < grid.volume := Nat.zero_lt_of_lt (Grid.place_lt hinside.group)
  have hpos := Program.size_pos_of_dispatch hsized helementwise.1 hdispatch hvolume
  rw [← hshape] at hpos hsize ⊢
  have hglobal := call_globalIndexFunction (i := i) hn rfl hgrid (measures_wrapping _)
  exact run_entry_at hk hn hsupplies hentry hglobal huniform
    (fun _ => settle_stride_ne_zero .wrapping hpos hsize) operation

/-- Every invocation of a dispatch runs to the end and writes units of the output only, where integers
are cut to 32 bits. -/
def StaysInside (k : Kernel) (code : String) (grid : Grid) (contents : List Content)
    (operation : List Value → Value) : Prop :=
  ∀ i : Invocation, i.Inside k.program.workgroup grid → ∃ writes,
    entryWrites k ((moduleWith k code).setting .wrapping contents i) operation = some writes ∧
    ∀ w ∈ writes, 0 ≤ w.position ∧
      w.position < (Shape.size k.program.outputShape / k.program.lanes.width : Nat)

/-- All writes of a dispatch go to the output exactly if its invocations can be counted in 31 bits. -/
theorem staysInside_iff (code : String) (hk : k.Acceptable) (hn : WellNamed k)
    (hentry : k.program.entry = .elementwise) (hshape : k.output.shape = k.program.outputShape)
    (hsized : k.program.Sized) (hsize : Shape.size k.program.outputShape < 2 ^ 31)
    (hdispatch : k.program.dispatch limit = .ok grid)
    (hcontents : k.program.uniformContents k.inputs k.output.shape grid extra = .ok contents)
    (operation : List Value → Value) :
    StaysInside k code grid contents operation ↔
      grid.volume * k.program.workgroup.volume ≤ 2 ^ 31 := by
  have hrun := fun {i : Invocation} => run_entry_wrapping code (i := i) hk hn hentry hshape hsized
    hsize hdispatch hcontents operation
  constructor
  · intro hinside
    by_contra hlarge
    -- The invocation of the first number that is no index finds the least index of all.
    rcases (Invocation.existsUnique_number (Nat.not_le.mp hlarge)).exists with ⟨i, hi, hnumber⟩
    rcases hinside i hi with ⟨writes, hwrites, hposition⟩
    rcases hrun hi with ⟨value, hvalue⟩
    have hpasses : (-2 ^ 31 : Int) <
        (Shape.size k.program.outputShape / k.program.lanes.width : Nat) :=
      Int.lt_of_lt_of_le (by decide) (Int.natCast_nonneg _)
    rw [Invocation.index_of_eq hnumber, if_pos hpasses, hwrites] at hvalue
    obtain rfl := Option.some.inj hvalue
    have hnonneg : (0 : Int) ≤ -2 ^ 31 := (hposition _ List.mem_cons_self).1
    exact absurd hnonneg (by decide)
  · intro htotal i hi
    rcases hrun hi with ⟨value, hvalue⟩
    rw [Invocation.index_of_lt (Nat.lt_of_lt_of_le (Invocation.number_lt hi) htotal)] at hvalue
    refine ⟨_, hvalue, fun w hw => ?_⟩
    split at hw
    · next hlt =>
      rw [List.mem_singleton.mp hw]
      exact ⟨Int.natCast_nonneg _, hlt⟩
    · simp at hw

/-- What the invocations of a dispatch write where integers are cut to 32 bits.  An invocation writes
the unit of its index if the index passes the check against the number of units, which an index below
zero does.  All writes go to the output exactly if there are at most `2 ^ 31` invocations, and there
are at most eight times as many as there are elements, rounded up to whole workgroups, for every row of
the workgroup. -/
theorem surplus_is_idle_up_to_31_bits (k : Kernel) (code : String) (limit : Nat) (grid : Grid)
    (extra : List Field) (contents : List Content) (operation : List Value → Value)
    (hvalid : k.validate = .ok ()) (hnames : WellNamed k)
    (hentry : k.program.entry = .elementwise) (hshape : k.output.shape = k.program.outputShape)
    (hsized : k.program.Sized) (hsize : Shape.size k.program.outputShape < 2 ^ 31)
    (hdispatch : k.program.dispatch limit = .ok grid)
    (hcontents :
      k.program.uniformContents k.inputs k.program.outputShape grid extra = .ok contents) :
    let workgroup := k.program.workgroup
    let units := Shape.size k.program.outputShape / k.program.lanes.width
    let total := grid.volume * workgroup.volume
    let setting := (moduleWith k code).setting .wrapping contents
    (∀ i : Invocation, i.Inside workgroup grid →
      helperCalls k (setting i) "getGlobalIndex" [] =
        some ⟨some (.int (i.index workgroup grid)), []⟩ ∧
      ∃ value, entryWrites k (setting i) operation =
        some (if i.index workgroup grid < units then
          [⟨Kernel.outputName, i.index workgroup grid, value⟩] else [])) ∧
    (StaysInside k code grid contents operation ↔ total ≤ 2 ^ 31) ∧
    total * k.program.perThread.x ≤
      8 * (Shape.size k.program.outputShape + (k.program.perGroup.x - 1)) *
        (workgroup.y * workgroup.z) := by
  intro workgroup units total setting
  have hk := Kernel.validate_eq_ok_iff.mp hvalid
  rw [← hshape] at hcontents
  refine ⟨fun i hinside => ⟨?_, ?_⟩, ?_, ?_⟩
  · exact call_globalIndexFunction hnames rfl
      (holdsGrid_of_contents code .wrapping i hnames hcontents) (measures_wrapping _)
  · exact run_entry_wrapping code hk hnames hentry hshape hsized hsize hdispatch hcontents operation hinside
  · exact staysInside_iff code hk hnames hentry hshape hsized hsize hdispatch hcontents operation
  · have hvolume := Program.volume_mul_perGroup_le hsized (hk.elementwise hentry).1 hdispatch
    calc total * k.program.perThread.x =
          grid.volume * k.program.perGroup.x * (workgroup.y * workgroup.z) := by
          simp only [total, workgroup, Program.perGroup, Grid.volume]
          ring
      _ ≤ _ := Nat.mul_le_mul_right _ hvolume

/-- The square dispatch of the row writes no element outside. -/
theorem rowKernel_stays_inside :
    StaysInside rowKernel "" ⟨5, 5, 1⟩ [.notANumber, .counts [50], .counts [50], .counts [],
      .counts [50], .counts [5, 5, 1]] (fun _ => .int 0) := by
  have hvalid : rowKernel.validate = .ok () := by rfl
  have hnames : WellNamed rowKernel := by decide +kernel
  have hsized : rowKernel.program.Sized := ⟨⟨by decide, by decide, by decide⟩, by decide, by decide, by decide⟩
  exact (surplus_is_idle_up_to_31_bits rowKernel "" 9 ⟨5, 5, 1⟩ [] _ _ hvalid hnames rfl rfl hsized
    (by decide) rowKernel_dispatch rowKernel_contents).2.1.mpr (by decide)

/-- A kernel that copies the longest line whose size fits a signed number of 32 bits. -/
def longKernel : Kernel where
  program := Program.elementwise "unary_linear" [2147483647] ["x"] ["a"] UnaryOperation.linear.code
    .wgsl .scalar defaultWorkgroup
  inputs := [⟨"x", .float32, [2147483647]⟩]
  output := ⟨"result", .float32, [2147483647]⟩

/-- What the block of its dispatch holds. -/
def longContents : List Content :=
  [.notANumber, .counts [2147483647], .counts [2147483647], .counts [], .counts [2147483647],
    .counts [5793, 5793, 1]]

private theorem longKernel_dispatch : longKernel.program.dispatch 65535 = .ok ⟨5793, 5793, 1⟩ := by
  have hsquare : Root.ceilRoot 33554432 2 = 5793 :=
    Root.ceilRoot_eq (by decide) (by decide) (by decide) (by decide)
  have hcounts : longKernel.program.counts = ⟨33554432, 1, 1⟩ := by decide
  rw [Program.dispatch_of_wide rfl hcounts (by decide), hsquare]
  rfl

private theorem longKernel_contents :
    longKernel.program.uniformContents longKernel.inputs [2147483647] ⟨5793, 5793, 1⟩ [] =
      .ok longContents := by
  have hstrides : Shape.outerStrides [2147483647] = [] := by simp [Shape.outerStrides]
  rw [Program.uniformContents, Program.standardContents, hstrides]
  rfl

/-- The dispatch of the kernel has more than `2 ^ 31` invocations.  One of them finds an index outside
of the output, passes the check and writes there. -/
theorem long_line_is_left_by_a_surplus_invocation :
    Program.unary .linear [2147483647] .wgsl .scalar defaultWorkgroup = .ok longKernel.program ∧
      longKernel.validate = .ok () ∧ WellNamed longKernel ∧ longKernel.program.isFlat = true ∧
      longKernel.program.dispatch 65535 = .ok ⟨5793, 5793, 1⟩ ∧
      longKernel.program.uniformContents longKernel.inputs [2147483647] ⟨5793, 5793, 1⟩ [] =
        .ok longContents ∧
      ∃ i : Invocation, i.Inside defaultWorkgroup ⟨5793, 5793, 1⟩ ∧
        helperCalls longKernel ((moduleWith longKernel "").setting .wrapping longContents i)
          "getGlobalIndex" [] = some ⟨some (.int (-2 ^ 31)), []⟩ ∧
        ∃ value, entryWrites longKernel
            ((moduleWith longKernel "").setting .wrapping longContents i) (fun _ => .int 0) =
          some [⟨Kernel.outputName, -2 ^ 31, value⟩] := by
  let i : Invocation := ⟨⟨1376, 5792, 0⟩, ⟨0, 0, 0⟩⟩
  have hvalid : longKernel.validate = .ok () := by rfl
  have hnames : WellNamed longKernel := by decide +kernel
  have hsized : longKernel.program.Sized :=
    ⟨⟨by decide, by decide, by decide⟩, by decide, by decide, by decide⟩
  have hinside : i.Inside longKernel.program.workgroup ⟨5793, 5793, 1⟩ :=
    ⟨⟨by decide, by decide, by decide⟩, by decide, by decide, by decide⟩
  have hindex : i.index longKernel.program.workgroup ⟨5793, 5793, 1⟩ = -2 ^ 31 :=
    Invocation.index_of_eq (by decide)
  have hglobal := call_globalIndexFunction (i := i) hnames rfl
    (holdsGrid_of_contents "" .wrapping i hnames longKernel_contents) (measures_wrapping _)
  rcases run_entry_wrapping "" (Kernel.validate_eq_ok_iff.mp hvalid) hnames rfl rfl hsized (by decide)
    longKernel_dispatch longKernel_contents (fun _ => .int 0) hinside with ⟨value, hvalue⟩
  rw [hindex, if_pos (by decide)] at hvalue
  refine ⟨rfl, hvalid, hnames, rfl, longKernel_dispatch, longKernel_contents, i, hinside, ?_,
    value, hvalue⟩
  exact hglobal.trans (congrArg (fun n => some (Outcome.mk (some (.int n)) [])) hindex)

end ComputeKernels.Shader

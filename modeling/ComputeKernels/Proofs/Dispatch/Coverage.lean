import ComputeKernels.Program.Basic
import Mathlib.Algebra.GroupWithZero.Nat
import Mathlib.Logic.ExistsUnique

/-!
# What a grid covers

The cells of a grid are numbered with the first dimension running fastest.  The workgroups that a flat
program asks for hold at least one invocation for every unit of its output, also where their count was
folded into a square or a cube.

Main results:

- Theorem `Grid.existsUnique_place`: every number below the volume belongs to exactly one cell.
- Theorem `Root.le_pow_ceilRoot`: the ceiling root is large enough.
- Theorem `Program.size_le_of_dispatch`: the invocations of a dispatch cover the output.
- Theorem `Program.extents_le_of_dispatch`: on several dimensions they cover the axes of each.
-/

namespace ComputeKernels

/-! ## Cells of a grid -/

namespace Grid

/-- A cell of a grid with some extents. -/
structure Holds (extents cell : Grid) : Prop where
  x : cell.x < extents.x
  y : cell.y < extents.y
  z : cell.z < extents.z

/-- Number of a cell; the first dimension runs fastest. -/
def place (extents cell : Grid) : Nat :=
  cell.z * (extents.x * extents.y) + cell.y * extents.x + cell.x

/-- Number of cells of a square on the first two dimensions. -/
theorem volume_square (side : Nat) : volume ⟨side, side, 1⟩ = side ^ 2 := by
  rw [volume, Nat.mul_one, Nat.pow_two]

/-- Number of cells of a cube. -/
theorem volume_cube (side : Nat) : volume ⟨side, side, side⟩ = side ^ 3 := by
  rw [volume, Nat.pow_succ, Nat.pow_two]

/-- No extent of a grid with cells is more than their number. -/
theorem le_volume {g : Grid} (h : g.Holds ⟨0, 0, 0⟩) :
    g.x ≤ g.volume ∧ g.y ≤ g.volume ∧ g.z ≤ g.volume := by
  refine ⟨?_, ?_, Nat.le_mul_of_pos_left _ (Nat.mul_pos h.x h.y)⟩
  · rw [volume, Nat.mul_assoc]
    exact Nat.le_mul_of_pos_right _ (Nat.mul_pos h.y h.z)
  · rw [volume, Nat.mul_right_comm]
    exact Nat.le_mul_of_pos_left _ (Nat.mul_pos h.x h.z)

/-- A digit and a rest below a radix are a number below as many times the radix. -/
theorem digit_lt {digit digits rest radix : Nat} (hdigit : digit < digits) (hrest : rest < radix) :
    digit * radix + rest < digits * radix :=
  calc digit * radix + rest < digit * radix + radix := Nat.add_lt_add_left hrest _
    _ = (digit + 1) * radix := by rw [Nat.add_mul, Nat.one_mul]
    _ ≤ digits * radix := Nat.mul_le_mul_right _ hdigit

/-- A digit and a rest below a radix are determined by their number. -/
theorem digit_inj {a b r t radix : Nat} (hr : r < radix) (ht : t < radix)
    (h : a * radix + r = b * radix + t) : a = b ∧ r = t := by
  have hpos : 0 < radix := Nat.zero_lt_of_lt hr
  have hdiv := congrArg (· / radix) h
  have hmod := congrArg (· % radix) h
  simp only [Nat.mul_add_mod_self_right, Nat.mod_eq_of_lt hr, Nat.mod_eq_of_lt ht] at hmod
  simp only [Nat.mul_comm _ radix, Nat.mul_add_div hpos, Nat.div_eq_of_lt hr,
    Nat.div_eq_of_lt ht, Nat.add_zero] at hdiv
  exact ⟨hdiv, hmod⟩

private theorem place_eq (extents cell : Grid) :
    place extents cell = (cell.z * extents.y + cell.y) * extents.x + cell.x := by
  rw [place, Nat.add_mul, Nat.mul_assoc, Nat.mul_comm extents.y]

/-- The places of cells are below the volume of their grid. -/
theorem place_lt {extents cell : Grid} (h : extents.Holds cell) :
    place extents cell < extents.volume := by
  have hlt := digit_lt (digit_lt h.z h.y) h.x
  rw [place_eq, volume, Nat.mul_comm extents.x, Nat.mul_right_comm, Nat.mul_comm extents.y]
  exact hlt

/-- Different cells of a grid have different places. -/
theorem place_inj {extents a b : Grid} (ha : extents.Holds a) (hb : extents.Holds b)
    (h : place extents a = place extents b) : a = b := by
  rw [place_eq, place_eq] at h
  rcases digit_inj ha.x hb.x h with ⟨hrow, hx⟩
  rcases digit_inj ha.y hb.y hrow with ⟨hz, hy⟩
  cases a
  cases b
  simp_all

/-- Every number below the volume belongs to exactly one cell. -/
theorem existsUnique_place {extents : Grid} {n : Nat} (h : n < extents.volume) :
    ∃! cell, extents.Holds cell ∧ place extents cell = n := by
  have hpos : 0 < extents.volume := Nat.zero_lt_of_lt h
  have hxy : 0 < extents.x * extents.y := Nat.pos_of_mul_pos_right hpos
  have hx : 0 < extents.x := Nat.pos_of_mul_pos_right hxy
  have hy : 0 < extents.y := Nat.pos_of_mul_pos_left hxy
  have hcell : extents.Holds ⟨n % extents.x, n / extents.x % extents.y, n / extents.x / extents.y⟩ := by
    refine ⟨Nat.mod_lt _ hx, Nat.mod_lt _ hy, ?_⟩
    rw [Nat.div_div_eq_div_mul]
    exact Nat.div_lt_of_lt_mul h
  refine ⟨_, ⟨hcell, ?_⟩, fun cell hother => place_inj hother.1 hcell (hother.2.trans ?_)⟩ <;>
    simp [place_eq, Nat.div_add_mod']

end Grid

/-! ## Ceiling roots -/

namespace Root

/-- A root that is raised is large enough. -/
theorem le_pow_raise {k bound root : Nat} (hk : 1 ≤ k) (hword : bound ≤ wordLimit) :
    bound ≤ Nat.pow (raise k bound root) k := by
  fun_induction raise k bound root with
  | case1 root hshort ih => exact ih
  | case2 root hreached =>
    have hself : root ≤ Nat.pow root k := Nat.le_self_pow (Nat.one_le_iff_ne_zero.mp hk) root
    omega

/-- The ceiling root of a number of at most 64 bits is large enough. -/
theorem le_pow_ceilRoot {n k : Nat} (hk : 1 ≤ k) (hword : n ≤ wordLimit) :
    n ≤ Nat.pow (ceilRoot n k) k := by
  unfold ceilRoot
  split
  · exact Nat.le_self_pow (Nat.one_le_iff_ne_zero.mp hk) n
  · exact le_pow_raise hk hword

end Root

/-! ## Workgroup counts -/

namespace AxisLayout

/-- A layout uses only the first dimension if the others have no axes. -/
theorem usesOnlyX_iff {l : AxisLayout} : l.usesOnlyX = true ↔ l.y = [] ∧ l.z = [] := by
  simp [usesOnlyX]

/-- The axes of a flat layout cover the whole output. -/
theorem coverage_range (output : Shape) :
    coverage output (List.range output.length) = Shape.size output := by
  have hextents : (List.range output.length).map (output.getD · 1) = output := by
    apply List.ext_getElem
    · simp
    · intro axis hrange haxis
      simp [haxis]
  calc coverage output (List.range output.length)
      = Shape.size ((List.range output.length).map (output.getD · 1)) := by
        rw [Shape.size, List.foldr_map]
        rfl
    _ = Shape.size output := by rw [hextents]

/-- The count of one dimension is the quotient rounded up, cut to 32 bits. -/
theorem groupCount_eq {workgroup perThread : Nat} (extent : Nat) (hworkgroup : 1 ≤ workgroup)
    (hperThread : 1 ≤ perThread) :
    groupCount extent workgroup perThread =
      min ((extent + workgroup * perThread - 1) / (workgroup * perThread)) maxCount := by
  rw [groupCount, Nat.max_eq_left hworkgroup, Nat.max_eq_left hperThread]

/-- Unless it was cut, a count of workgroups covers the extent it was computed for. -/
theorem le_groupCount_mul {extent workgroup perThread : Nat} (hworkgroup : 1 ≤ workgroup)
    (hperThread : 1 ≤ perThread) (hcut : groupCount extent workgroup perThread < maxCount) :
    extent ≤ groupCount extent workgroup perThread * (workgroup * perThread) := by
  have hpos : 0 < workgroup * perThread := Nat.mul_pos hworkgroup hperThread
  have hcount : groupCount extent workgroup perThread =
      (extent + workgroup * perThread - 1) / (workgroup * perThread) := by
    rw [groupCount_eq extent hworkgroup hperThread] at hcut ⊢
    exact Nat.min_eq_left (by omega)
  have hsplit := Nat.div_add_mod (extent + workgroup * perThread - 1) (workgroup * perThread)
  have hmod := Nat.mod_lt (extent + workgroup * perThread - 1) hpos
  rw [hcount, Nat.mul_comm]
  omega

/-- Something is run for every extent but zero. -/
theorem groupCount_pos {extent workgroup : Nat} (hworkgroup : 1 ≤ workgroup) (hextent : 1 ≤ extent) :
    0 < groupCount extent workgroup 1 := by
  rw [groupCount_eq extent hworkgroup (Nat.le_refl 1), Nat.mul_one, Nat.lt_min]
  exact ⟨Nat.div_pos (by omega) hworkgroup, by decide⟩

/-- One workgroup covers an extent of one. -/
theorem groupCount_one {workgroup perThread : Nat} (hworkgroup : 1 ≤ workgroup)
    (hperThread : 1 ≤ perThread) : groupCount 1 workgroup perThread = 1 := by
  have hquotient : (1 + workgroup * perThread - 1) / (workgroup * perThread) = 1 := by
    rw [Nat.add_sub_cancel_left]
    exact Nat.div_self (Nat.mul_pos hworkgroup hperThread)
  rw [groupCount_eq 1 hworkgroup hperThread, hquotient]
  decide

/-- Counts that are brought under a limit are within it already, or on the first dimension alone and
spread over a square or a cube with a side within it. -/
theorem foldCounts_cases {l : AxisLayout} {counts grid : Grid} {limit : Nat}
    (h : l.foldCounts counts limit = .ok grid) :
    (counts.fits limit = true ∧ grid = counts) ∨
    l.usesOnlyX = true ∧
      ((Root.ceilRoot counts.volume 2 ≤ limit ∧
          grid = ⟨Root.ceilRoot counts.volume 2, Root.ceilRoot counts.volume 2, 1⟩) ∨
        (Root.ceilRoot counts.volume 3 ≤ limit ∧
          grid = ⟨Root.ceilRoot counts.volume 3, Root.ceilRoot counts.volume 3,
            Root.ceilRoot counts.volume 3⟩)) := by
  unfold foldCounts at h
  split at h
  · next hfits => exact .inl ⟨hfits, (Except.ok.inj h).symm⟩
  · cases hx : l.usesOnlyX with
    | false => simp [hx] at h
    | true =>
      simp only [hx, Bool.not_true, Bool.false_eq_true, if_false] at h
      split at h
      · next hsquare => exact .inr ⟨rfl, .inl ⟨hsquare, (Except.ok.inj h).symm⟩⟩
      · split at h
        · next hcube => exact .inr ⟨rfl, .inr ⟨hcube, (Except.ok.inj h).symm⟩⟩
        · simp at h

/-- A folded grid has at least as many workgroups as were to be folded. -/
theorem volume_le_of_foldCounts {l : AxisLayout} {counts grid : Grid} {limit : Nat}
    (hword : counts.volume ≤ Root.wordLimit) (h : l.foldCounts counts limit = .ok grid) :
    counts.volume ≤ grid.volume := by
  rcases foldCounts_cases h with ⟨-, rfl⟩ | ⟨-, ⟨-, rfl⟩ | ⟨-, rfl⟩⟩
  · exact Nat.le_refl _
  · rw [Grid.volume_square]
    exact Root.le_pow_ceilRoot (by decide) hword
  · rw [Grid.volume_cube]
    exact Root.le_pow_ceilRoot (by decide) hword

/-- Counts of several dimensions are not folded. -/
theorem foldCounts_eq_self {l : AxisLayout} {counts grid : Grid} {limit : Nat}
    (hl : l.usesOnlyX = false) (h : l.foldCounts counts limit = .ok grid) : counts = grid := by
  rcases foldCounts_cases h with ⟨-, rfl⟩ | ⟨hx, -⟩
  · rfl
  · simp [hl] at hx

end AxisLayout

namespace Program

/-- The invocations of a dispatch on the first dimension alone cover all axes of the dimension, also if
it was folded. -/
theorem coverage_le_of_dispatch {p : Program} {limit perThread : Nat} {grid : Grid}
    (hx : p.layout.usesOnlyX = true) (hworkgroup : Grid.Holds p.workgroup ⟨0, 0, 0⟩)
    (hperThread : p.perThread = ⟨perThread, 1, 1⟩) (hpos : 1 ≤ perThread)
    (hdispatch : p.dispatch limit = .ok grid)
    (htotal : grid.volume * p.workgroup.volume < 2 ^ 31) :
    AxisLayout.coverage p.outputShape p.layout.x ≤
      grid.volume * p.workgroup.volume * perThread := by
  have haxes := AxisLayout.usesOnlyX_iff.mp hx
  generalize hextent : AxisLayout.coverage p.outputShape p.layout.x = extent
  have hcounts : p.layout.groupCounts p.outputShape p.workgroup p.perThread =
      ⟨AxisLayout.groupCount extent p.workgroup.x perThread, 1, 1⟩ := by
    rw [hperThread]
    simp only [AxisLayout.groupCounts, id_eq, haxes.1, haxes.2, hextent]
    rw [AxisLayout.coverage, List.foldr_nil,
      AxisLayout.groupCount_one hworkgroup.y (Nat.le_refl 1),
      AxisLayout.groupCount_one hworkgroup.z (Nat.le_refl 1)]
  rw [dispatch, hcounts] at hdispatch
  generalize hgroups : AxisLayout.groupCount extent p.workgroup.x perThread = groups at hdispatch
  have hle : groups ≤ AxisLayout.maxCount := by
    rw [← hgroups]
    exact Nat.min_le_right _ _
  have hvolume : groups ≤ grid.volume := by
    have hword : Grid.volume ⟨groups, 1, 1⟩ ≤ Root.wordLimit := by
      rw [Grid.volume, Nat.mul_one, Nat.mul_one]
      exact Nat.le_trans hle (by decide)
    simpa [Grid.volume] using AxisLayout.volume_le_of_foldCounts hword hdispatch
  have hinvocations : groups * p.workgroup.x ≤ grid.volume * p.workgroup.volume :=
    Nat.mul_le_mul hvolume (Grid.le_volume hworkgroup).1
  have huncut : groups < AxisLayout.maxCount := by
    have hself : groups ≤ groups * p.workgroup.x := Nat.le_mul_of_pos_right _ hworkgroup.x
    have hmax : 2 ^ 31 ≤ AxisLayout.maxCount := by decide
    omega
  calc extent ≤ groups * (p.workgroup.x * perThread) := by
        rw [← hgroups] at huncut ⊢
        exact AxisLayout.le_groupCount_mul hworkgroup.x hpos huncut
    _ = groups * p.workgroup.x * perThread := by rw [Nat.mul_assoc]
    _ ≤ grid.volume * p.workgroup.volume * perThread := Nat.mul_le_mul_right _ hinvocations

/-- The invocations of a dispatch on several dimensions cover the axes of each. -/
theorem extents_le_of_dispatch {p : Program} {limit : Nat} {grid : Grid}
    (hx : p.layout.usesOnlyX = false) (hworkgroup : Grid.Holds p.workgroup ⟨0, 0, 0⟩)
    (hperThread : p.perThread = ⟨1, 1, 1⟩)
    (hpos : ∀ axes ∈ p.layout.dims, 1 ≤ AxisLayout.coverage p.outputShape axes)
    (hdispatch : p.dispatch limit = .ok grid)
    (htotal : grid.volume * p.workgroup.volume < 2 ^ 31) :
    AxisLayout.coverage p.outputShape p.layout.x ≤ grid.x * p.workgroup.x ∧
      AxisLayout.coverage p.outputShape p.layout.y ≤ grid.y * p.workgroup.y ∧
      AxisLayout.coverage p.outputShape p.layout.z ≤ grid.z * p.workgroup.z := by
  obtain rfl := AxisLayout.foldCounts_eq_self hx hdispatch
  rw [hperThread] at htotal ⊢
  simp only [AxisLayout.dims, List.forall_mem_cons, List.not_mem_nil, false_imp_iff,
    implies_true, and_true] at hpos
  let counts := p.layout.groupCounts p.outputShape p.workgroup ⟨1, 1, 1⟩
  have hgrid : counts.Holds ⟨0, 0, 0⟩ :=
    ⟨AxisLayout.groupCount_pos hworkgroup.x hpos.1,
      AxisLayout.groupCount_pos hworkgroup.y hpos.2.1,
      AxisLayout.groupCount_pos hworkgroup.z hpos.2.2⟩
  have hvolume : counts.volume < AxisLayout.maxCount := by
    have hcells : 0 < p.workgroup.volume :=
      Nat.mul_pos (Nat.mul_pos hworkgroup.x hworkgroup.y) hworkgroup.z
    calc counts.volume ≤ counts.volume * p.workgroup.volume := Nat.le_mul_of_pos_right _ hcells
      _ < 2 ^ 31 := htotal
      _ ≤ AxisLayout.maxCount := by decide
  -- No count was cut, since the counts are not more than the invocations.
  have hcovers : ∀ {extent workgroup : Nat}, 1 ≤ workgroup →
      AxisLayout.groupCount extent workgroup 1 ≤ counts.volume →
      extent ≤ AxisLayout.groupCount extent workgroup 1 * workgroup := by
    intro extent workgroup hworkgroup hle
    have hcovered := AxisLayout.le_groupCount_mul hworkgroup (Nat.le_refl 1)
      (Nat.lt_of_le_of_lt hle hvolume)
    rwa [Nat.mul_one] at hcovered
  rcases Grid.le_volume hgrid with ⟨hx, hy, hz⟩
  exact ⟨hcovers hworkgroup.x hx, hcovers hworkgroup.y hy, hcovers hworkgroup.z hz⟩

end Program

end ComputeKernels

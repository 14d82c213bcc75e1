import ComputeKernels.Proofs.Dispatch.Folding
import ComputeKernels.Proofs.Words
import Mathlib.Algebra.Order.Floor.Div

/-!
# What a dispatch holds

A program needs, on every dimension of its grid, the quotient of the extent and of what one workgroup
handles, rounded up.  The counts that are computed for it are these numbers cut to 32 bits.  A program
of which no count is cut is covered by its dispatch, or refused because no grid within the limit covers
it.  Of a count that is cut the excess is lost before the counts are compared with the limit or folded.

Main results:

- Theorem `Program.counts_eq`: the counts are those needed, cut.
- Theorem `Program.volume_mul_perGroup_le`: a flat dispatch is at most eight times as large as needed.
- Theorem `Program.dispatches_cover_unless_cut`: what the dispatch of a program covers.
- Theorem `Program.dispatch_wrap`: products in machine numbers make no difference if they fit.
-/

namespace ComputeKernels

namespace Program

variable {p : Program} {grid : Grid} {limit : Nat}

/-! ## Needed workgroups -/

/-- Product of the output extents on every dimension. -/
def extents (p : Program) : Grid where
  x := AxisLayout.coverage p.outputShape p.layout.x
  y := AxisLayout.coverage p.outputShape p.layout.y
  z := AxisLayout.coverage p.outputShape p.layout.z

/-- How much of its extent one workgroup handles, on every dimension. -/
def perGroup (p : Program) : Grid where
  x := p.workgroup.x * p.perThread.x
  y := p.workgroup.y * p.perThread.y
  z := p.workgroup.z * p.perThread.z

/-- Workgroups that the extents take, on every dimension. -/
def needed (p : Program) : Grid where
  x := p.extents.x ⌈/⌉ p.perGroup.x
  y := p.extents.y ⌈/⌉ p.perGroup.y
  z := p.extents.z ⌈/⌉ p.perGroup.z

/-- The needed workgroups fit the counts of a grid. -/
def Uncut (p : Program) : Prop := p.needed.fits AxisLayout.maxCount = true

instance (p : Program) : Decidable p.Uncut := inferInstanceAs (Decidable (_ = true))

/-- The workgroups of a grid handle the extents of a program: all of them together if only the first
dimension has axes, those of every dimension otherwise. -/
def CoveredBy (p : Program) (grid : Grid) : Prop :=
  if p.layout.usesOnlyX then p.extents.x ≤ grid.volume * p.perGroup.x
  else p.extents.x ≤ grid.x * p.perGroup.x ∧ p.extents.y ≤ grid.y * p.perGroup.y ∧
    p.extents.z ≤ grid.z * p.perGroup.z

instance (p : Program) (grid : Grid) : Decidable (p.CoveredBy grid) :=
  inferInstanceAs (Decidable (ite _ _ _))

/-- Sizes of at least one on every dimension. -/
structure Sized (p : Program) : Prop where
  workgroup : p.workgroup.Holds ⟨0, 0, 0⟩
  perThread : p.perThread.Holds ⟨0, 0, 0⟩

private theorem Sized.perGroup (h : p.Sized) : p.perGroup.Holds ⟨0, 0, 0⟩ :=
  ⟨Nat.mul_pos h.workgroup.x h.perThread.x, Nat.mul_pos h.workgroup.y h.perThread.y,
    Nat.mul_pos h.workgroup.z h.perThread.z⟩

/-- Enough workgroups are at least as many as are needed. -/
theorem le_mul_iff_ceilDiv_le {extent count perGroup : Nat} (h : 0 < perGroup) :
    extent ≤ count * perGroup ↔ extent ⌈/⌉ perGroup ≤ count := by
  rw [ceilDiv_le_iff_le_mul h, Nat.mul_comm]

private theorem coveredBy_iff_of_usesOnlyX (h : p.Sized) (hx : p.layout.usesOnlyX = true) :
    p.CoveredBy grid ↔ p.needed.x ≤ grid.volume := by
  simp only [CoveredBy, hx, if_true, needed]
  exact le_mul_iff_ceilDiv_le h.perGroup.x

private theorem coveredBy_iff_of_several (h : p.Sized) (hx : p.layout.usesOnlyX = false) :
    p.CoveredBy grid ↔
      p.needed.x ≤ grid.x ∧ p.needed.y ≤ grid.y ∧ p.needed.z ≤ grid.z := by
  simp only [CoveredBy, hx, Bool.false_eq_true, if_false, needed]
  rw [le_mul_iff_ceilDiv_le h.perGroup.x, le_mul_iff_ceilDiv_le h.perGroup.y,
    le_mul_iff_ceilDiv_le h.perGroup.z]

/-- A dimension without axes needs one workgroup. -/
theorem needed_of_usesOnlyX (h : p.Sized) (hx : p.layout.usesOnlyX = true) :
    p.needed.y = 1 ∧ p.needed.z = 1 := by
  have haxes := AxisLayout.usesOnlyX_iff.mp hx
  have hone : ∀ {perGroup : Nat}, 0 < perGroup → AxisLayout.coverage p.outputShape [] ⌈/⌉ perGroup = 1 := by
    intro perGroup hpos
    rw [AxisLayout.coverage, List.foldr_nil, Nat.ceilDiv_eq_add_pred_div, Nat.add_sub_cancel_left]
    exact Nat.div_self hpos
  simp only [needed, extents, haxes.1, haxes.2]
  exact ⟨hone h.perGroup.y, hone h.perGroup.z⟩

/-! ## Counts -/

/-- The workgroup counts of a program. -/
def counts (p : Program) : Grid := p.layout.groupCounts p.outputShape p.workgroup p.perThread

/-- The counts are those needed, cut to 32 bits. -/
theorem counts_eq (h : p.Sized) :
    p.counts = ⟨min p.needed.x AxisLayout.maxCount, min p.needed.y AxisLayout.maxCount,
      min p.needed.z AxisLayout.maxCount⟩ := by
  simp only [counts, AxisLayout.groupCounts,
    AxisLayout.groupCount_eq _ h.workgroup.x h.perThread.x,
    AxisLayout.groupCount_eq _ h.workgroup.y h.perThread.y,
    AxisLayout.groupCount_eq _ h.workgroup.z h.perThread.z]
  rfl

private theorem uncut_iff : p.Uncut ↔ p.needed.x ≤ AxisLayout.maxCount ∧
    p.needed.y ≤ AxisLayout.maxCount ∧ p.needed.z ≤ AxisLayout.maxCount := by
  simp [Uncut, Grid.fits, Grid.toList]

private theorem counts_of_uncut (h : p.Sized) (huncut : p.Uncut) : p.counts = p.needed := by
  have hcounts := uncut_iff.mp huncut
  rw [counts_eq h, Nat.min_eq_left hcounts.1, Nat.min_eq_left hcounts.2.1,
    Nat.min_eq_left hcounts.2.2]

private theorem volume_counts_of_usesOnlyX (h : p.Sized) (hx : p.layout.usesOnlyX = true) :
    p.counts.volume = min p.needed.x AxisLayout.maxCount := by
  have hone := needed_of_usesOnlyX h hx
  have hmin : min 1 AxisLayout.maxCount = 1 := by decide
  rw [counts_eq h, hone.1, hone.2, hmin, Grid.volume, Nat.mul_one, Nat.mul_one]

end Program

/-! ## Folded counts -/

namespace AxisLayout

variable {l : AxisLayout} {counts grid : Grid} {limit : Nat}

/-- A grid that counts are brought to is within the limit. -/
theorem fits_of_foldCounts (hlimit : 1 ≤ limit) (h : l.foldCounts counts limit = .ok grid) :
    grid.fits limit = true := by
  rcases foldCounts_cases h with ⟨hfits, rfl⟩ | ⟨-, ⟨hsquare, rfl⟩ | ⟨hcube, rfl⟩⟩
  · exact hfits
  · simp [Grid.fits, Grid.toList, hsquare, hlimit]
  · simp [Grid.fits, Grid.toList, hcube]

/-- Counts that are refused exceed the limit. -/
theorem foldCounts_eq_error {e : KernelError} (h : l.foldCounts counts limit = .error e) :
    counts.fits limit = false ∧ e = .gridTooLarge counts limit := by
  unfold foldCounts at h
  split at h
  · simp at h
  · next hwide =>
    refine ⟨by simpa using hwide, ?_⟩
    split at h
    · exact (Except.error.inj h).symm
    · simp only at h
      split at h
      · simp at h
      · split at h
        · simp at h
        · exact (Except.error.inj h).symm

/-- A count of 32 bits is folded into the cube of side 1626 at most. -/
theorem volume_le_of_maxCount (hcounts : counts.volume ≤ maxCount)
    (h : l.foldCounts counts limit = .ok grid) : grid.volume ≤ 1626 ^ 3 := by
  have hword : counts.volume < Root.wordLimit := Nat.lt_of_le_of_lt hcounts (by decide)
  rcases foldCounts_cases h with ⟨-, rfl⟩ | ⟨-, ⟨-, rfl⟩ | ⟨-, rfl⟩⟩
  · exact Nat.le_trans hcounts (by decide)
  · have hside : Root.ceilRoot counts.volume 2 ≤ 65536 :=
      (Root.ceilRoot_le_iff (by decide) hword).mpr (Nat.le_trans hcounts (by decide))
    rw [Grid.volume_square]
    exact Nat.le_trans (Nat.pow_le_pow_left hside 2) (by decide)
  · have hside : Root.ceilRoot counts.volume 3 ≤ 1626 :=
      (Root.ceilRoot_le_iff (by decide) hword).mpr (Nat.le_trans hcounts (by decide))
    rw [Grid.volume_cube]
    exact Nat.pow_le_pow_left hside 3

/-- Folding at most multiplies the number of workgroups by eight. -/
theorem volume_le_eight_mul {l : AxisLayout} {counts grid : Grid} {limit : Nat}
    (hword : counts.volume < Root.wordLimit) (h : l.foldCounts counts limit = .ok grid) :
    grid.volume ≤ 8 * counts.volume := by
  rcases foldCounts_cases h with ⟨-, rfl⟩ | ⟨-, ⟨-, rfl⟩ | ⟨-, rfl⟩⟩
  · omega
  · rw [Grid.volume_square]
    exact Root.pow_ceilRoot_le (by decide) (by decide) hword
  · rw [Grid.volume_cube]
    exact Root.pow_ceilRoot_le (by decide) (by decide) hword

end AxisLayout

/-! ## Dispatches -/

namespace Program

variable {p : Program} {grid : Grid} {limit : Nat}

/-- A program of which no count was cut is covered by its dispatch. -/
theorem coveredBy_of_uncut (h : p.Sized) (huncut : p.Uncut) (hdispatch : p.dispatch limit = .ok grid) :
    p.CoveredBy grid := by
  have hfold : p.layout.foldCounts p.needed limit = .ok grid := by
    rw [← counts_of_uncut h huncut]
    exact hdispatch
  cases hx : p.layout.usesOnlyX with
  | true =>
    have hvolume : p.needed.volume = p.needed.x := by
      have hone := needed_of_usesOnlyX h hx
      simp [Grid.volume, hone]
    have hword : p.needed.volume ≤ Root.wordLimit := by
      rw [hvolume]
      exact Nat.le_trans (uncut_iff.mp huncut).1 (by decide)
    rw [coveredBy_iff_of_usesOnlyX h hx, ← hvolume]
    exact AxisLayout.volume_le_of_foldCounts hword hfold
  | false =>
    obtain rfl := AxisLayout.foldCounts_eq_self hx hfold
    simp [coveredBy_iff_of_several h hx]

/-- On several dimensions a program is covered by its dispatch only if no count was cut. -/
theorem uncut_of_coveredBy (h : p.Sized) (hx : p.layout.usesOnlyX = false)
    (hdispatch : p.dispatch limit = .ok grid) (hcovered : p.CoveredBy grid) : p.Uncut := by
  obtain rfl : p.counts = grid := AxisLayout.foldCounts_eq_self hx hdispatch
  rw [coveredBy_iff_of_several h hx, counts_eq h] at hcovered
  simp only [Nat.le_min, Nat.le_refl, true_and] at hcovered
  exact uncut_iff.mpr hcovered

/-- A program is refused only if no grid within the limit covers it. -/
theorem not_coveredBy_of_refused {e : KernelError} (h : p.Sized) (hlimit : 1 ≤ limit)
    (hdispatch : p.dispatch limit = .error e) (hfits : grid.fits limit = true) :
    ¬ p.CoveredBy grid := by
  rcases AxisLayout.foldCounts_eq_error hdispatch with ⟨hwide, rfl⟩
  cases hx : p.layout.usesOnlyX with
  | true =>
    have hvolume := volume_counts_of_usesOnlyX h hx
    have hword : p.counts.volume < Root.wordLimit := by
      rw [hvolume]
      exact Nat.lt_of_le_of_lt (Nat.min_le_right _ _) (by decide)
    have hlarge : limit ^ 3 < p.counts.volume :=
      (AxisLayout.foldCounts_eq_error_iff hx hlimit hword).mp hdispatch
    have hgrid := Grid.volume_le_of_fits hfits
    rw [coveredBy_iff_of_usesOnlyX h hx]
    omega
  | false =>
    intro hcovered
    rw [coveredBy_iff_of_several h hx] at hcovered
    have hcounts : p.counts.fits limit = true := by
      simp only [Grid.fits, Grid.toList, counts_eq h, List.all_cons, List.all_nil, Bool.and_true,
        Bool.and_eq_true, decide_eq_true_eq] at hfits ⊢
      omega
    exact absurd hcounts (by simp [counts, hwide])

private theorem usesOnlyX_of_isFlat (hflat : p.isFlat = true) :
    p.layout.usesOnlyX = true ∧ p.extents.x = Shape.size p.outputShape := by
  have hlayout : p.layout = .flat p.outputShape.length := by
    simpa [isFlat, AxisLayout.isFlat] using hflat
  rw [extents, hlayout]
  exact ⟨rfl, AxisLayout.coverage_range p.outputShape⟩

/-- A flat dispatch has at most eight times the workgroups that are needed. -/
theorem volume_le_needed (h : p.Sized) (hflat : p.isFlat = true)
    (hdispatch : p.dispatch limit = .ok grid) : grid.volume ≤ 8 * p.needed.x := by
  have hcounts := volume_counts_of_usesOnlyX h (usesOnlyX_of_isFlat hflat).1
  have hword : p.counts.volume < Root.wordLimit := by
    rw [hcounts]
    exact Nat.lt_of_le_of_lt (Nat.min_le_right _ _) (by decide)
  have hvolume := AxisLayout.volume_le_eight_mul hword hdispatch
  omega

/-- A flat dispatch handles at most eight times the elements of the output, rounded up to whole
workgroups. -/
theorem volume_mul_perGroup_le (h : p.Sized) (hflat : p.isFlat = true)
    (hdispatch : p.dispatch limit = .ok grid) :
    grid.volume * p.perGroup.x ≤ 8 * (Shape.size p.outputShape + (p.perGroup.x - 1)) := by
  have hpos := h.perGroup.x
  have hneeded : p.needed.x * p.perGroup.x ≤ Shape.size p.outputShape + (p.perGroup.x - 1) := by
    rw [needed, (usesOnlyX_of_isFlat hflat).2, Nat.ceilDiv_eq_add_pred_div, ← Nat.add_sub_assoc hpos]
    exact Nat.div_mul_le_self _ _
  calc grid.volume * p.perGroup.x ≤ 8 * p.needed.x * p.perGroup.x :=
        Nat.mul_le_mul_right _ (volume_le_needed h hflat hdispatch)
    _ = 8 * (p.needed.x * p.perGroup.x) := Nat.mul_assoc _ _ _
    _ ≤ 8 * (Shape.size p.outputShape + (p.perGroup.x - 1)) := Nat.mul_le_mul_left 8 hneeded

/-- Where something is dispatched there is an element. -/
theorem size_pos_of_dispatch (h : p.Sized) (hflat : p.isFlat = true)
    (hdispatch : p.dispatch limit = .ok grid) (hpos : 0 < grid.volume) :
    0 < Shape.size p.outputShape := by
  rw [Nat.pos_iff_ne_zero]
  intro hzero
  have hvolume := volume_le_needed h hflat hdispatch
  simp only [needed, (usesOnlyX_of_isFlat hflat).2, hzero, zero_ceilDiv] at hvolume
  omega

/-- What the dispatch of a program covers.  Its counts are within the limit.  If no needed count exceeds
32 bits it covers the extents, and there is one exactly if some grid within the limit covers them.
Otherwise the excess is lost: on several dimensions the grid does not cover the extents, and on the first
alone it has at most the workgroups of a cube of side 1626 whatever the program needs.  A program is
refused only if no grid within the limit covers it. -/
theorem dispatches_cover_unless_cut (p : Program) (limit : Nat) (h : p.Sized) (hlimit : 1 ≤ limit) :
    (∀ grid, p.dispatch limit = .ok grid →
      grid.fits limit = true ∧
      (p.Uncut → p.CoveredBy grid) ∧
      (p.layout.usesOnlyX = false → p.CoveredBy grid → p.Uncut) ∧
      (p.layout.usesOnlyX = true →
        (p.CoveredBy grid ↔ p.needed.x ≤ grid.volume) ∧ grid.volume ≤ 1626 ^ 3)) ∧
    (∀ e, p.dispatch limit = .error e →
      e = .gridTooLarge p.counts limit ∧ ∀ grid, grid.fits limit = true → ¬ p.CoveredBy grid) ∧
    (p.Uncut → ((∃ grid, p.dispatch limit = .ok grid) ↔
      ∃ grid, grid.fits limit = true ∧ p.CoveredBy grid)) := by
  refine ⟨fun grid hdispatch => ?_, fun e hdispatch => ?_, fun huncut => ⟨?_, ?_⟩⟩
  · refine ⟨AxisLayout.fits_of_foldCounts hlimit hdispatch,
      fun huncut => coveredBy_of_uncut h huncut hdispatch,
      fun hx => uncut_of_coveredBy h hx hdispatch,
      fun hx => ⟨coveredBy_iff_of_usesOnlyX h hx, AxisLayout.volume_le_of_maxCount ?_ hdispatch⟩⟩
    exact (volume_counts_of_usesOnlyX h hx).trans_le (Nat.min_le_right _ _)
  · exact ⟨(AxisLayout.foldCounts_eq_error hdispatch).2,
      fun grid => not_coveredBy_of_refused h hlimit hdispatch⟩
  · rintro ⟨grid, hdispatch⟩
    exact ⟨grid, AxisLayout.fits_of_foldCounts hlimit hdispatch,
      coveredBy_of_uncut h huncut hdispatch⟩
  · rintro ⟨grid, hfits, hcovered⟩
    cases hdispatch : p.dispatch limit with
    | ok grid => exact ⟨grid, rfl⟩
    | error e => exact absurd hcovered (not_coveredBy_of_refused h hlimit hdispatch hfits)

/-- Where the extents fit 64 bits the host dispatches what it would without a bound on its numbers. -/
theorem dispatch_wrap (hextents : p.extents.fits (2 ^ 64 - 1) = true) :
    p.dispatch limit Word.wrap = p.dispatch limit := by
  have hkept {n : Nat} (h : n ≤ 2 ^ 64 - 1) : Word.wrap n = n := Word.wrap_of_lt (by omega)
  simp only [Grid.fits_iff, Grid.toList, List.forall_mem_cons, extents] at hextents
  obtain ⟨hx, hy, hz, -⟩ := hextents
  have hcounts : p.layout.groupCounts p.outputShape p.workgroup p.perThread Word.wrap =
      p.layout.groupCounts p.outputShape p.workgroup p.perThread := by
    rw [AxisLayout.groupCounts, hkept hx, hkept hy, hkept hz]
    rfl
  rw [dispatch, hcounts]
  rfl

/-- Workgroups on the first dimension that exceed the limit are folded into a square or a cube. -/
theorem dispatch_of_wide {count : Nat} (hx : p.layout.usesOnlyX = true)
    (hcounts : p.counts = ⟨count, 1, 1⟩) (hwide : limit < count) :
    p.dispatch limit =
      if Root.ceilRoot count 2 ≤ limit then .ok ⟨Root.ceilRoot count 2, Root.ceilRoot count 2, 1⟩
      else if Root.ceilRoot count 3 ≤ limit then
        .ok ⟨Root.ceilRoot count 3, Root.ceilRoot count 3, Root.ceilRoot count 3⟩
      else .error (.gridTooLarge ⟨count, 1, 1⟩ limit) := by
  have hfits : Grid.fits ⟨count, 1, 1⟩ limit = false := by
    simp [Grid.fits, Grid.toList, Nat.not_le_of_lt hwide]
  have hvolume : Grid.volume ⟨count, 1, 1⟩ = count := by simp [Grid.volume]
  rw [dispatch, ← counts, hcounts, AxisLayout.foldCounts_of_usesOnlyX hx hfits, hvolume]

/-- A flat program over a line of elements. -/
def line (extent : Nat) : Program := { label := "line", outputShape := [extent] }

private theorem sized_line (extent : Nat) : (line extent).Sized := by
  constructor <;> constructor <;> simp [line, defaultWorkgroup]

/-- A line of seventy thousand workgroups is covered by a square of them. -/
theorem folded_line_is_covered :
    (line 4480000).Sized ∧ 1 ≤ 65535 ∧ (line 4480000).Uncut ∧
      (line 4480000).dispatch 65535 = .ok ⟨265, 265, 1⟩ ∧ (line 4480000).CoveredBy ⟨265, 265, 1⟩ := by
  have hsquare : Root.ceilRoot 70000 2 = 265 :=
    Root.ceilRoot_eq (by decide) (by decide) (by decide) (by decide)
  have hdispatch : (line 4480000).dispatch 65535 = .ok ⟨265, 265, 1⟩ := by
    have hcounts : (line 4480000).counts = ⟨70000, 1, 1⟩ := by decide
    rw [dispatch_of_wide rfl hcounts (by decide), hsquare]
    rfl
  have huncut : (line 4480000).Uncut := by decide
  have hcovers := (dispatches_cover_unless_cut (line 4480000) 65535 (sized_line _) (by decide)).1
  exact ⟨sized_line _, by decide, huncut, hdispatch, (hcovers _ hdispatch).2.1 huncut⟩

/-- A line that takes more workgroups than any grid within the limit has is not refused: its count is
cut, and what is left is folded into a cube. -/
theorem endless_line_is_not_refused :
    (line (2 ^ 62)).layout.validate 1 = .ok () ∧ (line (2 ^ 62)).extents.x < 2 ^ 64 ∧
      (line (2 ^ 62)).Sized ∧ 65535 ^ 3 < (line (2 ^ 62)).needed.x ∧
      (line (2 ^ 62)).dispatch 65535 = .ok ⟨1626, 1626, 1626⟩ ∧
      ¬ (line (2 ^ 62)).CoveredBy ⟨1626, 1626, 1626⟩ := by
  have hsquare : Root.ceilRoot AxisLayout.maxCount 2 = 65536 :=
    Root.ceilRoot_eq (by decide) (by decide) (by decide) (by decide)
  have hcube : Root.ceilRoot AxisLayout.maxCount 3 = 1626 :=
    Root.ceilRoot_eq (by decide) (by decide) (by decide) (by decide)
  have hcounts : (line (2 ^ 62)).counts = ⟨AxisLayout.maxCount, 1, 1⟩ := by decide
  refine ⟨by decide, by decide, sized_line _, by decide, ?_, by decide⟩
  rw [dispatch_of_wide rfl hcounts (by decide), hsquare, hcube]
  rfl

end Program

end ComputeKernels

import ComputeKernels.Proofs.Dispatch.Coverage
import Mathlib.Order.Bounds.Basic

/-!
# Folding is exact

A count of workgroups that exceeds the limit of its dimension is spread over the smallest square that
holds it, and if that is still too wide, over the smallest cube.  The side of either is a ceiling root,
which two loops find from any first candidate whose predecessor has a power of 64 bits: the first goes
down while a smaller number suffices, the second goes up while the number falls short.

Main results:

- Theorem `Root.isLeast_settle`: from every such candidate the loops come to the ceiling root.
- Theorem `AxisLayout.folding_is_exact`: what becomes of the counts of a dispatch under a limit.
-/

namespace ComputeKernels

namespace Root

variable {k n bound root candidate : Nat}

/-! ## Loops -/

/-- A loop that goes on while a condition holds ends, and this is the number that it ends with. -/
inductive Loop (goesOn : Nat → Prop) (step : Nat → Nat) : Nat → Nat → Prop
  | stop {root : Nat} (h : ¬ goesOn root) : Loop goesOn step root root
  | next {root last : Nat} (h : goesOn root) (rest : Loop goesOn step (step root) last) :
    Loop goesOn step root last

/-- A loop ends with one number only. -/
theorem Loop.unique {goesOn : Nat → Prop} {step : Nat → Nat} {last last' : Nat}
    (h : Loop goesOn step root last) (h' : Loop goesOn step root last') : last = last' := by
  induction h with
  | stop hstop =>
    cases h' with
    | stop => rfl
    | next hnext => exact absurd hnext hstop
  | next hnext _ ih =>
    cases h' with
    | stop hstop => exact absurd hnext hstop
    | next _ hrest => exact ih hrest

/-- The next smaller number is positive, and its power fits 64 bits and still reaches the bound. -/
def Lowerable (k bound root : Nat) : Prop :=
  1 < root ∧ (root - 1) ^ k < wordLimit ∧ bound ≤ (root - 1) ^ k

/-- The power of a number fits 64 bits and falls short of the bound. -/
def Raisable (k bound root : Nat) : Prop := root ^ k < wordLimit ∧ root ^ k < bound

private theorem loop_lower (k bound candidate : Nat) :
    Loop (Lowerable k bound) (· - 1) candidate (lower k bound candidate) := by
  induction candidate with
  | zero => exact .stop fun h => absurd h.1 (by decide)
  | succ root ih =>
    rw [lower]
    split
    · next hsmaller => exact .next ⟨Nat.succ_lt_succ hsmaller.1, hsmaller.2⟩ ih
    · next hstop => exact .stop fun h => hstop ⟨Nat.lt_of_succ_lt_succ h.1, h.2⟩

/-- Numbers that fall short are below the bound, so going up comes to an end. -/
theorem loop_raise (hk : 1 ≤ k) (bound root : Nat) :
    Loop (Raisable k bound) (· + 1) root (raise k bound root) := by
  fun_induction raise k bound root with
  | case1 root hshort ih => exact .next hshort.2 ih
  | case2 root hreached =>
    refine .stop fun h => hreached ⟨?_, h⟩
    exact Nat.lt_of_le_of_lt (Nat.le_self_pow (Nat.one_le_iff_ne_zero.mp hk) root) h.2

/-! ## Exact roots -/

/-- Whatever is lowered ends above a number that falls short. -/
theorem pred_lower_pow_lt (hk : 1 ≤ k) (hbound : 0 < bound)
    (hcandidate : (candidate - 1) ^ k < wordLimit) :
    (lower k bound candidate - 1) ^ k < bound := by
  have hzero : 0 ^ k < bound := by rwa [Nat.zero_pow hk]
  induction candidate with
  | zero => exact hzero
  | succ root ih =>
    rw [lower]
    split
    · next hsmaller =>
      exact ih (Nat.lt_of_le_of_lt (Nat.pow_le_pow_left (Nat.sub_le root 1) k) hsmaller.2.1)
    · next hstop =>
      by_cases hroot : 0 < root
      · exact Nat.lt_of_not_le fun hle => hstop ⟨hroot, hcandidate, hle⟩
      · obtain rfl : root = 0 := Nat.eq_zero_of_not_pos hroot
        exact hzero

/-- Raising passes only over numbers that fall short. -/
theorem pred_raise_pow_lt (h : (root - 1) ^ k < bound) :
    (raise k bound root - 1) ^ k < bound := by
  fun_induction raise k bound root with
  | case1 root hshort ih => exact ih hshort.2.2
  | case2 root hreached => exact h

/-- From every candidate whose predecessor has a power of 64 bits, the loops come to the least number
whose power reaches the bound. -/
theorem isLeast_settle (hk : 1 ≤ k) (hn : 0 < n) (hword : n < wordLimit)
    (hcandidate : (candidate - 1) ^ k < wordLimit) :
    IsLeast {root | n ≤ root ^ k} (settle k n candidate) := by
  have hshort : (settle k n candidate - 1) ^ k < n :=
    pred_raise_pow_lt (pred_lower_pow_lt hk hn hcandidate)
  refine ⟨le_pow_raise hk (Nat.le_of_lt hword), fun root hroot => Nat.le_of_not_lt fun hsmaller => ?_⟩
  have hle : root ≤ settle k n candidate - 1 := Nat.le_sub_one_of_lt hsmaller
  exact absurd (Nat.lt_of_le_of_lt (Nat.pow_le_pow_left hle k) hshort) (Nat.not_lt_of_le hroot)

/-- Bits are added to a root only while its power falls short. -/
theorem climb_pow_lt {bits : Nat} (h : root ^ k < bound) : climb k bound bits root ^ k < bound := by
  induction bits generalizing root with
  | zero => exact h
  | succ bit ih =>
    rw [climb]
    split
    · next hshort => exact ih hshort
    · exact ih h

/-- The ceiling root is the least number whose power reaches a number of 64 bits. -/
theorem isLeast_ceilRoot (hk : 1 ≤ k) (hword : n < wordLimit) :
    IsLeast {root | n ≤ root ^ k} (ceilRoot n k) := by
  unfold ceilRoot
  split
  · next hle =>
    refine ⟨Nat.le_self_pow (Nat.one_le_iff_ne_zero.mp hk) n,
      fun root hroot => Nat.le_of_not_lt fun hsmaller => ?_⟩
    obtain rfl : root = 0 := by omega
    have hzero : n ≤ 0 ^ k := hroot
    rw [Nat.zero_pow hk] at hzero
    omega
  · next hlt =>
    have hn : 0 < n := by omega
    have hstart : 0 ^ k < n := by rwa [Nat.zero_pow hk]
    exact isLeast_settle hk hn hword (Nat.lt_trans (climb_pow_lt hstart) hword)

/-- The ceiling root does not depend on the candidate. -/
theorem settle_eq_ceilRoot (hk : 1 ≤ k) (hn : 0 < n) (hword : n < wordLimit)
    (hcandidate : (candidate - 1) ^ k < wordLimit) : settle k n candidate = ceilRoot n k :=
  (isLeast_settle hk hn hword hcandidate).unique (isLeast_ceilRoot hk hword)

/-- Both loops, one after the other, lead from a candidate to a number. -/
def Corrects (k bound candidate root : Nat) : Prop :=
  ∃ low, Loop (Lowerable k bound) (· - 1) candidate low ∧ Loop (Raisable k bound) (· + 1) low root

/-- The loops come to an end, and this is the ceiling root. -/
theorem corrects_iff (hk : 1 ≤ k) (hn : 0 < n) (hword : n < wordLimit)
    (hcandidate : (candidate - 1) ^ k < wordLimit) :
    Corrects k n candidate root ↔ root = ceilRoot n k := by
  rw [← settle_eq_ceilRoot hk hn hword hcandidate]
  have hlower := loop_lower k n candidate
  have hraise := loop_raise hk n (lower k n candidate)
  constructor
  · rintro ⟨low, hlow, hroot⟩
    obtain rfl := hlow.unique hlower
    exact hroot.unique hraise
  · rintro rfl
    exact ⟨_, hlower, hraise⟩

/-- The rounded root is at most some number exactly if the power of that is large enough. -/
theorem ceilRoot_le_iff (hk : 1 ≤ k) (hword : n < wordLimit) : ceilRoot n k ≤ root ↔ n ≤ root ^ k :=
  ⟨fun h => Nat.le_trans (isLeast_ceilRoot hk hword).1 (Nat.pow_le_pow_left h k),
    fun h => (isLeast_ceilRoot hk hword).2 h⟩

/-- A number that reaches another while its predecessor does not is the ceiling root. -/
theorem ceilRoot_eq (hk : 1 ≤ k) (hword : n < wordLimit) (hreached : n ≤ root ^ k)
    (hshort : (root - 1) ^ k < n) : ceilRoot n k = root := by
  have hle : ceilRoot n k ≤ root := (ceilRoot_le_iff hk hword).mpr hreached
  have hnot : ¬ ceilRoot n k ≤ root - 1 := mt (ceilRoot_le_iff hk hword).mp (Nat.not_le_of_lt hshort)
  omega

/-- The power of a root is at most eight times what the root is taken of. -/
theorem pow_ceilRoot_le (hk : 1 ≤ k) (hthree : k ≤ 3) (hword : n < wordLimit) :
    ceilRoot n k ^ k ≤ 8 * n := by
  cases hroot : ceilRoot n k with
  | zero =>
    rw [Nat.zero_pow hk]
    exact Nat.zero_le _
  | succ root =>
    have hless : root ^ k < n := by
      rw [← Nat.not_le, ← ceilRoot_le_iff hk hword, hroot]
      omega
    have hpos : 0 < n := Nat.zero_lt_of_lt hless
    by_cases hzero : root = 0
    · rw [hzero, Nat.zero_add, Nat.one_pow]
      omega
    · -- From two on a root is at most the double of its predecessor, whose power is too small.
      calc (root + 1) ^ k ≤ (2 * root) ^ k := Nat.pow_le_pow_left (by omega) k
        _ = 2 ^ k * root ^ k := Nat.mul_pow 2 root k
        _ ≤ 2 ^ 3 * root ^ k :=
          Nat.mul_le_mul_right _ (Nat.pow_le_pow_right (by decide) hthree)
        _ ≤ 8 * n := Nat.mul_le_mul_left 8 (Nat.le_of_lt hless)

end Root

/-! ## Counts under a limit -/

/-- A grid is within a limit if each of its counts is. -/
theorem Grid.fits_iff {g : Grid} {limit : Nat} :
    g.fits limit = true ↔ ∀ count ∈ g.toList, count ≤ limit := by
  simp [fits]

/-- A grid within a limit has at most as many cells as the cube of that side. -/
theorem Grid.volume_le_of_fits {g : Grid} {limit : Nat} (h : g.fits limit = true) :
    g.volume ≤ limit ^ 3 := by
  have hcounts := fits_iff.mp h
  calc g.volume ≤ limit * limit * limit :=
        Nat.mul_le_mul (Nat.mul_le_mul (hcounts g.x (by simp [toList])) (hcounts g.y (by simp [toList])))
          (hcounts g.z (by simp [toList]))
    _ = limit ^ 3 := volume_cube limit

namespace AxisLayout

variable {l : AxisLayout} {counts : Grid} {limit : Nat}

/-- Counts that exceed a limit on the first dimension alone become a square, a cube or a failure. -/
theorem foldCounts_of_usesOnlyX (hx : l.usesOnlyX = true) (hwide : counts.fits limit = false) :
    l.foldCounts counts limit =
      if Root.ceilRoot counts.volume 2 ≤ limit then
        .ok ⟨Root.ceilRoot counts.volume 2, Root.ceilRoot counts.volume 2, 1⟩
      else if Root.ceilRoot counts.volume 3 ≤ limit then
        .ok ⟨Root.ceilRoot counts.volume 3, Root.ceilRoot counts.volume 3,
          Root.ceilRoot counts.volume 3⟩
      else .error (.gridTooLarge counts limit) := by
  simp [foldCounts, hx, hwide]

/-- On the first dimension alone, counts are refused exactly if no cube within the limit holds
them. -/
theorem foldCounts_eq_error_iff (hx : l.usesOnlyX = true) (hlimit : 1 ≤ limit)
    (hword : counts.volume < Root.wordLimit) :
    l.foldCounts counts limit = .error (.gridTooLarge counts limit) ↔
      limit ^ 3 < counts.volume := by
  cases hfits : counts.fits limit with
  | true =>
    have hvolume := Grid.volume_le_of_fits hfits
    simp [foldCounts, hfits, Nat.not_lt_of_le hvolume]
  | false =>
    have hsquare : Root.ceilRoot counts.volume 2 ≤ limit ↔ counts.volume ≤ limit ^ 2 :=
      Root.ceilRoot_le_iff (by decide) hword
    have hcube : Root.ceilRoot counts.volume 3 ≤ limit ↔ counts.volume ≤ limit ^ 3 :=
      Root.ceilRoot_le_iff (by decide) hword
    have hmono : limit ^ 2 ≤ limit ^ 3 := Nat.pow_le_pow_right hlimit (by decide)
    rw [foldCounts_of_usesOnlyX hx hfits]
    split
    · next hle => simp [Nat.not_lt_of_le (Nat.le_trans (hsquare.mp hle) hmono)]
    · split
      · next hle => simp [Nat.not_lt_of_le (hcube.mp hle)]
      · next hlt => simp [Nat.lt_of_not_le (mt hcube.mpr hlt)]

/-- What becomes of the counts of a dispatch under a limit.  Counts within the limit are kept.  Larger
ones are refused if they are on several dimensions, and otherwise spread over the least square that
holds them if its side is within the limit, or else over the least cube; they are refused exactly if
the cube of the limit does not hold them.  Either side is what the two loops that search for it end
with, from every candidate whose predecessor has a power of 64 bits. -/
theorem folding_is_exact (l : AxisLayout) (counts : Grid) (limit : Nat) (hlimit : 1 ≤ limit)
    (hvolume : counts.volume < 2 ^ 64) :
    (∃ square cube, IsLeast {side | counts.volume ≤ side ^ 2} square ∧
      IsLeast {side | counts.volume ≤ side ^ 3} cube ∧
      (l.foldCounts counts limit =
        if ∀ count ∈ counts.toList, count ≤ limit then .ok counts
        else if l.y ≠ [] ∨ l.z ≠ [] then .error (.gridTooLarge counts limit)
        else if square ≤ limit then .ok ⟨square, square, 1⟩
        else if cube ≤ limit then .ok ⟨cube, cube, cube⟩
        else .error (.gridTooLarge counts limit)) ∧
      (1 < counts.volume → ∀ candidate side,
        ((candidate - 1) ^ 2 < 2 ^ 64 →
          (Root.Corrects 2 counts.volume candidate side ↔ side = square)) ∧
        ((candidate - 1) ^ 3 < 2 ^ 64 →
          (Root.Corrects 3 counts.volume candidate side ↔ side = cube)))) ∧
    (l.y = [] → l.z = [] →
      (l.foldCounts counts limit = .error (.gridTooLarge counts limit) ↔
        limit ^ 3 < counts.volume)) := by
  refine ⟨⟨Root.ceilRoot counts.volume 2, Root.ceilRoot counts.volume 3,
    Root.isLeast_ceilRoot (by decide) hvolume, Root.isLeast_ceilRoot (by decide) hvolume, ?_,
    fun hmany candidate side => ?_⟩, fun hy hz => ?_⟩
  · split
    · next hfits => simp [foldCounts, Grid.fits_iff.mpr hfits]
    · next hwide =>
      have hwide' : counts.fits limit = false := by rwa [← Bool.not_eq_true, Grid.fits_iff]
      split
      · next hseveral =>
        have hx : l.usesOnlyX = false := by
          rw [← Bool.not_eq_true, usesOnlyX_iff, Classical.not_and_iff_not_or_not]
          exact hseveral
        simp [foldCounts, hwide', hx]
      · next hnone =>
        have haxes : l.y = [] ∧ l.z = [] := by simpa [not_or] using hnone
        exact foldCounts_of_usesOnlyX (usesOnlyX_iff.mpr haxes) hwide'
  · have hpos : 0 < counts.volume := Nat.lt_trans Nat.zero_lt_one hmany
    exact ⟨Root.corrects_iff (by decide) hpos hvolume, Root.corrects_iff (by decide) hpos hvolume⟩
  · exact foldCounts_eq_error_iff (usesOnlyX_iff.mpr ⟨hy, hz⟩) hlimit hvolume

/-- Seventy thousand workgroups become a square. -/
theorem seventy_thousand_fold_into_a_square :
    1 ≤ 65535 ∧ Grid.volume ⟨70000, 1, 1⟩ < 2 ^ 64 ∧
      (flat 1).foldCounts ⟨70000, 1, 1⟩ 65535 = .ok ⟨265, 265, 1⟩ ∧
      Root.Corrects 2 70000 300 265 := by
  rcases folding_is_exact (flat 1) ⟨70000, 1, 1⟩ 65535 (by decide) (by decide) with
    ⟨⟨square, cube, hsquare, -, hfold, hcorrects⟩, -⟩
  have hleast : IsLeast {side | Grid.volume ⟨70000, 1, 1⟩ ≤ side ^ 2} 265 := by
    refine ⟨by decide, fun side hside => Nat.le_of_not_lt fun hlt => ?_⟩
    have hpow : side ^ 2 ≤ 264 ^ 2 := Nat.pow_le_pow_left (Nat.le_of_lt_succ hlt) 2
    exact absurd (Nat.le_trans hside hpow) (by decide)
  obtain rfl : square = 265 := hsquare.unique hleast
  exact ⟨by decide, by decide, hfold, ((hcorrects (by decide) 300 265).1 (by decide)).mpr rfl⟩

end AxisLayout

end ComputeKernels

import ComputeKernels.Decimal.Float32
import Mathlib.Algebra.Order.Field.Power
import Mathlib.Algebra.Order.Field.Rat
import Mathlib.Data.Rat.Cast.Order
import Mathlib.Tactic.FieldSimp
import Mathlib.Tactic.Linarith
import Mathlib.Tactic.Positivity
import Mathlib.Tactic.Ring

/-!
# Intervals of numbers

A number in 32 bits stands for an interval around it.  The intervals of different numbers have no point
in common: neighbours meet at most in one end, which belongs to the one of even mantissa.  The decimal
that a number is printed as lies in its interval, so it is the decimal of no other number.

Main definitions:

- `Scaled.value`: the rational number that a decimal denotes.
- `Binary.Holds`: the points of the interval of a number.

Main results:

- Theorem `Binary.contains_iff`: the test of a decimal decides whether its value is in the interval.
- Theorem `Float32.holds_shortest`: the shortest decimal of a number lies in its interval.
- Theorem `Float32.eq_of_holds`: no point is in the intervals of two numbers.
-/

namespace ComputeKernels.Decimal

/-! ## Exact comparisons -/

/-- The number that a decimal denotes. -/
def Scaled.value (d : Scaled) : ℚ := d.significand * 10 ^ d.exponent

/-- A power whose exponent may be negative is a quotient of powers whose exponents are not. -/
theorem zpow_mul_pow_toNat {b : ℚ} (hb : b ≠ 0) (e : Int) :
    b ^ e * b ^ (-e).toNat = b ^ e.toNat := by
  rw [← zpow_natCast, ← zpow_natCast, ← zpow_add₀ hb]
  congr 1
  omega

/-- Numbers in powers of ten and of two are compared after both are multiplied by what clears their
denominators. -/
theorem compareTo_eq (c : Nat) (e : Int) (a : Nat) (b : Int) : ∃ scale : ℚ, 0 < scale ∧
    ∃ x y : Nat, compareTo c e a b = compare x y ∧ (c : ℚ) * 10 ^ e * scale = x ∧
      (a : ℚ) * 2 ^ b * scale = y := by
  have hten := zpow_mul_pow_toNat (b := 10) (by norm_num) e
  have htwo := zpow_mul_pow_toNat (b := 2) (by norm_num) b
  refine ⟨10 ^ (-e).toNat * 2 ^ (-b).toNat, by positivity, _, _, rfl, ?_, ?_⟩
  · simp only [Nat.pow_eq]
    push_cast
    rw [← hten]
    ring
  · simp only [Nat.pow_eq]
    push_cast
    rw [← htwo]
    ring

section Comparisons

variable {c a : Nat} {e b : Int}

private theorem isLE_compareTo :
    (compareTo c e a b).isLE = true ↔ (c : ℚ) * 10 ^ e ≤ a * 2 ^ b := by
  obtain ⟨scale, hscale, x, y, heq, hx, hy⟩ := compareTo_eq c e a b
  rw [heq, Nat.isLE_compare, ← mul_le_mul_iff_left₀ hscale, hx, hy, Nat.cast_le]

private theorem isLT_compareTo :
    (compareTo c e a b).isLT = true ↔ (c : ℚ) * 10 ^ e < a * 2 ^ b := by
  obtain ⟨scale, hscale, x, y, heq, hx, hy⟩ := compareTo_eq c e a b
  rw [heq, Ordering.isLT_iff_eq_lt, Nat.compare_eq_lt, ← mul_lt_mul_iff_left₀ hscale, hx, hy,
    Nat.cast_lt]

private theorem isGE_compareTo :
    (compareTo c e a b).isGE = true ↔ (a : ℚ) * 2 ^ b ≤ c * 10 ^ e := by
  obtain ⟨scale, hscale, x, y, heq, hx, hy⟩ := compareTo_eq c e a b
  rw [heq, Nat.isGE_compare, ← mul_le_mul_iff_left₀ hscale, hx, hy, Nat.cast_le]

private theorem isGT_compareTo :
    (compareTo c e a b).isGT = true ↔ (a : ℚ) * 2 ^ b < c * 10 ^ e := by
  obtain ⟨scale, hscale, x, y, heq, hx, hy⟩ := compareTo_eq c e a b
  rw [heq, Ordering.isGT_iff_eq_gt, Nat.compare_eq_gt, ← mul_lt_mul_iff_left₀ hscale, hx, hy,
    Nat.cast_lt]

end Comparisons

/-! ## The interval of a number -/

namespace Binary

variable {v : Binary} {x : ℚ}

/-- Lower end of the interval. -/
def low (v : Binary) : ℚ := v.lowerEnd * 2 ^ (v.exponent - 2)

/-- Upper end of the interval. -/
def high (v : Binary) : ℚ := v.upperEnd * 2 ^ (v.exponent - 2)

/-- The points of the interval, which has its ends only if the mantissa is even. -/
def Holds (v : Binary) (x : ℚ) : Prop :=
  if v.mantissa % 2 = 0 then v.low ≤ x ∧ x ≤ v.high else v.low < x ∧ x < v.high

private theorem Holds.le (h : v.Holds x) : v.low ≤ x ∧ x ≤ v.high := by
  rw [Holds] at h
  split at h
  · exact h
  · exact ⟨h.1.le, h.2.le⟩

private theorem Holds.lt_of_odd (h : v.Holds x) (hodd : v.mantissa % 2 = 1) :
    v.low < x ∧ x < v.high := by
  rwa [Holds, if_neg (by omega)] at h

/-- The interval of a float contains a decimal exactly if it holds the value of it. -/
theorem contains_iff {d : Scaled} : v.contains d = true ↔ v.Holds d.value := by
  rw [contains, Holds, low, high, Scaled.value]
  split
  · rw [Bool.and_eq_true, isGE_compareTo, isLE_compareTo]
  · rw [Bool.and_eq_true, isGT_compareTo, isLT_compareTo]

/-! ## The decimal that is found -/

private theorem value_exact : v.exact.value = v.mantissa * 2 ^ v.exponent := by
  have htwo := zpow_mul_pow_toNat (b := 2) (by norm_num) v.exponent
  rw [exact]
  split
  · next hnonneg =>
    have hzero : (-v.exponent).toNat = 0 := by omega
    rw [hzero, pow_zero, mul_one] at htwo
    rw [Scaled.value, Nat.pow_eq, htwo]
    push_cast
    ring
  · next hneg =>
    have hzero : v.exponent.toNat = 0 := by omega
    have hten := zpow_mul_pow_toNat (b := 10) (by norm_num) v.exponent
    rw [hzero, pow_zero] at htwo hten
    have hsplit : (10 : ℚ) ^ (-v.exponent).toNat = 2 ^ (-v.exponent).toNat * 5 ^ (-v.exponent).toNat := by
      rw [← mul_pow]
      norm_num
    have hfive : (5 : ℚ) ^ (-v.exponent).toNat * 10 ^ v.exponent = 2 ^ v.exponent := by
      rw [hsplit, ← htwo] at hten
      have hne : (2 : ℚ) ^ (-v.exponent).toNat ≠ 0 := by positivity
      apply mul_right_cancel₀ hne
      rw [← hten]
      ring
    rw [Scaled.value, Nat.pow_eq]
    push_cast
    rw [mul_assoc, hfive]

private theorem holds_exact (h : 0 < v.lowerQuarters) : v.Holds v.exact.value := by
  have hvalue : v.exact.value = (4 * v.mantissa : ℕ) * 2 ^ (v.exponent - 2) := by
    rw [value_exact, zpow_sub₀ (by norm_num)]
    push_cast
    ring
  have hunit : (0 : ℚ) < 2 ^ (v.exponent - 2) := by positivity
  rw [Holds, hvalue, low, high, lowerEnd, upperEnd]
  split
  · refine ⟨mul_le_mul_of_nonneg_right ?_ hunit.le, mul_le_mul_of_nonneg_right ?_ hunit.le⟩
    · exact Nat.cast_le.mpr (by omega)
    · exact Nat.cast_le.mpr (by omega)
  · refine ⟨mul_lt_mul_of_pos_right ?_ hunit, mul_lt_mul_of_pos_right ?_ hunit⟩
    · exact Nat.cast_lt.mpr (by omega)
    · exact Nat.cast_lt.mpr (by omega)

private theorem holds_of_mem_nearestIn? {e : Int} {d : Scaled} (h : v.nearestIn? e = some d) :
    v.Holds d.value := by
  rw [← contains_iff]
  simp only [nearestIn?] at h
  split at h
  · next hfloor hceil =>
    obtain rfl := Option.some.inj h
    split
    · exact hfloor
    · exact hceil
  · next hfloor _ => exact Option.some.inj h ▸ hfloor
  · next _ hceil => exact Option.some.inj h ▸ hceil
  · exact absurd h (by simp)

private theorem holds_firstGrid (h : 0 < v.lowerQuarters) (grids : Nat) (e : Int) :
    v.Holds (v.firstGrid grids e).value := by
  induction grids generalizing e with
  | zero => exact holds_exact h
  | succ grids ih =>
    rw [firstGrid]
    cases hfound : v.nearestIn? e with
    | some d => exact holds_of_mem_nearestIn? hfound
    | none => exact ih (e - 1)

end Binary

private theorem Scaled.value_trimmed (d : Scaled) (steps : Nat) :
    (d.trimmed steps).value = d.value := by
  induction steps generalizing d with
  | zero => rfl
  | succ steps ih =>
    rw [trimmed]
    split
    · next hzero =>
      rw [ih, value, value, zpow_add_one₀ (by norm_num)]
      have hdiv : ((d.significand / 10 : ℕ) : ℚ) * 10 = d.significand := by
        exact_mod_cast Nat.div_mul_cancel (Nat.dvd_of_mod_eq_zero hzero.2)
      rw [← hdiv]
      ring
    · rfl

namespace Float32

/-- The shortest decimal lies in the interval of its float. -/
theorem holds_shortest (m : UInt32) : (binary m).Holds (shortest m).value := by
  rw [shortest, Scaled.value_trimmed, Binary.shortest]
  refine Binary.holds_firstGrid ?_ _ _
  rw [binary]
  split
  · exact Nat.two_pos
  · dsimp only
    split <;> decide

/-! ## Neighbours -/

/-- Exponent of a magnitude, counted from that of the least numbers. -/
def shift (n : Nat) : Nat := n / 0x800000 - 1

/-- Mantissa of a magnitude. -/
def mantissaOf (n : Nat) : Nat :=
  if n / 0x800000 = 0 then n % 0x800000 else 0x800000 + n % 0x800000

/-- Lower end of the interval of a magnitude, in quarters of the least number. -/
def lowUnits (n : Nat) : Nat :=
  (4 * mantissaOf n - if n / 0x800000 ≠ 0 ∧ n % 0x800000 = 0 then 1 else 2) * 2 ^ shift n

/-- Upper end of the interval of a magnitude, in quarters of the least number. -/
def highUnits (n : Nat) : Nat := (4 * mantissaOf n + 2) * 2 ^ shift n

private theorem lowUnits_lt_highUnits (n : Nat) : lowUnits n < highUnits n :=
  Nat.mul_lt_mul_of_pos_right (by omega) (Nat.two_pow_pos _)

/-- A number ends where the next one starts, or before. -/
theorem highUnits_le_lowUnits_succ (n : Nat) : highUnits n ≤ lowUnits (n + 1) := by
  simp only [highUnits, lowUnits, mantissaOf, shift]
  -- the next number has the same spacing, or it is a power of two, with twice the spacing unless it is
  -- the least one
  by_cases hsame : (n + 1) / 0x800000 = n / 0x800000
  · rw [hsame]
    refine Nat.mul_le_mul_right _ ?_
    split <;> split <;> omega
  by_cases hleast : n / 0x800000 = 0
  · have hnext : (n + 1) / 0x800000 = 1 ∧ (n + 1) % 0x800000 = 0 := by omega
    simp only [hnext, hleast, if_true, if_false, ne_eq, one_ne_zero, not_false_eq_true, and_self]
    omega
  · have hnext : (n + 1) / 0x800000 - 1 = n / 0x800000 - 1 + 1 ∧ (n + 1) / 0x800000 ≠ 0 ∧
        (n + 1) % 0x800000 = 0 := by omega
    rw [hnext.1, hnext.2.2, Nat.pow_succ', ← Nat.mul_assoc]
    refine Nat.mul_le_mul_right _ ?_
    simp only [hleast, hnext.2.1, if_false, ne_eq, not_false_eq_true, and_self, if_true]
    omega

private theorem highUnits_le_lowUnits {n k : Nat} (h : n < k) : highUnits n ≤ lowUnits k := by
  induction k, h using Nat.le_induction with
  | base => exact highUnits_le_lowUnits_succ n
  | succ k _ ih =>
    exact ih.trans ((lowUnits_lt_highUnits k).le.trans (highUnits_le_lowUnits_succ k))

private theorem binary_eq (m : UInt32) :
    (binary m).exponent = shift m.toNat - 149 ∧ (binary m).mantissa = mantissaOf m.toNat ∧
    (binary m).lowerQuarters = if m.toNat / 0x800000 ≠ 0 ∧ m.toNat % 0x800000 = 0 then 1 else 2 := by
  simp only [binary, shift, mantissaOf]
  split
  · next hzero => simp [hzero]
  · next hpos => simp [hpos]; omega

/-- The ends of an interval in quarters of the least number. -/
theorem low_binary (m : UInt32) : (binary m).low = lowUnits m.toNat * 2 ^ (-151 : Int) := by
  obtain ⟨hexponent, hmantissa, hquarters⟩ := binary_eq m
  have hunit : (binary m).exponent - 2 = shift m.toNat + -151 := by omega
  rw [Binary.low, Binary.lowerEnd, hunit, zpow_add₀ (by norm_num), zpow_natCast, hmantissa, hquarters,
    lowUnits]
  push_cast
  ring

private theorem high_binary (m : UInt32) :
    (binary m).high = highUnits m.toNat * 2 ^ (-151 : Int) := by
  obtain ⟨hexponent, hmantissa, -⟩ := binary_eq m
  have hunit : (binary m).exponent - 2 = shift m.toNat + -151 := by omega
  rw [Binary.high, Binary.upperEnd, hunit, zpow_add₀ (by norm_num), zpow_natCast, hmantissa, highUnits]
  push_cast
  ring

private theorem high_le_low {m₁ m₂ : UInt32} (h : m₁ < m₂) :
    (binary m₁).high ≤ (binary m₂).low := by
  rw [high_binary, low_binary]
  refine mul_le_mul_of_nonneg_right ?_ (by positivity)
  exact Nat.cast_le.mpr (highUnits_le_lowUnits (UInt32.lt_iff_toNat_lt.mp h))

private theorem high_lt_low {m₁ m₂ : UInt32} (h : m₁.toNat + 1 < m₂.toNat) :
    (binary m₁).high < (binary m₂).low := by
  rw [high_binary, low_binary]
  refine mul_lt_mul_of_pos_right ?_ (by positivity)
  refine Nat.cast_lt.mpr ((highUnits_le_lowUnits_succ _).trans_lt ?_)
  exact (lowUnits_lt_highUnits _).trans_le (highUnits_le_lowUnits h)

/-- No point is in the interval of a number and in that of a greater one: where the two share an end they
are neighbours, and the mantissa of one of them is odd. -/
theorem not_holds_of_lt {m₁ m₂ : UInt32} {x : ℚ} (h : m₁ < m₂) (h₁ : (binary m₁).Holds x) :
    ¬ (binary m₂).Holds x := by
  intro h₂
  have hshared := (h₂.le.1.trans h₁.le.2).antisymm (high_le_low h)
  have hneighbour : m₂.toNat = m₁.toNat + 1 := by
    have hlt := UInt32.lt_iff_toNat_lt.mp h
    have hnot : ¬ m₁.toNat + 1 < m₂.toNat := fun hgap => (high_lt_low hgap).ne' hshared
    omega
  have hparity (m : UInt32) : (binary m).mantissa % 2 = m.toNat % 2 := by
    rw [(binary_eq m).2.1, mantissaOf]
    split <;> omega
  rcases Nat.mod_two_eq_zero_or_one m₁.toNat with heven | hodd
  · have hlow := (h₂.lt_of_odd (by rw [hparity]; omega)).1
    exact absurd (hlow.trans_le h₁.le.2) (hshared ▸ lt_irrefl _)
  · have hhigh := (h₁.lt_of_odd (by rw [hparity]; omega)).2
    exact absurd (h₂.le.1.trans_lt hhigh) (hshared ▸ lt_irrefl _)

/-- No number lies in the intervals of two floats. -/
theorem eq_of_holds {m₁ m₂ : UInt32} {x : ℚ} (h₁ : (binary m₁).Holds x) (h₂ : (binary m₂).Holds x) :
    m₁ = m₂ := by
  by_contra hne
  rcases Nat.lt_or_gt_of_ne (mt UInt32.toNat_inj.mp hne) with h | h
  · exact not_holds_of_lt (UInt32.lt_iff_toNat_lt.mpr h) h₁ h₂
  · exact not_holds_of_lt (UInt32.lt_iff_toNat_lt.mpr h) h₂ h₁

end Float32

end ComputeKernels.Decimal

import ComputeKernels.Proofs.Decimal.Intervals
import ComputeKernels.Proofs.Decimal.Numerals
import ComputeKernels.Proofs.Text.Nesting
import Mathlib

/-!
# Numbers are told apart by their texts

The text of a number denotes a decimal, positionally or with an exponent, and the decimal lies in the
interval of one number only.  So different finite numbers are printed differently.

Main results:

- Theorem `Scaled.value_eq_of_positional`: a positional text denotes one number.
- Theorem `Scaled.scientific_inj`: a text with an exponent denotes one decimal.
- Theorem `Float32.text_inj`: different finite numbers are printed differently.
-/

namespace ComputeKernels.Decimal

/-! ## Reading a decimal -/

namespace Scaled

/-- The value of a positional text: the number that its digits form, in units of the last place. -/
theorem value_eq_of_digits {d : Scaled} {n places zeros : Nat} (hzeros : (zeros : Int) = d.exponent + places)
    (hn : n = d.significand * 10 ^ zeros) : d.value = n * 10 ^ (-places : Int) := by
  have hexponent : d.exponent = zeros + -places := by omega
  rw [value, hexponent, zpow_add₀ (by norm_num), zpow_natCast, hn]
  push_cast
  ring

/-- Decimals that are written alike without an exponent have one value. -/
theorem value_eq_of_positional {d₁ d₂ : Scaled} (h : d₁.positional = d₂.positional) :
    d₁.value = d₂.value := by
  obtain ⟨whole₁, places₁, heq₁, -, -, hdigits₁, zeros₁, hzeros₁, hvalue₁⟩ := d₁.exists_positional
  obtain ⟨whole₂, places₂, heq₂, -, -, hdigits₂, zeros₂, hzeros₂, hvalue₂⟩ := d₂.exists_positional
  have hpoint {cs places : List Char} (hdigits : ∀ c ∈ cs ++ places, c.isDigit = true) : '.' ∉ cs :=
    fun h => absurd (hdigits _ (List.mem_append_left _ h)) (by decide)
  rw [heq₁, heq₂] at h
  obtain ⟨rfl, rfl⟩ := Text.append_cons_inj_left (hpoint hdigits₁) (hpoint hdigits₂) h
  rw [value_eq_of_digits hzeros₁ hvalue₁, value_eq_of_digits hzeros₂ hvalue₂]

/-- Decimals that are written alike with an exponent are the same. -/
theorem scientific_inj {d₁ d₂ : Scaled} (h : d₁.scientific = d₂.scientific) : d₁ = d₂ := by
  obtain ⟨mantissa₁, heq₁, -, hmark₁, hdigits₁⟩ := d₁.exists_scientific
  obtain ⟨mantissa₂, heq₂, -, hmark₂, hdigits₂⟩ := d₂.exists_scientific
  rw [heq₁, heq₂] at h
  obtain ⟨rfl, hexponent⟩ := Text.append_cons_inj_left hmark₁ hmark₂ h
  have hdigits : d₁.digits = d₂.digits := hdigits₁.symm.trans hdigits₂
  have hsignificand : d₁.significand = d₂.significand := by
    have hread := congrArg (Nat.ofDigitChars 10 · 0) hdigits
    simpa only [digits, Nat.ofDigitChars_ten_toDigits] using hread
  rw [String.toList_inj, Int.toString_eq_repr, Int.toString_eq_repr, Int.repr_inj, pointAt, pointAt,
    hdigits] at hexponent
  cases d₁
  cases d₂
  congr 1
  simp only at hexponent
  omega

private theorem mem_scientific (d : Scaled) : 'e' ∈ d.scientific := by
  obtain ⟨mantissa, heq, -⟩ := d.exists_scientific
  simp [heq]

private theorem not_mem_positional (d : Scaled) : 'e' ∉ d.positional := by
  obtain ⟨whole, places, heq, -, -, hdigits, -⟩ := d.exists_positional
  rw [List.forall_mem_append] at hdigits
  have hwhole : 'e' ∉ whole := fun h => absurd (hdigits.1 _ h) (by decide)
  have hplaces : 'e' ∉ places := fun h => absurd (hdigits.2 _ h) (by decide)
  simp [heq, hwhole, hplaces]

private theorem point_mem_positional (d : Scaled) : '.' ∈ d.positional := by
  obtain ⟨whole, places, heq, -⟩ := d.exists_positional
  simp [heq]

end Scaled

/-! ## Numbers in 32 bits -/

namespace Float32

/-- The decimal that a magnitude is printed as lies in its interval. -/
theorem holds_decimalOf (m : UInt32) : (binary m).Holds (decimalOf m).value := by
  rw [decimalOf]
  split
  · next hzero =>
    subst hzero
    exact Binary.contains_iff.mp (by decide)
  · exact holds_shortest m

/-- Different finite magnitudes are printed differently. -/
theorem magnitudeText_inj {m₁ m₂ : UInt32} (h₁ : m₁ < infinity) (h₂ : m₂ < infinity)
    (h : magnitudeText m₁ = magnitudeText m₂) : m₁ = m₂ := by
  have hvalue : (decimalOf m₁).value = (decimalOf m₂).value := by
    rcases magnitudeText_eq h₁ with heq₁ | heq₁ <;> rcases magnitudeText_eq h₂ with heq₂ | heq₂ <;>
      rw [heq₁, heq₂] at h
    · exact Scaled.value_eq_of_positional h
    · exact absurd (h ▸ Scaled.mem_scientific _) (Scaled.not_mem_positional _)
    · exact absurd (h ▸ Scaled.mem_scientific _) (Scaled.not_mem_positional _)
    · rw [Scaled.scientific_inj h]
  exact eq_of_holds (hvalue ▸ holds_decimalOf m₁) (holds_decimalOf m₂)

/-- A number with places or an exponent is not printed as an integer is. -/
theorem magnitudeText_ne_digits {m : UInt32} (h : m < infinity) (n : Nat) :
    magnitudeText m ≠ Nat.toDigits 10 n := by
  intro heq
  have hdigits : ∀ c ∈ magnitudeText m, c.isDigit = true := fun c hc =>
    Nat.isDigit_of_mem_toDigits (by decide) (by decide) (heq ▸ hc)
  rcases magnitudeText_eq h with htext | htext
  · exact absurd (hdigits '.' (htext ▸ Scaled.point_mem_positional _)) (by decide)
  · exact absurd (hdigits 'e' (htext ▸ Scaled.mem_scientific _)) (by decide)

/-- A number is given by its sign and its magnitude. -/
theorem eq_of_magnitude {bits₁ bits₂ : UInt32} (hsign : isNegative bits₁ = isNegative bits₂)
    (h : magnitude bits₁ = magnitude bits₂) : bits₁ = bits₂ := by
  have hmod (bits : UInt32) : (magnitude bits).toNat = bits.toNat % 2 ^ 31 := by
    rw [magnitude, UInt32.toNat_and, ← Nat.and_two_pow_sub_one_eq_mod]
    rfl
  have hnegative (bits : UInt32) : isNegative bits = true ↔ 2 ^ 31 ≤ bits.toNat := by
    have hlt := bits.toNat_lt
    rw [isNegative, bne_iff_ne, ne_eq, ← UInt32.toNat_inj, hmod]
    omega
  have hmagnitude := congrArg UInt32.toNat h
  rw [hmod, hmod] at hmagnitude
  rw [Bool.eq_iff_iff, hnegative, hnegative] at hsign
  have hlt₁ := bits₁.toNat_lt
  have hlt₂ := bits₂.toNat_lt
  exact UInt32.toNat_inj.mp (by omega)

/-- Different finite numbers are printed differently. -/
theorem text_inj {bits₁ bits₂ : UInt32} (h₁ : magnitude bits₁ < infinity)
    (h₂ : magnitude bits₂ < infinity) (h : text bits₁ = text bits₂) : bits₁ = bits₂ := by
  have htext := congrArg String.toList h
  have hhead₁ := (isNumeral_magnitudeText h₁).head?_ne
  have hhead₂ := (isNumeral_magnitudeText h₂).head?_ne
  rw [toList_text, toList_text, if_neg (UInt32.not_lt.mpr (UInt32.le_of_lt h₁)),
    if_neg (UInt32.not_lt.mpr (UInt32.le_of_lt h₂))] at htext
  split at htext <;> split at htext
  · next hsign₁ hsign₂ =>
    exact eq_of_magnitude (hsign₁.trans hsign₂.symm) (magnitudeText_inj h₁ h₂ (List.cons.inj htext).2)
  · exact absurd (htext ▸ rfl) hhead₂
  · exact absurd (htext ▸ rfl) hhead₁
  · next hsign₁ hsign₂ =>
    refine eq_of_magnitude ?_ (magnitudeText_inj h₁ h₂ htext)
    rw [Bool.eq_false_of_not_eq_true hsign₁, Bool.eq_false_of_not_eq_true hsign₂]

end Float32

end ComputeKernels.Decimal

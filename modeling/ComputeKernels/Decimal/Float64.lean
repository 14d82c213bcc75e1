import ComputeKernels.Decimal.Shortest

/-!
# Exact text of 64-bit floating-point numbers

Every finite number is a decimal with finitely many places, since a half is five tenths.  It is
written as an integer and a power of ten, so that no digit is lost; the sign of zero is kept.

Main results:

- Theorem `exponent_decimal_le`: the power of ten is never positive.
-/

namespace ComputeKernels.Decimal.Float64

/-- Number of values of the fraction in the bits of a number. -/
def fractions : Nat := 0x10000000000000

/-- Value of a finite number, exactly and without its sign. -/
def decimal (v : Float) : Scaled :=
  let fraction := v.toBits.toNat % fractions
  let biased := v.toBits.toNat / fractions % 0x800
  let mantissa := if biased = 0 then fraction else fractions + fraction
  let places := 1075 - max biased 1
  ⟨mantissa * Nat.pow 5 places * Nat.pow 2 (biased - 1075), -(places : Int)⟩

/-- The power of ten is never positive. -/
theorem exponent_decimal_le (v : Float) : (decimal v).exponent ≤ 0 := by
  simp only [decimal]
  omega

/-- Text of a finite number. -/
def text (v : Float) : String :=
  let sign := if v.toBits.toNat < 0x8000000000000000 then "" else "-"
  sign ++ toString (decimal v).significand ++ "e" ++ toString (decimal v).exponent

end ComputeKernels.Decimal.Float64

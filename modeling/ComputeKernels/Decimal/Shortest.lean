/-!
# Shortest decimals

A binary floating-point number stands for a whole interval of reals, those nearer to it than to its
neighbours.  Its shortest decimal is the point of that interval on the coarsest decimal grid that
meets it, and of two such points the nearer; at equal distance the upper one is taken.  All
comparisons are made between exact integers.
-/

namespace ComputeKernels.Decimal

/-! ## Numbers -/

/-- The number `significand * 10 ^ exponent`. -/
structure Scaled where
  significand : Nat
  exponent : Int
deriving DecidableEq

/-- The number `mantissa * 2 ^ exponent` with the distances to its neighbours: half a unit upward,
and downward `lowerQuarters` quarters of a unit. -/
structure Binary where
  mantissa : Nat
  exponent : Int
  lowerQuarters : Nat
deriving DecidableEq

/-- Compares `c * 10 ^ e` with `a * 2 ^ b`. -/
def compareTo (c : Nat) (e : Int) (a : Nat) (b : Int) : Ordering :=
  compare (c * Nat.pow 10 e.toNat * Nat.pow 2 (-b).toNat)
    (a * Nat.pow 2 b.toNat * Nat.pow 10 (-e).toNat)

namespace Binary

/-- Lower end of the interval that a number stands for, in quarters of a unit. -/
def lowerEnd (v : Binary) : Nat := 4 * v.mantissa - v.lowerQuarters

/-- Upper end of the interval that a number stands for, in quarters of a unit. -/
def upperEnd (v : Binary) : Nat := 4 * v.mantissa + 2

/-- Whether a decimal lies in the interval of a number.  The ends belong to numbers of even
mantissa. -/
def contains (v : Binary) (d : Scaled) : Bool :=
  let low := compareTo d.significand d.exponent v.lowerEnd (v.exponent - 2)
  let high := compareTo d.significand d.exponent v.upperEnd (v.exponent - 2)
  if v.mantissa % 2 = 0 then low.isGE && high.isLE else low.isGT && high.isLT

/-- Whole part of a number counted in units of `10 ^ e`. -/
def floorIn (v : Binary) (e : Int) : Nat :=
  v.mantissa * Nat.pow 2 v.exponent.toNat * Nat.pow 10 (-e).toNat /
    (Nat.pow 2 (-v.exponent).toNat * Nat.pow 10 e.toNat)

/-- Whether a number is below the middle between `c` and `c + 1` units of `10 ^ e`. -/
def belowMiddle (v : Binary) (c : Nat) (e : Int) : Bool :=
  (compareTo (2 * c + 1) e v.mantissa (v.exponent + 1)).isGT

/-- Point of a decimal grid that lies in the interval, next to the number itself. -/
def nearestIn? (v : Binary) (e : Int) : Option Scaled :=
  let c := v.floorIn e
  match v.contains ⟨c, e⟩, v.contains ⟨c + 1, e⟩ with
  | true, true => some ⟨if v.belowMiddle c e then c else c + 1, e⟩
  | true, false => some ⟨c, e⟩
  | false, true => some ⟨c + 1, e⟩
  | false, false => none

/-- The decimal that equals a number. -/
def exact (v : Binary) : Scaled :=
  if 0 ≤ v.exponent then ⟨v.mantissa * Nat.pow 2 v.exponent.toNat, 0⟩
  else ⟨v.mantissa * Nat.pow 5 (-v.exponent).toNat, v.exponent⟩

/-- First grid, from a coarse one downward, that has a point in the interval. -/
def firstGrid (v : Binary) : Nat → Int → Scaled
  | 0, _ => v.exact
  | grids + 1, e => (v.nearestIn? e).getD (v.firstGrid grids (e - 1))

/-- Shortest decimal of a number, searched on a number of grids from the given coarsest one. -/
def shortest (v : Binary) (grids : Nat) (coarsest : Int) : Scaled :=
  v.firstGrid grids coarsest

end Binary

/-! ## Digits -/

/-- Removes trailing zeros from a significand. -/
def Scaled.trimmed (d : Scaled) : Nat → Scaled
  | 0 => d
  | steps + 1 =>
    if d.significand ≠ 0 ∧ d.significand % 10 = 0 then
      Scaled.trimmed ⟨d.significand / 10, d.exponent + 1⟩ steps
    else d

/-- Digits of a significand. -/
def Scaled.digits (d : Scaled) : List Char := Nat.toDigits 10 d.significand

/-- Number of digits before the point; not positive where zeros follow the point. -/
def Scaled.pointAt (d : Scaled) : Int := d.digits.length + d.exponent

/-- Positional text with at least one digit on each side of the point. -/
def Scaled.positional (d : Scaled) : List Char :=
  let ds := d.digits
  let before := d.pointAt
  if before ≤ 0 then '0' :: '.' :: (List.replicate (-before).toNat '0' ++ ds)
  else if before.toNat < ds.length then ds.take before.toNat ++ '.' :: ds.drop before.toNat
  else ds ++ List.replicate (before.toNat - ds.length) '0' ++ ['.', '0']

/-- Text with an exponent: one digit before the point, none after it where there are no more. -/
def Scaled.scientific (d : Scaled) : List Char :=
  let fraction := d.digits.drop 1
  d.digits.take 1 ++ (if fraction.isEmpty then [] else '.' :: fraction) ++
    'e' :: (toString (d.pointAt - 1)).toList

end ComputeKernels.Decimal

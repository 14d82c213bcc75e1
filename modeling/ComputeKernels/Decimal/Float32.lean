import ComputeKernels.Decimal.Shortest

/-!
# Text of 32-bit floating-point numbers

A number is given by its bits.  It is written with the fewest digits that read back as the same
number: positionally, with at least one digit after the point, or with an exponent where it is very
large or very small.
-/

namespace ComputeKernels.Decimal.Float32

/-- Bits of a magnitude, without the sign. -/
def magnitude (bits : UInt32) : UInt32 := bits &&& 0x7fffffff

/-- Whether the sign bit is set. -/
def isNegative (bits : UInt32) : Bool := bits != magnitude bits

/-- Magnitude of infinity; a larger one is not a number. -/
def infinity : UInt32 := 0x7f800000

/-- Least magnitude that is written with an exponent: the number nearest to `10 ^ 16`. -/
def leastLarge : UInt32 := 0x5a0e1bca

/-- Least nonzero magnitude that is written positionally: the number nearest to `10 ^ -4`. -/
def leastMedium : UInt32 := 0x38d1b717

/-- Value of a finite magnitude.  The distance to the number below is halved at the powers of two,
where the spacing changes. -/
def binary (magnitude : UInt32) : Binary :=
  let fraction : Nat := magnitude.toNat % 0x800000
  let biased : Nat := magnitude.toNat / 0x800000
  if biased = 0 then ⟨fraction, -149, 2⟩
  else ⟨0x800000 + fraction, (biased : Int) - 150, if fraction = 0 then 1 else 2⟩

/-- Grids that are searched: from `10 ^ 39`, above every number, down to `10 ^ -53`, on which even
the least number has nine digits. -/
def shortest (magnitude : UInt32) : Scaled :=
  ((binary magnitude).shortest 93 39).trimmed 40

/-- Text of a magnitude. -/
def magnitudeText (magnitude : UInt32) : List Char :=
  if magnitude = 0 then ['0', '.', '0']
  else if magnitude = infinity then ['i', 'n', 'f']
  else if magnitude < leastMedium ∨ leastLarge ≤ magnitude then (shortest magnitude).scientific
  else (shortest magnitude).positional

/-- Text of the number with some bits; values that are not numbers have no sign. -/
def text (bits : UInt32) : String :=
  if infinity < magnitude bits then "NaN"
  else String.ofList
    ((if isNegative bits then ['-'] else []) ++ magnitudeText (magnitude bits))

end ComputeKernels.Decimal.Float32

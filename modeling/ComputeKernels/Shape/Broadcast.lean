import ComputeKernels.Shape.Index

/-!
# Broadcasting

Shapes are compared right-aligned.  An axis of extent one stretches to any extent, and a missing
outer axis counts as an axis of extent one.

* `join?` is the smallest shape that two shapes both stretch to.
* `stretchedAxes` are the output axes along which an operand repeats itself.
* `sourceOffset?` is the element of an operand that an output coordinate reads.
-/

namespace ComputeKernels.Shape

/-! ## The common shape of two operands -/

/-- Common extent of two aligned axes. -/
def joinExtent? (a b : Nat) : Option Nat :=
  if a = b then some a
  else if a = 1 then some b
  else if b = 1 then some a
  else none

/-- Common shape of two shapes given innermost axis first. -/
def joinReversed? : Shape → Shape → Option Shape
  | [], bs => some bs
  | as, [] => some as
  | a :: as, b :: bs => do
    let extent ← joinExtent? a b
    let outer ← joinReversed? as bs
    return extent :: outer

/-- Shape that two operands broadcast to, if they broadcast. -/
def join? (a b : Shape) : Option Shape :=
  (joinReversed? a.reverse b.reverse).map List.reverse

/-! ## Repeated axes -/

/-- Extent of an operand at an output axis, when both shapes are right-aligned. -/
def alignedExtent? (input output : Shape) (axis : Nat) : Option Nat :=
  if output.length ≤ axis + input.length then input[axis + input.length - output.length]? else none

/-- Whether an operand of extent one repeats along an output axis that is longer. -/
def stretches (input output : Shape) (axis : Nat) : Bool :=
  alignedExtent? input output axis == some 1 && decide (1 < output.getD axis 0)

/-- Output axes along which an operand repeats, in increasing order. -/
def stretchedAxes (input output : Shape) : List Nat :=
  (List.range output.length).filter (stretches input output)

/-! ## Reading through a broadcast -/

/-- Flat index of the operand element that an output coordinate reads.  There is none where the
coordinate lacks an axis that is needed. -/
def sourceOffset? (input output : Shape) (coords : List Nat) : Option Nat :=
  if input.isEmpty then some 0
  else
    let repeated := stretchedAxes input output
    if repeated.all (· < coords.length) && decide (input.length ≤ coords.length) then
      let pinned := coords.mapIdx fun axis c => if axis ∈ repeated then 0 else c
      some (input.offsetOf (pinned.drop (pinned.length - input.length)))
    else none

end ComputeKernels.Shape

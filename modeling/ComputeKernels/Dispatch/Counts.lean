import ComputeKernels.Dispatch.Partition
import ComputeKernels.Dispatch.Root

/-!
# Workgroup counts

The number of workgroups that cover an output, and how a count that is too large for one grid
dimension is spread over several.  Only a grid that enumerates the whole output on its first
dimension can be spread: its programs recover the flat position of an invocation and stop at the
number of elements, so surplus invocations do no harm.

Current gaps:

- The product of the extents of a dimension is a number without a bound unless the caller says what a
  machine number keeps of it.  Runs do so; what is said of the counts themselves is said of the product.
-/

namespace ComputeKernels.AxisLayout

/-- Largest count of one dimension. -/
def maxCount : Nat := UInt32.size - 1

/-- Product of the output extents of some axes; an axis that the output lacks has extent one. -/
def coverage (output : Shape) (axes : List Nat) : Nat :=
  axes.foldr (fun axis extent => output.getD axis 1 * extent) 1

/-- Workgroups needed along one dimension, at the given invocations per group and elements per
invocation. -/
def groupCount (extent workgroup perThread : Nat) : Nat :=
  let perGroup := max workgroup 1 * max perThread 1
  min ((extent + perGroup - 1) / perGroup) maxCount

/-- Workgroups needed along every dimension, where `keep` is what is kept of a product of extents. -/
def groupCounts (l : AxisLayout) (output : Shape) (workgroup perThread : Grid)
    (keep : Nat → Nat := id) : Grid where
  x := groupCount (keep (coverage output l.x)) workgroup.x perThread.x
  y := groupCount (keep (coverage output l.y)) workgroup.y perThread.y
  z := groupCount (keep (coverage output l.z)) workgroup.z perThread.z

/-- Brings counts under a limit per dimension.  A count on the first dimension alone is spread over
the smallest square, then over the smallest cube, that holds it. -/
def foldCounts (l : AxisLayout) (counts : Grid) (limit : Nat) : Except KernelError Grid :=
  if counts.fits limit then .ok counts
  else if !l.usesOnlyX then .error (.gridTooLarge counts limit)
  else
    let square := Root.ceilRoot counts.volume 2
    let cube := Root.ceilRoot counts.volume 3
    if square ≤ limit then .ok ⟨square, square, 1⟩
    else if cube ≤ limit then .ok ⟨cube, cube, cube⟩
    else .error (.gridTooLarge counts limit)

end ComputeKernels.AxisLayout

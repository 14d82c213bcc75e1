import ComputeKernels.Error

/-!
# Layouts as partitions

A layout can enumerate an output only if every axis of the output is assigned to exactly one grid
dimension.  `AxisLayout.validate` marks the assigned axes one after the other in a table with one flag
per addressable axis.
-/

namespace ComputeKernels.AxisLayout

/-- Marks the given axes in a table of flags; nothing at the first that is repeated or out of range.
Without a result at all if an access lies outside the table. -/
def markAxes (rank : Nat) (table : List Bool) : List Nat → Option (Option (List Bool))
  | [] => some (some table)
  | axis :: rest =>
    if rank ≤ axis then some none
    else
      match table[axis]? with
      | none => none
      | some true => some none
      | some false => markAxes rank (table.set axis true) rest

/-- The check of a layout with a table, without a result if an access lies outside the table. -/
def validateInTable? (l : AxisLayout) (rank : Nat) : Option (Except KernelError Unit) :=
  if Shape.maxRank < rank then some (.error (.unsupportedRank rank .dispatchLayout))
  else
    (markAxes rank (List.replicate Shape.maxRank false) l.axes).map fun
      | none => .error (.unsupportedLayout (.notPartition l rank))
      | some table =>
        if (table.take rank).any (!·) then .error (.unsupportedLayout (.unassignedAxes l rank))
        else .ok ()

/-- Accepts exactly the partitions of the axes of an output of addressable rank.  No access lies outside
the table, so the check always has an answer. -/
def validate (l : AxisLayout) (rank : Nat) : Except KernelError Unit :=
  (l.validateInTable? rank).getD (.error (.unsupportedLayout (.notPartition l rank)))

end ComputeKernels.AxisLayout

/-!
# Binding slots

A program with `n` operands binds `n + 2` resources: the output in slot zero, the operands in slots
one to `n`, and the uniform block in the last.
-/

namespace ComputeKernels.Pipeline

/-- What a slot holds. -/
inductive Role
  | output
  | operand
  | uniforms
deriving DecidableEq

/-- How a shader may use the buffer in a slot. -/
inductive BufferBinding
  | storage
  | readOnlyStorage
  | uniform
deriving DecidableEq

/-- Use that a role makes of its buffer. -/
def Role.buffer : Role → BufferBinding
  | output => .storage
  | operand => .readOnlyStorage
  | uniforms => .uniform

/-- Set of shader stages that see a slot, as bits. -/
def computeStage : Nat := 4

/-- Description of one slot. -/
structure LayoutEntry where
  slot : Nat
  visibility : Nat
  buffer : BufferBinding
  hasDynamicOffset : Bool
  /-- Least size of the bound buffer, if it is fixed. -/
  minSize : Option Nat
  /-- Number of array elements, if the slot holds an array. -/
  count : Option Nat
deriving DecidableEq

/-- Slot of a role: one whole buffer, seen by the compute stage. -/
def Role.entry (r : Role) (slot : Nat) : LayoutEntry where
  slot := slot
  visibility := computeStage
  buffer := r.buffer
  hasDynamicOffset := false
  minSize := none
  count := none

/-- Roles by slot for a number of operands. -/
def roles (operands : Nat) : List Role :=
  .output :: List.replicate operands .operand ++ [.uniforms]

/-- Descriptions of all slots for a number of operands. -/
def layoutEntries (operands : Nat) : List LayoutEntry :=
  (roles operands).mapIdx fun slot r => r.entry slot

/-! ## Groups -/

/-- A slot and what is bound to it. -/
structure GroupEntry (α : Type) where
  slot : Nat
  resource : α
deriving DecidableEq

/-- What a group binds, from slot zero on; a slot without an entry is passed over. -/
def bySlot {α : Type} (group : List (GroupEntry α)) : List α :=
  (List.range group.length).filterMap fun slot => (group.find? (·.slot == slot)).map (·.resource)

end ComputeKernels.Pipeline

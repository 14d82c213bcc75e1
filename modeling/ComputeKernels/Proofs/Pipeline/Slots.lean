import ComputeKernels.Backend.Dispatch
import ComputeKernels.Proofs.Success

/-!
# Slots of a program

Three lists of slots are made for a program with some number of operands: the descriptions of a
pipeline layout, the declarations of its module, and the group of each of its passes.  All of them run
through the same numbers in the same order.

Main results:

- Theorem `layoutEntries_eq`: the descriptions for a number of operands.
- Theorem `Shader.declaredSlots_eq`: the declarations of a module agree with the descriptions.
- Theorem `Backend.bySlot_groupOf`: what a group binds to its slots.
-/

namespace ComputeKernels

namespace Pipeline

variable {α β γ : Type}

/-! ## Numbers -/

private theorem map_mapIdx {f : Nat → α → β} {g : β → γ} (xs : List α) :
    (xs.mapIdx f).map g = xs.mapIdx fun i x => g (f i x) := by
  apply List.ext_getElem <;> simp

private theorem mapIdx_element {f : α → β} (xs : List α) :
    xs.mapIdx (fun _ x => f x) = xs.map f := by
  apply List.ext_getElem <;> simp

private theorem mapIdx_position {f : Nat → β} (xs : List α) :
    xs.mapIdx (fun i _ => f i) = (List.range xs.length).map f := by
  apply List.ext_getElem <;> simp

/-- Slot zero, a slot after each position of a list, and one more. -/
theorem slots_eq_range (xs : List α) :
    0 :: xs.mapIdx (fun i _ => i + 1) ++ [xs.length + 1] = List.range (xs.length + 2) := by
  rw [mapIdx_position, List.range_succ, List.range_succ_eq_map]

/-! ## Descriptions -/

/-- The output in slot zero, the operands in the slots after it, and the uniform block in the last. -/
theorem layoutEntries_eq (n : Nat) :
    layoutEntries n = Role.output.entry 0 ::
      (List.range n).map (fun i => Role.operand.entry (i + 1)) ++ [Role.uniforms.entry (n + 1)] := by
  rw [layoutEntries, roles, List.mapIdx_append, List.mapIdx_cons]
  have hoperands : (List.replicate n Role.operand).mapIdx (fun i r => r.entry (i + 1)) =
      (List.range n).map fun i => Role.operand.entry (i + 1) := by
    apply List.ext_getElem <;> simp
  simp [hoperands]

/-- The slots of a layout are numbered from zero without a gap. -/
theorem slots_layoutEntries (n : Nat) : (layoutEntries n).map (·.slot) = List.range (n + 2) := by
  have hslots := slots_eq_range (List.range n)
  rw [mapIdx_position, List.length_range] at hslots
  rw [← hslots, layoutEntries_eq]
  simp [Role.entry, Function.comp_def]

/-! ## Groups -/

private theorem filterMap_getElem? (xs : List α) :
    (List.range xs.length).filterMap (xs[·]?) = xs := by
  induction xs with
  | nil => rfl
  | cons x xs ih =>
    rw [List.length_cons, List.range_succ_eq_map, List.filterMap_cons, List.filterMap_map]
    simpa [Function.comp_def] using ih

/-- An entry is found by its slot if the entries are numbered. -/
theorem find?_slot {group : List (GroupEntry α)}
    (h : group.map (·.slot) = List.range group.length) {i : Nat} (hi : i < group.length) :
    group.find? (·.slot == i) = some group[i] := by
  have hslot : ∀ j, (hj : j < group.length) → group[j].slot = j := by
    intro j hj
    have hget := congrArg (·[j]?) h
    simpa [hj] using hget
  rw [List.find?_eq_some_iff_getElem]
  refine ⟨by simp [hslot i hi], i, hi, rfl, fun j hj => ?_⟩
  simpa [hslot j (Nat.lt_trans hj hi)] using Nat.ne_of_lt hj

/-- A group whose entries are numbered binds them in order. -/
theorem bySlot_eq_map {group : List (GroupEntry α)}
    (h : group.map (·.slot) = List.range group.length) : bySlot group = group.map (·.resource) := by
  have hfound : ∀ i ∈ List.range group.length,
      (group.find? (·.slot == i)).map (·.resource) = (group.map (·.resource))[i]? := by
    intro i hi
    have hi' : i < group.length := List.mem_range.mp hi
    simp [find?_slot h hi', hi']
  have hlength : group.length = (group.map (·.resource)).length := by simp
  rw [bySlot, List.filterMap_congr hfound, hlength, filterMap_getElem?]

end Pipeline

namespace Shader

open Pipeline

/-! ## Declarations -/

/-- The use of a buffer that an access amounts to. -/
def Access.buffer : Access → BufferBinding
  | read => .readOnlyStorage
  | readWrite => .storage

/-- Slots that a module declares, with the use of the buffers in them. -/
def Module.declaredSlots (m : Module) : List (Nat × BufferBinding) :=
  m.storage.map (fun s => (s.binding, s.access.buffer)) ++ [(m.uniformBinding, .uniform)]

private theorem exists_moduleWith {k : Kernel} {m : Module} (h : moduleOf k = .ok m) :
    ∃ code, m = moduleWith k code := by
  rcases Except.check_bind_eq_ok_iff.mp h with ⟨-, hbody⟩
  rcases Except.bind_eq_ok_iff.mp hbody with ⟨code, -, hm⟩
  exact ⟨code, (Except.ok.inj hm).symm⟩

section Declared

variable {k : Kernel} {m : Module}

/-- A module declares its uniform block after as many slots as there are operands and an output. -/
theorem uniformBinding_eq (h : moduleOf k = .ok m) : m.uniformBinding = k.inputs.length + 1 := by
  rcases exists_moduleWith h with ⟨code, rfl⟩
  rfl

/-- The storage arrays of a module are numbered from zero. -/
theorem bindings_storage (h : moduleOf k = .ok m) :
    m.storage.map (·.binding) = List.range (k.inputs.length + 1) := by
  rcases exists_moduleWith h with ⟨code, rfl⟩
  rw [List.range_succ_eq_map, ← mapIdx_position k.inputs]
  simp [moduleWith, storageBindings, map_mapIdx]

/-- The storage arrays of a module have the names of the output and of the operands in order. -/
theorem names_storage (h : moduleOf k = .ok m) :
    m.storage.map (·.name) = Kernel.outputName :: k.inputs.map (·.name) := by
  rcases exists_moduleWith h with ⟨code, rfl⟩
  simp [moduleWith, storageBindings, map_mapIdx, mapIdx_element]

/-- The declarations of a module agree with the descriptions for its number of operands. -/
theorem declaredSlots_eq (h : moduleOf k = .ok m) :
    m.declaredSlots = (layoutEntries k.inputs.length).map fun e => (e.slot, e.buffer) := by
  rcases exists_moduleWith h with ⟨code, rfl⟩
  have hoperands : (k.inputs.mapIdx fun i _ => (i + 1, BufferBinding.readOnlyStorage)) =
      (List.range k.inputs.length).map fun i => (i + 1, .readOnlyStorage) :=
    mapIdx_position k.inputs
  rw [layoutEntries_eq]
  simp [Module.declaredSlots, moduleWith, storageBindings, map_mapIdx, hoperands, Access.buffer,
    Role.entry, Role.buffer, Function.comp_def]

end Declared

end Shader

namespace Backend

open Buffer (Allocation)

/-! ## Groups of passes -/

variable {k : Kernel} {operands : List Allocation}

/-- So are the slots of a group. -/
theorem slots_groupOf (h : operands.length = k.inputs.length) (uniform output : Allocation) :
    (groupOf k operands uniform output).map (·.slot) = List.range (k.inputs.length + 2) := by
  rw [← Pipeline.slots_eq_range k.inputs, Pipeline.mapIdx_position k.inputs, ← h,
    ← Pipeline.mapIdx_position operands]
  simp [groupOf, h, Pipeline.map_mapIdx]

/-- A group binds the output, the operands in order and the uniform block. -/
theorem bySlot_groupOf (h : operands.length = k.inputs.length) (uniform output : Allocation) :
    Pipeline.bySlot (groupOf k operands uniform output) =
      (output :: operands ++ [uniform]).map Allocation.buffer := by
  have hlength : (groupOf k operands uniform output).length = k.inputs.length + 2 := by
    simp [groupOf, h]
  rw [Pipeline.bySlot_eq_map (hlength ▸ slots_groupOf h uniform output)]
  simp [groupOf, Pipeline.map_mapIdx, Pipeline.mapIdx_element]

end Backend

end ComputeKernels

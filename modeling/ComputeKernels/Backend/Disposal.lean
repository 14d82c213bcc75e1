import ComputeKernels.Backend.Basic

/-!
# Disposal of tensors

A tensor is removed with its last reference, and its buffer goes back to the pool.  While the open
encoder still refers to the tensor, its removal is put off until the encoder is submitted.  With a
complex tensor goes its one reference to each of its parts.

Main results:

- Theorem `size_dropOne`: a tensor whose parts must be dropped next is gone from the registry, which
  is why dropping references comes to an end.
-/

namespace ComputeKernels.Backend

open ComputeKernels.Backend.Action

/-! ## One tensor -/

/-- Removes a tensor and gives its buffer back; answers with the parts that it referred to. -/
def removeOne (id : TensorId) : Action (List TensorId) := fun b =>
  match b.tensors.remove id with
  | (none, _) => (.ok [], b)
  | (some r, tensors) =>
    match r.resource with
    | none => (.ok r.partList, { b with tensors })
    | some x =>
      match b.pool.release x with
      | .ok pool => (.ok r.partList, { b with tensors, pool })
      | .error e => (.error e, { b with tensors })

/-- What became of a tensor that lost a reference. -/
inductive Fate
  /-- It was not live. -/
  | absent
  /-- It stays for now. -/
  | kept
  /-- It is gone, and its parts lose a reference each. -/
  | removed (parts : List TensorId)
deriving DecidableEq

/-- Parts that lose a reference. -/
def Fate.parts : Fate → List TensorId
  | absent => []
  | kept => []
  | removed parts => parts

/-- Drops one reference to a tensor.  A forced removal ignores other references, but not the open
encoder; a tensor that waits for removal is left alone. -/
def dropOne (id : TensorId) (force : Bool) : Action Fate := fun b =>
  if !b.tensors.contains id then (.ok .absent, b)
  else if b.batch.defers id then (.ok .kept, b)
  else
    match b.tensors.release id with
    | .error e => (.error e, b)
    | .ok (remaining, tensors) =>
      if 0 < remaining && !force then (.ok .kept, { b with tensors })
      else if b.batch.touches id then
        (.ok .kept, { b with tensors, batch := b.batch.defer id })
      else
        match removeOne id { b with tensors } with
        | (.ok parts, b') => (.ok (.removed parts), b')
        | (.error e, b') => (.error e, b')

/-! ## Sizes of the registry -/

private theorem size_removeOne {id : TensorId} {b b' : Backend} {parts : List TensorId}
    (h : removeOne id b = (.ok parts, b')) :
    parts.length + 3 * b'.tensors.size ≤ 3 * b.tensors.size := by
  unfold removeOne at h
  have hlt := @Tensor.Registry.size_remove_lt b.tensors id
  generalize b.tensors.remove id = removed at h hlt
  have hparts := Tensor.Record.length_partList
  grind

/-- A tensor whose parts must be dropped next is gone from the registry. -/
theorem size_dropOne {id : TensorId} {force : Bool} {b b' : Backend} {fate : Fate}
    (h : dropOne id force b = (.ok fate, b')) :
    fate.parts.length + 3 * b'.tensors.size ≤ 3 * b.tensors.size := by
  unfold dropOne at h
  have hsize := @Tensor.Registry.size_release b.tensors
  have hremove := @size_removeOne id
  grind [Fate.parts]

/-! ## Several tensors -/

/-- Drops one reference to each of several tensors, and to the parts of those that go. -/
def dropEach : List TensorId → Backend → Except KernelError Unit × Backend
  | [], b => (.ok (), b)
  | id :: rest, b =>
    match _h : dropOne id false b with
    | (.ok fate, b') => dropEach (fate.parts ++ rest) b'
    | (.error e, b') => (.error e, b')
termination_by ids b => ids.length + 3 * b.tensors.size
decreasing_by
  have := size_dropOne _h
  simp only [List.length_append, List.length_cons]
  omega

/-- Drops one reference to a tensor; answers whether the tensor is gone. -/
def drop (id : TensorId) (force : Bool) : Action Bool := do
  live
  match ← dropOne id force with
  | .absent => return true
  | .kept => return false
  | .removed parts =>
    dropEach parts
    return true

/-- Removes a tensor whatever refers to it. -/
def remove (id : TensorId) : Action Unit := do
  dropEach (← removeOne id)

end ComputeKernels.Backend

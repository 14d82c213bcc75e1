import ComputeKernels.Buffer.Pool
import ComputeKernels.Tensor.Values

/-!
# Tensor registry

Records of all live tensors by number.  Numbers are never used again.  A record counts the
references to its tensor and may hold values on the host, a buffer on the device, or, for a complex
tensor, the numbers of its two parts.

Current gaps:

- Numbers of tensors and references are numbers without a bound.
-/

namespace ComputeKernels.Tensor

/-- What is known of one tensor. -/
structure Record where
  element : ElementType
  shape : Shape
  values : Option Values := none
  resource : Option Buffer.Allocation := none
  references : Nat := 1
  /-- Real and imaginary part of a complex tensor. -/
  parts : Option (TensorId × TensorId) := none
deriving DecidableEq

/-- Number of elements. -/
def Record.size (r : Record) : Nat := Shape.size r.shape

/-- Number of elements as the host computes it. -/
def Record.count (r : Record) : Nat := Shape.count r.shape

/-- Parts of a tensor, the real one before the imaginary one. -/
def Record.partList (r : Record) : List TensorId :=
  match r.parts with
  | some (real, imag) => [real, imag]
  | none => []

/-- A tensor has two parts at most. -/
theorem Record.length_partList (r : Record) : r.partList.length ≤ 2 := by
  unfold partList
  split <;> simp

/-- A tensor as its owner holds it. -/
structure Handle where
  id : TensorId
  shape : Shape
  element : ElementType
deriving DecidableEq

/-- Records by number. -/
structure Registry where
  records : Table TensorId Record := .empty
  next : Nat := 0

namespace Registry

/-- Number of live tensors. -/
def size (r : Registry) : Nat := r.records.size

/-- Adds a record under a new number. -/
def insert (r : Registry) (record : Record) : TensorId × Registry :=
  (⟨r.next⟩, ⟨r.records.set ⟨r.next⟩ record, r.next + 1⟩)

/-- Whether a tensor is live. -/
def contains (r : Registry) (id : TensorId) : Bool := r.records.contains id

/-- Record of a live tensor. -/
def get (r : Registry) (id : TensorId) : Except KernelError Record :=
  match r.records.get? id with
  | some record => .ok record
  | none => .error (.unknownTensor id)

/-- Puts a record in place of that of a live tensor. -/
def put (r : Registry) (id : TensorId) (record : Record) : Registry :=
  { r with records := r.records.set id record }

/-- Changes the record of a live tensor. -/
def modify (r : Registry) (id : TensorId) (f : Record → Record) : Except KernelError Registry := do
  return r.put id (f (← r.get id))

/-- Removes a tensor. -/
def remove (r : Registry) (id : TensorId) : Option Record × Registry :=
  (r.records.get? id, { r with records := r.records.erase id })

/-- Counts one more reference; answers with the new count. -/
def retain (r : Registry) (id : TensorId) : Except KernelError (Nat × Registry) := do
  let record ← r.get id
  let count := record.references + 1
  return (count, r.put id { record with references := count })

/-- Counts one reference less, down to none; answers with the new count. -/
def release (r : Registry) (id : TensorId) : Except KernelError (Nat × Registry) := do
  let record ← r.get id
  let count := record.references - 1
  return (count, r.put id { record with references := count })

/-- Device buffers of all live tensors. -/
def resources (r : Registry) : List Buffer.Allocation :=
  r.records.entries.filterMap fun (_, record) => record.resource

/-- Removes all tensors; answers with their device buffers. -/
def drain (r : Registry) : List Buffer.Allocation × Registry :=
  (r.resources, { r with records := .empty })

/-! ## Number of tensors -/

/-- Giving up a reference removes no tensor. -/
theorem size_release {r r' : Registry} {id : TensorId} {count : Nat}
    (h : r.release id = .ok (count, r')) : r'.size = r.size := by
  unfold release get at h
  split at h
  · next record hrecord =>
    have hin : r.records.contains id = true := by simp [Table.contains, hrecord]
    simp only [bind, Except.bind, pure, Except.pure, Except.ok.injEq, Prod.mk.injEq] at h
    rw [← h.2]
    exact Table.size_set_of_contains hin _
  · simp [bind, Except.bind] at h

/-- Removing a live tensor makes the registry smaller. -/
theorem size_remove_lt {r : Registry} {id : TensorId} {record : Record}
    (h : (r.remove id).1 = some record) : (r.remove id).2.size < r.size :=
  Table.size_erase_lt (congrArg Option.isSome h)

end Registry

end ComputeKernels.Tensor

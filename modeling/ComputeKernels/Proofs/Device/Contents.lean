import ComputeKernels.Device.Basic

/-!
# Contents of device buffers

Every change of the memory has one buffer that it is aimed at, and leaves the contents of the others
alone.  No change but creation and destruction alters the key of a buffer, so that a write fits
whenever it fits the key under which the buffer was created.

Main results:

- Theorem `Memory.contents_write_of_ne`: a write leaves other buffers alone.
- Theorem `Memory.isPrefix_contents_write`: bytes that fit stand at the start of the buffer afterwards.
- Theorem `Memory.contents_foldl_execute`: submitted work leaves alone what it is not aimed at.
-/

namespace ComputeKernels.Device

open Buffer (BufferId PoolKey)

/-- The buffer that a piece of work writes. -/
def Work.target? : Work → Option BufferId
  | .compute pass => pass.bindings.head?
  | .copy _ target _ => some target

namespace Memory

variable {m : Memory} {buffer other : BufferId} {key : PoolKey}

/-- Key under which a buffer was created. -/
def key? (m : Memory) (buffer : BufferId) : Option PoolKey := (m.get? buffer).map Cell.key

/-! ## Creation -/

/-- Setting one buffer keeps the contents of the others. -/
theorem contents_set_of_ne (h : other ≠ buffer) (cell : Cell) :
    contents (m.set buffer cell) other = contents m other := by
  simp only [contents, Table.get?_set, if_neg h]

/-- Setting one buffer keeps the keys of the others. -/
theorem key?_set_of_ne (h : other ≠ buffer) (cell : Cell) :
    key? (m.set buffer cell) other = key? m other := by
  simp only [key?, Table.get?_set, if_neg h]

/-- A buffer that is set has the key that it was set with. -/
theorem key?_set_self (cell : Cell) : key? (m.set buffer cell) buffer = some cell.key := by
  simp [key?, Table.get?_set]

/-! ## Changes -/

private theorem key?_change (f : Cell → Contents) :
    key? (m.change buffer f) other = key? m other := by
  unfold change
  cases hcell : m.get? buffer with
  | none => rfl
  | some cell =>
    by_cases h : other = buffer
    · subst h
      rw [key?_set_self]
      simp [key?, hcell]
    · exact key?_set_of_ne h _

private theorem contents_change_of_ne (h : other ≠ buffer) (f : Cell → Contents) :
    contents (m.change buffer f) other = contents m other := by
  unfold change
  split
  · exact contents_set_of_ne h _
  · rfl

@[simp]
theorem key?_write (bytes : List UInt8) : key? (m.write buffer bytes) other = key? m other :=
  key?_change _

/-- A write leaves other buffers alone. -/
theorem contents_write_of_ne (h : other ≠ buffer) (bytes : List UInt8) :
    contents (m.write buffer bytes) other = contents m other :=
  contents_change_of_ne h _

/-- Bytes that fit stand at the start of the buffer after they are written. -/
theorem isPrefix_contents_write {bytes : List UInt8} (hkey : m.key? buffer = some key)
    (hfit : bytes.length ≤ key.size) : bytes <+: contents (m.write buffer bytes) buffer := by
  rcases Option.map_eq_some_iff.mp hkey with ⟨cell, hcell, rfl⟩
  have hcontents : contents (m.write buffer bytes) buffer = cell.contents.overwrite bytes := by
    simp [contents, write, change, hcell, Table.get?_set, List.take_of_length_le hfit]
  rw [hcontents]
  exact List.prefix_append _ _

/-! ## Work -/

@[simp]
theorem key?_execute (w : Work) : key? (m.execute w) other = key? m other := by
  cases w with
  | compute pass =>
    simp only [execute]
    split
    · exact key?_write _
    · rfl
  | copy source target size => exact key?_write _

/-- Work leaves alone what it is not aimed at. -/
theorem contents_execute_of_ne {w : Work} (h : w.target? ≠ some other) :
    contents (m.execute w) other = contents m other := by
  cases w with
  | compute pass =>
    simp only [execute]
    split
    · next output rest hbindings =>
      refine contents_write_of_ne (fun heq => h ?_) _
      simp [Work.target?, hbindings, heq]
    · rfl
  | copy source target size =>
    exact contents_write_of_ne (fun heq => h (congrArg some heq.symm)) _

@[simp]
theorem key?_foldl_execute (work : List Work) :
    key? (work.foldl execute m) other = key? m other := by
  induction work generalizing m with
  | nil => rfl
  | cons w work ih => rw [List.foldl_cons, ih, key?_execute]

/-- Submitted work leaves alone what none of it is aimed at. -/
theorem contents_foldl_execute {work : List Work} (h : ∀ w ∈ work, w.target? ≠ some other) :
    contents (work.foldl execute m) other = contents m other := by
  induction work generalizing m with
  | nil => rfl
  | cons w work ih =>
    rcases List.forall_mem_cons.mp h with ⟨hfirst, hrest⟩
    rw [List.foldl_cons, ih hrest, contents_execute_of_ne hfirst]

end Memory

/-! ## New buffers -/

variable {d d' : Device} {buffer : BufferId} {key : PoolKey} {e : KernelError}

/-- A new buffer has the next number, and is empty. -/
theorem allocate_eq_ok (h : allocator.allocate key d = (.ok buffer, d')) :
    buffer = d.next ∧ d'.next = d.next + 1 ∧ d'.memory = d.memory.set d.next { key } := by
  simp only [allocator, createBuffer] at h
  split at h
  · cases h
  · cases h
    exact ⟨rfl, rfl, rfl⟩

/-- A refused buffer is too large, and leaves the device as it was. -/
theorem allocate_eq_error (h : allocator.allocate key d = (.error e, d')) :
    e = .bufferTooLarge key.size d.limits.bufferSize ∧ d' = d := by
  simp only [allocator, createBuffer] at h
  split at h
  · cases h
    exact ⟨rfl, rfl⟩
  · cases h

end ComputeKernels.Device

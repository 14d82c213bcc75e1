import ComputeKernels.Proofs.Table.Entries
import ComputeKernels.Tensor.Registry

/-!
# Buffers held by a registry

Which tensor holds which buffer, and what the updates of the registry do to the list of all buffers
that tensors hold.

Main results:

- Theorem `Sound.insert`, `Sound.put` and `Sound.remove`: updates keep a registry sound.
- Theorems `resources_insert`, `resources_put` and `resources_remove`: the buffers after each update.
- Theorem `Sound.resource_inj`: tensors that share a buffer are one tensor.
-/

namespace ComputeKernels.Tensor.Registry

open Buffer (Allocation)

variable {r : Registry} {id id' : TensorId} {record old : Record} {x y : Allocation}

/-! ## Look-ups -/

/-- A tensor is found if there is a record under its number. -/
theorem get_eq_ok_iff : r.get id = .ok record ↔ r.records.get? id = some record := by
  unfold get
  split
  · next found hfound => simp [hfound]
  · next hnone => simp [hnone]

/-- There is no record of a tensor that is not found. -/
theorem get?_eq_none_of_get {e : KernelError} (h : r.get id = .error e) :
    r.records.get? id = none := by
  cases hfound : r.records.get? id with
  | none => rfl
  | some record =>
    rw [get_eq_ok_iff.mpr hfound] at h
    cases h

/-- A tensor that is not found is not live. -/
theorem contains_eq_false_of_get {e : KernelError} (h : r.get id = .error e) :
    r.contains id = false := by
  simp [contains, Table.contains, get?_eq_none_of_get h]

/-- A tensor is live exactly if it is found. -/
theorem contains_iff_get : r.contains id = true ↔ ∃ record, r.get id = .ok record := by
  simp only [contains, Table.contains, Option.isSome_iff_exists, get_eq_ok_iff]

/-- A reference to a live tensor can be dropped. -/
theorem release_of_get (h : r.get id = .ok record) :
    r.release id = .ok (record.references - 1,
      r.put id { record with references := record.references - 1 }) := by
  rw [release, h]
  rfl

/-- Buffer of a live tensor. -/
def resource? (r : Registry) (id : TensorId) : Option Allocation :=
  (r.records.get? id).bind Record.resource

/-- A tensor has a buffer if its record has it. -/
theorem resource?_eq_some_iff :
    r.resource? id = some x ↔ ∃ record, r.get id = .ok record ∧ record.resource = some x := by
  simp only [resource?, Option.bind_eq_some_iff, get_eq_ok_iff]

/-- A new tensor is found under the next number, and the others as before. -/
theorem get_insert : (r.insert record).2.get id =
    if id = ⟨r.next⟩ then .ok record else r.get id := by
  simp only [get, insert, Table.get?_set]
  by_cases h : id = ⟨r.next⟩
  · rw [if_pos h, if_pos h]
  · rw [if_neg h, if_neg h]

/-- A record that is put in place is found, and the others as before. -/
theorem get_put : (r.put id record).get id' = if id' = id then .ok record else r.get id' := by
  simp only [get, put, Table.get?_set]
  by_cases h : id' = id
  · rw [if_pos h, if_pos h]
  · rw [if_neg h, if_neg h]

/-- The record that was put in place is found. -/
theorem get_put_self : (r.put id record).get id = .ok record := by rw [get_put, if_pos rfl]

/-- The others are found as before. -/
theorem get_put_of_ne (h : id' ≠ id) : (r.put id record).get id' = r.get id' := by
  rw [get_put, if_neg h]

/-- A tensor that is removed is found no more, and the others are as before. -/
theorem get_remove : (r.remove id).2.get id' =
    if id' = id then .error (.unknownTensor id') else r.get id' := by
  simp only [get, remove, Table.get?_erase]
  by_cases h : id' = id
  · rw [if_pos h, if_pos h]
  · rw [if_neg h, if_neg h]

/-- A tensor that was removed is unknown. -/
theorem get_remove_self : (r.remove id).2.get id = .error (.unknownTensor id) := by
  rw [get_remove, if_pos rfl]

/-- The others are still found. -/
theorem get_remove_of_ne (h : id' ≠ id) : (r.remove id).2.get id' = r.get id' := by
  rw [get_remove, if_neg h]

/-- A new tensor has the buffer of its record. -/
theorem resource?_insert : (r.insert record).2.resource? id =
    if id = ⟨r.next⟩ then record.resource else r.resource? id := by
  simp only [resource?, insert, Table.get?_set]
  by_cases h : id = ⟨r.next⟩
  · rw [if_pos h, if_pos h, Option.bind_some]
  · rw [if_neg h, if_neg h]

/-- A record that is put in place brings its buffer. -/
theorem resource?_put : (r.put id record).resource? id' =
    if id' = id then record.resource else r.resource? id' := by
  simp only [resource?, put, Table.get?_set]
  by_cases h : id' = id
  · rw [if_pos h, if_pos h, Option.bind_some]
  · rw [if_neg h, if_neg h]

/-- A tensor that is removed has no buffer. -/
theorem resource?_remove : (r.remove id).2.resource? id' =
    if id' = id then none else r.resource? id' := by
  simp only [resource?, remove, Table.get?_erase]
  by_cases h : id' = id
  · rw [if_pos h, if_pos h, Option.bind_none]
  · rw [if_neg h, if_neg h]

/-- A tensor keeps its buffer when the record of one is replaced that loses none. -/
theorem resource?_put_of_eq_some (hget : r.get id = .ok old)
    (hkept : old.resource = some x → record.resource = some x) (h : r.resource? id' = some x) :
    (r.put id record).resource? id' = some x := by
  rw [resource?_put]
  by_cases hsame : id' = id
  · rw [if_pos hsame]
    rcases resource?_eq_some_iff.mp h with ⟨found, hfound, hx⟩
    rw [hsame, hget] at hfound
    obtain rfl := Except.ok.inj hfound
    exact hkept hx
  · rw [if_neg hsame]
    exact h

section Listed

variable {ids : List TensorId} {xs : List Allocation}

/-- Each of some tensors with buffers has one of these. -/
theorem exists_resource_of_mem (h : ids.map r.resource? = xs.map some) (hid : id ∈ ids) :
    ∃ x ∈ xs, r.resource? id = some x := by
  have hmem : r.resource? id ∈ xs.map some := h ▸ List.mem_map_of_mem hid
  rcases List.mem_map.mp hmem with ⟨x, hx, hidx⟩
  exact ⟨x, hx, hidx.symm⟩

/-- Each of the buffers belongs to one of the tensors. -/
theorem exists_tensor_of_mem (h : ids.map r.resource? = xs.map some) (hx : x ∈ xs) :
    ∃ id ∈ ids, r.resource? id = some x := by
  have hmem : some x ∈ ids.map r.resource? := h ▸ List.mem_map_of_mem hx
  exact List.mem_map.mp hmem

/-- Tensors that each keep their buffers keep the list. -/
theorem map_resource?_eq_of_kept {r' : Registry} (h : ids.map r.resource? = xs.map some)
    (hkept : ∀ id ∈ ids, ∀ x, r.resource? id = some x → r'.resource? id = some x) :
    ids.map r'.resource? = xs.map some := by
  rw [← h]
  apply List.map_congr_left
  intro id hid
  rcases exists_resource_of_mem h hid with ⟨x, -, hx⟩
  exact (hkept id hid x hx).trans hx.symm

end Listed

/-! ## Sound registries -/

/-- Each number has one record at most, and the next number none. -/
structure Sound (r : Registry) : Prop where
  keyed : r.records.Keyed
  lt_next : ∀ id ∈ r.records.keys, id.number < r.next

/-- A new registry is sound. -/
theorem sound_empty : ({} : Registry).Sound where
  keyed := Table.keyed_empty
  lt_next := by simp [Table.keys, Table.empty]

namespace Sound

/-- Live tensors have numbers below the next. -/
theorem lt_next_of_get (hr : r.Sound) (h : r.get id = .ok record) : id.number < r.next :=
  hr.lt_next id (Table.mem_keys_iff.mpr ⟨record, hr.keyed.get?_eq_some_iff.mp (get_eq_ok_iff.mp h)⟩)

/-- The next number is free. -/
theorem get?_next_eq_none (hr : r.Sound) : r.records.get? ⟨r.next⟩ = none :=
  Table.get?_eq_none_iff.mpr fun hmem => Nat.lt_irrefl _ (hr.lt_next _ hmem)

/-- Adding a tensor keeps a registry sound. -/
theorem insert (hr : r.Sound) (record : Record) : (r.insert record).2.Sound := by
  refine ⟨hr.keyed.set _ _, fun id hid => ?_⟩
  rcases Table.mem_keys_iff.mp hid with ⟨found, hfound⟩
  have hget := (hr.keyed.set _ _).get?_eq_some_iff.mpr hfound
  rw [Table.get?_set] at hget
  change id.number < r.next + 1
  by_cases hnew : id = ⟨r.next⟩
  · rw [hnew]
    exact Nat.lt_succ_self _
  · rw [if_neg hnew] at hget
    exact Nat.lt_succ_of_lt (hr.lt_next_of_get (get_eq_ok_iff.mpr hget))

/-- Putting a record in place keeps a registry sound. -/
theorem put (hr : r.Sound) (hold : r.get id = .ok old) (record : Record) :
    (r.put id record).Sound := by
  refine ⟨hr.keyed.set _ _, fun id' hid' => ?_⟩
  rcases Table.mem_keys_iff.mp hid' with ⟨found, hfound⟩
  have hget := (hr.keyed.set _ _).get?_eq_some_iff.mpr hfound
  rw [Table.get?_set] at hget
  by_cases hsame : id' = id
  · rw [hsame]
    exact hr.lt_next_of_get hold
  · rw [if_neg hsame] at hget
    exact hr.lt_next_of_get (get_eq_ok_iff.mpr hget)

/-- Removing a tensor keeps a registry sound. -/
theorem remove (hr : r.Sound) (id : TensorId) : (r.remove id).2.Sound := by
  refine ⟨hr.keyed.erase _, fun id' hid' => ?_⟩
  rcases Table.mem_keys_iff.mp hid' with ⟨found, hfound⟩
  have hmem := (Table.mem_eraseFrom_iff.mp hfound).1
  exact hr.lt_next id' (Table.mem_keys_iff.mpr ⟨found, hmem⟩)

end Sound

/-! ## Buffers after updates -/

/-- Buffers of the other tensors. -/
def resourcesElsewhere (r : Registry) (id : TensorId) : List Allocation :=
  (r.records.erase id).entries.filterMap fun e => e.2.resource

private theorem filterMap_cons_perm {f : α → Option β} {a : α} {as : List α} :
    ((a :: as).filterMap f).Perm ((f a).toList ++ as.filterMap f) := by
  cases hfa : f a with
  | none => simp [hfa]
  | some b => simp [hfa]

/-- The buffer of a tensor and those of the others are all buffers. -/
theorem Sound.resources_perm (hr : r.Sound) (h : r.get id = .ok record) :
    r.resources.Perm (record.resource.toList ++ r.resourcesElsewhere id) :=
  ((hr.keyed.entries_perm (get_eq_ok_iff.mp h)).filterMap _).trans filterMap_cons_perm

/-- A new tensor adds its buffer to those of the tensors. -/
theorem Sound.resources_insert (hr : r.Sound) (record : Record) :
    (r.insert record).2.resources.Perm (record.resource.toList ++ r.resources) := by
  have hset := ((hr.keyed.entries_set_perm ⟨r.next⟩ record).filterMap (·.2.resource)).trans
    filterMap_cons_perm
  rwa [Table.entries_erase_of_get?_eq_none hr.get?_next_eq_none] at hset

/-- A record that is put in place replaces the buffer of its tensor. -/
theorem Sound.resources_put (hr : r.Sound) (id : TensorId) (record : Record) :
    (r.put id record).resources.Perm (record.resource.toList ++ r.resourcesElsewhere id) :=
  ((hr.keyed.entries_set_perm id record).filterMap _).trans filterMap_cons_perm

/-- A tensor that is removed takes its buffer away. -/
theorem Sound.resources_remove (hr : r.Sound) (h : r.get id = .ok record) :
    r.resources.Perm (record.resource.toList ++ (r.remove id).2.resources) :=
  hr.resources_perm h

/-! ## Holders of buffers -/

/-- The buffers of the tensors are those that some tensor has. -/
theorem Sound.mem_resources_iff (hr : r.Sound) :
    x ∈ r.resources ↔ ∃ id, r.resource? id = some x := by
  unfold resources
  simp only [List.mem_filterMap, resource?_eq_some_iff, get_eq_ok_iff]
  constructor
  · rintro ⟨⟨id, record⟩, hmem, hx⟩
    exact ⟨id, record, hr.keyed.get?_eq_some_iff.mpr hmem, hx⟩
  · rintro ⟨id, record, hget, hx⟩
    exact ⟨(id, record), hr.keyed.get?_eq_some_iff.mp hget, hx⟩

/-- A tensor that holds a buffer does not have the next number. -/
theorem Sound.ne_next_of_resource? (hr : r.Sound) (h : r.resource? id = some x) :
    id ≠ ⟨r.next⟩ := by
  rcases resource?_eq_some_iff.mp h with ⟨found, hget, -⟩
  rintro rfl
  exact Nat.lt_irrefl _ (hr.lt_next_of_get hget)

/-- Tensors keep their buffers when another is added. -/
theorem Sound.resource?_insert_of_eq_some (hr : r.Sound) (h : r.resource? id = some x)
    (record : Record) : (r.insert record).2.resource? id = some x := by
  rw [resource?_insert, if_neg (hr.ne_next_of_resource? h)]
  exact h

/-- Tensors that share a buffer are one tensor. -/
theorem Sound.resource_inj (hr : r.Sound) (hnodup : (r.resources.map Allocation.buffer).Nodup)
    (hx : r.resource? id = some x) (hy : r.resource? id' = some y) (hxy : x.buffer = y.buffer) :
    id = id' := by
  by_contra hne
  rcases resource?_eq_some_iff.mp hx with ⟨record, hget, hrecord⟩
  have hperm := (hr.resources_remove hget).map Allocation.buffer
  rw [hrecord] at hperm
  have hfirst := (List.nodup_cons.mp (hperm.nodup_iff.mp hnodup)).1
  refine hfirst (List.mem_map.mpr ⟨y, (hr.remove id).mem_resources_iff.mpr ⟨id', ?_⟩, hxy.symm⟩)
  rcases resource?_eq_some_iff.mp hy with ⟨record', hget', hrecord'⟩
  refine resource?_eq_some_iff.mpr ⟨record', ?_, hrecord'⟩
  rw [get_remove_of_ne (Ne.symm hne), hget']

end ComputeKernels.Tensor.Registry

import ComputeKernels.Proofs.Tensor.Holdings

/-!
# References between tensors

A complex tensor refers to its two parts, so a registry holds references of its own beside those that
callers hold.  Each part of a live complex tensor is a slot, and a tensor that is both parts of one
fills two slots.

Main results:

- Theorems `Sound.slots_insert` and `Sound.slots_remove`: the slots after a tensor is added or removed.
- Theorem `outlines_put`: a record that keeps its element, count and parts keeps the outlines.
-/

namespace ComputeKernels.Tensor

/-- What a record says about references. -/
structure Outline where
  element : ElementType
  references : Nat
  parts : Option (TensorId × TensorId)

/-- The outline of a record. -/
def Record.outline (r : Record) : Outline := ⟨r.element, r.references, r.parts⟩

namespace Registry

variable {r r' : Registry} {id : TensorId} {record old : Record}

/-! ## Slots -/

/-- Parts of all live complex tensors, each as often as it is one. -/
def slots (r : Registry) : List TensorId := r.records.entries.flatMap fun e => e.2.partList

/-- Parts of the other tensors. -/
def slotsElsewhere (r : Registry) (id : TensorId) : List TensorId :=
  (r.records.erase id).entries.flatMap fun e => e.2.partList

/-- A new tensor adds its parts to the slots. -/
theorem Sound.slots_insert (hr : r.Sound) (record : Record) :
    (r.insert record).2.slots.Perm (record.partList ++ r.slots) := by
  have hset := (hr.keyed.entries_set_perm ⟨r.next⟩ record).flatMap_right fun e => e.2.partList
  rwa [Table.entries_erase_of_get?_eq_none hr.get?_next_eq_none] at hset

private theorem Sound.slots_perm (hr : r.Sound) (h : r.get id = .ok record) :
    r.slots.Perm (record.partList ++ r.slotsElsewhere id) := by
  have hentries := hr.keyed.entries_perm (get_eq_ok_iff.mp h)
  exact hentries.flatMap_right fun e : TensorId × Record => e.2.partList

/-- A record with the same parts keeps the slots. -/
theorem Sound.slots_put (hr : r.Sound) (h : r.get id = .ok old)
    (hparts : record.partList = old.partList) : (r.put id record).slots.Perm r.slots := by
  have hset : (r.put id record).slots.Perm (record.partList ++ r.slotsElsewhere id) :=
    (hr.keyed.entries_set_perm id record).flatMap_right fun e : TensorId × Record => e.2.partList
  rw [hparts] at hset
  exact hset.trans (hr.slots_perm h).symm

/-- A tensor that is removed takes its parts away. -/
theorem Sound.slots_remove (hr : r.Sound) (h : r.get id = .ok record) :
    r.slots.Perm (record.partList ++ (r.remove id).2.slots) :=
  hr.slots_perm h

/-- A part fills a slot as long as the tensor whose part it is lives. -/
theorem mem_slots_of_get {part : TensorId} (h : r.get id = .ok record)
    (hpart : part ∈ record.partList) : part ∈ r.slots :=
  List.mem_flatMap.mpr ⟨(id, record), Table.mem_of_lookup (get_eq_ok_iff.mp h), hpart⟩

/-! ## Live tensors -/

/-- A tensor that is found is live. -/
theorem contains_of_get (h : r.get id = .ok record) : r.contains id = true :=
  contains_iff_get.mpr ⟨record, h⟩

/-- The live tensors after one was added. -/
theorem contains_insert {id' : TensorId} :
    (r.insert record).2.contains id' = true ↔ id' = ⟨r.next⟩ ∨ r.contains id' = true := by
  simp only [contains_iff_get, get_insert]
  by_cases h : id' = ⟨r.next⟩
  · simp [h]
  · simp [h]

/-- Putting a record in place keeps the live tensors. -/
theorem contains_put {id' : TensorId} (h : r.get id = .ok old) :
    (r.put id record).contains id' = r.contains id' := by
  apply Bool.eq_iff_iff.mpr
  simp only [contains_iff_get, get_put]
  by_cases hid : id' = id
  · simp [hid, h]
  · simp [hid]

/-- The live tensors after one was removed. -/
theorem contains_remove {id' : TensorId} :
    (r.remove id).2.contains id' = true ↔ id' ≠ id ∧ r.contains id' = true := by
  simp only [contains_iff_get, get_remove]
  by_cases h : id' = id
  · simp [h]
  · simp [h]

/-- The record of a tensor that is removed does not matter any more. -/
theorem remove_put (r : Registry) (id : TensorId) (record : Record) :
    ((r.put id record).remove id).2 = (r.remove id).2 := by
  have herase (entries : List (TensorId × Record)) :
      Table.eraseFrom id (Table.insertInto id record entries) = Table.eraseFrom id entries := by
    induction entries with
    | nil => simp [Table.insertInto, Table.eraseFrom]
    | cons e rest ih =>
      rcases e with ⟨id', record'⟩
      by_cases h : id' = id
      · subst h
        simp only [Table.insertInto, if_true, Table.eraseFrom_cons_self]
      · simp only [Table.insertInto, h, if_false, Table.eraseFrom_cons_of_ne h, ih]
  simp only [remove, put, Table.erase, Table.set, herase]

/-- A live tensor is a float. -/
def IsFloat (r : Registry) (id : TensorId) : Prop :=
  ∃ record, r.get id = .ok record ∧ record.element = .float32

private theorem IsFloat.contains (h : r.IsFloat id) : r.contains id = true := by
  rcases h with ⟨record, hget, -⟩
  exact contains_of_get hget

/-- Adding a tensor keeps the floats. -/
theorem Sound.isFloat_insert (hr : r.Sound) (h : r.IsFloat id) (record : Record) :
    (r.insert record).2.IsFloat id := by
  rcases h with ⟨found, hget, helement⟩
  refine ⟨found, ?_, helement⟩
  rw [get_insert, if_neg, hget]
  rintro rfl
  exact Nat.lt_irrefl _ (hr.lt_next_of_get hget)

/-- Putting a record of the same element in place keeps the floats. -/
theorem isFloat_put {id' : TensorId} (hget : r.get id = .ok old)
    (helement : record.element = old.element) (h : r.IsFloat id') :
    (r.put id record).IsFloat id' := by
  rcases h with ⟨found, hfound, hfloat⟩
  by_cases hid : id' = id
  · subst hid
    obtain rfl := Except.ok.inj (hget.symm.trans hfound)
    exact ⟨record, get_put_self, helement.trans hfloat⟩
  · exact ⟨found, by rw [get_put_of_ne hid, hfound], hfloat⟩

/-- Removing a tensor keeps the other floats. -/
theorem isFloat_remove {id' : TensorId} (hid : id' ≠ id) (h : r.IsFloat id') :
    (r.remove id).2.IsFloat id' := by
  rcases h with ⟨found, hfound, hfloat⟩
  exact ⟨found, by rw [get_remove_of_ne hid, hfound], hfloat⟩

/-! ## Outlines -/

/-- Outlines of all live tensors. -/
def outlines (r : Registry) : List (TensorId × Outline) :=
  r.records.entries.map fun e => (e.1, e.2.outline)

/-- A record that keeps its outline keeps the outlines. -/
theorem outlines_put (hget : r.get id = .ok old) (h : record.outline = old.outline) :
    (r.put id record).outlines = r.outlines := by
  have hmap (entries : List (TensorId × Record)) (hfound : Table.lookup id entries = some old) :
      (Table.insertInto id record entries).map (fun e => (e.1, e.2.outline)) =
        entries.map fun e => (e.1, e.2.outline) := by
    induction entries with
    | nil => cases hfound
    | cons e rest ih =>
      rcases e with ⟨id', record'⟩
      by_cases hid : id' = id
      · simp only [Table.lookup, hid, if_true, Option.some.injEq] at hfound
        simp only [Table.insertInto, hid, if_true, List.map_cons, h, hfound]
      · simp only [Table.lookup, hid, if_false] at hfound
        simp only [Table.insertInto, hid, if_false, List.map_cons, ih hfound]
  exact hmap r.records.entries (get_eq_ok_iff.mp hget)

section Outlined

variable (houtlines : r'.outlines = r.outlines)

include houtlines

/-- Registries of one outline have the same slots. -/
theorem slots_of_outlines : r'.slots = r.slots := by
  have hslots (r : Registry) : r.slots =
      r.outlines.flatMap fun e => (e.2.parts.map fun p => [p.1, p.2]).getD [] := by
    rw [outlines, List.flatMap_map]
    apply List.flatMap_congr
    intro e _
    cases hparts : e.2.parts <;> simp [Record.partList, Record.outline, hparts]
  rw [hslots, hslots, houtlines]

private theorem keys_of_outlines : r'.records.keys = r.records.keys := by
  have hkeys (r : Registry) : r.records.keys = r.outlines.map Prod.fst := by
    rw [outlines, List.map_map]
    rfl
  rw [hkeys, hkeys, houtlines]

private theorem outline_of_outlines (id : TensorId) :
    (r'.records.get? id).map Record.outline = (r.records.get? id).map Record.outline := by
  have hlookup (entries : List (TensorId × Record)) :
      (Table.lookup id entries).map Record.outline =
        Table.lookup id (entries.map fun e => (e.1, e.2.outline)) := by
    induction entries with
    | nil => rfl
    | cons e rest ih =>
      rcases e with ⟨id', record⟩
      by_cases hid : id' = id
      · simp [Table.lookup, hid]
      · simp only [Table.lookup, hid, if_false, List.map_cons, ih]
  have hget (r : Registry) :
      (r.records.get? id).map Record.outline = Table.lookup id r.outlines := hlookup _
  rw [hget, hget, houtlines]

/-- The tensors are the same, up to values and buffers. -/
theorem get_of_outlines (hget : r'.get id = .ok record) :
    ∃ found, r.get id = .ok found ∧ found.outline = record.outline := by
  have hsame := outline_of_outlines houtlines id
  rw [get_eq_ok_iff.mp hget] at hsame
  rcases Option.map_eq_some_iff.mp hsame.symm with ⟨found, hfound, houtline⟩
  exact ⟨found, get_eq_ok_iff.mpr hfound, houtline⟩

/-- Registries of one outline have the same live tensors. -/
theorem contains_of_outlines : r'.contains id = r.contains id := by
  have hsame := congrArg Option.isSome (outline_of_outlines houtlines id)
  rw [Option.isSome_map, Option.isSome_map] at hsame
  exact hsame

/-- Registries of one outline have the same floats. -/
theorem isFloat_of_outlines (h : r.IsFloat id) : r'.IsFloat id := by
  rcases h with ⟨record, hget, helement⟩
  rcases get_of_outlines houtlines.symm hget with ⟨found, hfound, houtline⟩
  exact ⟨found, hfound, (congrArg Outline.element houtline).trans helement⟩

/-- A registry with the outline of a sound one is sound. -/
theorem Sound.of_outlines (hr : r.Sound) (hnext : r'.next = r.next) : r'.Sound where
  keyed := by
    have hkeyed := hr.keyed
    rwa [Table.Keyed, ← keys_of_outlines houtlines] at hkeyed
  lt_next := by
    rw [keys_of_outlines houtlines, hnext]
    exact hr.lt_next

end Outlined

end Registry

end ComputeKernels.Tensor

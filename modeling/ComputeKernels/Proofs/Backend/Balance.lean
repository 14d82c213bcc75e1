import ComputeKernels.Proofs.Backend.Settlement

/-!
# Balance of references

The registry counts the references to each tensor.  Some of them are held by complex tensors, of which
the tensor is a part, and some are loose in the course of an operation.  A booking changes both sides
alike, with two exceptions: a reference to a tensor that has none left or waits for a submission is
given up without being counted, and a tensor that waited is removed whatever is counted.

Main results:

- Theorem `Booking.balance`: what a booking does to the references of one tensor.
-/

namespace ComputeKernels.Backend

open Tensor Buffer Device

variable {op : Operation} {b b' : Backend} {id i : TensorId} {r r' : Record}

/-! ## References -/

/-- A live tensor has the references of its record. -/
theorem references_of_get (hget : b.tensors.get id = .ok r) : b.references id = r.references := by
  rw [references, hget]

/-- A tensor that is gone has no references. -/
theorem references_of_gone (hgone : b.tensors.contains id = false) : b.references id = 0 := by
  unfold references
  split
  · next found hget =>
    rw [Registry.contains_of_get hget] at hgone
    cases hgone
  · rfl

/-- A new tensor has one reference, and all others keep theirs. -/
theorem references_insert (hreferences : r.references = 1) (i : TensorId) :
    ({ b with tensors := (b.tensors.insert r).2 } : Backend).references i =
      if i = ⟨b.tensors.next⟩ then 1 else b.references i := by
  by_cases hi : i = ⟨b.tensors.next⟩
  · simp [references, Registry.get_insert, hi, hreferences]
  · simp [references, Registry.get_insert, hi]

/-- A record that is put in place brings its references. -/
theorem references_put (r : Record) (id i : TensorId) :
    ({ b with tensors := b.tensors.put id r } : Backend).references i =
      if i = id then r.references else b.references i := by
  by_cases hi : i = id
  · simp [references, Registry.get_put, hi]
  · simp [references, Registry.get_put, hi]

/-- One reference more is counted to one tensor. -/
theorem references_raise (hget : b.tensors.get id = .ok r) (i : TensorId) :
    ({ b with tensors := b.tensors.put id { r with references := r.references + 1 } } :
        Backend).references i = b.references i + if i = id then 1 else 0 := by
  rw [references_put]
  split
  · next hi => rw [hi, references_of_get hget]
  · rfl

/-- One reference less is counted to one tensor. -/
theorem references_lower (hget : b.tensors.get id = .ok r) (hmany : 0 < r.references)
    (i : TensorId) :
    b.references i =
      ({ b with tensors := b.tensors.put id { r with references := r.references - 1 } } :
        Backend).references i + if i = id then 1 else 0 := by
  rw [references_put]
  split
  · next hi =>
    rw [hi, references_of_get hget]
    exact (Nat.sub_add_cancel hmany).symm
  · rfl

/-- A tensor that is removed loses its references, and no other does. -/
theorem references_remove (id i : TensorId) :
    ({ b with tensors := (b.tensors.remove id).2 } : Backend).references i =
      if i = id then 0 else b.references i := by
  by_cases hi : i = id
  · simp [references, Registry.get_remove, hi]
  · simp [references, Registry.get_remove, hi]

/-- Registries of one outline have the same references. -/
theorem references_of_outlines (h : b'.tensors.outlines = b.tensors.outlines) (i : TensorId) :
    b'.references i = b.references i := by
  cases hget : b'.tensors.get i with
  | ok r =>
    rcases Registry.get_of_outlines h hget with ⟨found, hfound, houtline⟩
    rw [references_of_get hget, references_of_get hfound]
    exact (congrArg Outline.references houtline).symm
  | error e =>
    have hgone : b'.tensors.contains i = false := Registry.contains_eq_false_of_get hget
    have hgone' : b.tensors.contains i = false := by rwa [← Registry.contains_of_outlines h]
    rw [references_of_gone hgone, references_of_gone hgone']

/-! ## Balance of references -/

/-- References to a tensor that complex tensors hold or that are loose. -/
def Books.held (x : Books) (id : TensorId) : Nat :=
  x.backend.tensors.slots.count id + x.loose.count id

/-- What a booking does to the references of a tensor that the registry counts and to those that are
held. -/
inductive Balance (x y : Books) (id : TensorId) : Prop
  /-- Both change alike. -/
  | even (h : x.backend.references id + y.held id = y.backend.references id + x.held id)
  /-- A reference is given up that is not counted. -/
  | waived (hreferences : y.backend.references id = x.backend.references id)
      (hheld : x.held id = y.held id + 1)
      (h : x.backend.references id = 0 ∨ id ∈ x.backend.batch.deferred)
  /-- A tensor is removed after a submission whatever is counted. -/
  | forgotten (hleaving : id ∈ x.leaving) (hgone : y.backend.references id = 0)
      (hheld : y.held id = x.held id)

namespace Balance

variable {x y : Books}

private theorem of_eq (hreferences : y.backend.references i = x.backend.references i)
    (hheld : y.held i = x.held i) : Balance x y i :=
  .even (by rw [hreferences, hheld])

/-- The last reference to a tensor is given up, if it is counted at all. -/
theorem of_last (hlast : x.backend.references id ≤ 1)
    (hreferences : y.backend.references i = if i = id then 0 else x.backend.references i)
    (hheld : x.held i = y.held i + if i = id then 1 else 0) : Balance x y i := by
  by_cases hi : i = id
  · rw [if_pos hi] at hreferences hheld
    rw [hi] at hreferences hheld ⊢
    by_cases hnone : x.backend.references id = 0
    · exact .waived (hreferences.trans hnone.symm) hheld (.inl hnone)
    · exact .even (by omega)
  · rw [if_neg hi] at hreferences hheld
    exact .of_eq hreferences hheld.symm

end Balance

private theorem held_of_outlines {loose loose' leaving leaving' : List TensorId}
    (h : b'.tensors.outlines = b.tensors.outlines) (hloose : loose.Perm loose') (id : TensorId) :
    Books.held ⟨b', loose', leaving'⟩ id = Books.held ⟨b, loose, leaving⟩ id := by
  unfold Books.held
  rw [Registry.slots_of_outlines h, hloose.count_eq]

/-- A reference more or less to a tensor changes no slot. -/
theorem slots_recount (hr : b.tensors.Sound) (hget : b.tensors.get id = .ok r) (count : Nat) :
    (b.tensors.put id { r with references := count }).slots.Perm b.tensors.slots := by
  have hparts : ({ r with references := count } : Record).partList = r.partList := rfl
  exact hr.slots_put hget hparts

private theorem held_put (hr : b.tensors.Sound) (hget : b.tensors.get id = .ok r) (count : Nat)
    (loose leaving : List TensorId) (i : TensorId) :
    Books.held ⟨{ b with tensors := b.tensors.put id { r with references := count } }, loose, leaving⟩
        i = Books.held ⟨b, loose, leaving⟩ i := by
  unfold Books.held
  rw [(slots_recount hr hget count).count_eq i]

/-- The parts of a tensor that is removed become loose. -/
theorem held_remove (hr : b.tensors.Sound) (hget : b.tensors.get id = .ok r)
    (loose leaving : List TensorId) (i : TensorId) :
    Books.held ⟨{ b with tensors := (b.tensors.remove id).2 }, r.partList ++ loose, leaving⟩ i =
      Books.held ⟨b, loose, leaving⟩ i := by
  have hslots := (hr.slots_remove hget).count_eq i
  simp only [List.count_append] at hslots
  simp only [Books.held, List.count_append]
  omega

/-- A loose reference is held. -/
theorem held_cons (b : Backend) (id : TensorId) (loose leaving : List TensorId) (i : TensorId) :
    Books.held ⟨b, id :: loose, leaving⟩ i =
      Books.held ⟨b, loose, leaving⟩ i + if i = id then 1 else 0 := by
  by_cases hi : i = id
  · simp [Books.held, hi]
    omega
  · simp [Books.held, hi, Ne.symm hi]

/-- What a booking does to the references of one tensor. -/
theorem Booking.balance {x y : Books} (h : Booking op x y) (hr : x.backend.tensors.Sound)
    (i : TensorId) : Balance x y i := by
  cases h with
  | quiet h hloose =>
    have houtlines := congrArg Tally.outlines h
    exact .of_eq (references_of_outlines houtlines i) (held_of_outlines houtlines hloose i)
  | @add b r loose leaving hreferences hparts =>
    have hslots := (hr.slots_insert r).count_eq i
    have hnew : b.references ⟨b.tensors.next⟩ = 0 :=
      references_of_gone (by simp [Registry.contains, Table.contains, hr.get?_next_eq_none])
    refine .even ?_
    rw [held_cons, references_insert hreferences]
    simp only [List.count_append] at hslots
    simp only [Books.held, List.count_append]
    by_cases hi : i = ⟨b.tensors.next⟩
    · rw [if_pos hi, if_pos hi]
      rw [hi] at hslots ⊢
      omega
    · rw [if_neg hi, if_neg hi]
      omega
  | @retain b id r loose leaving hop hnamed hget =>
    have hafter := held_put hr hget (r.references + 1) loose leaving i
    refine .even ?_
    rw [held_cons, hafter, references_raise hget]
    dsimp only
    omega
  | @waive b id loose leaving h =>
    have hbefore := held_cons b id loose leaving i
    by_cases hi : i = id
    · rw [if_pos hi] at hbefore
      refine .waived rfl hbefore ?_
      rw [hi]
      exact h.imp_left references_of_gone
    · rw [if_neg hi] at hbefore
      exact .of_eq rfl hbefore.symm
  | @lower b id r loose leaving hget hdeferred hmany =>
    have hafter := held_put hr hget (r.references - 1) loose leaving i
    have hreferences := references_lower hget (Nat.zero_lt_of_lt hmany) i
    refine .even ?_
    rw [held_cons, hafter]
    dsimp only
    omega
  | @park b id r loose leaving hop hget hdeferred hlast htouched =>
    refine .of_last ((references_of_get hget).trans_le hlast) ?_ ?_
    · rw [← Nat.sub_eq_zero_of_le hlast]
      exact references_put { r with references := r.references - 1 } id i
    · rw [held_cons]
      exact congrArg (· + _) (held_put hr hget (r.references - 1) loose leaving i).symm
  | @last b id r loose leaving hget hdeferred hlast =>
    refine .of_last ((references_of_get hget).trans_le hlast) (references_remove id i) ?_
    rw [held_cons, held_remove hr hget]
  | @forget b id r loose leaving hget =>
    have hafter := held_remove hr hget loose leaving i
    have hreferences := references_remove (b := b) id i
    by_cases hi : i = id
    · rw [if_pos hi] at hreferences
      refine .forgotten ?_ hreferences hafter
      rw [hi]
      exact List.mem_cons_self
    · rw [if_neg hi] at hreferences
      exact .of_eq hreferences hafter
  | miss h => exact .even rfl
  | record h =>
    have houtlines := congrArg Tally.outlines h
    exact .of_eq (references_of_outlines houtlines i) (held_of_outlines houtlines (.refl _) i)
  | submit hop => exact .even rfl

end ComputeKernels.Backend

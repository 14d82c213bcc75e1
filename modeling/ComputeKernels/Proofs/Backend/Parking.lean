import ComputeKernels.Proofs.Backend.Balance

/-!
# Tensors that wait for a submission

A tensor that loses its last reference while the open encoder refers to it is parked: it stays in the
registry until the encoder is submitted.  What is parked is removed with that submission, whatever
happens to its count of references in between.  Every other tensor goes with its last reference.

Main results:

- Theorem `Booking.orderly`: what is parked is live, and the open encoder refers to it.
- Theorem `Booking.waits`: what is parked stays until the next submission and goes with it.
- Theorem `Booking.spends`: what is not parked goes only when every reference was given up.
- Theorem `tensors_go_spent_or_parked`: how tensors leave the registry in a session.
-/

namespace ComputeKernels.Backend

open Tensor Buffer Device

variable {op : Operation} {ops : List Operation} {b b' : Backend} {id i : TensorId}
  {leaving : List TensorId}

/-! ## What is parked -/

/-- The registry is sound, what is parked is live, and the open encoder refers to it.  While a
submission removes tensors, nothing is parked. -/
structure Orderly (b : Backend) (leaving : List TensorId) : Prop where
  sound : b.tensors.Sound
  live : ∀ id ∈ b.batch.deferred, b.tensors.contains id = true
  touched : ∀ id ∈ b.batch.deferred, id ∈ b.batch.touched
  encoded : b.batch.touched = (b.encoder.getD []).flatMap fun p => p.inputs ++ [p.output]
  closed : leaving ≠ [] → b.batch.touched = []
  old : ∀ id ∈ leaving, id.number < b.tensors.next

namespace Orderly

private theorem onDevice (d : Device) (s : Config.Settings) : Orderly (onDevice d s) [] where
  sound := Registry.sound_empty
  live := nofun
  touched := nofun
  encoded := rfl
  closed := fun h => absurd rfl h
  old := nofun

/-- While a submission removes tensors, nothing is parked. -/
theorem not_parked (h : Orderly b leaving) (hleaving : leaving ≠ []) : id ∉ b.batch.deferred := by
  intro hid
  have htouched := h.touched id hid
  rw [h.closed hleaving] at htouched
  cases htouched

/-- Parked tensors are numbered below the next. -/
theorem lt_next_of_parked (h : Orderly b leaving) (hid : id ∈ b.batch.deferred) :
    id.number < b.tensors.next := by
  rcases Registry.contains_iff_get.mp (h.live id hid) with ⟨r, hget⟩
  exact h.sound.lt_next_of_get hget

/-- A change of the tensors that keeps what is parked. -/
theorem with_tensors (h : Orderly b leaving) {tensors : Registry} (hsound : tensors.Sound)
    (hnext : b.tensors.next ≤ tensors.next)
    (hlive : ∀ id ∈ b.batch.deferred, tensors.contains id = true) :
    Orderly { b with tensors } leaving where
  sound := hsound
  live := hlive
  touched := h.touched
  encoded := h.encoded
  closed := h.closed
  old := fun id hid => Nat.lt_of_lt_of_le (h.old id hid) hnext

private theorem of_tally (h : Orderly b leaving) (htally : tally b' = tally b) :
    Orderly b' leaving := by
  have houtlines : b'.tensors.outlines = b.tensors.outlines := congrArg Tally.outlines htally
  have hnext : b'.tensors.next = b.tensors.next := congrArg Tally.next htally
  have hdeferred : b'.batch.deferred = b.batch.deferred := congrArg Tally.deferred htally
  have htouched : b'.batch.touched = b.batch.touched := congrArg Tally.touched htally
  have hencoder : b'.encoder = b.encoder := congrArg Tally.encoder htally
  refine ⟨h.sound.of_outlines houtlines hnext, ?_, ?_, ?_, ?_, ?_⟩
  · intro id hid
    rw [Registry.contains_of_outlines houtlines]
    exact h.live id (hdeferred ▸ hid)
  · intro id hid
    rw [htouched]
    exact h.touched id (hdeferred ▸ hid)
  · rw [htouched, hencoder]
    exact h.encoded
  · rw [htouched]
    exact h.closed
  · rw [hnext]
    exact h.old

end Orderly

/-- Putting off a removal that is not yet put off adds it at the end. -/
theorem deferred_defer {batch : Submission.Batch Allocation} (h : id ∉ batch.deferred) :
    batch.defer id = { batch with deferred := batch.deferred ++ [id] } := by
  simp [Submission.Batch.defer, Submission.Batch.defers, h]

/-- Bookings keep what is parked in order. -/
theorem Booking.orderly {x y : Books} (h : Booking op x y) (hx : Orderly x.backend x.leaving) :
    Orderly y.backend y.leaving := by
  cases h with
  | quiet h hloose => exact hx.of_tally h
  | @add b r loose leaving hreferences hparts =>
    refine hx.with_tensors (hx.sound.insert r) (Nat.le_succ _) fun id hid => ?_
    exact Registry.contains_insert.mpr (.inr (hx.live id hid))
  | retain hop hnamed hget =>
    refine hx.with_tensors (hx.sound.put hget _) (Nat.le_refl _) fun id hid => ?_
    rw [Registry.contains_put hget]
    exact hx.live id hid
  | waive h => exact hx
  | lower hget hdeferred hmany =>
    refine hx.with_tensors (hx.sound.put hget _) (Nat.le_refl _) fun id hid => ?_
    rw [Registry.contains_put hget]
    exact hx.live id hid
  | @park b id r loose leaving hop hget hdeferred hlast htouched =>
    have hput (i : TensorId) : (b.tensors.put id { r with references := r.references - 1 }).contains i =
        b.tensors.contains i := Registry.contains_put hget
    rw [deferred_defer hdeferred]
    refine ⟨hx.sound.put hget _, fun i hi => ?_, fun i hi => ?_, hx.encoded, hx.closed, hx.old⟩
    · dsimp only
      rw [hput]
      rcases List.mem_append.mp hi with hbefore | hnow
      · exact hx.live i hbefore
      · rw [List.mem_singleton.mp hnow]
        exact Registry.contains_of_get hget
    · rcases List.mem_append.mp hi with hbefore | hnow
      · exact hx.touched i hbefore
      · rw [List.mem_singleton.mp hnow]
        exact htouched
  | @last b id r loose leaving hget hdeferred hlast =>
    refine hx.with_tensors (hx.sound.remove id) (Nat.le_refl _) fun i hi => ?_
    refine Registry.contains_remove.mpr ⟨?_, hx.live i hi⟩
    rintro rfl
    exact hdeferred hi
  | @forget b id r loose leaving hget =>
    have hparked (i : TensorId) : i ∉ b.batch.deferred := hx.not_parked (List.cons_ne_nil _ _)
    have hclosed : b.batch.touched = [] := hx.closed (List.cons_ne_nil _ _)
    have hbefore : Orderly b leaving :=
      ⟨hx.sound, hx.live, hx.touched, hx.encoded, fun _ => hclosed,
        fun i hi => hx.old i (List.mem_cons_of_mem _ hi)⟩
    exact hbefore.with_tensors (hx.sound.remove id) (Nat.le_refl _) fun i hi => absurd hi (hparked i)
  | @miss b id loose leaving h =>
    have hclosed : b.batch.touched = [] := hx.closed (List.cons_ne_nil _ _)
    exact ⟨hx.sound, hx.live, hx.touched, hx.encoded, fun _ => hclosed,
      fun i hi => hx.old i (List.mem_cons_of_mem _ hi)⟩
  | @record b b' pass loose h =>
    let b₁ : Backend := { b with
      batch := { b.batch with touched := b.batch.touched ++ (pass.inputs ++ [pass.output]) }
      encoder := some (b.encoder.getD [] ++ [pass]) }
    have hrecorded : Orderly b₁ [] := by
      refine ⟨hx.sound, hx.live, fun id hid => List.mem_append_left _ (hx.touched id hid), ?_,
        fun hnil => absurd rfl hnil, nofun⟩
      change b.batch.touched ++ (pass.inputs ++ [pass.output]) = _
      rw [hx.encoded, Option.getD_some, List.flatMap_append, List.flatMap_singleton]
    exact hrecorded.of_tally h
  | submit hop =>
    exact ⟨hx.sound, nofun, nofun, rfl, fun _ => rfl, fun id hid => hx.lt_next_of_parked hid⟩

/-- Booked steps keep the registry, the parked tensors and the encoder in order. -/
theorem Booked.orderly {x y : Books} (h : Booked op x y) (hx : Orderly x.backend x.leaving) :
    Orderly y.backend y.leaving := by
  induction h with
  | refl => exact hx
  | tail _ hstep ih => exact hstep.orderly ih

/-! ## Waiting for a submission -/

/-- What has to be known of a tensor that was parked when some number of submissions had been made. -/
inductive Waits (submissions : Nat) (id : TensorId) (b : Backend) (leaving : List TensorId) : Prop
  /-- It is still parked. -/
  | parked (hleaving : leaving = []) (hsubmissions : b.batch.submissions = submissions)
      (hid : id ∈ b.batch.deferred)
  /-- The encoder was submitted, and the tensor is gone or about to be removed. -/
  | released (hsubmissions : submissions < b.batch.submissions) (hold : id.number < b.tensors.next)
      (h : id ∈ leaving ∨ b.tensors.contains id = false)

private theorem Booking.submissions_le {x y : Books} (h : Booking op x y) :
    x.backend.batch.submissions ≤ y.backend.batch.submissions := by
  cases h with
  | quiet h hloose => exact Nat.le_of_eq (congrArg Tally.submissions h).symm
  | add hreferences hparts => exact Nat.le_refl _
  | retain hop hnamed hget => exact Nat.le_refl _
  | waive h => exact Nat.le_refl _
  | lower hget hdeferred hmany => exact Nat.le_refl _
  | park hop hget hdeferred hlast htouched =>
    exact Nat.le_of_eq (congrArg Submission.Batch.submissions (deferred_defer hdeferred)).symm
  | last hget hdeferred hlast => exact Nat.le_refl _
  | forget hget => exact Nat.le_refl _
  | miss h => exact Nat.le_refl _
  | record h => exact Nat.le_of_eq (congrArg Tally.submissions h).symm
  | submit hop => exact Nat.le_succ _

/-- A tensor that is about to be removed is so still, or it is gone. -/
theorem Booking.leaves {x y : Books} (h : Booking op x y) (hid : id ∈ x.leaving) :
    id ∈ y.leaving ∨ y.backend.tensors.contains id = false := by
  cases h with
  | quiet h hloose => exact .inl hid
  | add hreferences hparts => exact .inl hid
  | retain hop hnamed hget => exact .inl hid
  | waive h => exact .inl hid
  | lower hget hdeferred hmany => exact .inl hid
  | park hop hget hdeferred hlast htouched => exact .inl hid
  | last hget hdeferred hlast => exact .inl hid
  | forget hget =>
    rcases List.mem_cons.mp hid with rfl | hrest
    · exact .inr (Registry.contains_eq_false_of_get Registry.get_remove_self)
    · exact .inl hrest
  | miss h =>
    rcases List.mem_cons.mp hid with rfl | hrest
    · exact .inr h
    · exact .inl hrest
  | record h => cases hid
  | submit hop => cases hid

/-- What is parked stays until the next submission and goes with it. -/
theorem Booking.waits {n : Nat} {x y : Books} (h : Booking op x y)
    (hx : Orderly x.backend x.leaving) (hw : Waits n id x.backend x.leaving) :
    Waits n id y.backend y.leaving := by
  rcases hw with ⟨hleaving, hsubmissions, hid⟩ | ⟨hsubmissions, hold, hleaves⟩
  case released =>
    refine .released (Nat.lt_of_lt_of_le hsubmissions h.submissions_le)
      (Nat.lt_of_lt_of_le hold h.next_le) ?_
    rcases hleaves with hid | hgone
    · exact h.leaves hid
    · refine .inr (Bool.eq_false_iff.mpr fun hback => ?_)
      rw [h.live_before hold hback] at hgone
      cases hgone
  cases h with
  | @quiet b b' loose loose' leaving h hloose =>
    have hdeferred : b'.batch.deferred = b.batch.deferred := congrArg Tally.deferred h
    exact .parked hleaving ((congrArg Tally.submissions h).trans hsubmissions) (hdeferred ▸ hid)
  | add hreferences hparts => exact .parked hleaving hsubmissions hid
  | retain hop hnamed hget => exact .parked hleaving hsubmissions hid
  | waive h => exact .parked hleaving hsubmissions hid
  | lower hget hdeferred hmany => exact .parked hleaving hsubmissions hid
  | park hop hget hdeferred hlast htouched =>
    rw [deferred_defer hdeferred]
    exact .parked hleaving hsubmissions (List.mem_append_left _ hid)
  | last hget hdeferred hlast => exact .parked hleaving hsubmissions hid
  | forget hget => cases hleaving
  | miss h => cases hleaving
  | @record b b' pass loose h =>
    have hdeferred : b'.batch.deferred = b.batch.deferred := congrArg Tally.deferred h
    exact .parked hleaving ((congrArg Tally.submissions h).trans hsubmissions) (hdeferred ▸ hid)
  | submit hop =>
    refine .released ?_ (hx.lt_next_of_parked hid) (.inl hid)
    rw [← hsubmissions]
    exact Nat.lt_succ_self _

/-- A parked tensor waits for its removal through booked steps. -/
theorem Booked.waits {n : Nat} {x y : Books} (h : Booked op x y)
    (hx : Orderly x.backend x.leaving) (hw : Waits n id x.backend x.leaving) :
    Waits n id y.backend y.leaving := by
  induction h with
  | refl => exact hw
  | tail hbefore hstep ih => exact hstep.waits (Booked.orderly hbefore hx) ih

/-- Between operations a tensor that was parked is there as long as nothing was submitted. -/
theorem Waits.live_iff {n : Nat} (hw : Waits n id b []) (hb : Orderly b []) :
    b.tensors.contains id = true ↔ b.batch.submissions = n := by
  rcases hw with ⟨-, hsubmissions, hid⟩ | ⟨hsubmissions, -, hid | hgone⟩
  · simp [hb.live id hid, hsubmissions]
  · cases hid
  · have hmore : b.batch.submissions ≠ n := by omega
    simp [hgone, hmore]

/-! ## Spending references -/

private theorem references_put_le {r : Record} {n : Nat} (hget : b.tensors.get i = .ok r)
    (hle : n ≤ r.references) (id : TensorId) :
    ({ b with tensors := b.tensors.put i { r with references := n } } : Backend).references id ≤
      b.references id := by
  rw [references_put]
  by_cases hid : id = i
  · rw [if_pos hid, hid, references_of_get hget]
    exact hle
  · exact Nat.le_of_eq (if_neg hid)

private theorem references_remove_le (i id : TensorId) :
    ({ b with tensors := (b.tensors.remove i).2 } : Backend).references id ≤ b.references id := by
  rw [references_remove]
  by_cases hid : id = i
  · rw [if_pos hid]
    exact Nat.zero_le _
  · exact Nat.le_of_eq (if_neg hid)

/-- No booking adds a reference to an old tensor, unless the operation names the tensor for that. -/
theorem Booking.references_le {x y : Books} (h : Booking op x y)
    (hold : id.number < x.backend.tensors.next) :
    y.backend.references id ≤ x.backend.references id ∨ op.retains = true ∧ id ∈ op.named := by
  cases h with
  | quiet h hloose =>
    exact .inl (Nat.le_of_eq (references_of_outlines (congrArg Tally.outlines h) id))
  | @add b r loose leaving hreferences hparts =>
    have hne : id ≠ ⟨b.tensors.next⟩ := by
      rintro rfl
      exact Nat.lt_irrefl _ hold
    exact .inl (Nat.le_of_eq ((references_insert hreferences id).trans (if_neg hne)))
  | @retain b i r loose leaving hop hnamed hget =>
    by_cases hid : id = i
    · exact .inr ⟨hop, hid ▸ hnamed⟩
    · exact .inl (Nat.le_of_eq ((references_put _ i id).trans (if_neg hid)))
  | waive h => exact .inl (Nat.le_refl _)
  | lower hget hdeferred hmany => exact .inl (references_put_le hget (Nat.sub_le _ _) id)
  | park hop hget hdeferred hlast htouched =>
    exact .inl (references_put_le hget (Nat.sub_le _ _) id)
  | last hget hdeferred hlast => exact .inl (references_remove_le _ id)
  | forget hget => exact .inl (references_remove_le _ id)
  | miss h => exact .inl (Nat.le_refl _)
  | record h =>
    exact .inl (Nat.le_of_eq (references_of_outlines (congrArg Tally.outlines h) id))
  | submit hop => exact .inl (Nat.le_refl _)

/-- A tensor is parked only when no reference to it is left. -/
theorem Booking.waiting_before {x y : Books} (h : Booking op x y)
    (hid : id ∈ y.backend.batch.deferred ∨ id ∈ y.leaving) :
    (id ∈ x.backend.batch.deferred ∨ id ∈ x.leaving) ∨
      op.retains = false ∧ y.backend.references id = 0 := by
  cases h with
  | @quiet b b' loose loose' leaving h hloose =>
    have hdeferred : b'.batch.deferred = b.batch.deferred := congrArg Tally.deferred h
    exact .inl (hid.imp_left fun hid => hdeferred ▸ hid)
  | add hreferences hparts => exact .inl hid
  | retain hop hnamed hget => exact .inl hid
  | waive h => exact .inl hid
  | lower hget hdeferred hmany => exact .inl hid
  | @park b i r loose leaving hop hget hdeferred hlast htouched =>
    rw [deferred_defer hdeferred] at hid
    rcases hid with hparked | hleaving
    · rcases List.mem_append.mp hparked with hbefore | hnow
      · exact .inl (.inl hbefore)
      · refine .inr ⟨hop, ?_⟩
        rw [List.mem_singleton.mp hnow]
        refine (references_put _ i i).trans ?_
        rw [if_pos rfl]
        exact Nat.sub_eq_zero_of_le hlast
    · exact .inl (.inr hleaving)
  | last hget hdeferred hlast => exact .inl hid
  | forget hget => exact .inl (hid.imp_right (List.mem_cons_of_mem _))
  | miss h => exact .inl (hid.imp_right (List.mem_cons_of_mem _))
  | @record b b' pass loose h =>
    have hdeferred : b'.batch.deferred = b.batch.deferred := congrArg Tally.deferred h
    exact .inl (hid.imp_left fun hid => hdeferred ▸ hid)
  | submit hop =>
    rcases hid with hnone | hleaving
    · cases hnone
    · exact .inl (.inl hleaving)

/-- What has to be known of a tensor in an operation that began without its being parked.  No
reference was given up that was not held. -/
structure Spending (op : Operation) (x₀ x : Books) (id : TensorId) : Prop where
  paid : x₀.backend.references id + x.held id ≤ x.backend.references id + x₀.held id
  old : id.number < x.backend.tensors.next
  spent : id ∈ x.backend.batch.deferred ∨ id ∈ x.leaving →
    op.retains = false ∧ x.backend.references id = 0

/-- A booking gives up no reference of a tensor that was not held. -/
theorem Booking.spends {x₀ x y : Books} (h : Booking op x y) (hr : x.backend.tensors.Sound)
    (hs : Spending op x₀ x id) : Spending op x₀ y id := by
  refine ⟨?_, Nat.lt_of_lt_of_le hs.old h.next_le, fun hid => ?_⟩
  · have hpaid := hs.paid
    rcases h.balance hr id with heven | ⟨hreferences, hheld, -⟩ | ⟨hleaving, hgone, hheld⟩
    · omega
    · omega
    · have hspent := (hs.spent (.inr hleaving)).2
      omega
  · rcases h.waiting_before hid with hbefore | hnow
    · rcases hs.spent hbefore with ⟨hop, hspent⟩
      rcases h.references_le hs.old with hle | ⟨hretains, -⟩
      · exact ⟨hop, by omega⟩
      · rw [hop] at hretains
        cases hretains
    · exact hnow

/-- Neither do booked steps. -/
theorem Booked.spends {x₀ x y : Books} (h : Booked op x y) (hx : Orderly x.backend x.leaving)
    (hs : Spending op x₀ x id) : Spending op x₀ y id := by
  induction h with
  | refl => exact hs
  | tail hbefore hstep ih => exact hstep.spends (Booked.orderly hbefore hx).sound ih

/-! ## Sessions -/

/-- Nothing is removed by force. -/
def Unforced (ops : List Operation) : Prop := ∀ op ∈ ops, op.isForced = false
deriving Decidable

/-- What holds of a backend between the operations of a session in which nothing is forced. -/
structure Rested (b : Backend) : Prop where
  sound : Sound ⟨b, []⟩
  orderly : Orderly b []

namespace Rested

/-- A new backend is at rest. -/
theorem onDevice (d : Device) (s : Config.Settings) : Rested (onDevice d s) :=
  ⟨sound_onDevice d s, .onDevice d s⟩

/-- An operation that forces nothing leaves a backend at rest. -/
theorem step (hb : Rested b) (hforced : op.isForced = false) : Rested (b.step op).2 := by
  rcases exists_trail hb.sound op with ⟨⟨t, htrail⟩, -⟩
  exact ⟨htrail.sound hb.sound, Booked.orderly (settles_step hb.sound hforced).1 hb.orderly⟩

/-- A session that forces nothing leaves a backend at rest. -/
theorem after (hb : Rested b) (hops : Unforced ops) : Rested (b.after ops) := by
  induction ops generalizing b with
  | nil => exact hb
  | cons op ops ih =>
    rcases List.forall_mem_cons.mp hops with ⟨hop, hrest⟩
    exact ih (hb.step hop) hrest

/-- What waits for a submission does so throughout a session. -/
theorem waits_after {n : Nat} (hb : Rested b) (hops : Unforced ops) (hw : Waits n id b []) :
    Waits n id (b.after ops) [] := by
  induction ops generalizing b with
  | nil => exact hw
  | cons op ops ih =>
    rcases List.forall_mem_cons.mp hops with ⟨hop, hrest⟩
    exact ih (hb.step hop) hrest (Booked.waits (settles_step hb.sound hop).1 hb.orderly hw)

/-- A parked tensor stays until the next submission and goes with it. -/
theorem live_after_iff (hb : Rested b) (hops : Unforced ops) (hid : id ∈ b.batch.deferred) :
    (b.after ops).tensors.contains id = true ↔
      (b.after ops).batch.submissions = b.batch.submissions :=
  (hb.waits_after hops (.parked rfl rfl hid)).live_iff (hb.after hops).orderly

/-- What an operation does to the references of a tensor that is not parked. -/
theorem spends (hb : Rested b) (hforced : op.isForced = false)
    (hlive : b.tensors.contains id = true) (hid : id ∉ b.batch.deferred) :
    Spending op ⟨b, op.returned, []⟩ ⟨(b.step op).2, op.granted (b.step op).1, []⟩ id := by
  rcases Registry.contains_iff_get.mp hlive with ⟨r, hget⟩
  refine Booked.spends (settles_step hb.sound hforced).1 hb.orderly ?_
  refine ⟨Nat.le_refl _, hb.orderly.sound.lt_next_of_get hget, ?_⟩
  rintro (hparked | hleaving)
  · exact absurd hparked hid
  · cases hleaving

end Rested

/-- How tensors leave the registry in a session that forces nothing.  A tensor that is not parked goes
in an operation only if all its references are given up, by the caller or by complex tensors that go as
well, and it is parked only when no reference to it is left.  A parked tensor is there as long as
nothing is submitted and gone after the next submission, whatever references to it were added
meanwhile. -/
theorem tensors_go_spent_or_parked (d : Device) (s : Config.Settings) (ops : List Operation)
    (hops : Unforced ops) :
    let b := (onDevice d s).after ops
    (∀ op id, op.isForced = false → b.tensors.contains id = true → id ∉ b.batch.deferred →
      let b' := (b.step op).2
      (b'.tensors.contains id = false →
        b.references id + b'.tensors.slots.count id ≤
          op.returned.count id + b.tensors.slots.count id) ∧
      (id ∈ b'.batch.deferred → b'.references id = 0)) ∧
    ∀ later id, Unforced later → id ∈ b.batch.deferred →
      ((b.after later).tensors.contains id = true ↔
        (b.after later).batch.submissions = b.batch.submissions) := by
  intro b
  have hb : Rested b := (Rested.onDevice d s).after hops
  refine ⟨fun op id hforced hlive hid => ?_, fun later id hlater hid => hb.live_after_iff hlater hid⟩
  have hspends := hb.spends hforced hlive hid
  refine ⟨fun hgone => ?_, fun hparked => (hspends.spent (.inl hparked)).2⟩
  have hpaid := hspends.paid
  have hnone : (b.step op).2.references id = 0 := references_of_gone hgone
  simp only [Books.held, hnone] at hpaid
  omega

/-! ## A parked tensor with a new reference -/

/-- One tensor of one float, which is copied and then given up. -/
def parking : List Operation :=
  [.write (.float32 [0x3f800000]) [1], .run copyJob, .drop ⟨0⟩ false]

/-- The backend after the tensor was copied. -/
def copiedAlone : Backend :=
  (copyJob.carryOut copyKernel copyLaunch
    ((onDevice {} {}).step (.write (.float32 [0x3f800000]) [1])).2).2

/-- A session that starts with a tensor and its copy goes on from the backend above. -/
theorem after_copiedAlone (ops : List Operation) :
    (onDevice {} {}).after (.write (.float32 [0x3f800000]) [1] :: .run copyJob :: ops) =
      copiedAlone.after ops := by
  let b := ((onDevice {} {}).step (.write (.float32 [0x3f800000]) [1])).2
  have hkernel : copyJob.kernel b.tensors = .ok copyKernel := by rfl
  have hrun : run copyJob b = copyJob.carryOut copyKernel copyLaunch b :=
    run_eq_carryOut rfl hkernel (by decide) launch_copyKernel
  have hstep : (b.step (.run copyJob)).2 = copiedAlone :=
    (snd_bind_pure _ _ _).trans (congrArg Prod.snd hrun)
  rw [after_cons, after_cons, hstep]

private theorem after_parking (ops : List Operation) :
    (onDevice {} {}).after (parking ++ ops) = copiedAlone.after (.drop ⟨0⟩ false :: ops) :=
  after_copiedAlone _

private theorem parked_after (ops : List Operation) :
    ((onDevice {} {}).after parking).after ops = copiedAlone.after (.drop ⟨0⟩ false :: ops) := by
  rw [← after_append, after_parking]

/-- A tensor that is parked is gone after the next submission. -/
theorem parked_tensor_goes_with_submission :
    let b := (onDevice {} {}).after parking
    Unforced parking ∧ Unforced [.submit] ∧ ⟨0⟩ ∈ b.batch.deferred ∧
      ¬ (b.after [.submit]).tensors.contains ⟨0⟩ = true := by
  intro b
  have hops : Unforced parking := by decide
  have hlater : Unforced [.submit] := by decide
  have hparked : ⟨0⟩ ∈ b.batch.deferred := by
    change _ ∈ (b.after []).batch.deferred
    rw [parked_after]
    decide +kernel
  have hbefore : b.batch.submissions = 0 := by
    change (b.after []).batch.submissions = 0
    rw [parked_after]
    decide +kernel
  have hsubmitted : (b.after [.submit]).batch.submissions = 1 := by
    rw [parked_after]
    decide +kernel
  refine ⟨hops, hlater, hparked, ?_⟩
  rw [(tensors_go_spent_or_parked {} {} parking hops).2 _ _ hlater hparked, hbefore, hsubmitted]
  decide

/-- A reference that is added to a parked tensor does not keep it.  The count of references is
answered as one, yet the next submission removes the tensor and gives its buffer back to the pool. -/
theorem retained_tensor_goes_with_submission :
    let b := (onDevice {} {}).after parking
    let retained := b.after [.retain ⟨0⟩]
    let submitted := b.after [.retain ⟨0⟩, .submit]
    (b.step (.retain ⟨0⟩)).1 = .ok (.count 1) ∧ retained.references ⟨0⟩ = 1 ∧
      retained.tensors.resource? ⟨0⟩ = some ⟨0, tensorKey 4⟩ ∧
      submitted.tensors.contains ⟨0⟩ = false ∧ ⟨0, tensorKey 4⟩ ∈ submitted.pool.free := by
  intro b retained submitted
  have hb : b = copiedAlone.after [.drop ⟨0⟩ false] := parked_after []
  have hretained : retained = copiedAlone.after [.drop ⟨0⟩ false, .retain ⟨0⟩] := parked_after _
  have hsubmitted : submitted = copiedAlone.after [.drop ⟨0⟩ false, .retain ⟨0⟩, .submit] :=
    parked_after _
  rw [hb, hretained, hsubmitted]
  refine ⟨?_, ?_, ?_, ?_, ?_⟩ <;> decide +kernel

end ComputeKernels.Backend

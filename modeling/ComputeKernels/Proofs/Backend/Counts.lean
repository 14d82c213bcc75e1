import ComputeKernels.Proofs.Backend.Parking

/-!
# Counts of references

A caller owns a tensor once for the answer that named it first and once for every reference that was
added since, less the references that were given up.  In a session that forces nothing and in which
the caller names only tensors that it owns, the count of every tensor is what the caller owns and what
complex tensors refer to.  So the parts of complex tensors are always there, and what is not referred
to any more waits for the next submission.

Main results:

- Theorem `Booking.counted`: bookings keep the counts.
- Theorem `Counted.step`: so do operations of a caller that owns what it names.
- Theorem `nodup_issued`: no tensor gets the id of another.
- Theorem `references_are_conserved`: the counts of references in a session.
-/

namespace ComputeKernels.Backend

open Tensor Buffer Device

/-! ## Claims of a caller -/

/-- How often a caller owns each tensor. -/
abbrev Claims := TensorId → Nat

/-- What a caller owns after an operation. -/
def Claims.settle (own : Claims) (op : Operation) (answer : Except KernelError Answer) : Claims :=
  fun id => own id - op.returned.count id + (op.granted answer).count id

/-- An operation forces nothing, and its caller owns what it names. -/
def Entitled (own : Claims) (op : Operation) : Prop :=
  op.isForced = false ∧ ∀ id ∈ op.named, 0 < own id
deriving Decidable

/-- A session whose caller is entitled to every operation. -/
def Honest : Claims → Backend → List Operation → Prop
  | _, _, [] => True
  | own, b, op :: ops => Entitled own op ∧ Honest (own.settle op (b.step op).1) (b.step op).2 ops

instance decidableHonest :
    (own : Claims) → (b : Backend) → (ops : List Operation) → Decidable (Honest own b ops)
  | _, _, [] => inferInstanceAs (Decidable True)
  | own, b, op :: ops =>
    have := decidableHonest (own.settle op (b.step op).1) (b.step op).2 ops
    inferInstanceAs
      (Decidable (Entitled own op ∧ Honest (own.settle op (b.step op).1) (b.step op).2 ops))

/-- What a caller owns after a session. -/
def Claims.after (own : Claims) (b : Backend) : List Operation → Claims
  | [] => own
  | op :: ops => (own.settle op (b.step op).1).after (b.step op).2 ops

variable {own : Claims} {op : Operation} {ops : List Operation} {b b' : Backend} {id : TensorId}

/-! ## Bookings of floats -/

/-- A float stays one as long as it lives. -/
theorem Booking.isFloat {x y : Books} (h : Booking op x y) (hr : x.backend.tensors.Sound)
    (hfloat : x.backend.tensors.IsFloat id) (hlive : y.backend.tensors.contains id = true) :
    y.backend.tensors.IsFloat id := by
  have hremoved {b : Backend} {i : TensorId} (hfloat : b.tensors.IsFloat id)
      (hlive : (b.tensors.remove i).2.contains id = true) : (b.tensors.remove i).2.IsFloat id :=
    Registry.isFloat_remove (Registry.contains_remove.mp hlive).1 hfloat
  cases h with
  | quiet h hloose => exact Registry.isFloat_of_outlines (congrArg Tally.outlines h) hfloat
  | add hreferences hparts => exact hr.isFloat_insert hfloat _
  | retain hop hnamed hget => exact Registry.isFloat_put hget rfl hfloat
  | waive h => exact hfloat
  | lower hget hdeferred hmany => exact Registry.isFloat_put hget rfl hfloat
  | park hop hget hdeferred hlast htouched => exact Registry.isFloat_put hget rfl hfloat
  | last hget hdeferred hlast => exact hremoved hfloat hlive
  | forget hget => exact hremoved hfloat hlive
  | miss h => exact hfloat
  | record h => exact Registry.isFloat_of_outlines (congrArg Tally.outlines h) hfloat
  | submit hop => exact hfloat

/-- A new slot is filled by a float. -/
theorem Booking.slots_before {x y : Books} (h : Booking op x y) (hr : x.backend.tensors.Sound)
    (hid : id ∈ y.backend.tensors.slots) :
    id ∈ x.backend.tensors.slots ∨ x.backend.tensors.IsFloat id := by
  cases h with
  | quiet h hloose =>
    exact .inl (Registry.slots_of_outlines (congrArg Tally.outlines h) ▸ hid)
  | add hreferences hparts =>
    rcases List.mem_append.mp ((hr.slots_insert _).mem_iff.mp hid) with hpart | hbefore
    · exact .inr (hparts id hpart)
    · exact .inl hbefore
  | retain hop hnamed hget => exact .inl ((slots_recount hr hget _).mem_iff.mp hid)
  | waive h => exact .inl hid
  | lower hget hdeferred hmany => exact .inl ((slots_recount hr hget _).mem_iff.mp hid)
  | park hop hget hdeferred hlast htouched =>
    exact .inl ((slots_recount hr hget _).mem_iff.mp hid)
  | last hget hdeferred hlast =>
    exact .inl ((hr.slots_remove hget).mem_iff.mpr (List.mem_append_right _ hid))
  | forget hget => exact .inl ((hr.slots_remove hget).mem_iff.mpr (List.mem_append_right _ hid))
  | miss h => exact .inl hid
  | record h => exact .inl (Registry.slots_of_outlines (congrArg Tally.outlines h) ▸ hid)
  | submit hop => exact .inl hid

/-! ## Counts -/

/-- The books of a caller that owns what it names: the count of a tensor is what the caller owns and
what is held otherwise, the parts of complex tensors are floats, and a tensor waits for a submission
just when nothing refers to it. -/
structure Counted (own : Claims) (x : Books) : Prop where
  count : ∀ id, x.backend.references id = own id + x.held id
  floats : ∀ id ∈ x.backend.tensors.slots, x.backend.tensors.IsFloat id
  spent : ∀ id, id ∈ x.backend.batch.deferred ∨ id ∈ x.leaving → x.backend.references id = 0
  waiting : ∀ id, x.backend.tensors.contains id = true → x.backend.references id = 0 →
    id ∈ x.backend.batch.deferred ∨ id ∈ x.leaving

private theorem contains_of_references (h : 0 < b.references id) :
    b.tensors.contains id = true := by
  by_contra hgone
  have hnone := references_of_gone (Bool.eq_false_iff.mpr hgone)
  omega

namespace Counted

private theorem onDevice (d : Device) (s : Config.Settings) :
    Counted (fun _ => 0) ⟨onDevice d s, [], []⟩ where
  count := fun _ => rfl
  floats := nofun
  spent := fun _ _ => rfl
  waiting := nofun

variable {x y : Books}

private theorem booking_count (hc : Counted own x) (h : Booking op x y)
    (hr : x.backend.tensors.Sound)
    (id : TensorId) : y.backend.references id = own id + y.held id := by
  have hcount := hc.count id
  rcases h.balance hr id with heven | ⟨hreferences, hheld, hwaived⟩ | ⟨hleaving, hgone, hheld⟩
  · omega
  · -- A reference that is held is counted.
    have hspent : x.backend.references id = 0 := by
      rcases hwaived with hnone | hparked
      · exact hnone
      · exact hc.spent id (.inl hparked)
    omega
  · have hspent := hc.spent id (.inr hleaving)
    omega

private theorem booking_spent (hc : Counted own x) (h : Booking op x y)
    (hx : Orderly x.backend x.leaving)
    (hnamed : op.retains = true → ∀ id ∈ op.named, 0 < own id)
    (hid : id ∈ y.backend.batch.deferred ∨ id ∈ y.leaving) : y.backend.references id = 0 := by
  rcases h.waiting_before hid with hbefore | hnow
  · have hspent := hc.spent id hbefore
    have hold : id.number < x.backend.tensors.next := by
      rcases hbefore with hparked | hleaving
      · exact hx.lt_next_of_parked hparked
      · exact hx.old id hleaving
    rcases h.references_le hold with hle | ⟨hop, hmem⟩
    · omega
    · -- A tensor that the caller owns is referred to.
      have hown := hnamed hop id hmem
      have hcount := hc.count id
      omega
  · exact hnow.2

section Waiting

variable {i : TensorId} {r : Record} {loose leaving : List TensorId}

private theorem waiting_of_put {n : Nat} (hc : Counted own ⟨b, loose, leaving⟩)
    (hget : b.tensors.get i = .ok r) (hid : id ≠ i)
    (hlive : (b.tensors.put i { r with references := n }).contains id = true)
    (hnone : ({ b with tensors := b.tensors.put i { r with references := n } } : Backend).references
      id = 0) : id ∈ b.batch.deferred ∨ id ∈ leaving := by
  rw [Registry.contains_put hget] at hlive
  rw [references_put, if_neg hid] at hnone
  exact hc.waiting id hlive hnone

private theorem waiting_of_remove (hc : Counted own ⟨b, loose, leaving⟩)
    (hlive : (b.tensors.remove i).2.contains id = true)
    (hnone : ({ b with tensors := (b.tensors.remove i).2 } : Backend).references id = 0) :
    id ≠ i ∧ (id ∈ b.batch.deferred ∨ id ∈ leaving) := by
  rcases Registry.contains_remove.mp hlive with ⟨hid, hbefore⟩
  rw [references_remove, if_neg hid] at hnone
  exact ⟨hid, hc.waiting id hbefore hnone⟩

private theorem waiting_of_tally (hc : Counted own ⟨b, loose, leaving⟩)
    (houtlines : b'.tensors.outlines = b.tensors.outlines)
    (hdeferred : b'.batch.deferred = b.batch.deferred)
    (hlive : b'.tensors.contains id = true) (hnone : b'.references id = 0) :
    id ∈ b'.batch.deferred ∨ id ∈ leaving := by
  rw [Registry.contains_of_outlines houtlines] at hlive
  rw [references_of_outlines houtlines] at hnone
  rw [hdeferred]
  exact hc.waiting id hlive hnone

end Waiting

private theorem booking_waiting (hc : Counted own x) (h : Booking op x y)
    (hlive : y.backend.tensors.contains id = true) (hnone : y.backend.references id = 0) :
    id ∈ y.backend.batch.deferred ∨ id ∈ y.leaving := by
  cases h with
  | quiet h hloose =>
    exact hc.waiting_of_tally (congrArg Tally.outlines h) (congrArg Tally.deferred h) hlive hnone
  | @add b r loose leaving hreferences hparts =>
    rw [references_insert hreferences] at hnone
    by_cases hid : id = ⟨b.tensors.next⟩
    · rw [if_pos hid] at hnone
      cases hnone
    · rw [if_neg hid] at hnone
      exact hc.waiting id ((Registry.contains_insert.mp hlive).resolve_left hid) hnone
  | @retain b i r loose leaving hop hmem hget =>
    by_cases hid : id = i
    · rw [references_put, if_pos hid] at hnone
      cases hnone
    · exact hc.waiting_of_put hget hid hlive hnone
  | waive h => exact hc.waiting id hlive hnone
  | @lower b i r loose leaving hget hdeferred hmany =>
    by_cases hid : id = i
    · rw [references_put, if_pos hid] at hnone
      dsimp only at hnone
      omega
    · exact hc.waiting_of_put hget hid hlive hnone
  | @park b i r loose leaving hop hget hdeferred hlast htouched =>
    rw [deferred_defer hdeferred]
    by_cases hid : id = i
    · refine .inl (List.mem_append_right _ ?_)
      rw [hid]
      exact List.mem_cons_self
    · exact (hc.waiting_of_put hget hid hlive hnone).imp_left (List.mem_append_left _)
  | last hget hdeferred hlast => exact (hc.waiting_of_remove hlive hnone).2
  | forget hget =>
    rcases hc.waiting_of_remove hlive hnone with ⟨hid, hwaits⟩
    exact hwaits.imp_right fun hmem => (List.mem_cons.mp hmem).resolve_left hid
  | @miss b i loose leaving h =>
    have hid : id ≠ i := by
      rintro rfl
      rw [h] at hlive
      cases hlive
    exact (hc.waiting id hlive hnone).imp_right fun hmem => (List.mem_cons.mp hmem).resolve_left hid
  | record h =>
    exact hc.waiting_of_tally (congrArg Tally.outlines h) (congrArg Tally.deferred h) hlive hnone
  | submit hop => exact .inr ((hc.waiting id hlive hnone).resolve_right List.not_mem_nil)

/-- Bookings keep the counts. -/
theorem booking (hc : Counted own x) (h : Booking op x y) (hx : Orderly x.backend x.leaving)
    (hnamed : op.retains = true → ∀ id ∈ op.named, 0 < own id) : Counted own y where
  count := hc.booking_count h hx.sound
  floats := by
    intro id hid
    have hfloat : x.backend.tensors.IsFloat id := by
      rcases h.slots_before hx.sound hid with hbefore | hfloat
      · exact hc.floats id hbefore
      · exact hfloat
    refine h.isFloat hx.sound hfloat (contains_of_references ?_)
    have hcount := hc.booking_count h hx.sound id
    have hslot : 0 < y.backend.tensors.slots.count id := List.count_pos_iff.mpr hid
    unfold Books.held at hcount
    omega
  spent := fun _ => hc.booking_spent h hx hnamed
  waiting := fun _ => hc.booking_waiting h

private theorem booked (hc : Counted own x) (h : Booked op x y) (hx : Orderly x.backend x.leaving)
    (hnamed : op.retains = true → ∀ id ∈ op.named, 0 < own id) : Counted own y := by
  induction h with
  | refl => exact hc
  | tail hbefore hstep ih => exact ih.booking hstep (Booked.orderly hbefore hx) hnamed

end Counted

/-! ## Operations -/

/-- A caller gives up only what it owns. -/
theorem Entitled.count_returned_le (hop : Entitled own op) (id : TensorId) :
    op.returned.count id ≤ own id := by
  cases op with
  | drop i force =>
    by_cases hid : id = i
    · have hown : 0 < own i := hop.2 i List.mem_cons_self
      rw [hid]
      simp only [Operation.returned, List.count_singleton_self]
      exact hown
    · simp [Operation.returned, Ne.symm hid]
  | _ => simp [Operation.returned]

/-- Operations keep the counts of a caller that owns what it names. -/
theorem Counted.step (hc : Counted own ⟨b, [], []⟩) (hb : Rested b) (hop : Entitled own op) :
    Counted (own.settle op (b.step op).1) ⟨(b.step op).2, [], []⟩ := by
  let kept : Claims := fun id => own id - op.returned.count id
  have hnamed : op.retains = true → ∀ id ∈ op.named, 0 < kept id := by
    intro hretains id hid
    have hnothing : op.returned = [] := by cases op <;> first | rfl | cases hretains
    have hown := hop.2 id hid
    simp only [kept, hnothing, List.count_nil]
    omega
  have hbefore : Counted kept ⟨b, op.returned, []⟩ := by
    refine ⟨fun id => ?_, hc.floats, hc.spent, hc.waiting⟩
    have hcount := hc.count id
    have hle := hop.count_returned_le id
    simp only [Books.held, List.count_nil] at hcount
    simp only [Books.held, kept]
    omega
  have hafter := hbefore.booked (settles_step hb.sound hop.1).1 hb.orderly hnamed
  refine ⟨fun id => ?_, hafter.floats, hafter.spent, hafter.waiting⟩
  have hcount := hafter.count id
  simp only [Books.held, kept] at hcount
  simp only [Books.held, Claims.settle, List.count_nil]
  omega

/-! ## Sessions -/

private theorem Honest.unforced (h : Honest own b ops) : Unforced ops := by
  induction ops generalizing own b with
  | nil => exact List.forall_mem_nil _
  | cons op ops ih => exact List.forall_mem_cons.mpr ⟨h.1.1, ih h.2⟩

private theorem honest_append {ops' : List Operation} : Honest own b (ops ++ ops') ↔
    Honest own b ops ∧ Honest (own.after b ops) (b.after ops) ops' := by
  induction ops generalizing own b with
  | nil => simp [Honest, Claims.after, Backend.after]
  | cons op ops ih =>
    change Entitled own op ∧ Honest _ _ (ops ++ ops') ↔ (Entitled own op ∧ Honest _ _ ops) ∧ _
    rw [ih, and_assoc]
    rfl

/-- Sessions keep the counts of a caller that owns what it names. -/
theorem Counted.after (hc : Counted own ⟨b, [], []⟩) (hb : Rested b) (hops : Honest own b ops) :
    Counted (own.after b ops) ⟨b.after ops, [], []⟩ := by
  induction ops generalizing own b with
  | nil => exact hc
  | cons op ops ih => exact ih (hc.step hb hops.1) (hb.step hops.1.1) hops.2

/-! ## Ids -/

/-- Tensors that are live on a backend and were not on another. -/
def arrivals (b b' : Backend) : List TensorId :=
  b'.tensors.records.keys.filter fun id => !b.tensors.contains id

/-- Tensors that come up in a session, in order. -/
def issued : Backend → List Operation → List TensorId
  | _, [] => []
  | b, op :: ops => arrivals b (b.step op).2 ++ issued (b.step op).2 ops

private theorem mem_arrivals_iff :
    id ∈ arrivals b b' ↔ b'.tensors.contains id = true ∧ b.tensors.contains id = false := by
  have hkeys : id ∈ b'.tensors.records.keys ↔ b'.tensors.contains id = true := by
    rw [Registry.contains, Table.contains, Option.isSome_iff_ne_none, Ne, Table.get?_eq_none_iff,
      not_not]
  rw [arrivals, List.mem_filter, hkeys, Bool.not_eq_true']

/-- What comes up in an operation has a new id. -/
theorem next_le_of_arrival (hm : Sound ⟨b, []⟩) (hid : id ∈ arrivals b (b.step op).2) :
    b.tensors.next ≤ id.number ∧ id.number < (b.step op).2.tensors.next := by
  rcases exists_trail hm op with ⟨⟨t, htrail⟩, -⟩
  rcases mem_arrivals_iff.mp hid with ⟨hlive, hnew⟩
  rcases Registry.contains_iff_get.mp hlive with ⟨r, hget⟩
  have hsound : Sound ⟨(b.step op).2, []⟩ := htrail.sound hm
  refine ⟨Nat.le_of_not_lt fun hold => ?_, hsound.registered.sound.lt_next_of_get hget⟩
  rcases htrail.lasting.resource id r hget hold with ⟨found, hfound, -⟩
  rw [Registry.contains_of_get hfound] at hnew
  cases hnew

private theorem next_le_of_issued (hm : Sound ⟨b, []⟩) (hid : id ∈ issued b ops) :
    b.tensors.next ≤ id.number := by
  induction ops generalizing b with
  | nil => cases hid
  | cons op ops ih =>
    rcases exists_trail hm op with ⟨⟨t, htrail⟩, -⟩
    rcases List.mem_append.mp hid with hnow | hlater
    · exact (next_le_of_arrival hm hnow).1
    · exact Nat.le_trans htrail.lasting.next_le (ih (htrail.sound hm) hlater)

/-- No tensor gets the id of another. -/
theorem nodup_issued (hm : Sound ⟨b, []⟩) (ops : List Operation) : (issued b ops).Nodup := by
  induction ops generalizing b with
  | nil => exact List.nodup_nil
  | cons op ops ih =>
    rcases exists_trail hm op with ⟨⟨t, htrail⟩, -⟩
    have hsound : Sound ⟨(b.step op).2, []⟩ := htrail.sound hm
    have hkeys : (b.step op).2.tensors.records.keys.Nodup := hsound.registered.sound.keyed
    refine List.nodup_append.mpr ⟨hkeys.filter _, ih hsound, ?_⟩
    rintro id hnow _ hlater rfl
    have hlt := (next_le_of_arrival hm hnow).2
    have hle := next_le_of_issued hsound hlater
    omega

private theorem answer_of_map {α : Type} {x : Action α} {g : α → Answer} {answer : Answer}
    (h : ((g <$> x) b).1 = .ok answer) : ∃ a, answer = g a := by
  cases hresult : x b with
  | mk r b' =>
    cases r with
    | error e =>
      have hmap : (g <$> x) b = (.error e, b') := Action.bind_apply_error hresult
      rw [hmap] at h
      cases h
    | ok a =>
      have hmap : (g <$> x) b = (.ok (g a), b') := Action.bind_apply_ok hresult
      rw [hmap] at h
      exact ⟨a, (Except.ok.inj h).symm⟩

/-- The caller gets one reference to the tensor that it is answered with. -/
theorem granted_of_tensor {handle : Handle} (h : (b.step op).1 = .ok (.tensor handle)) :
    op.granted (b.step op).1 = [handle.id] := by
  rw [h]
  cases op with
  | retain id =>
    rcases answer_of_map h with ⟨_, hcount⟩
    cases hcount
  | _ => rfl

/-- A tensor that is answered comes up with the answer. -/
theorem mem_arrivals_of_answer {handle : Handle} (hc : Counted own ⟨b, [], []⟩) (hb : Rested b)
    (hop : Entitled own op) (hanswer : (b.step op).1 = .ok (.tensor handle)) :
    handle.id ∈ arrivals b (b.step op).2 := by
  refine mem_arrivals_iff.mpr ⟨contains_of_references ?_, Bool.eq_false_iff.mpr fun hbefore => ?_⟩
  · have hcount := (hc.step hb hop).count handle.id
    simp only [Claims.settle, granted_of_tensor hanswer, List.count_singleton_self] at hcount
    omega
  · have hnew := (settles_step hb.sound hop.1).2 handle hanswer
    rcases Registry.contains_iff_get.mp hbefore with ⟨r, hget⟩
    have hold := hb.orderly.sound.lt_next_of_get hget
    omega

/-! ## Conservation -/

/-- The counts of references in a session that forces nothing, whose caller names only what it owns.
The count of every tensor is what the caller owns of it and how often it is a part of a live complex
tensor.  What the caller owns is there, and so are the parts of complex tensors, as floats.  A tensor
with no references is parked; a pass of the open encoder refers to it, and it is there as long as
nothing is submitted and gone after the next submission.  The answer to giving up a tensor says
whether it is gone.  No id is issued twice, and every answered id is issued with the answer. -/
theorem references_are_conserved (d : Device) (s : Config.Settings) (ops : List Operation)
    (hops : Honest (fun _ => 0) (onDevice d s) ops) :
    let b := (onDevice d s).after ops
    let own := Claims.after (fun _ => 0) (onDevice d s) ops
    (∀ id r, b.tensors.get id = .ok r → r.references = own id + b.tensors.slots.count id) ∧
      (∀ id, 0 < own id → b.tensors.contains id = true) ∧
      (∀ id r real imag, b.tensors.get id = .ok r → r.parts = some (real, imag) →
        b.tensors.IsFloat real ∧ b.tensors.IsFloat imag) ∧
      (∀ id r, b.tensors.get id = .ok r → r.references = 0 →
        id ∈ b.batch.deferred ∧ (∃ p ∈ b.encoder.getD [], id ∈ p.inputs ++ [p.output]) ∧
          ∀ later, Unforced later → ((b.after later).tensors.contains id = true ↔
            (b.after later).batch.submissions = b.batch.submissions)) ∧
      (∀ id, ∃ flag, (b.step (.drop id false)).1 = .ok (.gone flag) ∧
        (flag = true ↔ (b.step (.drop id false)).2.tensors.contains id = false)) ∧
      (issued (onDevice d s) ops).Nodup ∧
      ∀ op handle, Entitled own op → (b.step op).1 = .ok (.tensor handle) →
        handle.id ∈ arrivals b (b.step op).2 := by
  intro b own
  have hnew : Rested (onDevice d s) := .onDevice d s
  have hb : Rested b := hnew.after hops.unforced
  have hc : Counted own ⟨b, [], []⟩ := (Counted.onDevice d s).after hnew hops
  have hcount (id : TensorId) : b.references id = own id + b.tensors.slots.count id := hc.count id
  refine ⟨fun id r hget => ?_, fun id hown => ?_, fun id r real imag hget hparts => ?_,
    fun id r hget hnone => ?_, drop_answers hb.sound, nodup_issued hnew.sound ops,
    fun op handle hop hanswer => mem_arrivals_of_answer hc hb hop hanswer⟩
  · rw [← references_of_get hget]
    exact hcount id
  · refine contains_of_references ?_
    have hid := hcount id
    omega
  · have hslots : r.partList = [real, imag] := by rw [Record.partList, hparts]
    refine ⟨hc.floats real ?_, hc.floats imag ?_⟩
    · exact Registry.mem_slots_of_get hget (by simp [hslots])
    · exact Registry.mem_slots_of_get hget (by simp [hslots])
  · have hreferences : b.references id = 0 := (references_of_get hget).trans hnone
    have hparked : id ∈ b.batch.deferred :=
      (hc.waiting id (Registry.contains_of_get hget) hreferences).resolve_right List.not_mem_nil
    refine ⟨hparked, ?_, fun later hlater => hb.live_after_iff hlater hparked⟩
    have htouched := hb.orderly.touched id hparked
    rw [hb.orderly.encoded] at htouched
    exact List.mem_flatMap.mp htouched

/-! ## A tensor that is both parts of another -/

/-- A tensor of one float, and a complex tensor of which it is both parts. -/
def doubling : List Operation :=
  [.write (.float32 [0x3f800000]) [1], .complex ⟨⟨0⟩, [1], .float32⟩ ⟨⟨0⟩, [1], .float32⟩]

/-- The backend with both of them. -/
def doubled : Backend := (onDevice {} {}).after doubling

/-- What copying the float comes to. -/
def doubledCopy : Except KernelError Answer × Backend :=
  (Answer.tensor <$> copyJob.carryOut copyKernel copyLaunch) doubled

private theorem map_apply_congr {α : Type} {x y : Action α} (g : α → Answer) (h : x b = y b) :
    (g <$> x) b = (g <$> y) b := by
  cases hresult : y b with
  | mk r b' =>
    rw [hresult] at h
    cases r with
    | error e => exact (Action.bind_apply_error h).trans (Action.bind_apply_error hresult).symm
    | ok a =>
      have hx : (g <$> x) b = (.ok (g a), b') := Action.bind_apply_ok h
      have hy : (g <$> y) b = (.ok (g a), b') := Action.bind_apply_ok hresult
      rw [hx, hy]

private theorem step_doubled : doubled.step (.run copyJob) = doubledCopy := by
  have hkernel : copyJob.kernel doubled.tensors = .ok copyKernel := by rfl
  have hrun : run copyJob doubled = copyJob.carryOut copyKernel copyLaunch doubled :=
    run_eq_carryOut rfl hkernel (by decide) launch_copyKernel
  exact map_apply_congr Answer.tensor hrun

/-- The caller gives up the float and its copy.  Two references to the float are left, and the copy is
parked. -/
theorem doubled_tensor_is_referred_to_twice :
    let ops := doubling ++ [.run copyJob, .drop ⟨0⟩ false, .drop ⟨2⟩ false]
    let b := (onDevice {} {}).after ops
    let own := Claims.after (fun _ => 0) (onDevice {} {}) ops
    Honest (fun _ => 0) (onDevice {} {}) ops ∧ b.tensors.slots.count ⟨0⟩ = 2 ∧
      (∃ r, b.tensors.get ⟨0⟩ = .ok r ∧ r.references = own ⟨0⟩ + 2) ∧ ⟨2⟩ ∈ b.batch.deferred := by
  intro ops b own
  let rest : List Operation := [.drop ⟨0⟩ false, .drop ⟨2⟩ false]
  have hb : b = doubledCopy.2.after rest := by
    rw [← step_doubled, doubled, ← after_cons, ← after_append]
  have hops : Honest (fun _ => 0) (onDevice {} {}) ops := by
    refine honest_append.mpr ⟨by decide +kernel, by decide +kernel, ?_⟩
    change Honest (Claims.settle _ _ (doubled.step (.run copyJob)).1)
      (doubled.step (.run copyJob)).2 rest
    rw [step_doubled]
    decide +kernel
  rcases references_are_conserved {} {} ops hops with ⟨hcount, -, -, hparked, -⟩
  have hslots : b.tensors.slots.count ⟨0⟩ = 2 := by
    rw [hb]
    decide +kernel
  have hlive : ∀ id ∈ [⟨0⟩, ⟨2⟩], b.tensors.contains id = true := by
    rw [hb]
    decide +kernel
  have hnone : b.references ⟨2⟩ = 0 := by
    rw [hb]
    decide +kernel
  rcases Registry.contains_iff_get.mp (hlive ⟨0⟩ (by simp)) with ⟨r, hget⟩
  rcases Registry.contains_iff_get.mp (hlive ⟨2⟩ (by simp)) with ⟨r', hget'⟩
  refine ⟨hops, hslots, ⟨r, hget, ?_⟩, (hparked ⟨2⟩ r' hget' ?_).1⟩
  · rw [← hslots]
    exact hcount ⟨0⟩ r hget
  · rw [← references_of_get hget']
    exact hnone

end ComputeKernels.Backend

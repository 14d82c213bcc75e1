import ComputeKernels.Proofs.Backend.ParallelRuns

/-!
# Reads on backends that are seen alike

A read ends alike on both sides, whether it has to submit the open encoder on one of them or not.
Values that a pass computed may differ, since nothing is said here of what shaders compute; all others
are the same.

Main results:

- Theorem `agree_fetch`: bytes are copied to the host alike, as far as their number goes.
- Theorem `agree_readPlain`: a tensor without parts is read alike.
- Theorem `agree_read`: so is every tensor whose parts are still referred to.
-/

namespace ComputeKernels.Backend

open Tensor Buffer Device

variable {α β : Type} {start : Nat} {b b₁ b₂ : Backend} {id : TensorId} {r₁ r₂ : Record}

/-! ## Copies to the host -/

/-- Results that match leave two backends as alike as they were. -/
theorem agree_of {post : α → α → Prop} {s₁ s₂ : Except KernelError α} (h : Alike start b₁ b₂)
    (hmatching : Matching post s₁ s₂) :
    Agree start (view start b₁) (fun a₁ a₂ v => post a₁ a₂ ∧ v = view start b₁)
      (Action.of s₁ b₁) (Action.of s₂ b₂) :=
  .inr (.inr ⟨h, .refl _, hmatching.mono fun _ _ hpost => ⟨hpost, rfl⟩⟩)

private theorem unseen_release (x : Allocation) : Unseen start (Action.release x) := by
  intro b hb
  rcases ends_release hb.poolLive x with hrefused | ⟨hok, hstill, -⟩
  · exact .inl hrefused
  · exact .inr ⟨hok, hstill.tidy hb, hstill.view⟩

/-- As many bytes are mapped on both sides. -/
theorem matching_readMapped (d₁ d₂ : Device) (x₁ x₂ : BufferId) (size : Nat)
    (fault : Option MapFault) :
    Matching (fun bytes₁ bytes₂ => bytes₁.length = bytes₂.length)
      (d₁.readMapped x₁ size fault).1 (d₂.readMapped x₂ size fault).1 := by
  cases fault with
  | some f => exact .error f.error
  | none =>
    refine .ok ?_
    rw [Contents.length_read, Contents.length_read]

/-- As many bytes are copied to the host on both sides. -/
theorem agree_fetch (h : Alike start b₁ b₂) (x₁ x₂ : Allocation) (n : Nat)
    (fault : Option MapFault) :
    Agree start (view start b₁)
      (fun bytes₁ bytes₂ v => bytes₁.length = bytes₂.length ∧ v = view start b₁)
      (fetch x₁ n fault b₁) (fetch x₂ n fault b₂) := by
  unfold fetch
  refine .bind_acquire h _ fun y₁ y₂ c₁ c₂ hkey₁ hkey₂ h₁ h₂ hc => ?_
  have hacquired : view start c₁ = view start b₁ := h₁.view
  have hcopied (b : Backend) (x y : Allocation) :
      Still b { b with device := b.device.copyOut x.buffer y.buffer y.key.size } :=
    still_with_device (batches_copyOut _ _ _) rfl
  refine .bind_still hc rfl rfl (hcopied c₁ x₁ y₁) (hcopied c₂ x₂ y₂) fun hd hcopy => ?_
  have hmapped (b : Backend) (y : Allocation) :
      Still b { b with device := (b.device.readMapped y.buffer y.key.size fault).2 } := by
    refine still_with_device (batches_readMapped _ _ _) ?_
    cases fault <;> rfl
  refine .bind_still hd rfl rfl (hmapped _ y₁) (hmapped _ y₂) fun he hmap => ?_
  refine ((unseen_release y₁).agree (unseen_release y₂) he).bind fun _ _ f₁ f₂ hf hreleased => ?_
  rw [hkey₁, hkey₂]
  refine (agree_of hf (matching_readMapped _ _ _ _ _ fault)).mono ?_
  rintro _ _ _ ⟨hlength, rfl⟩
  exact ⟨hlength, hreleased.trans (hmap.trans (hcopy.trans hacquired))⟩

/-! ## Tensors without parts -/

private theorem unseen_submitBefore (id : TensorId) : Unseen start (submitBefore id) := by
  intro b hb
  unfold submitBefore
  refine .bind_to (a := b.batch.touches id || b.encoder.isSome) rfl ?_
  split
  · exact unseen_submit b hb
  · exact unseen_pure b hb

/-- What two backends answer when a tensor is read: values of the same form, which are the same if no
pass computed them. -/
structure SameRead (v : View) (id : TensorId) (values₁ values₂ : Values) : Prop where
  element_eq : values₁.element = values₂.element
  count_eq : values₁.count = values₂.count
  eq : id ∉ v.outputs → values₁ = values₂

/-- Bytes of the same number become values of the same form. -/
theorem matching_ofDeviceBytes {bytes₁ bytes₂ : List UInt8} (h : bytes₁.length = bytes₂.length)
    (element : ElementType) (n : Nat) (keep : Nat → Nat) :
    Matching (fun v₁ v₂ => v₁.element = element ∧ v₂.element = element ∧ v₁.count = v₂.count)
      (Values.ofDeviceBytes element bytes₁ n keep) (Values.ofDeviceBytes element bytes₂ n keep) := by
  have hmatching : Matching (fun _ _ => True) (Values.ofDeviceBytes element bytes₁ n keep)
      (Values.ofDeviceBytes element bytes₂ n keep) := by
    unfold Values.ofDeviceBytes
    rw [h]
    by_cases hshort : bytes₂.length < keep (4 * n)
    · rw [if_pos hshort, if_pos hshort]
      exact .error _
    · rw [if_neg hshort, if_neg hshort]
      cases element with
      | complex64 => exact .error _
      | float32 => exact .ok trivial
      | int32 => exact .ok trivial
      | bool => exact .ok trivial
  refine hmatching.and_eq.mono fun v₁ v₂ hread => ?_
  rcases Values.formed_ofDeviceBytes hread.2.1 with ⟨helement₁, hcount₁⟩
  rcases Values.formed_ofDeviceBytes hread.2.2 with ⟨helement₂, hcount₂⟩
  exact ⟨helement₁, helement₂, hcount₁.trans hcount₂.symm⟩

/-- The tensor keeps the values that were read; both are alike as far as passes go. -/
theorem agree_keepValues (h : Alike start b₁ b₂) (hc : Counterparts start b₁ b₂ id r₁ r₂)
    {values₁ values₂ : Values} (hleft : values₁.element = r₁.element)
    (hright : values₂.element = r₂.element) (hcount : values₁.count = values₂.count)
    (hcomputed : id ∈ outputs start b₁) :
    Agree start (view start b₁)
      (fun v₁ v₂ v => v₁ = values₁ ∧ v₂ = values₂ ∧ (view start b₁).Steady v)
      ((do
        Action.modify id ({ · with values := some values₁ })
        return values₁ : Action Values) b₁)
      ((do
        Action.modify id ({ · with values := some values₂ })
        return values₂ : Action Values) b₂) := by
  have hamends {b : Backend} {r : Record} {values : Values} (hb : Tidy start b)
      (hget : b.tensors.get id = .ok r) (hreferences : r.references ≠ 0)
      (hvalues : values.element = r.element) :
      Amends start b id r { r with values := some values } := by
    refine ⟨hreferences, rfl, rfl, fun v hv => ?_, (hb.fine id r hget).computed, fun _ hnone => ?_⟩
    · obtain rfl := Option.some.inj hv
      exact hvalues
    · cases hnone
  refine .bind_to (Action.modify_apply hc.get_left) (Action.modify_apply hc.get_right) ?_
  refine agree_put h hc (hamends h.left hc.get_left hc.referenced_left hleft)
    (hamends h.right hc.get_right hc.referenced_right hright) ?_ fun v hv => ⟨rfl, rfl, hv⟩
  -- What a pass computed is not seen.
  have hsight := congrArg (fun t : Sight => { t with hostCount := some values₂.count }) hc.sight_eq
  simpa [Record.sight, hcomputed, hcount] using hsight

/-- While the view stays as it is, a tensor keeps its element, though its record may be another one. -/
theorem Counterparts.later {f₁ f₂ : Backend} (hc : Counterparts start b₁ b₂ id r₁ r₂)
    (hf : Alike start f₁ f₂) (hview : view start f₁ = view start b₁) :
    ∃ s₁ s₂, Counterparts start f₁ f₂ id s₁ s₂ ∧ s₁.element = r₁.element := by
  have hsight : (view start f₁).tensors id =
      some (r₁.sight (decide (id ∈ outputs start b₁))) := by
    rw [hview]
    exact hc.sight_left
  rcases hf.counterparts_of_sight hsight with ⟨s₁, s₂, hc'⟩
  have hlater := Option.some.inj (hc'.sight_left.symm.trans hsight)
  exact ⟨s₁, s₂, hc', congrArg Sight.element hlater⟩

private theorem Counterparts.count_eq (hc : Counterparts start b₁ b₂ id r₁ r₂) :
    r₂.count = r₁.count :=
  congrArg Shape.count hc.shape_eq.symm

/-- Values that are on the host on both sides are answered alike. -/
theorem sameRead_of_values (h : Alike start b₁ b₂) (hc : Counterparts start b₁ b₂ id r₁ r₂)
    {v₁ v₂ : Values} (hvalues₁ : r₁.values = some v₁) (hvalues₂ : r₂.values = some v₂) :
    SameRead (view start b₁) id v₁ v₂ := by
  have helement₁ := (h.left.fine id r₁ hc.get_left).filled v₁ hvalues₁
  have helement₂ := (h.right.fine id r₂ hc.get_right).filled v₂ hvalues₂
  refine ⟨?_, ?_, fun hplain => ?_⟩
  · rw [helement₁, helement₂, hc.element_eq]
  · have hcounts := hc.map_count_values
    rw [hvalues₁, hvalues₂] at hcounts
    exact Option.some.inj hcounts
  · rw [outputs_view] at hplain
    have hsame := hc.values_eq hplain
    rw [hvalues₁, hvalues₂] at hsame
    exact Option.some.inj hsame

/-- Values that were read back from the device are kept alike, after steps that are not seen. -/
theorem agree_keepRead {f₁ f₂ : Backend} (hc : Counterparts start b₁ b₂ id r₁ r₂)
    (hcomputed : id ∈ outputs start b₁) (hf : Alike start f₁ f₂)
    (hview : view start f₁ = view start b₁) {values₁ values₂ : Values}
    (hread₁ : values₁.element = r₁.element) (hread₂ : values₂.element = r₁.element)
    (hcount : values₁.count = values₂.count) :
    Agree start (view start f₁)
      (fun v₁ v₂ v => SameRead (view start b₁) id v₁ v₂ ∧ (view start b₁).Steady v)
      ((do
        Action.modify id ({ · with values := some values₁ })
        return values₁ : Action Values) f₁)
      ((do
        Action.modify id ({ · with values := some values₂ })
        return values₂ : Action Values) f₂) := by
  rcases hc.later hf hview with ⟨s₁, s₂, hc', helement⟩
  have hleft : values₁.element = s₁.element := hread₁.trans helement.symm
  have hright : values₂.element = s₂.element := by
    rw [← hc'.element_eq, helement]
    exact hread₂
  have hcomputed' : id ∈ outputs start f₁ := by
    rw [← outputs_view, hview, outputs_view]
    exact hcomputed
  refine (agree_keepValues hf hc' hleft hright hcount hcomputed').mono ?_
  rintro _ _ v ⟨rfl, rfl, hv⟩
  rw [hview] at hv
  refine ⟨⟨hread₁.trans hread₂.symm, hcount, fun hplain => ?_⟩, hv⟩
  rw [outputs_view] at hplain
  exact absurd hcomputed hplain

/-- A tensor without parts is read alike. -/
theorem agree_readPlain (h : Alike start b₁ b₂) (hid : (view start b₁).Retains id)
    (fault : Option MapFault) :
    Agree start (view start b₁)
      (fun v₁ v₂ v => SameRead (view start b₁) id v₁ v₂ ∧ (view start b₁).Steady v)
      (readPlain id fault b₁) (readPlain id fault b₂) := by
  unfold readPlain
  apply Agree.bind_record h hid
  intro r₁ r₂ hc
  have hfine₁ := h.left.fine id r₁ hc.get_left
  have honHost := hc.isSome_values
  have hresources := hc.isSome_resource
  cases hvalues₁ : r₁.values with
  | some v₁ =>
    rw [hvalues₁] at honHost
    rcases Option.isSome_iff_exists.mp honHost.symm with ⟨v₂, hvalues₂⟩
    rw [hvalues₂]
    exact .ok h ⟨sameRead_of_values h hc hvalues₁ hvalues₂, .refl _⟩
  | none =>
    rw [hvalues₁] at honHost
    have hvalues₂ : r₂.values = none := by simpa using honHost.symm
    rw [hvalues₂]
    cases hresource₁ : r₁.resource with
    | none =>
      rw [hresource₁] at hresources
      have hresource₂ : r₂.resource = none := by simpa using hresources.symm
      rw [hresource₂]
      exact .error h _
    | some x₁ =>
      rw [hresource₁] at hresources
      rcases Option.isSome_iff_exists.mp hresources.symm with ⟨x₂, hresource₂⟩
      have hcomputed : id ∈ outputs start b₁ := hfine₁.source (by simp [hresource₁]) hvalues₁
      rw [hresource₂, hc.count_eq, ← hc.element_eq]
      refine ((unseen_submitBefore id).agree (unseen_submitBefore id) h).bind
        fun _ _ c₁ c₂ halike hview => ?_
      apply (agree_fetch halike x₁ x₂ _ fault).bind
      rintro bytes₁ bytes₂ d₁ d₂ hd ⟨hlength, hview'⟩
      refine .bind_still hd rfl rfl (still_count _) (still_count _) fun he hview'' => ?_
      apply (agree_of he (matching_ofDeviceBytes hlength r₁.element r₁.count Word.wrap)).bind
      rintro values₁ values₂ f₁ f₂ hf ⟨⟨hread₁, hread₂, hcount⟩, hkept⟩
      have hsame : view start f₁ = view start b₁ :=
        hkept.trans (hview''.trans (hview'.trans hview))
      exact agree_keepRead hc hcomputed hf hsame hread₁ hread₂ hcount

/-! ## All tensors -/

/-- Parts of the same form are put together alike. -/
theorem matching_ofParts {re₁ re₂ im₁ im₂ : Values} (hrealElement : re₁.element = re₂.element)
    (hrealCount : re₁.count = re₂.count) (himagElement : im₁.element = im₂.element)
    (himagCount : im₁.count = im₂.count) :
    Matching (fun v₁ v₂ => re₁ = re₂ → im₁ = im₂ → v₁ = v₂) (Values.ofParts re₁ im₁)
      (Values.ofParts re₂ im₂) := by
  have hiff : Values.Pairable re₁ im₁ ↔ Values.Pairable re₂ im₂ := by
    unfold Values.Pairable
    rw [hrealElement, hrealCount, himagElement, himagCount]
  rcases Values.ofParts_cases re₁ im₁ with ⟨hpair₁, v₁, hv₁⟩ | ⟨hpair₁, hv₁⟩
  · rcases Values.ofParts_cases re₂ im₂ with ⟨-, v₂, hv₂⟩ | ⟨hpair₂, -⟩
    · rw [hv₁, hv₂]
      refine .ok fun hreal himag => ?_
      rw [hreal, himag, hv₂] at hv₁
      exact (Except.ok.inj hv₁).symm
    · exact absurd (hiff.mp hpair₁) hpair₂
  · rcases Values.ofParts_cases re₂ im₂ with ⟨hpair₂, -⟩ | ⟨-, hv₂⟩
    · exact absurd (hiff.mpr hpair₂) hpair₁
    · rw [hv₁, hv₂]
      exact .error _

/-- The parts of a tensor in view are still referred to. -/
def View.RetainsParts (v : View) (id : TensorId) : Prop :=
  ∀ t p, v.tensors id = some t → t.parts = some p → v.Retains p.1 ∧ v.Retains p.2

/-- A tensor is read alike if its parts are still referred to. -/
theorem agree_read (h : Alike start b₁ b₂) (hid : (view start b₁).Retains id)
    (hparts : (view start b₁).RetainsParts id) (fault : Option MapFault) :
    Agree start (view start b₁) (fun v₁ v₂ _ => (view start b₁).Hosted id → v₁ = v₂)
      (read id fault b₁) (read id fault b₂) := by
  unfold read
  refine .bind_live h (.bind_record h hid fun r₁ r₂ hc => ?_)
  rw [← hc.parts_eq]
  cases hfound : r₁.parts with
  | none =>
    refine (agree_readPlain h hid fault).mono fun _ _ _ hread hhosted => ?_
    exact hread.1.eq hhosted.given.2
  | some parts =>
    rcases parts with ⟨real, imag⟩
    rcases hparts _ _ hc.sight_left hfound with ⟨hreal, himag⟩
    refine (agree_readPlain h hreal fault).bind ?_
    rintro re₁ re₂ c₁ c₂ hc₁ ⟨hre, hsteady⟩
    refine (agree_readPlain hc₁ (hsteady.retains himag) fault).bind ?_
    rintro im₁ im₂ d₁ d₂ hd ⟨him, -⟩
    refine (agree_of hd (matching_ofParts hre.element_eq hre.count_eq him.element_eq
      him.count_eq)).mono ?_
    rintro _ _ _ ⟨hsame, -⟩ hhosted
    rcases hhosted.parts _ _ hc.sight_left hfound with ⟨hgivenReal, hgivenImag⟩
    refine hsame (hre.eq hgivenReal.2) (him.eq ?_)
    rw [hsteady.outputs_eq]
    exact hgivenImag.2

end ComputeKernels.Backend

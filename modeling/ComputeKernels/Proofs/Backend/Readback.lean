import ComputeKernels.Proofs.Backend.Tensors

/-!
# Reading tensors in moves

A read submits the open encoder before it takes a staging buffer, and gives the staging buffer back
whether the transfer succeeds or not.

Main results:

- Theorem `leads_fetch`: copying a buffer to the host in moves.
- Theorem `leads_read`: reading a tensor in moves.
-/

namespace ComputeKernels.Backend

open Tensor Buffer Device

variable {op : Operation} {held : List Allocation} {b : Backend}

private theorem leads_submitBefore (hm : Sound ⟨b, held⟩) (id : TensorId) :
    Leads op held ⟨b, held⟩ (submitBefore id b) fun _ m' => m'.held = held := by
  unfold submitBefore
  apply Leads.bind_ok (a := b.batch.touches id || b.encoder.isSome) rfl
  split
  · exact (leads_submit hm).mono fun _ _ hpost => hpost.1
  · exact .pure (m := ⟨b, held⟩) rfl

private theorem failsOrdinarily_readMapped (d : Device) (buffer : BufferId) (size : Nat)
    (fault : Option MapFault) : FailsOrdinarily (d.readMapped buffer size fault).1 := by
  cases fault with
  | none => exact failsOrdinarily_ok _
  | some fault =>
    cases fault with
    | refused => exact failsOrdinarily_error rfl
    | unanswered => exact failsOrdinarily_error rfl

/-- Mapping a buffer changes none of them. -/
theorem quiet_readMapped (buffer : BufferId) (size : Nat) (fault : Option MapFault) :
    Quiet b { b with device := (b.device.readMapped buffer size fault).2 } := by
  cases fault with
  | none =>
    exact .of_commands [.map buffer size, .unmap buffer] (by simp [Command.isHarmless])
      ⟨_, _, _, rfl⟩
  | some fault =>
    exact .of_commands [.map buffer size] (by simp [Command.isHarmless]) ⟨_, _, _, rfl⟩

/-- The staging buffer goes back in any case. -/
theorem leads_fetch (hm : Sound ⟨b, held⟩) (x : Allocation) (byteCount : Nat)
    (fault : Option MapFault) :
    Leads op held ⟨b, held⟩ (fetch x byteCount fault b) fun _ m' => m'.held = held := by
  unfold fetch
  apply Leads.bind_acquire rfl
  intro staging pool device hacquire
  have htaken : Sound ⟨{ b with pool, device }, staging :: held⟩ := hm.handOut hacquire
  have hmem : staging ∈ staging :: held := List.mem_cons_self
  refine .bind_move rfl (.copy x.buffer staging.key.size hmem) ?_
  have hcopied := htaken.copy x.buffer staging.key.size hmem
  refine .bind_move rfl (.quiet (quiet_readMapped _ _ fault)) ?_
  have hmapped := hcopied.quiet (quiet_readMapped staging.buffer staging.key.size fault)
  apply Leads.bind hmapped (leads_release hmapped)
  rintro - b' _ hm' ⟨rfl, -⟩
  exact .of_computation (failsOrdinarily_readMapped _ _ _ fault) rfl

/-- Values that were copied from the device are kept by the tensor, if it is still there. -/
theorem leads_keepValues {id : TensorId} {x : Allocation} {b₀ : Backend}
    (hlasting : Lasting b₀ b) (hb₀ : b₀.tensors.Sound) (hx : b₀.tensors.resource? id = some x)
    (values : Values) :
    Leads op held ⟨b, held⟩ (Action.modify id ({ · with values := some values }) b) fun _ m' =>
      m'.held = held := by
  cases hget : b.tensors.get id with
  | error e =>
    have hmodify : Action.modify id ({ · with values := some values }) b = (.error e, b) := by
      simp only [Action.modify, Registry.modify, hget]
      rfl
    rw [hmodify]
    exact .fail (m := ⟨b, held⟩) (failsOrdinarily_get _ _ e hget) rfl
  | ok r =>
    rw [Action.modify_apply hget]
    refine .of_move (.amend hget rfl rfl rfl fun hnone => ?_) rfl
    rcases Registry.resource?_eq_some_iff.mp hx with ⟨r₀, hget₀, hresource₀⟩
    rcases hlasting.resource id r hget (hb₀.lt_next_of_get hget₀) with ⟨r₁, hget₁, hkept⟩
    obtain rfl := Except.ok.inj (hget₀.symm.trans hget₁)
    rw [hkept hnone] at hresource₀
    cases hresource₀

/-- Reading a tensor without parts in moves. -/
theorem leads_readPlain (hm : Sound ⟨b, held⟩) (id : TensorId) (fault : Option MapFault) :
    Leads op held ⟨b, held⟩ (readPlain id fault b) fun _ m' => m'.held = held := by
  unfold readPlain
  apply Leads.bind_record rfl
  intro r hget
  cases hvalues : r.values with
  | some values => exact .pure (m := ⟨b, held⟩) rfl
  | none =>
    cases hresource : r.resource with
    | none => exact .fail (m := ⟨b, held⟩) rfl rfl
    | some x =>
      have hx : b.tensors.resource? id = some x :=
        Registry.resource?_eq_some_iff.mpr ⟨r, hget, hresource⟩
      apply Leads.bind hm (leads_submitBefore hm id).lasting
      rintro - b₁ _ hm₁ ⟨rfl, hlasting₁⟩
      apply Leads.bind hm₁ (leads_fetch hm₁ x _ fault).lasting
      rintro bytes b₂ _ hm₂ ⟨rfl, hlasting₂⟩
      apply Leads.bind_count
      intro b₃ hquiet
      have hm₃ := hm₂.quiet hquiet
      have hlasting : Lasting b b₃ := hlasting₁.trans (hlasting₂.trans (.of_eq hquiet.tensors))
      apply Leads.bind_of (failsOrdinarily_ofDeviceBytes _ _ _ _) rfl
      intro values _
      apply Leads.bind hm₃ (leads_keepValues hlasting hm.registered.sound hx values)
      rintro - b₄ _ hm₄ rfl
      exact .pure (m := ⟨b₄, _⟩) rfl

/-- Reading a tensor. -/
theorem leads_read (hm : Sound ⟨b, held⟩) (id : TensorId) (fault : Option MapFault) :
    Leads op held ⟨b, held⟩ (read id fault b) fun _ m' => m'.held = held := by
  unfold read
  refine .bind_live hm (.bind_record rfl fun r hget => ?_)
  cases hparts : r.parts with
  | none => exact leads_readPlain hm id fault
  | some parts =>
    rcases parts with ⟨real, imag⟩
    apply Leads.bind hm (leads_readPlain hm real fault)
    rintro re b₁ _ hm₁ rfl
    apply Leads.bind hm₁ (leads_readPlain hm₁ imag fault)
    rintro im b₂ _ hm₂ rfl
    exact .of_computation (failsOrdinarily_ofParts re im) rfl

end ComputeKernels.Backend

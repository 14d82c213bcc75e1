import ComputeKernels.Proofs.Backend.Leads

/-!
# Tensors in moves

Making tensors adds records without buffers.  Removing one frees its buffer, and is put off while the
open encoder refers to the tensor.  Submitting frees the uniform blocks of the passes and then
removes what was put off.

Main results:

- Theorems `leads_make` and `leads_complex`: making tensors in moves.
- Theorem `leads_drop`: giving up a tensor in moves.
- Theorem `leads_submit`: submitting in moves, after which no encoder is open.
-/

namespace ComputeKernels.Backend

open Tensor Buffer

variable {op : Operation} {kept held : List Allocation} {b : Backend}

/-! ## Making tensors -/

/-- The values of a record that was filled with some are these. -/
theorem count_of_filled {v : Values} {n : Nat} (hcount : v.count = n) :
    ∀ found, some v = some found → found.count = n := by
  intro found hfound
  obtain rfl := Option.some.inj hfound
  exact hcount

/-- Writing values in moves. -/
theorem leads_write (hm : Sound ⟨b, held⟩) (values : Values) (shape : Shape) :
    Leads op held ⟨b, held⟩ (write values shape b) fun _ m' => m'.held = held := by
  unfold write
  refine .bind_live hm (.bind_of (failsOrdinarily_checkShape _ _) rfl fun _ hshape => ?_)
  have hcount : values.count = Shape.count shape := Values.count_eq_of_checkShape hshape
  cases values with
  | complex64 bits =>
    apply Leads.bind_of (failsOrdinarily_parts bits) rfl
    rintro ⟨re, im⟩ hparts
    rcases Values.length_parts hparts with ⟨hre, him⟩
    refine .bind_move rfl (.add rfl (count_of_filled (hre.trans hcount))) ?_
    refine .bind_move rfl (.add rfl (count_of_filled (him.trans hcount))) ?_
    exact .bind_move rfl (.add rfl fun v hv => nomatch hv) (.pure rfl)
  | float32 bits => exact .bind_move rfl (.add rfl (count_of_filled hcount)) (.pure rfl)
  | int32 ints => exact .bind_move rfl (.add rfl (count_of_filled hcount)) (.pure rfl)
  | bool flags => exact .bind_move rfl (.add rfl (count_of_filled hcount)) (.pure rfl)

/-- Making a tensor in moves. -/
theorem leads_make (hm : Sound ⟨b, held⟩) (shape : Shape) (element : ElementType)
    (values : Option Values) :
    Leads op held ⟨b, held⟩ (make shape element values b) fun _ m' => m'.held = held := by
  unfold make
  apply Leads.bind_live hm
  cases values with
  | none => exact .bind_move rfl (.add rfl fun v hv => nomatch hv) (.pure rfl)
  | some v =>
    by_cases helement : v.element = element
    · simp only [helement, if_true]
      exact leads_write hm v shape
    · simp only [helement, if_false]
      exact .fail (m := ⟨b, held⟩) rfl rfl

/-- A first step that looks at a part changes nothing. -/
theorem Leads.bind_checkPart {β : Type} {post : β → Moment → Prop} {f : Unit → Action β}
    {part : Handle} (hheld : held = kept) (hf : Leads op kept ⟨b, held⟩ (f () b) post) :
    Leads op kept ⟨b, held⟩ ((checkPart part >>= f) b) post := by
  cases hget : b.tensors.get part.id with
  | error e =>
    have hcheck : checkPart part b = (.error e, b) :=
      Action.bind_apply_error (congrArg (·, b) hget)
    exact .bind_error hcheck (failsOrdinarily_get _ _ e hget) hheld
  | ok r =>
    have hcheck : checkPart part b = _ := Action.bind_apply_ok (congrArg (·, b) hget)
    by_cases helement : r.element = .float32
    · exact .bind_ok (hcheck.trans (by rw [if_pos helement]; rfl)) hf
    · exact .bind_error (hcheck.trans (by rw [if_neg helement]; rfl)) rfl hheld

/-- Adding a reference in moves. -/
theorem leads_retain (id : TensorId) :
    Leads op held ⟨b, held⟩ (Action.retain id b) fun _ m' => m'.held = held := by
  unfold Action.retain Registry.retain
  cases hget : b.tensors.get id with
  | error e => exact .fail (m := ⟨b, held⟩) (failsOrdinarily_get _ _ e hget) rfl
  | ok r => exact .of_move (.amend hget rfl rfl rfl fun _ => rfl) rfl

/-- Pairing two tensors in moves. -/
theorem leads_complex (hm : Sound ⟨b, held⟩) (real imag : Handle) :
    Leads op held ⟨b, held⟩ (complex real imag b) fun _ m' => m'.held = held := by
  unfold complex
  refine .bind_live hm (.bind_checkPart rfl (.bind_checkPart rfl ?_))
  by_cases hshape : real.shape = imag.shape
  · simp only [hshape, if_true]
    apply Leads.bind hm (.discard hm (leads_retain real.id))
    rintro - b' held' hm' rfl
    apply Leads.bind hm' (.discard hm' (leads_retain imag.id))
    rintro - b'' held'' hm'' rfl
    exact .bind_move rfl (.add rfl fun v hv => nomatch hv) (.pure rfl)
  · simp only [hshape, if_false]
    exact .fail (m := ⟨b, held⟩) rfl rfl

/-! ## Giving up tensors -/

/-- Giving a held buffer back is one move. -/
theorem leads_release {x : Allocation} (hm : Sound ⟨b, x :: held⟩) :
    Leads op kept ⟨b, x :: held⟩ (Action.release x b) fun _ m' =>
      m'.held = held ∧ m'.backend.encoder = b.encoder := by
  rcases hm.exists_release with ⟨pool, hpool⟩
  have hrelease : Action.release x b = (.ok (), { b with pool }) := by
    simp only [Action.release, hpool]
  rw [hrelease]
  exact .of_move (.takeBack hpool) ⟨rfl, rfl⟩

/-- A tensor that the open encoder does not refer to is removed, and its buffer is taken back. -/
theorem leads_removeOne (hm : Sound ⟨b, held⟩) {id : TensorId} (huntouched : id ∉ b.batch.touched) :
    Leads op held ⟨b, held⟩ (removeOne id b) fun _ m' =>
      m'.held = held ∧ m'.backend.encoder = b.encoder := by
  unfold removeOne
  cases hget : b.tensors.get id with
  | error e =>
    simp only [Registry.remove, Registry.get?_eq_none_of_get hget]
    exact .pure (m := ⟨b, held⟩) ⟨rfl, rfl⟩
  | ok r =>
    have hmove : Move op ⟨b, held⟩ .other
        ⟨{ b with tensors := (b.tensors.remove id).2 }, r.resource.toList ++ held⟩ :=
      .forget hget huntouched
    have hforgotten := hmove.sound hm
    simp only [Registry.remove, Registry.get_eq_ok_iff.mp hget]
    cases hresource : r.resource with
    | none =>
      rw [hresource] at hmove
      exact .of_move hmove ⟨rfl, rfl⟩
    | some x =>
      rw [hresource] at hmove hforgotten
      rcases hforgotten.exists_release with ⟨pool, hpool⟩
      apply Leads.after_move hmove
      simp only [hpool]
      exact .of_move (.takeBack hpool) ⟨rfl, rfl⟩

private theorem leads_dropOne (hm : Sound ⟨b, held⟩) (id : TensorId) (force : Bool) :
    Leads op held ⟨b, held⟩ (dropOne id force b) fun _ m' =>
      m'.held = held ∧ m'.backend.encoder = b.encoder := by
  unfold dropOne
  by_cases hlive : b.tensors.contains id
  case neg =>
    simp only [hlive, Bool.not_false, if_true]
    exact .pure (m := ⟨b, held⟩) ⟨rfl, rfl⟩
  simp only [hlive, Bool.not_true, Bool.false_eq_true, if_false]
  by_cases hdefers : b.batch.defers id
  · simp only [hdefers, if_true]
    exact .pure (m := ⟨b, held⟩) ⟨rfl, rfl⟩
  simp only [hdefers, Bool.false_eq_true, if_false]
  cases hget : b.tensors.get id with
  | error e =>
    have hrelease : b.tensors.release id = .error e := by
      rw [Registry.release, hget]
      rfl
    simp only [hrelease]
    exact .fail (m := ⟨b, held⟩) (failsOrdinarily_get _ _ e hget) rfl
  | ok r =>
    have hmove : Move op ⟨b, held⟩ .other
        ⟨{ b with tensors := b.tensors.put id { r with references := r.references - 1 } }, held⟩ :=
      .amend hget rfl rfl rfl fun _ => rfl
    simp only [Registry.release_of_get hget]
    apply Leads.after_move hmove
    split
    · exact .pure (m := ⟨_, held⟩) ⟨rfl, rfl⟩
    split
    · exact .of_move (.defer id) ⟨rfl, rfl⟩
    · next htouches =>
      have huntouched : id ∉ b.batch.touched := by
        simpa [Submission.Batch.touches] using htouches
      have hremove : Leads op held _ (removeOne id _) _ :=
        leads_removeOne (hmove.sound hm) huntouched
      split
      · next parts b' hresult =>
        rw [hresult] at hremove
        exact hremove.of_ok (hmove.sound hm) fun held' _ hpost => .pure (m := ⟨b', held'⟩) hpost
      · next e b' hresult =>
        rw [hresult] at hremove
        exact hremove.of_error

/-- Dropping a reference each to several tensors. -/
theorem leads_dropEach (hm : Sound ⟨b, held⟩) (ids : List TensorId) :
    Leads op held ⟨b, held⟩ (dropEach ids b) fun _ m' =>
      m'.held = held ∧ m'.backend.encoder = b.encoder := by
  induction ids, b using dropEach.induct with
  | case1 b =>
    rw [dropEach]
    exact .pure (m := ⟨b, held⟩) ⟨rfl, rfl⟩
  | case2 id rest b fate b' hdrop ih =>
    rw [dropEach, hdrop]
    have hone : Leads op held _ (dropOne id false b) _ := leads_dropOne hm id false
    rw [hdrop] at hone
    apply hone.of_ok hm
    rintro _ hm' ⟨rfl, hencoder⟩
    apply (ih hm').mono
    intro _ m' hpost
    exact ⟨hpost.1, hpost.2.trans hencoder⟩
  | case3 id rest b e b' hdrop =>
    rw [dropEach, hdrop]
    have hone : Leads op held _ (dropOne id false b) _ := leads_dropOne hm id false
    rw [hdrop] at hone
    exact hone.of_error

/-- Giving up a tensor with its parts in moves. -/
theorem leads_drop (hm : Sound ⟨b, held⟩) (id : TensorId) (force : Bool) :
    Leads op held ⟨b, held⟩ (drop id force b) fun _ m' => m'.held = held := by
  unfold drop
  refine .bind_live hm (.bind hm (leads_dropOne hm id force) ?_)
  rintro fate b' _ hm' ⟨rfl, -⟩
  cases fate with
  | absent => exact .pure (m := ⟨b', _⟩) rfl
  | kept => exact .pure (m := ⟨b', _⟩) rfl
  | removed parts =>
    apply Leads.bind hm' (leads_dropEach hm' parts)
    rintro - b'' _ hm'' ⟨rfl, -⟩
    exact .pure (m := ⟨b'', _⟩) rfl

/-! ## Submitting -/

private theorem leads_remove (hm : Sound ⟨b, held⟩) (hencoder : b.encoder = none) (id : TensorId) :
    Leads op held ⟨b, held⟩ (remove id b) fun _ m' =>
      m'.held = held ∧ m'.backend.encoder = none := by
  unfold remove
  apply Leads.bind hm (leads_removeOne hm (hm.not_touched hencoder id))
  rintro parts b' _ hm' ⟨rfl, hencoder'⟩
  apply (leads_dropEach hm' parts).mono
  intro _ m' hpost
  exact ⟨hpost.1, hpost.2.trans (hencoder'.trans hencoder)⟩

private theorem leads_releaseEach {uniforms : List Allocation} (hm : Sound ⟨b, uniforms ++ held⟩)
    (hencoder : b.encoder = none) :
    Leads op held ⟨b, uniforms ++ held⟩ (uniforms.forM Action.release b) fun _ m' =>
      m'.held = held ∧ m'.backend.encoder = none := by
  induction uniforms generalizing b with
  | nil => exact .pure (m := ⟨b, held⟩) ⟨rfl, hencoder⟩
  | cons x rest ih =>
    apply Leads.bind (x := Action.release x) hm (leads_release hm)
    rintro - b' _ hm' ⟨rfl, hencoder'⟩
    exact ih hm' (hencoder'.trans hencoder)

private theorem leads_removeEach (hm : Sound ⟨b, held⟩) (hencoder : b.encoder = none)
    (ids : List TensorId) :
    Leads op held ⟨b, held⟩ (ids.forM remove b) fun _ m' =>
      m'.held = held ∧ m'.backend.encoder = none := by
  induction ids generalizing b with
  | nil => exact .pure (m := ⟨b, held⟩) ⟨rfl, hencoder⟩
  | cons id rest ih =>
    apply Leads.bind (x := remove id) hm (leads_remove hm hencoder id)
    rintro - b' _ hm' ⟨rfl, hencoder'⟩
    exact ih hm' hencoder'

/-- After a submission no encoder is open, and everything that was held back has been released. -/
theorem leads_submit (hm : Sound ⟨b, held⟩) :
    Leads op held ⟨b, held⟩ (submit b) fun _ m' =>
      m'.held = held ∧ m'.backend.encoder = none := by
  unfold submit
  refine .bind_live hm (.bind_ok (a := b.encoder) rfl ?_)
  cases hencoder : b.encoder with
  | none => exact .pure (m := ⟨b, held⟩) ⟨rfl, hencoder⟩
  | some passes =>
    have hmove : Move op ⟨b, held⟩ (.submit passes)
        ⟨(handOver passes b).2, b.batch.uniforms ++ held⟩ := .submit hencoder
    refine .bind_move (a := b.batch.held) rfl hmove ?_
    apply Leads.bind (hmove.sound hm) (leads_releaseEach (hmove.sound hm) rfl)
    rintro - b' _ hm' ⟨rfl, hencoder'⟩
    apply Leads.bind hm' (leads_removeEach hm' hencoder' _)
    rintro - b'' _ hm'' ⟨rfl, hencoder''⟩
    exact .of_move .finish ⟨rfl, hencoder''⟩

end ComputeKernels.Backend

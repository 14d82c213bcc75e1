import ComputeKernels.Proofs.Backend.Views

/-!
# Upkeep of the view

What dropping a reference does to the view depends on the view alone: whether the tensor goes at once
or waits for the encoder is not seen.  A submission, which removes the tensors that waited, is not
seen at all, and a pass adds itself and its output.

Main results:

- Theorem `ends_dropOne`: what dropping a reference does to the view.
- Theorem `ends_submit_unseen`: a submission succeeds and does not change the view.
- Theorems `tidy_recorded` and `view_recorded`: what recording a pass does.
-/

namespace ComputeKernels.Backend

open Tensor Buffer Device

variable {start : Nat} {b b' : Backend} {parked : List TensorId} {id : TensorId} {r r' : Record}

/-! ## Dropping references -/

/-- A tensor that is there is removed, and its buffer goes back. -/
theorem ends_removeOne (hpool : b.pool.disposed = false) (hget : b.tensors.get id = .ok r) :
    Ends (removeOne id b) fun result b' => result = .ok r.partList ∧
      Still { b with tensors := (b.tensors.remove id).2 } b' ∧ b'.batch = b.batch := by
  unfold removeOne
  simp only [Registry.remove, Registry.get_eq_ok_iff.mp hget]
  cases hresource : r.resource with
  | none => exact .inr ⟨rfl, .refl _, rfl⟩
  | some x =>
    cases hrelease : b.pool.release x with
    | ok pool =>
      simp only [hrelease]
      have hback : { b with tensors := (b.tensors.remove id).2 }.pool.release x = .ok pool :=
        hrelease
      exact .inr ⟨rfl, still_release hback, rfl⟩
    | error e =>
      simp only [hrelease]
      exact .inl ⟨e, rfl, Pool.isUntracked_of_release hpool hrelease⟩

/-- A tensor that is not in view stays so. -/
theorem drop_of_unseen (h : sight start b id = none) :
    (view start b).drop id = view start b ∧ (view start b).freed id = [] := by
  have htensors : (view start b).tensors id = none := h
  rw [View.drop, View.freed, htensors]
  exact ⟨rfl, rfl⟩

private theorem drop_of_sight {t : Sight} (h : sight start b id = some t) :
    (view start b).drop id = (view start b).set id
        (if t.references = 1 then none else some { t with references := t.references - 1 }) ∧
      (view start b).freed id =
        if t.references = 1 then (t.parts.map fun p => [p.1, p.2]).getD [] else [] := by
  have htensors : (view start b).tensors id = some t := h
  rw [View.drop, View.freed, htensors]
  exact ⟨rfl, rfl⟩

private theorem partList_eq (r : Record) :
    r.partList = (r.parts.map fun p => [p.1, p.2]).getD [] := by
  unfold Record.partList
  cases r.parts <;> rfl

/-- Nothing is dropped from what is not in view. -/
theorem ends_unseen (hb : Tidy start b) (hnone : sight start b id = none) {fate : Fate}
    (hfate : fate.parts = []) :
    Ends (.ok fate, b) fun result b' => ∃ fate, result = .ok fate ∧ Tidy start b' ∧
      view start b' = (view start b).drop id ∧ fate.parts = (view start b).freed id := by
  rcases drop_of_unseen hnone with ⟨hdrop, hfreed⟩
  exact .inr ⟨fate, rfl, hb, hdrop.symm, hfate.trans hfreed.symm⟩

section Dropped

variable (hget : b.tensors.get id = .ok r)
include hget

private theorem freed_of_last (hlast : r.references = 1) :
    (view start b).freed id = r.partList := by
  have hreferences : r.references ≠ 0 := by omega
  have hseen : (r.sight (decide (id ∈ outputs start b))).references = 1 := hlast
  rw [(drop_of_sight (sight_of_get hget hreferences)).2, if_pos hseen, partList_eq]
  rfl

private theorem drop_of_last (hlast : r.references = 1) :
    (view start b).drop id = (view start b).set id none := by
  have hreferences : r.references ≠ 0 := by omega
  have hseen : (r.sight (decide (id ∈ outputs start b))).references = 1 := hlast
  rw [(drop_of_sight (sight_of_get hget hreferences)).1, if_pos hseen]

variable (hb : Tidy start b)
include hb

/-- A tensor that is still referred to stays in view. -/
theorem drop_of_referenced (hmany : 1 < r.references) :
    Tidy start
        { b with tensors := b.tensors.put id { r with references := r.references - 1 } } ∧
      view start
          { b with tensors := b.tensors.put id { r with references := r.references - 1 } } =
        (view start b).drop id ∧ (view start b).freed id = [] := by
  have hfine := hb.fine id r hget
  have hreferences : r.references ≠ 0 := by omega
  have hleft : r.references - 1 ≠ 0 := by omega
  have hseen : (r.sight (decide (id ∈ outputs start b))).references ≠ 1 := by
    change r.references ≠ 1
    omega
  rcases drop_of_sight (sight_of_get hget hreferences) with ⟨hdrop, hfreed⟩
  rw [if_neg hseen] at hdrop hfreed
  refine ⟨?_, ?_, hfreed⟩
  · exact TidyBut.put hb hget hreferences ⟨hleft, rfl, rfl, hfine.filled, hfine.computed,
      hfine.source⟩
  · rw [view_put hleft, hdrop]
    rfl

variable (hlast : r.references = 1)
include hlast

/-- A tensor whose removal is put off is out of view, and it has no parts. -/
theorem drop_of_touched (htouched : id ∈ b.batch.touched) :
    Tidy start
        { b with
          tensors := b.tensors.put id { r with references := r.references - 1 }
          batch := { b.batch with deferred := b.batch.deferred ++ [id] } } ∧
      view start
          { b with
            tensors := b.tensors.put id { r with references := r.references - 1 }
            batch := { b.batch with deferred := b.batch.deferred ++ [id] } } =
        (view start b).drop id ∧ (view start b).freed id = [] := by
  have hfine := hb.fine id r hget
  have hparts : r.parts = none := hfine.plain (.inl htouched)
  have hzero : r.references - 1 = 0 := by omega
  let b' : Backend := { b with
    tensors := b.tensors.put id { r with references := r.references - 1 }
    batch := { b.batch with deferred := b.batch.deferred ++ [id] } }
  have hother (i : TensorId) (hi : i ≠ id) : b'.tensors.get i = b.tensors.get i :=
    Registry.get_put_of_ne hi
  have hget' : b'.tensors.get id = .ok { r with references := r.references - 1 } :=
    Registry.get_put_self
  refine ⟨?_, ?_, ?_⟩
  · refine TidyBut.set hb _ _ hfine.lt_next rfl rfl hother (fun i hi => ?_) fun found hfound => ?_
    · simp [hi]
    · obtain rfl := Except.ok.inj (hget'.symm.trans hfound)
      refine ⟨hfine.lt_next, ?_, hfine.pairs, fun _ => hparts, hfine.filled, hfine.computed,
        hfine.source⟩
      simp [hzero]
  · change view start b' = _
    rw [view_eq_set b b' id rfl hother, sight_of_unreferenced hget' hzero,
      drop_of_last hget hlast]
  · rw [freed_of_last hget hlast, partList_eq, hparts]
    rfl

/-- A tensor that goes at once is out of view. -/
theorem drop_of_untouched :
    Tidy start
        { b with tensors := ((b.tensors.put id
            { r with references := r.references - 1 }).remove id).2 } ∧
      view start
          { b with tensors := ((b.tensors.put id
              { r with references := r.references - 1 }).remove id).2 } =
        (view start b).drop id := by
  let b' : Backend := { b with
    tensors := ((b.tensors.put id { r with references := r.references - 1 }).remove id).2 }
  have hother (i : TensorId) (hi : i ≠ id) : b'.tensors.get i = b.tensors.get i :=
    (Registry.get_remove_of_ne hi).trans (Registry.get_put_of_ne hi)
  have hgone : b'.tensors.get id = .error (.unknownTensor id) := Registry.get_remove_self
  refine ⟨?_, ?_⟩
  · refine TidyBut.set hb b'.tensors b.batch (hb.lt_next hget) rfl rfl hother (fun _ _ => .rfl) ?_
    intro found hfound
    rw [hgone] at hfound
    cases hfound
  · change view start b' = _
    rw [view_eq_set b b' id rfl hother, sight_of_absent hgone, drop_of_last hget hlast]

end Dropped

/-- What dropping a reference does depends on the view alone. -/
theorem ends_dropOne (hb : Tidy start b) (id : TensorId) :
    Ends (dropOne id false b) fun result b' => ∃ fate, result = .ok fate ∧ Tidy start b' ∧
      view start b' = (view start b).drop id ∧ fate.parts = (view start b).freed id := by
  unfold dropOne
  cases hget : b.tensors.get id with
  | error e =>
    simp only [Registry.contains_eq_false_of_get hget, Bool.not_false, if_true]
    exact ends_unseen hb (sight_of_absent hget) rfl
  | ok r =>
    have hfine := hb.fine id r hget
    have hlive : b.tensors.contains id = true := Registry.contains_iff_get.mpr ⟨r, hget⟩
    simp only [hlive, Bool.not_true, Bool.false_eq_true, if_false]
    by_cases hdefers : id ∈ b.batch.deferred
    · simp only [Submission.Batch.defers, hdefers, decide_true, if_true]
      exact ends_unseen hb (sight_of_unreferenced hget (hfine.parked_iff.mpr hdefers)) rfl
    have hreferences : r.references ≠ 0 := fun h => hdefers (hfine.parked_iff.mp h)
    simp only [Submission.Batch.defers, hdefers, decide_false, Bool.false_eq_true, if_false,
      Registry.release_of_get hget, Bool.not_false, Bool.and_true, decide_eq_true_eq]
    by_cases hmany : 1 < r.references
    · -- The tensor is still referred to.
      rcases drop_of_referenced hget hb hmany with ⟨htidy, hview, hfreed⟩
      rw [if_pos (Nat.sub_pos_of_lt hmany)]
      exact .inr ⟨.kept, rfl, htidy, hview, hfreed.symm⟩
    have hlast : r.references = 1 := by omega
    have hnone : ¬ 0 < r.references - 1 := by omega
    rw [if_neg hnone]
    by_cases htouched : id ∈ b.batch.touched
    · -- Its removal is put off.
      have hdefer : b.batch.defer id = { b.batch with deferred := b.batch.deferred ++ [id] } := by
        simp [Submission.Batch.defer, Submission.Batch.defers, hdefers]
      rcases drop_of_touched hget hb hlast htouched with ⟨htidy, hview, hfreed⟩
      simp only [Submission.Batch.touches, htouched, decide_true, if_true, hdefer]
      exact .inr ⟨.kept, rfl, htidy, hview, hfreed.symm⟩
    · -- It goes at once.
      rcases drop_of_untouched hget hb hlast with ⟨htidy, hview⟩
      have hremove := ends_removeOne (b := { b with
        tensors := b.tensors.put id { r with references := r.references - 1 } }) hb.poolLive
        Registry.get_put_self
      simp only [Submission.Batch.touches, htouched, decide_false, Bool.false_eq_true, if_false]
      cases hresult : removeOne id { b with
          tensors := b.tensors.put id { r with references := r.references - 1 } } with
      | mk result b' =>
        rw [hresult] at hremove
        rcases hremove with ⟨e, he, huntracked⟩ | ⟨hok, hstill, -⟩
        · obtain rfl : result = .error e := he
          exact .inl ⟨e, rfl, huntracked⟩
        · obtain rfl : result = .ok r.partList := hok
          exact .inr ⟨_, rfl, hstill.tidy htidy, hstill.view.trans hview,
            (freed_of_last hget hlast).symm⟩

/-! ## Submitting -/

/-- A pool in use takes a buffer back without its being seen. -/
theorem ends_release (hpool : b.pool.disposed = false) (x : Allocation) :
    Ends (Action.release x b) fun result b' =>
      result = .ok () ∧ Still b b' ∧ b'.batch = b.batch := by
  unfold Action.release
  cases hrelease : b.pool.release x with
  | ok pool => exact .inr ⟨rfl, still_release hrelease, rfl⟩
  | error e => exact .inl ⟨e, rfl, Pool.isUntracked_of_release hpool hrelease⟩

/-- It takes several buffers back without their being seen. -/
theorem ends_releaseEach (hpool : b.pool.disposed = false) (xs : List Allocation) :
    Ends (xs.forM Action.release b) fun result b' =>
      result = .ok () ∧ Still b b' ∧ b'.batch = b.batch := by
  induction xs generalizing b with
  | nil => exact .inr ⟨rfl, .refl b, rfl⟩
  | cons x xs ih =>
    refine Ends.bind_ok (x := Action.release x) (ends_release hpool x) fun b₁ h₁ => ?_
    rcases h₁ with ⟨hstill, hbatch⟩
    rcases ih (hstill.poolDisposed.trans hpool) with hrefused | ⟨hok, hstill', hbatch'⟩
    · exact .inl hrefused
    · exact .inr ⟨hok, hstill.trans hstill', hbatch'.trans hbatch⟩

/-- Removing a tensor that waits for it is not seen. -/
theorem ends_removeParked {rest : List TensorId} (hb : TidyBut start (id :: rest) b) :
    Ends (remove id b) fun result b' => result = .ok () ∧ TidyBut start rest b' ∧
      view start b' = view start b ∧ b'.batch = b.batch := by
  have hid : id.number < b.tensors.next := hb.parked_lt id List.mem_cons_self
  have hparked (i : TensorId) (hi : i ≠ id) : i ∈ rest ↔ i ∈ id :: rest := by simp [hi]
  have hnothing (b : Backend) : dropEach [] b = (.ok (), b) := by rw [dropEach]
  cases hget : b.tensors.get id with
  | error e =>
    have hremove : removeOne id b = (.ok [], b) := by
      simp only [removeOne, Registry.remove, Registry.get?_eq_none_of_get hget]
    have htidy : TidyBut start rest b := by
      refine hb.set b.tensors b.batch hid rfl rfl (fun _ _ => rfl) hparked ?_
      intro r hr
      rw [hget] at hr
      cases hr
    refine .bind_to hremove ?_
    rw [hnothing]
    exact .inr ⟨rfl, htidy, rfl, rfl⟩
  | ok r =>
    have hfine := hb.fine id r hget
    have hreferences : r.references = 0 := hfine.parked_iff.mpr List.mem_cons_self
    have hparts : r.partList = [] := by
      rw [partList_eq, hfine.plain (.inr List.mem_cons_self)]
      rfl
    let b₁ : Backend := { b with tensors := (b.tensors.remove id).2 }
    have hother (i : TensorId) (hi : i ≠ id) : b₁.tensors.get i = b.tensors.get i :=
      Registry.get_remove_of_ne hi
    have hgone : b₁.tensors.get id = .error (.unknownTensor id) := Registry.get_remove_self
    have htidy : TidyBut start rest b₁ := by
      refine hb.set b₁.tensors b.batch hid rfl rfl hother hparked ?_
      intro r hr
      rw [hgone] at hr
      cases hr
    have hview : view start b₁ = view start b := by
      rw [view_eq_set b b₁ id rfl hother, sight_of_absent hgone]
      exact View.set_eq_self (sight_of_unreferenced hget hreferences)
    refine (ends_removeOne hb.poolLive hget).bind_ok fun b₂ h₂ => ?_
    rcases h₂ with ⟨hstill, hbatch⟩
    rw [hparts, hnothing]
    exact .inr ⟨rfl, hstill.tidyBut htidy, hstill.view.trans hview, hbatch⟩

private theorem ends_removeEach {ids : List TensorId} (hb : TidyBut start ids b) :
    Ends (ids.forM remove b) fun result b' => result = .ok () ∧ TidyBut start [] b' ∧
      view start b' = view start b ∧ b'.batch = b.batch := by
  induction ids generalizing b with
  | nil => exact .inr ⟨rfl, hb, rfl, rfl⟩
  | cons id rest ih =>
    refine Ends.bind_ok (x := remove id) (ends_removeParked hb) fun b₁ h₁ => ?_
    rcases h₁ with ⟨htidy, hview, hbatch⟩
    rcases ih htidy with hrefused | ⟨hok, htidy', hview', hbatch'⟩
    · exact .inl hrefused
    · exact .inr ⟨hok, htidy', hview'.trans hview, hbatch'.trans hbatch⟩

/-- Handing the encoder over leaves the passes in their order. -/
theorem dispatched_handOver {passes : List Pass} (hstart : start ≤ b.device.batches.length)
    (hencoder : b.encoder = some passes) :
    dispatched start (handOver passes b).2 = dispatched start b := by
  have hbatches : (handOver passes b).2.device.batches = b.device.batches ++ [passes] :=
    batches_submit passes
  have hclosed : (handOver passes b).2.encoder = none := rfl
  rw [dispatched, dispatched, hbatches, hclosed, hencoder,
    List.drop_append_of_le_length hstart, List.flatten_append]
  simp

private theorem tidyBut_handOver {passes : List Pass} (hb : Tidy start b)
    (hencoder : b.encoder = some passes) :
    TidyBut start b.batch.deferred (handOver passes b).2 ∧
      view start (handOver passes b).2 = view start b := by
  have hdispatched := dispatched_handOver hb.start_le hencoder
  have houtputs : outputs start (handOver passes b).2 = outputs start b := by
    rw [outputs, outputs, hdispatched]
  have hsight : sight start (handOver passes b).2 = sight start b := by
    funext i
    simp only [sight, houtputs]
    rfl
  refine ⟨⟨hb.live, hb.poolLive, ?_, ?_, ?_, hb.parked_lt, ?_, hb.within⟩, ?_⟩
  · have hbatches : (handOver passes b).2.device.batches = b.device.batches ++ [passes] :=
      batches_submit passes
    rw [hbatches, List.length_append]
    exact Nat.le_add_right_of_le hb.start_le
  · intro i found hget
    have hfine := hb.fine i found hget
    refine ⟨hfine.lt_next, hfine.parked_iff, hfine.pairs, ?_, hfine.filled, ?_, ?_⟩
    · rintro (htouched | hparked)
      · exact absurd htouched List.not_mem_nil
      · exact hfine.plain (.inr hparked)
    · rw [houtputs]
      exact hfine.computed
    · rw [houtputs]
      exact hfine.source
  · exact fun i hi => absurd hi List.not_mem_nil
  · rw [houtputs]
    exact hb.outputs_lt
  · unfold view
    rw [hdispatched, hsight]
    rfl

private theorem still_finish : Still b { b with batch := b.batch.finishSubmit } :=
  ⟨rfl, rfl, rfl, rfl, rfl, rfl, rfl, rfl, rfl, rfl, id⟩

/-- A submission succeeds and does not change the view. -/
theorem ends_submit_unseen (hb : Tidy start b) :
    Ends (submit b) fun result b' =>
      result = .ok () ∧ Tidy start b' ∧ view start b' = view start b := by
  have hlive : Action.live b = (.ok (), b) := Action.live_apply hb.live
  unfold submit
  refine .bind_to hlive (.bind_to (a := b.encoder) rfl ?_)
  cases hencoder : b.encoder with
  | none => exact .inr ⟨rfl, hb, rfl⟩
  | some passes =>
    refine .bind_to (a := b.batch.held) rfl ?_
    rcases tidyBut_handOver hb hencoder with ⟨htidy₁, hview₁⟩
    refine (ends_releaseEach htidy₁.poolLive _).bind_ok fun b₂ h₂ => ?_
    rcases h₂ with ⟨hstill₂, hbatch₂⟩
    refine (ends_removeEach (hstill₂.tidyBut htidy₁)).bind_ok fun b₃ h₃ => ?_
    rcases h₃ with ⟨htidy₃, hview₃, hbatch₃⟩
    refine .inr ⟨rfl, ?_, ?_⟩
    · have hdeferred : b₃.batch.deferred = [] := by
        rw [hbatch₃, hbatch₂]
        rfl
      have htidy : Tidy start b₃ := by
        unfold Tidy
        rw [hdeferred]
        exact htidy₃
      exact still_finish.tidy htidy
    · exact still_finish.view.trans (hview₃.trans (hstill₂.view.trans hview₁))

/-! ## Recording a pass -/

section Recorded

variable {pass : Pass} {uniform : Allocation}

private theorem dispatched_recorded (r : Record) (pass : Pass) (uniform : Allocation)
    (b : Backend) :
    dispatched start (recorded r pass uniform b) = dispatched start b ++ [pass] := by
  have haccount := account_recorded r pass uniform b
  have hbatches : (recorded r pass uniform b).device.batches = b.device.batches :=
    congrArg Account.batches haccount
  rw [dispatched, dispatched, hbatches, recorded_encoder, Option.getD_some, List.append_assoc]

private theorem outputs_recorded (r : Record) (pass : Pass) (uniform : Allocation) (b : Backend) :
    outputs start (recorded r pass uniform b) = outputs start b ++ [pass.output] := by
  rw [outputs, outputs, dispatched_recorded, List.map_append]
  rfl

/-- The batch after a pass was recorded. -/
theorem recorded_batch (r : Record) (pass : Pass) (uniform : Allocation) (b : Backend) :
    (recorded r pass uniform b).batch =
      ({ b.batch with stage := .recording }.record (pass.inputs ++ [pass.output]) uniform).2 := by
  rw [← beginPass_eq]
  rfl

private theorem recorded_limits (r : Record) (pass : Pass) (uniform : Allocation) (b : Backend) :
    (recorded r pass uniform b).device.limits = b.device.limits := by
  change (encode pass { b with tensors := (b.tensors.insert r).2 }).2.device.limits = _
  exact (encode_seen _ _).2

/-- A pass adds itself and its output to the view. -/
theorem view_recorded (hreferences : r.references ≠ 0)
    (houtput : pass.output = ⟨b.tensors.next⟩) :
    view start (recorded r pass uniform b) =
      ((view start b).insert (r.sight true)).dispatch pass := by
  have hsight : sight start (recorded r pass uniform b) =
      fun i => if i = ⟨b.tensors.next⟩ then some (r.sight true) else sight start b i := by
    funext i
    simp only [sight, recorded_tensors, Registry.get_insert, outputs_recorded, houtput]
    by_cases hi : i = ⟨b.tensors.next⟩
    · rw [if_pos hi, if_pos hi, hi]
      simp [hreferences]
    · rw [if_neg hi, if_neg hi]
      simp [hi]
  unfold view
  rw [hsight, dispatched_recorded, recorded_limits, recorded_tensors, List.map_append]
  rfl

/-- What a pass refers to is what was referred to before, an operand or the output. -/
theorem mem_touched_recorded {i : TensorId}
    (hi : i ∈ (recorded r pass uniform b).batch.touched) :
    i ∈ b.batch.touched ∨ i ∈ pass.inputs ∨ i = pass.output := by
  rw [recorded_touched] at hi
  simpa [or_assoc] using hi

/-- The output of a pass is a tensor without parts or values. -/
theorem fine_recorded_output (hb : Tidy start b) (hreferences : r.references ≠ 0)
    (hparts : r.parts = none) (hresource : r.resource ≠ none) (hvalues : r.values = none)
    (houtput : pass.output = ⟨b.tensors.next⟩) :
    Fine start b.batch.deferred (recorded r pass uniform b) ⟨b.tensors.next⟩ r where
  lt_next := Nat.lt_succ_self _
  parked_iff := by
    have hfresh : (⟨b.tensors.next⟩ : TensorId) ∉ b.batch.deferred := fun hmem =>
      Nat.lt_irrefl _ (hb.parked_lt _ hmem)
    exact ⟨fun hzero => absurd hzero hreferences, fun hmem => absurd hmem hfresh⟩
  pairs := fun h => absurd hparts h
  plain := fun _ => hparts
  filled := by
    intro v hv
    rw [hvalues] at hv
    cases hv
  computed := fun _ => hresource
  source := by
    intro _ _
    rw [outputs_recorded, houtput]
    exact List.mem_append_right _ List.mem_cons_self

/-- The other tensors stay as they are; those that the pass reads have no parts. -/
theorem Fine.recorded {parked : List TensorId} {found : Record} (h : Fine start parked b id found)
    (hid : id ≠ pass.output) (hinput : id ∈ pass.inputs → found.parts = none) (r : Record)
    (uniform : Allocation) : Fine start parked (recorded r pass uniform b) id found := by
  have hsame : id ∈ outputs start (Backend.recorded r pass uniform b) ↔ id ∈ outputs start b := by
    rw [outputs_recorded]
    simp [hid]
  refine ⟨Nat.lt_succ_of_lt h.lt_next, h.parked_iff, h.pairs, ?_, h.filled, ?_, ?_⟩
  · rintro (htouched | hparked)
    · rcases mem_touched_recorded htouched with hbefore | hread | houtput
      · exact h.plain (.inl hbefore)
      · exact hinput hread
      · exact absurd houtput hid
    · exact h.plain (.inr hparked)
  · rw [hsame]
    exact h.computed
  · rw [hsame]
    exact h.source

/-- Recording a pass on tensors without parts keeps a backend tidy. -/
theorem tidy_recorded (hb : Tidy start b) (hreferences : r.references ≠ 0) (hparts : r.parts = none)
    (hresource : r.resource ≠ none) (hvalues : r.values = none)
    (houtput : pass.output = ⟨b.tensors.next⟩)
    (hinputs : ∀ i ∈ pass.inputs, i.number < b.tensors.next ∧
      ∀ found, b.tensors.get i = .ok found → found.parts = none) :
    Tidy start (recorded r pass uniform b) := by
  have hdeferred : (recorded r pass uniform b).batch.deferred = b.batch.deferred := by
    rw [recorded_batch]
    rfl
  have hnext : (recorded r pass uniform b).tensors.next = b.tensors.next + 1 := rfl
  have hnew : pass.output.number < b.tensors.next + 1 := by
    rw [houtput]
    exact Nat.lt_succ_self _
  unfold Tidy
  rw [hdeferred]
  refine ⟨hb.live, hb.poolLive, ?_, ?_, ?_, ?_, ?_, ?_⟩
  · have hbatches : (recorded r pass uniform b).device.batches = b.device.batches :=
      congrArg Account.batches (account_recorded r pass uniform b)
    rw [hbatches]
    exact hb.start_le
  · intro i found hget
    rw [recorded_tensors, Registry.get_insert] at hget
    split at hget
    · next hi =>
      obtain rfl := Except.ok.inj hget
      rw [hi]
      exact fine_recorded_output hb hreferences hparts hresource hvalues houtput
    · next hi =>
      exact (hb.fine i found hget).recorded (houtput ▸ hi)
        (fun hread => (hinputs i hread).2 found hget) r uniform
  · intro i hi
    rw [hnext]
    rcases mem_touched_recorded hi with hbefore | hread | rfl
    · exact Nat.lt_succ_of_lt (hb.touched_lt i hbefore)
    · exact Nat.lt_succ_of_lt (hinputs i hread).1
    · exact hnew
  · exact fun i hi => Nat.lt_succ_of_lt (hb.parked_lt i hi)
  · intro i hi
    rw [hnext]
    rw [outputs_recorded] at hi
    rcases List.mem_append.mp hi with hbefore | hlast
    · exact Nat.lt_succ_of_lt (hb.outputs_lt i hbefore)
    · rw [List.mem_singleton.mp hlast]
      exact hnew
  · rw [recorded_limits]
    exact hb.within

end Recorded

end ComputeKernels.Backend

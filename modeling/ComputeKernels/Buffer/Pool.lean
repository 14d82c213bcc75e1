import ComputeKernels.Error
import ComputeKernels.Table

/-!
# Buffer pools

A pool hands out buffers by exact size and usage and takes them back.  Released buffers wait on a
free list, the most recent first, until a request for the same size and usage or until the pool is
disposed, so a steady workload stops allocating.  New buffers come from an allocator, which may
refuse.

Current gaps:

- Totals and sizes are numbers without a bound.  They differ from machine numbers only once 2^64 bytes
  were allocated in all.
- Buffers are numbers.  That two allocations never yield the same number is a property of the allocator.
-/

namespace ComputeKernels.Buffer

/-! ## Keys and shelves -/

/-- Number of a buffer. -/
abbrev BufferId := Nat

/-- What a buffer is pooled under. -/
structure PoolKey where
  size : Nat
  usage : BufferUsage
deriving DecidableEq

/-- A buffer together with the key under which it was handed out. -/
structure Allocation where
  buffer : BufferId
  key : PoolKey
deriving DecidableEq

/-- Buffers of one key. -/
structure Shelf where
  /-- Buffers that wait for a request, the most recently released first. -/
  free : List BufferId := []
  /-- Buffers that are handed out. -/
  inUse : List BufferId := []

/-- Removes an element by putting the last one in its place. -/
def swapRemove? (x : BufferId) (xs : List BufferId) : Option (List BufferId) :=
  match xs.getLast? with
  | none => none
  | some last => if x ∈ xs then some ((xs.set (xs.idxOf x) last).dropLast) else none

/-! ## Pools -/

/-- Totals over all shelves. -/
structure PoolStats where
  bytesUsed : Nat := 0
  bytesAllocated : Nat := 0
  usedBuffers : Nat := 0
  freeBuffers : Nat := 0
deriving DecidableEq

/-- Buffers by key, with running totals. -/
structure Pool where
  shelves : Table PoolKey Shelf := .empty
  stats : PoolStats := {}
  disposed : Bool := false

/-- Where new buffers come from.  A request either fails or yields a buffer, and may change the
state of the allocator in both cases. -/
structure Allocator (σ : Type) where
  allocate : PoolKey → σ → Except KernelError BufferId × σ

/-- Numbers buffers from a counter; refuses sizes above a limit. -/
def Allocator.numbered (limit : Option Nat) : Allocator Nat where
  allocate key next :=
    match limit with
    | some most =>
      if most < key.size then (.error (.bufferTooLarge key.size most), next)
      else (.ok next, next + 1)
    | none => (.ok next, next + 1)

namespace Pool

/-- Shelf of a key. -/
def shelf (p : Pool) (key : PoolKey) : Shelf := (p.shelves.get? key).getD {}

/-- Hands out a buffer that was free. -/
def reuse (p : Pool) (key : PoolKey) (buffer : BufferId) (free : List BufferId) : Pool :=
  { p with
    shelves := p.shelves.set key ⟨free, (p.shelf key).inUse ++ [buffer]⟩
    stats := { p.stats with
      freeBuffers := p.stats.freeBuffers - 1
      usedBuffers := p.stats.usedBuffers + 1
      bytesUsed := p.stats.bytesUsed + key.size } }

/-- Hands out a buffer that is new. -/
def adopt (p : Pool) (key : PoolKey) (buffer : BufferId) : Pool :=
  { p with
    shelves := p.shelves.set key ⟨(p.shelf key).free, (p.shelf key).inUse ++ [buffer]⟩
    stats := { p.stats with
      bytesAllocated := p.stats.bytesAllocated + key.size
      usedBuffers := p.stats.usedBuffers + 1
      bytesUsed := p.stats.bytesUsed + key.size } }

/-- Hands out a buffer of a key: the free one released last, else a new one. -/
def acquire {σ : Type} (a : Allocator σ) (p : Pool) (s : σ) (key : PoolKey) :
    Except KernelError Allocation × Pool × σ :=
  if p.disposed then (.error .disposed, p, s)
  else
    match (p.shelf key).free with
    | buffer :: free => (.ok ⟨buffer, key⟩, p.reuse key buffer free, s)
    | [] =>
      match a.allocate key s with
      | (.ok buffer, s') => (.ok ⟨buffer, key⟩, p.adopt key buffer, s')
      | (.error e, s') => (.error e, p, s')

/-- Puts a buffer that was handed out onto its free list. -/
def giveBack (p : Pool) (x : Allocation) (inUse : List BufferId) : Pool :=
  { p with
    shelves := p.shelves.set x.key ⟨x.buffer :: (p.shelf x.key).free, inUse⟩
    stats := { p.stats with
      usedBuffers := p.stats.usedBuffers - 1
      freeBuffers := p.stats.freeBuffers + 1
      bytesUsed := p.stats.bytesUsed - x.key.size } }

/-- Takes back a buffer that is handed out under its key. -/
def release (p : Pool) (x : Allocation) : Except KernelError Pool :=
  if p.disposed then .error .disposed
  else
    match swapRemove? x.buffer (p.shelf x.key).inUse with
    | some inUse => .ok (p.giveBack x inUse)
    | none => .error (.untrackedBuffer x.key.size x.key.usage)

/-- Takes back several buffers in order, up to the first that is refused. -/
def releaseAll (p : Pool) : List Allocation → Except KernelError Unit × Pool
  | [] => (.ok (), p)
  | x :: rest =>
    match p.release x with
    | .ok p' => p'.releaseAll rest
    | .error e => (.error e, p)

/-- Hands out one buffer per key after those already taken.  If a request fails, all taken buffers
go back. -/
def acquireAfter {σ : Type} (a : Allocator σ) (p : Pool) (s : σ) (taken : List Allocation) :
    List PoolKey → Except KernelError (List Allocation) × Pool × σ
  | [] => (.ok taken, p, s)
  | key :: rest =>
    match p.acquire a s key with
    | (.ok x, p', s') => p'.acquireAfter a s' (taken ++ [x]) rest
    | (.error e, p', s') =>
      match p'.releaseAll taken with
      | (.ok (), p'') => (.error e, p'', s')
      | (.error e', p'') => (.error e', p'', s')

/-- Hands out one buffer per key, or none. -/
def acquireAll {σ : Type} (a : Allocator σ) (p : Pool) (s : σ) (keys : List PoolKey) :
    Except KernelError (List Allocation) × Pool × σ :=
  p.acquireAfter a s [] keys

private theorem length_acquireAfter {σ : Type} {a : Allocator σ} {p p' : Pool} {s s' : σ}
    {taken xs : List Allocation} {keys : List PoolKey}
    (h : p.acquireAfter a s taken keys = (.ok xs, p', s')) :
    xs.length = taken.length + keys.length := by
  induction keys generalizing p s taken with
  | nil => grind [acquireAfter]
  | cons key rest ih =>
    unfold acquireAfter at h
    split at h
    · rw [ih h]
      simp only [List.length_append, List.length_cons, List.length_nil]
      omega
    · split at h <;> simp at h

/-- A request for several buffers that is granted hands out one for each key. -/
theorem length_acquireAll {σ : Type} {a : Allocator σ} {p p' : Pool} {s s' : σ}
    {xs : List Allocation} {keys : List PoolKey}
    (h : p.acquireAll a s keys = (.ok xs, p', s')) : xs.length = keys.length := by
  simpa using length_acquireAfter h

/-- All buffers of a pool. -/
def buffers (p : Pool) : List BufferId :=
  p.shelves.entries.flatMap fun (_, shelf) => shelf.free ++ shelf.inUse

/-- Gives up all buffers, which are to be destroyed, and refuses all later requests. -/
def dispose (p : Pool) : Pool × List BufferId :=
  if p.disposed then (p, []) else ({ disposed := true }, p.buffers)

end Pool

end ComputeKernels.Buffer

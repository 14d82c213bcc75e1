import ComputeKernels.Table

/-!
# Caches

A cache keeps what a costly creation produced, by key.  Creation may fail and may change a state of
its own, such as a device that lists its commands; a failure leaves nothing in the cache but counts
as a miss.
-/

namespace ComputeKernels.Pipeline

/-! ## Counting caches -/

/-- Created values by key, with the numbers of requests that found one and that did not. -/
structure Cache (κ α : Type) where
  table : Table κ α := .empty
  hits : Nat := 0
  misses : Nat := 0

namespace Cache

variable {κ α ε σ : Type} [DecidableEq κ]

/-- Number of kept values. -/
def size (c : Cache κ α) : Nat := c.table.size

/-- The value of a key, created on the first request.  The flag of the answer says whether it was
created now. -/
def getOrCreate (c : Cache κ α) (key : κ) (create : σ → Except ε α × σ) (s : σ) :
    Except ε (α × Bool) × Cache κ α × σ :=
  match c.table.get? key with
  | some a => (.ok (a, false), { c with hits := c.hits + 1 }, s)
  | none =>
    match create s with
    | (.ok a, s') =>
      (.ok (a, true), { c with table := c.table.set key a, misses := c.misses + 1 }, s')
    | (.error e, s') => (.error e, { c with misses := c.misses + 1 }, s')

/-- Forgets all values but not the counts. -/
def clear (c : Cache κ α) : Cache κ α := { c with table := .empty }

end Cache

/-! ## Plain caches -/

/-- The value of a key in a table, created on the first request by a creation that cannot fail. -/
def getOrInsert {κ α σ : Type} [DecidableEq κ] (t : Table κ α) (key : κ) (create : σ → α × σ)
    (s : σ) : α × Table κ α × σ :=
  match t.get? key with
  | some a => (a, t, s)
  | none =>
    let (a, s') := create s
    (a, t.set key a, s')

end ComputeKernels.Pipeline

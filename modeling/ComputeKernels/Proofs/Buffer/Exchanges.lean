import ComputeKernels.Proofs.Buffer.Requests

/-!
# Exchanges of buffers

A pool hands out one buffer after the other and takes back one after the other.  A request for
several buffers is some of these exchanges in a row, also one that is refused midway, whose
rollback takes back what was handed out.  The moments of a run are its exchanges in order, each
with the pool after it.

Between two moments the pool changes in one of three ways.  What is kept by these three is thus
kept at every moment of every run.

Main results:

- Theorem `Followed.step`: the moments of a request continue those before it.
- Theorem `traced_run`: the moments of a run lead from an empty pool to the one after the run, one
  exchange at a time.
- Theorem `Traced.of_append`: so do the moments up to any one of them.
-/

namespace ComputeKernels.Buffer

variable {σ : Type}

/-! ## Moments -/

/-- A buffer changes hands. -/
inductive Exchange
  | out (x : Allocation)
  | back (x : Allocation)
deriving DecidableEq

/-- An exchange with the pool after it. -/
structure Moment where
  exchange : Exchange
  pool : Pool

/-- The pool after some moments of a run of a new manager. -/
def poolAfter (moments : List Moment) : Pool := (moments.getLast?.map Moment.pool).getD {}

@[simp]
theorem poolAfter_concat (moments : List Moment) (now : Moment) :
    poolAfter (moments ++ [now]) = now.pool := by
  simp [poolAfter]

namespace Pool

/-- Moments of giving back several buffers. -/
def returns (p : Pool) : List Allocation → List Moment
  | [] => []
  | x :: rest =>
    match p.release x with
    | .ok p' => ⟨.back x, p'⟩ :: p'.returns rest
    | .error _ => []

/-- Moments of a request for several buffers after those already taken, rollback included. -/
def grants (a : Allocator σ) (p : Pool) (s : σ) (taken : List Allocation) :
    List PoolKey → List Moment
  | [] => []
  | key :: rest =>
    match p.acquire a s key with
    | (.ok x, p', s') => ⟨.out x, p'⟩ :: p'.grants a s' (taken ++ [x]) rest
    | (.error _, p', _) => p'.returns taken

end Pool

namespace Manager

/-- Moments of a request. -/
def moments (a : Allocator σ) (m : Manager σ) : Request → List Moment
  | .acquire key =>
    match m.pool.acquire a m.source key with
    | (.ok x, pool, _) => [⟨.out x, pool⟩]
    | (.error _, _, _) => []
  | .acquireAll keys => m.pool.grants a m.source [] keys
  | .release x => m.pool.returns [x]
  | .dispose => []

/-- Moments of a sequence of requests. -/
def trace (a : Allocator σ) (m : Manager σ) : List Request → List Moment
  | [] => []
  | q :: rs => m.moments a q ++ (m.step a q).trace a rs

end Manager

/-! ## Recording changes no moment -/

section Recording

variable {a : Allocator σ}

private theorem Pool.grants_recorded (p : Pool) (t : σ × List Allocation) (taken : List Allocation)
    (keys : List PoolKey) : p.grants a.recorded t taken keys = p.grants a t.1 taken keys := by
  induction keys generalizing p t taken with
  | nil => rfl
  | cons key rest ih =>
    have hfirst := acquire_recorded (a := a) p t key
    unfold grants
    rcases h : p.acquire a.recorded t key with ⟨_ | x, p', t'⟩
    · rw [h] at hfirst
      simp only [hfirst]
    · rw [h] at hfirst
      simp only [hfirst, ih]

namespace Manager

private theorem moments_plain (m : Manager (σ × List Allocation)) (q : Request) :
    m.plain.moments a q = m.moments a.recorded q := by
  cases q with
  | acquire key =>
    have hplain := Pool.acquire_recorded (a := a) m.pool m.source key
    rcases h : m.pool.acquire a.recorded m.source key with ⟨_ | x, p', t'⟩ <;>
      simp_all [moments, plain]
  | acquireAll keys => exact (m.pool.grants_recorded m.source [] keys).symm
  | release x => rfl
  | dispose => rfl

private theorem trace_plain (m : Manager (σ × List Allocation)) (rs : List Request) :
    m.plain.trace a rs = m.trace a.recorded rs := by
  induction rs generalizing m with
  | nil => rfl
  | cons q rs ih => simp only [trace, moments_plain, ← plain_step, ih]

end Manager

end Recording

/-! ## Single exchanges -/

/-- What an exchange does to a pool and to the list of the buffers made so far. -/
inductive Exchanged : Pool → List Allocation → Exchange → Pool → List Allocation → Prop
  | reuse {p : Pool} {made : List Allocation} {key : PoolKey} {buffer : BufferId}
      {free : List BufferId} (onShelf : (p.shelf key).free = buffer :: free) :
      Exchanged p made (.out ⟨buffer, key⟩) (p.reuse key buffer free) made
  | adopt {p : Pool} {made : List Allocation} {key : PoolKey} {buffer : BufferId}
      (used : (p.shelf key).free = []) (new : buffer ∉ p.all.map Allocation.buffer) :
      Exchanged p made (.out ⟨buffer, key⟩) (p.adopt key buffer) (made ++ [⟨buffer, key⟩])
  | giveBack {p : Pool} {made : List Allocation} {x : Allocation} {inUse : List BufferId}
      (onShelf : (p.shelf x.key).inUse.Perm (x.buffer :: inUse)) :
      Exchanged p made (.back x) (p.giveBack x inUse) made

/-- Some moments of an empty pool, with the pool and the buffers made at their end. -/
inductive Traced : List Moment → Pool → List Allocation → Prop
  | new : Traced [] {} []
  | next {past : List Moment} {p p' : Pool} {made made' : List Allocation} {e : Exchange}
      (before : Traced past p made) (step : Exchanged p made e p' made') :
      Traced (past ++ [⟨e, p'⟩]) p' made'

namespace Exchanged

variable {p p' : Pool} {made made' : List Allocation} {e : Exchange} {x : Allocation}

private theorem sound (h : Exchanged p made e p' made') (hp : p.Sound) : p'.Sound := by
  cases h with
  | reuse onShelf => exact hp.reuse onShelf
  | adopt used new => exact hp.adopt new
  | giveBack onShelf => exact hp.giveBack onShelf

/-- A buffer that is handed out is in use after it. -/
theorem inUse_out (h : Exchanged p made (.out x) p' made') (hkeyed : p.shelves.Keyed) :
    p'.inUse.Perm (x :: p.inUse) := by
  cases h with
  | reuse onShelf => exact Pool.inUse_reuse hkeyed
  | adopt used new => exact Pool.inUse_adopt hkeyed

/-- A buffer that is given back was in use before it. -/
theorem inUse_back (h : Exchanged p made (.back x) p' made') (hkeyed : p.shelves.Keyed) :
    p.inUse.Perm (x :: p'.inUse) := by
  cases h with
  | giveBack onShelf => exact Pool.inUse_giveBack hkeyed onShelf

/-- No exchange takes a buffer out of the pool. -/
theorem mem_all (h : Exchanged p made e p' made') (hkeyed : p.shelves.Keyed) (hx : x ∈ p.all) :
    x ∈ p'.all := by
  cases h with
  | reuse onShelf => exact (Pool.all_reuse hkeyed onShelf).mem_iff.mpr hx
  | adopt used new => exact (Pool.all_adopt hkeyed).mem_iff.mpr (List.mem_cons_of_mem _ hx)
  | giveBack onShelf => exact (Pool.all_giveBack hkeyed onShelf).mem_iff.mpr hx

end Exchanged

namespace Traced

variable {past : List Moment} {p : Pool} {made : List Allocation}

/-- The moments of a run lead to a sound pool. -/
theorem sound (h : Traced past p made) : p.Sound := by
  induction h with
  | new => exact Pool.sound_empty
  | next before step ih => exact step.sound ih

/-- No exchange disposes of the pool. -/
theorem live (h : Traced past p made) : p.disposed = false := by
  induction h with
  | new => rfl
  | next before step ih => cases step <;> exact ih

/-- The lists of the pool hold what was made. -/
theorem complete (h : Traced past p made) : p.all.Perm made := by
  induction h with
  | new => exact .refl _
  | next before step ih =>
    have hkeyed := before.sound.keyed
    cases step with
    | reuse onShelf => exact (Pool.all_reuse hkeyed onShelf).trans ih
    | adopt used new =>
      exact (Pool.all_adopt hkeyed).trans
        ((ih.cons _).trans (List.perm_append_singleton _ _).symm)
    | giveBack onShelf => exact (Pool.all_giveBack hkeyed onShelf).trans ih

private theorem poolAfter_eq (h : Traced past p made) : poolAfter past = p := by
  cases h with
  | new => rfl
  | next before step => exact poolAfter_concat _ _

/-- The last moment is an exchange from what the moments before it led to. -/
theorem of_concat {now : Moment} (h : Traced (past ++ [now]) p made) :
    ∃ p' made', Traced past p' made' ∧ Exchanged p' made' now.exchange p made := by
  generalize hall : past ++ [now] = all at h
  cases h with
  | new => simp at hall
  | next before step =>
    rcases List.append_inj' hall rfl with ⟨rfl, hnow⟩
    obtain rfl : now = _ := by simpa using hnow
    exact ⟨_, _, before, step⟩

/-- The moments up to any one of them lead to the pool at that moment. -/
theorem of_append {before after : List Moment} (h : Traced (before ++ after) p made) :
    ∃ made', Traced before (poolAfter before) made' := by
  induction after using List.reverseRecOn generalizing p made with
  | nil =>
    rw [List.append_nil] at h
    exact ⟨made, h.poolAfter_eq ▸ h⟩
  | append_singleton after now ih =>
    rw [← List.append_assoc] at h
    rcases h.of_concat with ⟨p', made', hearlier, -⟩
    exact ih hearlier

end Traced

/-! ## Runs -/

/-- A pool that is not disposed and holds every buffer that its allocator made, with the moments
that led to it. -/
structure Followed (a : Allocator σ) (s : σ) (past : List Moment) (p : Pool)
    (t : σ × List Allocation) : Prop extends Steady a s p t where
  traced : Traced past p t.2

namespace Followed

open Pool

variable {a : Allocator σ} {s : σ} {past : List Moment} {p p' : Pool} {t t' : σ × List Allocation}

private theorem acquire (ha : a.Fresh s) (h : Followed a s past p t) {key : PoolKey}
    {x : Allocation}
    (hp : p.acquire a.recorded t key = (.ok x, p', t')) :
    Followed a s (past ++ [⟨.out x, p'⟩]) p' t' := by
  refine ⟨(h.toSteady.acquire ha hp).1, h.traced.next ?_⟩
  rcases acquire_eq_ok hp with ⟨-, rfl, ⟨free', hfree, rfl, rfl⟩ | ⟨hused, hmade, rfl⟩⟩
  · exact .reuse hfree
  · rw [(Allocator.recorded_eq_ok hmade).2]
    exact .adopt hused (h.next_not_mem ha hmade)

private theorem refused (ha : a.Fresh s) (h : Followed a s past p t) {key : PoolKey}
    {e : KernelError}
    (hp : p.acquire a.recorded t key = (.error e, p', t')) : Followed a s past p' t' := by
  refine ⟨(h.toSteady.acquire ha hp).1, ?_⟩
  rcases acquire_eq_error hp with ⟨rfl, ⟨-, -, rfl⟩ | hrefused⟩
  · exact h.traced
  · rw [(Allocator.recorded_eq_error hrefused).2]
    exact h.traced

private theorem release (h : Followed a s past p t) {x : Allocation} (hp : p.release x = .ok p') :
    Followed a s (past ++ [⟨.back x, p'⟩]) p' t := by
  refine ⟨(h.toSteady.release hp).1, h.traced.next ?_⟩
  rcases release_eq_ok hp with ⟨-, inUse', hinUse, rfl⟩
  exact .giveBack hinUse

private theorem returns (h : Followed a s past p t) (xs : List Allocation) :
    Followed a s (past ++ p.returns xs) (p.releaseAll xs).2 t := by
  induction xs generalizing past p with
  | nil => simpa [Pool.returns, releaseAll] using h
  | cons x rest ih =>
    unfold Pool.returns releaseAll
    cases hp : p.release x with
    | ok p' => simpa using ih (h.release hp)
    | error e => simpa using h

private theorem grants (ha : a.Fresh s) (h : Followed a s past p t) (taken : List Allocation)
    (keys : List PoolKey) :
    let r := p.acquireAfter a.recorded t taken keys
    Followed a s (past ++ p.grants a.recorded t taken keys) r.2.1 r.2.2 := by
  induction keys generalizing past p t taken with
  | nil => simpa [Pool.grants, acquireAfter] using h
  | cons key rest ih =>
    dsimp only
    unfold Pool.grants acquireAfter
    rcases hp : p.acquire a.recorded t key with ⟨e | x, p', t'⟩
    · have hback := (h.refused ha hp).returns taken
      rcases hr : p'.releaseAll taken with ⟨_ | _, p''⟩ <;> simpa [hr] using hback
    · simpa using ih (h.acquire ha hp) (taken ++ [x])

variable {m : Manager (σ × List Allocation)}

/-- The moments of a request continue those before it. -/
theorem step (ha : a.Fresh s) (h : Followed a s past m.pool m.source) {q : Request}
    (hq : q ≠ .dispose) :
    let m' := m.step a.recorded q
    Followed a s (past ++ m.moments a.recorded q) m'.pool m'.source := by
  cases q with
  | acquire key =>
    rcases hp : m.pool.acquire a.recorded m.source key with ⟨e | x, p', t'⟩
    · simpa [Manager.step, Manager.moments, hp] using h.refused ha hp
    · simpa [Manager.step, Manager.moments, hp] using h.acquire ha hp
  | acquireAll keys => exact h.grants ha [] keys
  | release x =>
    cases hp : m.pool.release x with
    | ok p' => simpa [Manager.step, Manager.moments, Pool.returns, hp] using h.release hp
    | error e => simpa [Manager.step, Manager.moments, Pool.returns, hp] using h
  | dispose => exact absurd rfl hq

private theorem after (ha : a.Fresh s) (h : Followed a s past m.pool m.source) {rs : List Request}
    (hrs : .dispose ∉ rs) :
    let m' := m.after a.recorded rs
    Followed a s (past ++ m.trace a.recorded rs) m'.pool m'.source := by
  induction rs generalizing past m with
  | nil => simpa [Manager.trace, Manager.after] using h
  | cons q rs ih =>
    rw [List.mem_cons, not_or] at hrs
    have hrest := ih (h.step ha (Ne.symm hrs.1)) hrs.2
    rwa [List.append_assoc] at hrest

end Followed

/-- The moments of a run lead from an empty pool to the one after it, one exchange at a time. -/
theorem traced_run {a : Allocator σ} {s : σ} (ha : a.Fresh s) {rs : List Request}
    (hrs : .dispose ∉ rs) :
    let new : Manager σ := { source := s }
    Traced (new.trace a rs) (new.after a rs).pool (Manager.made a s rs) := by
  intro new
  let recording : Manager (σ × List Allocation) := ⟨{}, (s, []), []⟩
  have hstart : Followed a s [] recording.pool recording.source := ⟨Steady.new a s, .new⟩
  have hend := (hstart.after ha hrs).traced
  have htrace : new.trace a rs = recording.trace a.recorded rs := Manager.trace_plain recording rs
  have hpool : (new.after a rs).pool = (recording.after a.recorded rs).pool :=
    congrArg Manager.pool (Manager.plain_after recording rs).symm
  rw [htrace, hpool]
  exact hend

end ComputeKernels.Buffer

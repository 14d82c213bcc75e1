import Mathlib.Data.List.Forall2

/-!
# Successful computations

What it means that a computation which may fail has succeeded: every step of it has, and the steps
after a step saw its result.

Main results:

- Theorem `Except.bind_eq_ok_iff`: a sequence of two steps succeeds exactly if both do.
- Theorem `Except.forM_eq_ok_iff`: a check of all elements of a list succeeds exactly if each check does.
- Theorem `Except.mapM_eq_ok_iff`: so does a computation over all elements, which yields one result
  for each of them.
-/

namespace ComputeKernels

variable {ε α β : Type}

/-- A sequence of two steps succeeds exactly if both do. -/
theorem Except.bind_eq_ok_iff {x : Except ε α} {f : α → Except ε β} {b : β} :
    x >>= f = .ok b ↔ ∃ a, x = .ok a ∧ f a = .ok b := by
  cases x with
  | error e => simp [bind, Except.bind]
  | ok a => simp [bind, Except.bind]

/-- A check with a step after it succeeds exactly if both do. -/
theorem Except.check_bind_eq_ok_iff {x : Except ε Unit} {f : Unit → Except ε β} {b : β} :
    x >>= f = .ok b ↔ x = .ok () ∧ f () = .ok b := by
  rw [Except.bind_eq_ok_iff]
  exact ⟨fun ⟨⟨⟩, hx, hf⟩ => ⟨hx, hf⟩, fun ⟨hx, hf⟩ => ⟨(), hx, hf⟩⟩

/-- A check of all elements of a list succeeds exactly if each check does. -/
theorem Except.forM_eq_ok_iff {f : α → Except ε Unit} {xs : List α} :
    xs.forM f = .ok () ↔ ∀ x ∈ xs, f x = .ok () := by
  induction xs with
  | nil => simp [pure, Except.pure]
  | cons x xs ih =>
    change (f x >>= fun _ => xs.forM f) = .ok () ↔ _
    rw [Except.check_bind_eq_ok_iff, ih, List.forall_mem_cons]

/-- A computation over all elements of a list succeeds exactly if it does at each of them. -/
theorem Except.mapM_eq_ok_iff {f : α → Except ε β} {xs : List α} {ys : List β} :
    xs.mapM f = .ok ys ↔ List.Forall₂ (fun x y => f x = .ok y) xs ys := by
  induction xs generalizing ys with
  | nil => simp [pure, Except.pure, eq_comm]
  | cons x xs ih =>
    rw [List.mapM_cons, Except.bind_eq_ok_iff]
    constructor
    · rintro ⟨y, hy, hrest⟩
      rcases Except.bind_eq_ok_iff.mp hrest with ⟨zs, hzs, hpure⟩
      obtain rfl : y :: zs = ys := by simpa [pure, Except.pure] using hpure
      exact .cons hy (ih.mp hzs)
    · rintro (_ | ⟨hy, hrest⟩)
      refine ⟨_, hy, Except.bind_eq_ok_iff.mpr ⟨_, ih.mpr hrest, rfl⟩⟩

end ComputeKernels

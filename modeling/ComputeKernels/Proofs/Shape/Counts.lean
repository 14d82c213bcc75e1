import ComputeKernels.Proofs.Words
import ComputeKernels.Shape.Basic

/-!
# Counting the elements of a shape

The host multiplies the extents one after the other and keeps 64 bits of every product.  What it comes
to is the number of elements cut to 64 bits, so it is right exactly for the shapes of fewer than `2 ^ 64`
elements; where no partial product loses bits there are no more of them.

Main results:

- Theorem `count_eq_wrap_size`: the host's count is the number of elements, cut once.
- Theorem `size_lt_of_overflows_eq_false`: no bits are lost if no partial product loses any.
-/

namespace ComputeKernels.Shape

/-- Products that are cut in every step are the whole product, cut once. -/
theorem foldl_wrap (n : Nat) (s : Shape) :
    s.foldl (fun n d => Word.wrap (n * d)) (Word.wrap n) = Word.wrap (n * size s) := by
  induction s generalizing n with
  | nil => rw [List.foldl_nil, size_nil, Nat.mul_one]
  | cons d s ih => rw [List.foldl_cons, Word.wrap_wrap_mul, ih, size_cons, Nat.mul_assoc]

/-- The host's count is the number of elements, cut to 64 bits. -/
theorem count_eq_wrap_size (s : Shape) : count s = Word.wrap (size s) := by
  have hproduct := foldl_wrap 1 s
  rwa [Word.wrap_of_lt (by decide), Nat.one_mul] at hproduct

/-- The host counts right where the number of elements fits. -/
theorem count_of_lt {s : Shape} (h : size s < 2 ^ 64) : count s = size s := by
  rw [count_eq_wrap_size, Word.wrap_of_lt h]

/-- The host's count leaves the same remainder by four as the number of elements. -/
theorem count_mod_four (s : Shape) : count s % 4 = size s % 4 := by
  rw [count_eq_wrap_size, Word.wrap_mod_four]

/-- Where no partial product leaves 64 bits, neither does the whole one. -/
theorem mul_size_lt_of_overflowsFrom_eq_false {n : Nat} {s : Shape} (hn : n < 2 ^ 64)
    (h : overflowsFrom n s = false) : n * size s < 2 ^ 64 := by
  induction s generalizing n with
  | nil => rwa [size_nil, Nat.mul_one]
  | cons d s ih =>
    rw [overflowsFrom, Bool.or_eq_false_iff, decide_eq_false_iff_not, Nat.not_le] at h
    rw [size_cons, ← Nat.mul_assoc]
    exact ih h.1 h.2

/-- A number of elements that is computed without losing bits fits. -/
theorem size_lt_of_overflows_eq_false {s : Shape} (h : s.overflows = false) : size s < 2 ^ 64 := by
  have hproduct := mul_size_lt_of_overflowsFrom_eq_false (by decide) h
  rwa [Nat.one_mul] at hproduct

end ComputeKernels.Shape

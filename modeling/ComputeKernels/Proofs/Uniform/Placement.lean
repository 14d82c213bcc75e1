import ComputeKernels.Proofs.Success
import ComputeKernels.Uniform.Packing
import Mathlib.Algebra.GroupWithZero.Nat

/-!
# Where packing puts a field

Packing puts fillers before a field until it starts on its alignment.  Up to any field the packed
form is that of the fields before it, then the fillers, then the field itself.

Main results:

- Theorem `exists_padFrom`: fields of at most four components can be padded.
- Theorem `padFrom_split`: the padded form around one field.
- Theorem `length_flatMap_bytes`: fields take four bytes for every component.
-/

namespace ComputeKernels

/-! ## Rounding up -/

/-- The gap to a multiple is smaller than that. -/
theorem gapTo_lt {alignment : Nat} (h : 0 < alignment) (offset : Nat) :
    gapTo alignment offset < alignment :=
  Nat.mod_lt _ h

/-- Rounding up ends at a multiple. -/
theorem dvd_alignUp {alignment : Nat} (h : 0 < alignment) (n : Nat) :
    alignment ∣ alignUp alignment n := by
  have hmod := Nat.mod_lt n h
  unfold alignUp gapTo
  by_cases hzero : n % alignment = 0
  · simp [hzero, Nat.dvd_of_mod_eq_zero hzero]
  · rw [Nat.mod_eq_of_lt (by omega : alignment - n % alignment < alignment)]
    refine ⟨n / alignment + 1, ?_⟩
    have hdiv := Nat.div_add_mod n alignment
    rw [Nat.mul_add, Nat.mul_one]
    omega

/-- Alignments and offsets in words scale to those in bytes. -/
theorem gapTo_mul (scale alignment offset : Nat) :
    gapTo (scale * alignment) (scale * offset) = scale * gapTo alignment offset := by
  unfold gapTo
  rw [Nat.mul_mod_mul_left, ← Nat.mul_sub, Nat.mul_mod_mul_left]

namespace Uniform

/-! ## Widths -/

/-- Number of components of several fields. -/
def totalWidth (fields : List Field) : Nat := (fields.map Field.width).sum

@[simp]
theorem totalWidth_nil : totalWidth [] = 0 :=
  rfl

@[simp]
theorem totalWidth_cons (f : Field) (fields : List Field) :
    totalWidth (f :: fields) = f.width + totalWidth fields := by
  simp [totalWidth]

@[simp]
theorem totalWidth_append (fs gs : List Field) :
    totalWidth (fs ++ gs) = totalWidth fs + totalWidth gs := by
  simp [totalWidth]

@[simp]
theorem totalWidth_fillers (n : Nat) : totalWidth (List.replicate n Field.filler) = n := by
  simp [totalWidth, Field.filler, Field.ofWord, Field.width]

private theorem length_bytes (f : Field) : f.bytes.length = 4 * f.width := by
  simp [Field.bytes, Field.width]

/-- Fields take four bytes for every component. -/
theorem length_flatMap_bytes (fields : List Field) :
    (fields.flatMap Field.bytes).length = 4 * totalWidth fields := by
  induction fields with
  | nil => rfl
  | cons f fields ih =>
    rw [List.flatMap_cons, List.length_append, ih, length_bytes, totalWidth_cons, Nat.mul_add]

/-- Fillers are zero bytes. -/
theorem flatMap_bytes_fillers (n : Nat) :
    (List.replicate n Field.filler).flatMap Field.bytes = List.replicate (4 * n) 0 := by
  have hword : Field.filler.bytes = List.replicate 4 0 := by decide
  rw [List.flatMap_replicate, hword, List.flatten_replicate_replicate, Nat.mul_comm]

/-- A stored field has a component. -/
theorem stored_width (f : Field) : f.stored.width = max f.width 1 := by
  unfold Field.stored Field.width
  cases hwords : f.words with
  | nil => rfl
  | cons w ws => simp [hwords]

/-! ## Padded forms -/

/-- Every alignment is positive. -/
theorem alignment_pos {width aligned : Nat} (h : alignment width = .ok aligned) : 0 < aligned := by
  unfold alignment at h
  split at h <;> simp only [Except.ok.injEq, reduceCtorEq] at h <;> omega

/-- Every field of at most four components has an alignment. -/
theorem exists_alignment {f : Field} (h : f.width ≤ 4) :
    ∃ aligned, alignment f.stored.width = .ok aligned := by
  have hwidth := stored_width f
  obtain h1 | h2 | h3 | h4 :
      f.stored.width = 1 ∨ f.stored.width = 2 ∨ f.stored.width = 3 ∨ f.stored.width = 4 := by omega
  · exact ⟨1, by rw [h1]; rfl⟩
  · exact ⟨2, by rw [h2]; rfl⟩
  · exact ⟨4, by rw [h3]; rfl⟩
  · exact ⟨4, by rw [h4]; rfl⟩

/-- A padded form begins with the fillers and the first field. -/
theorem padFrom_cons_eq_ok_iff {offset : Nat} {f : Field} {rest padded : List Field} :
    padFrom offset (f :: rest) = .ok padded ↔
      ∃ aligned tail, alignment f.stored.width = .ok aligned ∧
        padFrom (offset + gapTo aligned offset + f.stored.width) rest = .ok tail ∧
        padded = List.replicate (gapTo aligned offset) Field.filler ++ f.stored :: tail := by
  simp only [padFrom, Except.bind_eq_ok_iff, pure, Except.pure, Except.ok.injEq, ← exists_and_left,
    eq_comm (a := padded)]

/-- Fields of at most four components can be padded. -/
theorem exists_padFrom {fields : List Field} (h : ∀ f ∈ fields, f.width ≤ 4) (offset : Nat) :
    ∃ padded, padFrom offset fields = .ok padded := by
  induction fields generalizing offset with
  | nil => exact ⟨[], rfl⟩
  | cons f rest ih =>
    rcases exists_alignment (h f List.mem_cons_self) with ⟨aligned, haligned⟩
    obtain ⟨tail, htail⟩ := ih (fun g hg => h g (List.mem_cons_of_mem f hg))
      (offset + gapTo aligned offset + f.stored.width)
    exact ⟨_, padFrom_cons_eq_ok_iff.mpr ⟨aligned, tail, haligned, htail, rfl⟩⟩

/-- Around any field, the padded form is that of the fields before it, fillers, the field, and
more. -/
theorem padFrom_split {before after padded : List Field} {f : Field} {offset : Nat}
    (h : padFrom offset (before ++ f :: after) = .ok padded) :
    ∃ head aligned tail, padFrom offset before = .ok head ∧
      alignment f.stored.width = .ok aligned ∧
      padded = head ++ List.replicate (gapTo aligned (offset + totalWidth head)) Field.filler ++
        f.stored :: tail := by
  induction before generalizing offset padded with
  | nil =>
    rcases padFrom_cons_eq_ok_iff.mp h with ⟨aligned, tail, haligned, htail, rfl⟩
    exact ⟨[], aligned, tail, rfl, haligned, by simp⟩
  | cons g before ih =>
    rcases padFrom_cons_eq_ok_iff.mp h with ⟨aligned₀, rest, haligned₀, hrest, rfl⟩
    rcases ih hrest with ⟨head, aligned, tail, hhead, haligned, rfl⟩
    refine ⟨List.replicate (gapTo aligned₀ offset) Field.filler ++ g.stored :: head, aligned, tail,
      padFrom_cons_eq_ok_iff.mpr ⟨aligned₀, head, haligned₀, hhead, rfl⟩, haligned, ?_⟩
    have hoffset : offset + totalWidth
          (List.replicate (gapTo aligned₀ offset) Field.filler ++ g.stored :: head) =
        offset + gapTo aligned₀ offset + g.stored.width + totalWidth head := by
      simp only [totalWidth_append, totalWidth_fillers, totalWidth_cons]
      omega
    rw [hoffset]
    simp

/-- Packed bytes are those of the padded fields. -/
theorem pack_eq_ok_iff {fields : List Field} {bytes : List UInt8} :
    pack fields = .ok bytes ↔
      ∃ padded, padFrom 0 fields = .ok padded ∧ padded.flatMap Field.bytes = bytes := by
  simp only [pack, pad, Except.bind_eq_ok_iff, pure, Except.pure, Except.ok.injEq]

end Uniform

end ComputeKernels

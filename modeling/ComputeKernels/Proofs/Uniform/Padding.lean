import ComputeKernels.Proofs.Uniform.Placement
import Mathlib.Order.Bounds.Basic

/-!
# Padding as the least aligned layout

A layout of fields keeps their order and puts fillers in front of each.  Padding is the layout that takes
the least number of fillers at every field, and thereby the shortest of all layouts in which each field
starts on its alignment.  Fillers need no alignment of their own, so a layout that is aligned stays as it
is when it is padded again.

Main results:

- Definition `LaidOut`: layouts of fields by the numbers of fillers that are admitted.
- Theorem `pad_eq_ok_iff`: padding is the layout with the least number of fillers at every field.
- Theorem `totalWidth_le_of_laidOut`: no aligned layout is shorter.
- Theorem `padFrom_of_laidOut`: aligned layouts are left unchanged.
- Theorem `padding_is_least_and_idempotent`: all of these, with the packed bytes.
-/

namespace ComputeKernels

/-! ## Least gaps -/

/-- No smaller gap reaches a multiple. -/
theorem gapTo_le {alignment offset gap : Nat} (h : 0 < alignment) (hgap : alignment ∣ offset + gap) :
    gapTo alignment offset ≤ gap := by
  by_contra hlt
  have haligned : alignment ∣ offset + gapTo alignment offset := dvd_alignUp h offset
  have hbetween : alignment ∣ gapTo alignment offset - gap := by
    have hdvd := Nat.dvd_sub haligned hgap
    rwa [Nat.add_sub_add_left] at hdvd
  have hbound := gapTo_lt h offset
  have hle := Nat.le_of_dvd (by omega) hbetween
  omega

/-- A multiple has no gap to the next multiple. -/
theorem gapTo_eq_zero {alignment offset : Nat} (h : 0 < alignment) (hoffset : alignment ∣ offset) :
    gapTo alignment offset = 0 := by
  have hle : gapTo alignment offset ≤ 0 := gapTo_le h hoffset
  omega

namespace Uniform

/-! ## Layouts -/

/-- Words to whose multiples a field with one to four components is aligned. -/
def wordAlignment (width : Nat) : Nat :=
  match width with
  | 1 => 1
  | 2 => 2
  | _ => 4

/-- Numbers of fillers behind an offset after which a field starts on its alignment. -/
def fillings (offset : Nat) (f : Field) : Set Nat :=
  {gap | wordAlignment f.stored.width ∣ offset + gap}

@[simp]
theorem mem_fillings {offset gap : Nat} {f : Field} :
    gap ∈ fillings offset f ↔ wordAlignment f.stored.width ∣ offset + gap :=
  Iff.rfl

/-- Behind an offset, the second list of fields is the first one in order, each field as it is stored and
directly behind a number of fillers that is admitted for it and the offset so far. -/
inductive LaidOut (admits : Nat → Field → Nat → Prop) : Nat → List Field → List Field → Prop
  | nil (offset : Nat) : LaidOut admits offset [] []
  | cons {offset gap : Nat} {f : Field} {fields padded : List Field} (hgap : admits offset f gap)
      (hrest : LaidOut admits (offset + gap + f.stored.width) fields padded) :
      LaidOut admits offset (f :: fields) (List.replicate gap Field.filler ++ f.stored :: padded)

/-- Every field starts on its alignment. -/
abbrev AlignedLayout : Nat → List Field → List Field → Prop :=
  LaidOut fun offset f gap => gap ∈ fillings offset f

/-- Every field has the least number of fillers after which it starts on its alignment. -/
abbrev TightLayout : Nat → List Field → List Field → Prop :=
  LaidOut fun offset f gap => IsLeast (fillings offset f) gap

variable {f : Field} {fields padded other : List Field} {offset : Nat}

private theorem LaidOut.mono {admits admits' : Nat → Field → Nat → Prop}
    (hadmits : ∀ offset f gap, admits offset f gap → admits' offset f gap)
    (h : LaidOut admits offset fields padded) : LaidOut admits' offset fields padded := by
  induction h with
  | nil offset => exact .nil offset
  | cons hgap _ ih => exact .cons (hadmits _ _ _ hgap) ih

private theorem LaidOut.aligned (h : TightLayout offset fields padded) :
    AlignedLayout offset fields padded :=
  h.mono fun _ _ _ hgap => hgap.1

/-- Packing aligns fields as the layouts do. -/
theorem wordAlignment_eq {width aligned : Nat} (h : alignment width = .ok aligned) :
    wordAlignment width = aligned := by
  unfold alignment at h
  split at h <;> cases h <;> rfl

/-- The gap to the alignment of a field is the least number of fillers. -/
theorem isLeast_gapTo {aligned : Nat} (h : alignment f.stored.width = .ok aligned) (offset : Nat) :
    IsLeast (fillings offset f) (gapTo aligned offset) := by
  have hpos := alignment_pos h
  constructor
  · rw [mem_fillings, wordAlignment_eq h]
    exact dvd_alignUp hpos offset
  · intro gap hgap
    rw [mem_fillings, wordAlignment_eq h] at hgap
    exact gapTo_le hpos hgap

/-! ## Padding is the tight layout -/

/-- A field of more than four components has no alignment. -/
theorem alignment_of_wide {width : Nat} (h : 4 < width) :
    alignment width = .error (.uniformMismatch (.componentCount width)) := by
  match width, h with
  | n + 5, _ => rfl

/-- Padding fails at the first field of more than four components, and names their number. -/
theorem padFrom_of_wide (h : fields.find? (fun f => 4 < f.width) = some f) (offset : Nat) :
    padFrom offset fields = .error (.uniformMismatch (.componentCount f.width)) := by
  induction fields generalizing offset with
  | nil => simp at h
  | cons g rest ih =>
    by_cases hwide : 4 < g.width
    · obtain rfl : g = f := by simpa [hwide] using h
      have hstored : g.stored.width = g.width := by
        rw [stored_width]
        omega
      simp [padFrom, hstored, alignment_of_wide hwide, bind, Except.bind]
    · have hrest : rest.find? (fun f => 4 < f.width) = some f := by simpa [hwide] using h
      rcases exists_alignment (f := g) (by omega) with ⟨aligned, haligned⟩
      simp [padFrom, haligned, ih hrest, bind, Except.bind]

/-- Padding fails exactly if some field has more than four components. -/
theorem exists_pad_eq_error_iff :
    (∃ e, pad fields = .error e) ↔ ∃ f ∈ fields, 4 < f.width := by
  constructor
  · rintro ⟨e, he⟩
    by_contra hnarrow
    have hwidths : ∀ f ∈ fields, f.width ≤ 4 := by
      intro f hf
      by_contra hwide
      exact hnarrow ⟨f, hf, by omega⟩
    rcases exists_padFrom hwidths 0 with ⟨padded, hpadded⟩
    rw [pad, hpadded] at he
    cases he
  · rintro ⟨f, hf, hwide⟩
    have hfound : (fields.find? (fun f => 4 < f.width)).isSome := by
      rw [List.find?_isSome]
      exact ⟨f, hf, by simpa using hwide⟩
    rcases Option.isSome_iff_exists.mp hfound with ⟨g, hg⟩
    exact ⟨_, padFrom_of_wide hg 0⟩

/-- Behind any offset, padding is the tight layout of fields with at most four components. -/
theorem padFrom_eq_ok_iff :
    padFrom offset fields = .ok padded ↔
      (∀ f ∈ fields, f.width ≤ 4) ∧ TightLayout offset fields padded := by
  constructor
  · intro h
    induction fields generalizing offset padded with
    | nil =>
      obtain rfl : [] = padded := by simpa [padFrom] using h
      exact ⟨by simp, .nil offset⟩
    | cons f rest ih =>
      rcases padFrom_cons_eq_ok_iff.mp h with ⟨aligned, tail, haligned, htail, rfl⟩
      rcases ih htail with ⟨hwidths, hlayout⟩
      have hwidth : f.width ≤ 4 := by
        by_contra hwide
        have hstored := stored_width f
        rw [alignment_of_wide (by omega)] at haligned
        cases haligned
      exact ⟨List.forall_mem_cons.mpr ⟨hwidth, hwidths⟩, .cons (isLeast_gapTo haligned offset) hlayout⟩
  · rintro ⟨hwidths, hlayout⟩
    induction hlayout with
    | nil offset => rfl
    | @cons offset gap f fields padded hgap _ ih =>
      rw [List.forall_mem_cons] at hwidths
      rcases exists_alignment hwidths.1 with ⟨aligned, haligned⟩
      obtain rfl : gap = gapTo aligned offset := hgap.unique (isLeast_gapTo haligned offset)
      exact padFrom_cons_eq_ok_iff.mpr ⟨aligned, padded, haligned, ih hwidths.2, rfl⟩

/-- Padding is the tight layout of fields with at most four components. -/
theorem pad_eq_ok_iff :
    pad fields = .ok padded ↔ (∀ f ∈ fields, f.width ≤ 4) ∧ TightLayout 0 fields padded :=
  padFrom_eq_ok_iff

/-! ## No aligned layout is shorter -/

/-- An aligned layout that begins no earlier than a tight one does not end earlier either. -/
theorem totalWidth_le_of_laidOut {later : Nat} (hle : offset ≤ later)
    (h : TightLayout offset fields padded) (hother : AlignedLayout later fields other) :
    offset + totalWidth padded ≤ later + totalWidth other := by
  induction h generalizing later other with
  | nil offset =>
    cases hother
    simpa using hle
  | @cons offset gap f fields padded hgap _ ih =>
    cases hother with
    | @cons _ gap' _ _ padded' hgap' hrest =>
      -- The start of the other layout is one that the tight layout could have chosen.
      have hchoice : later - offset + gap' ∈ fillings offset f := by
        have hstart : offset + (later - offset + gap') = later + gap' := by omega
        rw [mem_fillings] at hgap' ⊢
        rwa [hstart]
      have hstart := hgap.2 hchoice
      have hend := ih (by omega) hrest
      simp only [totalWidth_append, totalWidth_fillers, totalWidth_cons]
      omega

/-! ## Padding twice -/

@[simp]
theorem stored_stored (f : Field) : f.stored.stored = f.stored := by
  unfold Field.stored
  by_cases hempty : f.words.isEmpty
  · simp [hempty, Field.ofWord]
  · simp [hempty]

/-- Fillers are left where they are. -/
theorem padFrom_fillers {n : Nat} (h : padFrom (offset + n) fields = .ok padded) :
    padFrom offset (List.replicate n Field.filler ++ fields) =
      .ok (List.replicate n Field.filler ++ padded) := by
  induction n generalizing offset with
  | zero => simpa using h
  | succ n ih =>
    have hnext : padFrom (offset + 1 + n) fields = .ok padded := by
      rwa [Nat.add_assoc, Nat.add_comm 1]
    rw [List.replicate_succ, List.cons_append, List.cons_append, padFrom_cons_eq_ok_iff]
    have hgap : gapTo 1 offset = 0 := gapTo_eq_zero Nat.one_pos (Nat.one_dvd offset)
    have hstored : Field.filler.stored = Field.filler := rfl
    refine ⟨1, List.replicate n Field.filler ++ padded, rfl, ?_, ?_⟩
    · rw [hgap]
      exact ih hnext
    · simp [hgap, hstored]

/-- An aligned layout is left unchanged. -/
theorem padFrom_of_laidOut (hwidths : ∀ f ∈ fields, f.width ≤ 4)
    (h : AlignedLayout offset fields padded) : padFrom offset padded = .ok padded := by
  induction h with
  | nil offset => rfl
  | @cons offset gap f fields padded hgap _ ih =>
    rw [List.forall_mem_cons] at hwidths
    rcases exists_alignment hwidths.1 with ⟨aligned, haligned⟩
    apply padFrom_fillers
    rw [padFrom_cons_eq_ok_iff, stored_stored]
    have hstart : gapTo aligned (offset + gap) = 0 := by
      apply gapTo_eq_zero (alignment_pos haligned)
      rwa [mem_fillings, wordAlignment_eq haligned] at hgap
    refine ⟨aligned, padded, haligned, ?_, by simp [hstart]⟩
    rw [hstart, Nat.add_zero]
    exact ih hwidths.2

/-- Padding fails exactly if some field has more than four components, and names the number of the first
one.  Else it keeps the fields in order, each behind the least number of fillers after which it starts on
its alignment and none behind the last, an empty field being stored as the number one.  No aligned layout
is shorter, and padding once more changes nothing.  The packed bytes are those of the padded fields, four
for each component, and the same if the fields are padded before. -/
theorem padding_is_least_and_idempotent (fields : List Field) :
    ((∃ e, pad fields = .error e) ↔ ∃ f ∈ fields, 4 < f.width) ∧
      (∀ f, fields.find? (fun f => 4 < f.width) = some f →
        pad fields = .error (.uniformMismatch (.componentCount f.width))) ∧
      (∀ padded, pad fields = .ok padded ↔
        (∀ f ∈ fields, f.width ≤ 4) ∧ TightLayout 0 fields padded) ∧
      ∀ padded, pad fields = .ok padded →
        (∀ other, AlignedLayout 0 fields other → totalWidth padded ≤ totalWidth other) ∧
        pad padded = .ok padded ∧
        pack fields = .ok (padded.flatMap Field.bytes) ∧
        pack padded = .ok (padded.flatMap Field.bytes) ∧
        (padded.flatMap Field.bytes).length = 4 * totalWidth padded := by
  refine ⟨exists_pad_eq_error_iff, fun f hf => padFrom_of_wide hf 0, fun padded => pad_eq_ok_iff,
    fun padded hpadded => ?_⟩
  rcases pad_eq_ok_iff.mp hpadded with ⟨hwidths, hlayout⟩
  have hagain : pad padded = .ok padded := padFrom_of_laidOut hwidths hlayout.aligned
  refine ⟨fun other hother => ?_, hagain, pack_eq_ok_iff.mpr ⟨padded, hpadded, rfl⟩,
    pack_eq_ok_iff.mpr ⟨padded, hagain, rfl⟩, length_flatMap_bytes padded⟩
  simpa using totalWidth_le_of_laidOut (Nat.le_refl 0) hlayout hother

/-- A number, a pair and a triple leave one word free before the pair.  If the pair starts two words later
than it has to, the layout is still aligned, but not shorter. -/
theorem pair_and_triple_are_padded :
    ∃ padded, pad [⟨.float32, [7]⟩, ⟨.int32, [2, 3]⟩, ⟨.int32, [4, 5, 6]⟩] = .ok padded ∧
      padded = [⟨.float32, [7]⟩, .filler, ⟨.int32, [2, 3]⟩, ⟨.int32, [4, 5, 6]⟩] ∧
      pad padded = .ok padded ∧ totalWidth padded ≤ 11 ∧
      pad [⟨.int32, [1, 2, 3, 4, 5]⟩] = .error (.uniformMismatch (.componentCount 5)) := by
  have hpad : pad [⟨.float32, [7]⟩, ⟨.int32, [2, 3]⟩, ⟨.int32, [4, 5, 6]⟩] =
      .ok [⟨.float32, [7]⟩, .filler, ⟨.int32, [2, 3]⟩, ⟨.int32, [4, 5, 6]⟩] := rfl
  have hother : AlignedLayout 0 [⟨.float32, [7]⟩, ⟨.int32, [2, 3]⟩, ⟨.int32, [4, 5, 6]⟩]
      [⟨.float32, [7]⟩, .filler, .filler, .filler, ⟨.int32, [2, 3]⟩, .filler, .filler,
        ⟨.int32, [4, 5, 6]⟩] := by
    apply @LaidOut.cons _ 0 0 _ _ _ (mem_fillings.mpr (by decide))
    apply @LaidOut.cons _ 1 3 _ _ _ (mem_fillings.mpr (by decide))
    apply @LaidOut.cons _ 6 2 _ _ _ (mem_fillings.mpr (by decide))
    exact .nil 11
  rcases padding_is_least_and_idempotent [⟨.float32, [7]⟩, ⟨.int32, [2, 3]⟩, ⟨.int32, [4, 5, 6]⟩]
    with ⟨-, -, -, hpadded⟩
  rcases hpadded _ hpad with ⟨hleast, hagain, -⟩
  rcases padding_is_least_and_idempotent [⟨.int32, [1, 2, 3, 4, 5]⟩] with ⟨-, hwide, -⟩
  exact ⟨_, hpad, rfl, hagain, hleast _ hother, hwide ⟨.int32, [1, 2, 3, 4, 5]⟩ (by decide)⟩

end Uniform

end ComputeKernels

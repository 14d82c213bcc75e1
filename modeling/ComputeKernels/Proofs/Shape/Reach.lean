import ComputeKernels.Proofs.Shape.Positions

/-!
# How far reads reach

The element of an operand that belongs to an element of the output lies the further back the larger
the coordinates of the output are.  The last element therefore decides whether everything that is read
lies inside the operand.  Where the operand is nowhere longer than the output, that is so exactly if it
broadcasts.

Main results:

- Theorem `offsetOf_lt_offsetOf`: larger coordinates have a larger offset.
- Theorem `reads_lt_iff`: every element is read inside the operand exactly if the last one is.
- Theorem `Fits.reach_lt_iff`: of an operand that is nowhere longer than the output the last element is
  inside exactly if the operand broadcasts.
-/

namespace ComputeKernels.Shape

/-! ## Order of offsets -/

/-- Coordinates within the extents are those of their offset. -/
theorem coordsAt?_offsetOf {s : Shape} {coords : List Nat} (h : Within coords s) :
    coordsAt? s (offsetOf s coords) = some coords := by
  induction h with
  | nil => simp [coordsAt?]
  | @cons c d coords s hc hrest ih =>
    by_cases hs : s = []
    · subst hs
      obtain rfl := List.length_eq_zero_iff.mp hrest.length_eq
      simp [coordsAt?, offsetOf, outerStrides]
    · have hinner := offsetOf_lt hrest
      have hpos : 0 < size s := Nat.zero_lt_of_lt hinner
      rw [offsetOf_cons hrest.length_eq, coordsAt?_cons_eq_some_iff hs]
      refine ⟨hpos, coords, ?_, ?_⟩
      · rwa [Nat.mul_add_mod', Nat.mod_eq_of_lt hinner]
      · rw [Nat.add_comm, Nat.add_mul_div_right _ _ hpos, Nat.div_eq_of_lt hinner, Nat.zero_add]

private theorem offsetOf_le_offsetOf {s : Shape} {near far : List Nat}
    (h : List.Forall₂ (· ≤ ·) near far)
    (hlength : far.length = s.length) : offsetOf s near ≤ offsetOf s far := by
  induction h generalizing s with
  | nil => exact Nat.le_refl _
  | @cons a b near far hab hrest ih =>
    cases s with
    | nil => simp at hlength
    | cons d s =>
      have htails : far.length = s.length := by simpa using hlength
      rw [offsetOf_cons htails, offsetOf_cons (hrest.length_eq.trans htails)]
      exact Nat.add_le_add (Nat.mul_le_mul_right _ hab) (ih htails)

/-- Larger coordinates have a larger offset. -/
theorem offsetOf_lt_offsetOf {s : Shape} {near far : List Nat} (hpos : 0 < size s)
    (h : List.Forall₂ (· ≤ ·) near far) (hne : near ≠ far) (hlength : far.length = s.length) :
    offsetOf s near < offsetOf s far := by
  induction h generalizing s with
  | nil => exact absurd rfl hne
  | @cons a b near far hab hrest ih =>
    cases s with
    | nil => simp at hlength
    | cons d s =>
      have htails : far.length = s.length := by simpa using hlength
      have hrow : 0 < size s := Nat.pos_of_mul_pos_left (size_cons d s ▸ hpos)
      rw [offsetOf_cons htails, offsetOf_cons (hrest.length_eq.trans htails)]
      rcases Nat.lt_or_eq_of_le hab with hlt | rfl
      · exact Nat.add_lt_add_of_lt_of_le (Nat.mul_lt_mul_of_pos_right hlt hrow)
          (offsetOf_le_offsetOf hrest htails)
      · have htail : near ≠ far := fun heq => hne (heq ▸ rfl)
        exact Nat.add_lt_add_left (ih hrow htail htails) _

/-! ## The last element -/

/-- Coordinates of the last element. -/
def lastCoords (s : Shape) : List Nat := s.map (· - 1)

@[simp]
theorem length_lastCoords (s : Shape) : (lastCoords s).length = s.length :=
  List.length_map _

/-- Every coordinate of an element is at most that of the last element. -/
theorem Within.le_lastCoords {coords : List Nat} {s : Shape} (h : Within coords s) :
    List.Forall₂ (· ≤ ·) coords (lastCoords s) := by
  induction h with
  | nil => exact .nil
  | cons hc _ ih => exact .cons (Nat.le_sub_one_of_lt hc) ih

private theorem within_lastCoords {s : Shape} (h : 0 < size s) : Within (lastCoords s) s := by
  induction s with
  | nil => exact .nil
  | cons d s ih =>
    rw [size_cons] at h
    exact .cons (Nat.sub_one_lt_of_lt (Nat.pos_of_mul_pos_right h)) (ih (Nat.pos_of_mul_pos_left h))

/-- The last element of a shape that is not empty has the largest index. -/
theorem offsetOf_lastCoords {s : Shape} (h : 0 < size s) :
    offsetOf s (lastCoords s) + 1 = size s := by
  have hlast : size s - 1 < size s := Nat.sub_one_lt_of_lt h
  rcases exists_coordsAt hlast with ⟨coords, -, hwithin, hoffset⟩
  have hle := offsetOf_le_offsetOf hwithin.le_lastCoords (length_lastCoords s)
  have hlt := offsetOf_lt (within_lastCoords h)
  omega

/-! ## The last element that is read -/

private theorem sourceCoords_le {input output : Shape} {near far : List Nat}
    (h : List.Forall₂ (· ≤ ·) near far) :
    List.Forall₂ (· ≤ ·) (sourceCoords input output near) (sourceCoords input output far) := by
  apply List.forall₂_drop
  rw [List.forall₂_iff_get]
  refine ⟨by simp [h.length_eq], fun axis hnear hfar => ?_⟩
  have hle := h.get (i := axis) (by simpa using hnear) (by simpa using hfar)
  simp only [List.get_eq_getElem, pin, List.getElem_mapIdx] at hle ⊢
  split
  · exact Nat.le_refl 0
  · exact hle

/-- Flat index of the operand element that belongs to the last element of an output. -/
def reach (input output : Shape) : Nat :=
  offsetOf input (sourceCoords input output (lastCoords output))

/-- Every element is read inside the operand exactly if the last one is. -/
theorem reads_lt_iff {input output : Shape} (hle : input.length ≤ output.length)
    (hpos : 0 < size output) :
    (∀ coords, Within coords output → offsetOf input (sourceCoords input output coords) < size input) ↔
      reach input output < size input := by
  constructor
  · intro h
    exact h _ (within_lastCoords hpos)
  · intro h coords hwithin
    refine Nat.lt_of_le_of_lt (offsetOf_le_offsetOf (sourceCoords_le hwithin.le_lastCoords) ?_) h
    exact length_sourceCoords hle (length_lastCoords output)

/-! ## Operands that are nowhere longer -/

/-- No axis of an operand is longer than the output axis that it is aligned with. -/
structure Fits (input output : Shape) : Prop where
  length_le : input.length ≤ output.length
  extents : List.Forall₂ (· ≤ ·) input (output.drop (output.length - input.length))

instance (input output : Shape) : Decidable (Fits input output) :=
  decidable_of_iff (input.length ≤ output.length ∧
      List.Forall₂ (· ≤ ·) input (output.drop (output.length - input.length)))
    ⟨fun ⟨hle, hextents⟩ => ⟨hle, hextents⟩, fun h => ⟨h.length_le, h.extents⟩⟩

/-- An operand that covers the output and is nowhere longer broadcasts. -/
theorem Fits.broadcasts {input output : Shape} (h : Fits input output) (hcovers : Covers input output) :
    Broadcasts input output := by
  refine ⟨h.length_le, ?_⟩
  rw [List.forall₂_iff_get]
  refine ⟨h.extents.length_eq, fun i hinput houtput => ?_⟩
  have hfits := h.extents.get hinput houtput
  exact (hcovers.extents.get hinput houtput).imp_right (Nat.le_antisymm hfits)

/-- What is read for the last element of the output is not before the last element of an operand that
is nowhere longer. -/
theorem Fits.lastCoords_le {input output : Shape} (h : Fits input output) :
    List.Forall₂ (· ≤ ·) (lastCoords input) (sourceCoords input output (lastCoords output)) := by
  have hle := h.length_le
  rw [List.forall₂_iff_get]
  refine ⟨?_, fun i hlast hsource => ?_⟩
  · rw [length_lastCoords, length_sourceCoords hle (length_lastCoords output)]
  · have hi : i < input.length := by simpa using hlast
    have haxis : output.length - input.length + i < output.length := by omega
    have hfits : input[i] ≤ output[output.length - input.length + i] := by
      have haligned := h.extents.get (i := i) hi (by simp; omega)
      simpa using haligned
    simp only [List.get_eq_getElem]
    rw [getElem_sourceCoords hle hsource hi haxis (by simpa using haxis)]
    simp only [lastCoords, List.getElem_map]
    split
    · next hrepeats => omega
    · next hsingle => omega

/-- An operand whose last element is read for the last element of the output covers the output. -/
theorem covers_of_lastCoords_eq {input output : Shape} (hle : input.length ≤ output.length)
    (hpos : 0 < size input)
    (h : lastCoords input = sourceCoords input output (lastCoords output)) : Covers input output := by
  refine ⟨hle, ?_⟩
  rw [List.forall₂_iff_get]
  refine ⟨by simp; omega, fun i hinput houtput => ?_⟩
  have haxis : output.length - input.length + i < output.length := by omega
  have hextent : input[i] - 1 < input[i] := by
    have hwithin := (within_lastCoords hpos).get (i := i) (by simpa using hinput) hinput
    simpa [lastCoords] using hwithin
  have hsource : i < (sourceCoords input output (lastCoords output)).length := by
    rwa [← h, length_lastCoords]
  have hcoord : input[i] - 1 =
      if input[i] = 1 ∧ 1 < output[output.length - input.length + i] then 0
      else output[output.length - input.length + i] - 1 := by
    have haligned := List.getElem_of_eq h (by simpa using hinput)
    rw [getElem_sourceCoords hle hsource hinput haxis (by simpa using haxis)] at haligned
    simpa only [lastCoords, List.getElem_map] using haligned
  simp only [List.get_eq_getElem, List.getElem_drop]
  split at hcoord
  · next hrepeats => exact .inl hrepeats.1
  · next hsingle => omega

/-- Of an operand that is nowhere longer than the output, the last element is read inside exactly if the
operand broadcasts. -/
theorem Fits.reach_lt_iff {input output : Shape} (h : Fits input output) (hpos : 0 < size output) :
    reach input output < size input ↔ Broadcasts input output := by
  constructor
  · intro hlt
    have hinput : 0 < size input := Nat.zero_lt_of_lt hlt
    apply h.broadcasts
    apply covers_of_lastCoords_eq h.length_le hinput
    by_contra hne
    have hbehind := offsetOf_lt_offsetOf hinput h.lastCoords_le hne
      (length_sourceCoords h.length_le (length_lastCoords output))
    have hlast := offsetOf_lastCoords hinput
    unfold reach at hlt
    omega
  · intro hbroadcasts
    exact offsetOf_lt (hbroadcasts.within_sourceCoords (within_lastCoords hpos))

end ComputeKernels.Shape

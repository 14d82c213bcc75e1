import ComputeKernels.Proofs.Dispatch.Partitions

/-!
# Outcomes of checking a layout

An arrangement of all axes is accepted, and everything else is refused with the reason that fits it: a
rank that cannot be addressed, an axis that is repeated or out of range, or an axis that is missing.

Main results:

- Theorem `validate_cases`: the four outcomes.
- Theorem `partitions_are_accepted`: what is accepted, and how everything else is refused.
-/

namespace ComputeKernels.AxisLayout

variable {l : AxisLayout} {rank : Nat}

/-! ## Refused layouts -/

private theorem visitAxes_eq_none_iff {axes : List Nat} :
    visitAxes rank [] axes = none ↔ (∃ axis ∈ axes, rank ≤ axis) ∨ ¬ axes.Nodup := by
  rw [Option.eq_none_iff_forall_ne_some]
  simp only [ne_eq, visitAxes_eq_some_iff, List.not_mem_nil, not_false_eq_true, and_true, not_and]
  constructor
  · intro h
    by_cases hout : ∃ axis ∈ axes, rank ≤ axis
    · exact .inl hout
    · refine .inr fun hnodup => h _ (fun axis hmem => ?_) hnodup rfl
      exact Nat.lt_of_not_le fun hle => hout ⟨axis, hmem, hle⟩
  · rintro (⟨axis, hmem, hle⟩ | hdup) marked hrange hnodup
    · exact absurd (hrange axis hmem) (Nat.not_lt_of_le hle)
    · exact absurd hnodup hdup

private theorem validate_of_large (hrank : Shape.maxRank < rank) :
    l.validate rank = .error (.unsupportedRank rank .dispatchLayout) := by
  rw [validate_eq, checkSeen, if_pos hrank]

/-- An axis is repeated or out of range. -/
theorem validate_of_misplaced (hrank : rank ≤ Shape.maxRank)
    (h : (∃ axis ∈ l.axes, rank ≤ axis) ∨ ¬ l.axes.Nodup) :
    l.validate rank = .error (.unsupportedLayout (.notPartition l rank)) := by
  rw [validate_eq, checkSeen, if_neg (Nat.not_lt_of_le hrank), visitAxes_eq_none_iff.mpr h]

/-- An axis is missing, and none is repeated or out of range. -/
theorem validate_of_missing (hrank : rank ≤ Shape.maxRank) (hrange : ∀ axis ∈ l.axes, axis < rank)
    (hnodup : l.axes.Nodup) (hmissing : ∃ axis < rank, axis ∉ l.axes) :
    l.validate rank = .error (.unsupportedLayout (.unassignedAxes l rank)) := by
  have hvisit : visitAxes rank [] l.axes = some (l.axes.reverse ++ []) :=
    visitAxes_eq_some_iff.mpr ⟨fun a ha => ⟨hrange a ha, List.not_mem_nil⟩, hnodup, rfl⟩
  obtain ⟨axis, haxis, hnot⟩ := hmissing
  have hopen : ¬ (List.range rank).all (· ∈ l.axes.reverse ++ []) = true := by
    simpa using ⟨axis, haxis, hnot⟩
  rw [validate_eq, checkSeen, if_neg (Nat.not_lt_of_le hrank), hvisit]
  exact if_neg hopen

/-- The four outcomes of checking a layout. -/
theorem validate_cases (l : AxisLayout) (rank : Nat) :
    (Shape.maxRank < rank ∧ l.validate rank = .error (.unsupportedRank rank .dispatchLayout)) ∨
      rank ≤ Shape.maxRank ∧
        (((∃ axis ∈ l.axes, rank ≤ axis) ∨ ¬ l.axes.Nodup) ∧
            l.validate rank = .error (.unsupportedLayout (.notPartition l rank)) ∨
          ((∀ axis ∈ l.axes, axis < rank) ∧ l.axes.Nodup ∧ ∃ axis < rank, axis ∉ l.axes) ∧
            l.validate rank = .error (.unsupportedLayout (.unassignedAxes l rank)) ∨
          l.validate rank = .ok ()) := by
  rcases Nat.lt_or_ge Shape.maxRank rank with hlarge | hrank
  · exact .inl ⟨hlarge, validate_of_large hlarge⟩
  refine .inr ⟨hrank, ?_⟩
  by_cases hmisplaced : (∃ axis ∈ l.axes, rank ≤ axis) ∨ ¬ l.axes.Nodup
  · exact .inl ⟨hmisplaced, validate_of_misplaced hrank hmisplaced⟩
  obtain ⟨hin, hdistinct⟩ := not_or.mp hmisplaced
  have hrange : ∀ axis ∈ l.axes, axis < rank := fun axis hmem =>
    Nat.lt_of_not_le fun hle => hin ⟨axis, hmem, hle⟩
  have hnodup : l.axes.Nodup := Decidable.not_not.mp hdistinct
  refine .inr ?_
  by_cases hmissing : ∃ axis < rank, axis ∉ l.axes
  · exact .inl ⟨⟨hrange, hnodup, hmissing⟩, validate_of_missing hrank hrange hnodup hmissing⟩
  · have hall : ∀ axis < rank, axis ∈ l.axes := fun axis hlt =>
      Decidable.not_not.mp fun hnot => hmissing ⟨axis, hlt, hnot⟩
    exact .inr (validate_eq_ok_iff.mpr ⟨hrank, perm_range_iff.mpr ⟨hrange, hnodup, hall⟩⟩)

/-- The flat layout is accepted for every addressable rank. -/
theorem validate_of_isFlat (h : l.isFlat rank = true) :
    l.validate rank = .ok () ↔ rank ≤ Shape.maxRank := by
  obtain rfl : l = flat rank := eq_of_beq h
  simp [validate_eq_ok_iff, axes, flat]

/-- Checking never leaves the table.  The accepted layouts are those of an addressable rank that
arrange all axes; a layout is refused for its rank, for an axis that is repeated or out of range, or
else for one that is missing.  The flat layout of every addressable rank is accepted. -/
theorem partitions_are_accepted (l : AxisLayout) (rank : Nat) :
    l.validateInTable? rank = some (l.validate rank) ∧
      (l.validate rank = .ok () ↔
        rank ≤ Shape.maxRank ∧ (l.x ++ l.y ++ l.z).Perm (List.range rank)) ∧
      (l.validate rank = .error (.unsupportedRank rank .dispatchLayout) ↔ Shape.maxRank < rank) ∧
      (l.validate rank = .error (.unsupportedLayout (.notPartition l rank)) ↔
        rank ≤ Shape.maxRank ∧ ((∃ axis ∈ l.axes, rank ≤ axis) ∨ ¬ l.axes.Nodup)) ∧
      (l.validate rank = .error (.unsupportedLayout (.unassignedAxes l rank)) ↔
        rank ≤ Shape.maxRank ∧ (∀ axis ∈ l.axes, axis < rank) ∧ l.axes.Nodup ∧
          ∃ axis < rank, axis ∉ l.axes) ∧
      (l.isFlat rank = true → (l.validate rank = .ok () ↔ rank ≤ Shape.maxRank)) := by
  have htable : l.validateInTable? rank = some (l.validate rank) := by
    rw [validate_eq, validateInTable?_eq]
  refine ⟨htable, validate_eq_ok_iff, ⟨fun h => ?_, validate_of_large⟩,
    ⟨fun h => ?_, fun h => validate_of_misplaced h.1 h.2⟩,
    ⟨fun h => ?_, fun ⟨hrank, hrange, hnodup, hmissing⟩ =>
      validate_of_missing hrank hrange hnodup hmissing⟩, validate_of_isFlat⟩
  -- Each refusal is the outcome of one case only.
  all_goals
    rcases validate_cases l rank with
      ⟨hlarge, hresult⟩ | ⟨hrank, ⟨hmisplaced, hresult⟩ | ⟨hmissing, hresult⟩ | hresult⟩ <;>
    cases hresult.symm.trans h
  · exact hlarge
  · exact ⟨hrank, hmisplaced⟩
  · exact ⟨hrank, hmissing⟩

/-- An arrangement of three axes over all dimensions is accepted; the flat layout of three axes is
another one. -/
theorem scattered_axes_are_accepted :
    (flat 3).isFlat 3 = true ∧ (flat 3).validate 3 = .ok () ∧
      (⟨[2], [], [1, 0]⟩ : AxisLayout).validate 3 = .ok () := by
  refine ⟨rfl, ((partitions_are_accepted (flat 3) 3).2.2.2.2.2 rfl).mpr (by decide), ?_⟩
  exact (partitions_are_accepted ⟨[2], [], [1, 0]⟩ 3).2.1.mpr ⟨by decide, by decide⟩

end ComputeKernels.AxisLayout

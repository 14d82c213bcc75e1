import ComputeKernels.Dispatch.Partition
import Mathlib.Data.List.Perm.Basic

/-!
# Accepted layouts

A layout is checked with a table of as many flags as there are addressable axes, one access to it per
assigned axis.  No access lies outside the table, which says of every axis what the list of the axes
seen so far says.  So a layout is accepted for an output of addressable rank exactly if its three
dimensions together name every axis of the output once.

Main definitions:

- `visitAxes` and `checkSeen`: the check with the list of the axes seen so far.
- `Marks`: a table marks the axes of a list.

Main results:

- Theorem `markAxes_eq`: the table follows the list of axes, and no access lies outside of it.
- Theorem `validateInTable?_eq`: the check with a table has the answer of the check with a list.
- Theorem `validate_eq_ok_iff`: the accepted layouts are the arrangements of the axes.
-/

namespace ComputeKernels.AxisLayout

/-! ## Checking with a list -/

/-- Marks the given axes as seen; fails at the first that is repeated or out of range. -/
def visitAxes (rank : Nat) (seen : List Nat) : List Nat → Option (List Nat)
  | [] => some seen
  | axis :: rest =>
    if rank ≤ axis ∨ axis ∈ seen then none else visitAxes rank (axis :: seen) rest

/-- The check of a layout with the list of the axes seen so far. -/
def checkSeen (l : AxisLayout) (rank : Nat) : Except KernelError Unit :=
  if Shape.maxRank < rank then .error (.unsupportedRank rank .dispatchLayout)
  else
    match visitAxes rank [] l.axes with
    | none => .error (.unsupportedLayout (.notPartition l rank))
    | some seen =>
      if (List.range rank).all (· ∈ seen) then .ok ()
      else .error (.unsupportedLayout (.unassignedAxes l rank))

/-! ## Agreement with the table -/

variable {l : AxisLayout} {rank : Nat} {seen : List Nat} {table : List Bool}

/-- A table with one flag per addressable axis marks the axes of a list. -/
structure Marks (table : List Bool) (seen : List Nat) : Prop where
  length : table.length = Shape.maxRank
  marked : ∀ axis < Shape.maxRank, table[axis]? = some (decide (axis ∈ seen))

namespace Marks

private theorem empty : Marks (List.replicate Shape.maxRank false) [] where
  length := List.length_replicate
  marked axis haxis := by simp [haxis]

/-- One more axis is marked. -/
theorem set (h : Marks table seen) (axis : Nat) : Marks (table.set axis true) (axis :: seen) where
  length := List.length_set.trans h.length
  marked other hother := by
    rw [List.getElem?_set, h.length]
    by_cases heq : axis = other
    · subst heq
      simp [hother]
    · have hne : ¬ other = axis := fun h => heq h.symm
      simp [heq, hne, h.marked other hother]

/-- Some flag of the first axes is not set exactly if one of these axes was not seen. -/
theorem any_not_take (h : Marks table seen) (hrank : rank ≤ Shape.maxRank) :
    (table.take rank).any (!·) = !(List.range rank).all (· ∈ seen) := by
  have htake : table.take rank = (List.range rank).map (decide <| · ∈ seen) := by
    refine List.ext_getElem? fun axis => ?_
    rw [List.getElem?_take, List.getElem?_map]
    split
    · next haxis => simp [h.marked axis (Nat.lt_of_lt_of_le haxis hrank), haxis]
    · next haxis => simp [haxis]
  rw [htake, List.any_map, List.not_all_eq_any_not]
  rfl

end Marks

/-- No access is outside the table, which follows the list of axes seen so far. -/
theorem markAxes_eq (hrank : rank ≤ Shape.maxRank) (axes : List Nat) (h : Marks table seen) :
    ∃ result, markAxes rank table axes = some result ∧
      Option.Rel Marks result (visitAxes rank seen axes) := by
  induction axes generalizing table seen with
  | nil => exact ⟨some table, rfl, .some h⟩
  | cons axis axes ih =>
    rw [markAxes, visitAxes]
    by_cases hrange : rank ≤ axis
    · exact ⟨none, by simp [hrange], by simp [hrange]⟩
    · have haccess := h.marked axis (Nat.lt_of_lt_of_le (Nat.lt_of_not_le hrange) hrank)
      by_cases hseen : axis ∈ seen
      · exact ⟨none, by simp [hrange, haccess, hseen], by simp [hseen]⟩
      · obtain ⟨result, hresult, hrel⟩ := ih (h.set axis)
        exact ⟨result, by simp [hrange, haccess, hseen, hresult], by simpa [hrange, hseen] using hrel⟩

/-- The check with a table never leaves the table, and gives the answer of the check with a list. -/
theorem validateInTable?_eq (l : AxisLayout) (rank : Nat) :
    l.validateInTable? rank = some (l.checkSeen rank) := by
  rw [validateInTable?, checkSeen]
  split
  · rfl
  · next hrank =>
    have hle : rank ≤ Shape.maxRank := Nat.le_of_not_lt hrank
    obtain ⟨result, hresult, hrel⟩ := markAxes_eq hle l.axes Marks.empty
    rw [hresult, Option.map_some]
    cases hvisit : visitAxes rank [] l.axes with
    | none =>
      rw [hvisit] at hrel
      cases hrel
      rfl
    | some seen =>
      rw [hvisit] at hrel
      cases hrel with
      | some hmarks =>
        simp only [hmarks.any_not_take hle, Bool.not_eq_true']
        cases (List.range rank).all (· ∈ seen) <;> rfl

/-- A layout is accepted or refused as by the check with a list. -/
theorem validate_eq (l : AxisLayout) (rank : Nat) : l.validate rank = l.checkSeen rank := by
  rw [validate, validateInTable?_eq, Option.getD_some]

/-! ## Accepted layouts -/

/-- The axes are all marked exactly if they are in range, distinct and were not seen before. -/
theorem visitAxes_eq_some_iff {axes marked : List Nat} :
    visitAxes rank seen axes = some marked ↔
      (∀ axis ∈ axes, axis < rank ∧ axis ∉ seen) ∧ axes.Nodup ∧ axes.reverse ++ seen = marked := by
  induction axes generalizing seen with
  | nil => simp [visitAxes]
  | cons axis axes ih =>
    rw [visitAxes]
    split
    · next hrefused =>
      simp only [reduceCtorEq, false_iff]
      rintro ⟨hall, -, -⟩
      have haxis := hall axis List.mem_cons_self
      exact hrefused.elim (Nat.not_le_of_lt haxis.1) haxis.2
    · next haccepted =>
      obtain ⟨hlt, hnew⟩ := not_or.mp haccepted
      rw [ih, List.nodup_cons, List.reverse_cons, List.append_assoc]
      constructor
      · rintro ⟨hall, hnodup, rfl⟩
        refine ⟨fun a ha => ?_, ⟨fun hmem => ?_, hnodup⟩, rfl⟩
        · rcases List.mem_cons.mp ha with rfl | ha
          · exact ⟨Nat.lt_of_not_le hlt, hnew⟩
          · exact ⟨(hall a ha).1, fun hseen => (hall a ha).2 (List.mem_cons_of_mem _ hseen)⟩
        · exact (hall axis hmem).2 List.mem_cons_self
      · rintro ⟨hall, ⟨hdistinct, hnodup⟩, rfl⟩
        refine ⟨fun a ha => ?_, hnodup, rfl⟩
        have hmem := hall a (List.mem_cons_of_mem _ ha)
        refine ⟨hmem.1, fun hseen => ?_⟩
        rcases List.mem_cons.mp hseen with rfl | hseen
        · exact hdistinct ha
        · exact hmem.2 hseen

/-- Distinct axes in range, every one of which occurs, are an arrangement of all axes. -/
theorem perm_range_iff {axes : List Nat} {rank : Nat} :
    axes.Perm (List.range rank) ↔
      (∀ axis ∈ axes, axis < rank) ∧ axes.Nodup ∧ ∀ axis < rank, axis ∈ axes := by
  constructor
  · intro h
    refine ⟨fun axis haxis => ?_, h.nodup_iff.mpr List.nodup_range, fun axis haxis => ?_⟩
    · exact List.mem_range.mp (h.mem_iff.mp haxis)
    · exact h.mem_iff.mpr (List.mem_range.mpr haxis)
  · rintro ⟨hlt, hnodup, hall⟩
    rw [List.perm_ext_iff_of_nodup hnodup List.nodup_range]
    intro axis
    rw [List.mem_range]
    exact ⟨hlt axis, hall axis⟩

/-- The accepted layouts are the arrangements of the axes. -/
theorem validate_eq_ok_iff :
    l.validate rank = .ok () ↔ rank ≤ Shape.maxRank ∧ l.axes.Perm (List.range rank) := by
  rw [perm_range_iff, validate_eq, checkSeen]
  split
  · next hrank =>
    simp only [reduceCtorEq, false_iff]
    exact fun h => Nat.not_le_of_lt hrank h.1
  · next hrank =>
    have hle : rank ≤ Shape.maxRank := Nat.le_of_not_lt hrank
    split
    · next hnone =>
      simp only [reduceCtorEq, false_iff]
      rintro ⟨-, hlt, hnodup, -⟩
      have hmarked : visitAxes rank [] l.axes = some (l.axes.reverse ++ []) :=
        visitAxes_eq_some_iff.mpr ⟨fun a ha => ⟨hlt a ha, List.not_mem_nil⟩, hnodup, rfl⟩
      rw [hnone] at hmarked
      exact nomatch hmarked
    · next seen hsome =>
      obtain ⟨hlt, hnodup, rfl⟩ := visitAxes_eq_some_iff.mp hsome
      have hcovered : (List.range rank).all (· ∈ l.axes.reverse ++ []) = true ↔
          ∀ axis < rank, axis ∈ l.axes := by simp
      split
      · next hall =>
        exact iff_of_true rfl ⟨hle, fun a ha => (hlt a ha).1, hnodup, hcovered.mp hall⟩
      · next hmissing =>
        simp only [reduceCtorEq, false_iff]
        exact fun h => hmissing (hcovered.mpr h.2.2.2)

end ComputeKernels.AxisLayout

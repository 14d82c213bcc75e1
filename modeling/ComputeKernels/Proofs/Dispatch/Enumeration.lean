import ComputeKernels.Proofs.Dispatch.Coverage
import ComputeKernels.Proofs.Dispatch.Partitions
import ComputeKernels.Proofs.Shape.Reach
import Mathlib.Data.Set.Function

/-!
# Layouts enumerate the output

Every dimension of a grid runs over some axes of the output, and its number is split into coordinates
along them.  An accepted layout gives every axis to one dimension, so the numbers of all dimensions
together lead to coordinates of the output, each to its own.

A dimension without axes enumerates nothing and its number is not looked at.  The product of no extents
is one, so the only number below it is zero.

Main results:

- Theorem `Locates.used_lt_iff`: a number is below the product of its extents exactly if it leads to
  coordinates within them.
- Theorem `exists_leads`: all numbers lead to coordinates, also those beyond the extents.
- Theorem `exists_enumeration`: below the extents this is a one-to-one correspondence with the
  coordinates within the output.
-/

namespace ComputeKernels

/-! ## Coordinates of a number -/

namespace Shape

private theorem size_pos {s : Shape} (h : ∀ d ∈ s, 1 ≤ d) : 0 < size s := by
  induction s with
  | nil => decide
  | cons d s ih =>
    rw [List.forall_mem_cons] at h
    exact Nat.mul_pos h.1 (ih h.2)

/-- Where all extents are positive, every number has coordinates. -/
theorem exists_coordsAt?_of_pos {s : Shape} (h : ∀ d ∈ s, 1 ≤ d) (n : Nat) :
    ∃ coords, coordsAt? s n = some coords := by
  induction s generalizing n with
  | nil => exact ⟨[], by simp [coordsAt?]⟩
  | cons d s ih =>
    rw [List.forall_mem_cons] at h
    by_cases hs : s = []
    · subst hs
      exact ⟨[n], by simp [coordsAt?]⟩
    · rcases ih h.2 (n % size s) with ⟨inner, hinner⟩
      exact ⟨n / size s :: inner,
        (coordsAt?_cons_eq_some_iff hs).mpr ⟨size_pos h.2, inner, hinner, rfl⟩⟩

/-- The offset of the coordinates of a number is the number, also beyond the outermost extent. -/
theorem offsetOf_coordsAt? {s : Shape} {n : Nat} {coords : List Nat} (hs : s ≠ [])
    (h : coordsAt? s n = some coords) : offsetOf s coords = n := by
  induction s generalizing n coords with
  | nil => exact absurd rfl hs
  | cons d s ih =>
    by_cases htail : s = []
    · subst htail
      obtain rfl : [n] = coords := by simpa [coordsAt?] using h
      simp [offsetOf, outerStrides]
    · rcases (coordsAt?_cons_eq_some_iff htail).mp h with ⟨-, inner, hinner, rfl⟩
      rw [offsetOf_cons (length_coordsAt? hinner), ih htail hinner]
      exact Nat.div_add_mod' n (size s)

/-- A number is below the size exactly if its coordinates are within the extents. -/
theorem within_iff_lt_size {s : Shape} {n : Nat} {coords : List Nat} (hs : s ≠ [])
    (h : coordsAt? s n = some coords) : Within coords s ↔ n < size s := by
  constructor
  · intro hwithin
    rw [← offsetOf_coordsAt? hs h]
    exact offsetOf_lt hwithin
  · intro hlt
    rcases exists_coordsAt hlt with ⟨coords', hcoords', hwithin, -⟩
    obtain rfl : coords' = coords := Option.some.inj (hcoords'.symm.trans h)
    exact hwithin

end Shape

namespace AxisLayout

variable {l : AxisLayout} {output : Shape} {axes coords : List Nat} {n : Nat} {g : Grid}

/-! ## One dimension -/

/-- Extents of the output along some axes; an axis that the output lacks has extent one. -/
def extentsOf (output : Shape) (axes : List Nat) : Shape := axes.map (output.getD · 1)

/-- Coordinates along some axes. -/
def along (coords axes : List Nat) : List Nat := axes.map (coords.getD · 0)

/-- The extents of some axes have the coverage of these as their size. -/
theorem size_extentsOf (output : Shape) (axes : List Nat) :
    Shape.size (extentsOf output axes) = coverage output axes := by
  rw [Shape.size, extentsOf, List.foldr_map]
  rfl

private theorem extentsOf_pos (h : ∀ d ∈ output, 1 ≤ d) : ∀ d ∈ extentsOf output axes, 1 ≤ d := by
  intro d hd
  rcases List.mem_map.mp hd with ⟨axis, -, rfl⟩
  by_cases haxis : axis < output.length
  · simpa [haxis] using h _ (List.getElem_mem haxis)
  · simp [haxis]

/-- Without empty axes the coverage is positive. -/
theorem coverage_pos (h : ∀ d ∈ output, 1 ≤ d) (axes : List Nat) : 1 ≤ coverage output axes := by
  rw [← size_extentsOf]
  exact Shape.size_pos (extentsOf_pos h)

/-- Coordinates are within the extents along some axes. -/
abbrev WithinAlong (output : Shape) (axes coords : List Nat) : Prop :=
  ∀ axis ∈ axes, coords.getD axis 0 < output.getD axis 1

private theorem within_along_iff :
    Shape.Within (along coords axes) (extentsOf output axes) ↔ WithinAlong output axes coords := by
  rw [Shape.Within, along, extentsOf, List.forall₂_map_left_iff, List.forall₂_map_right_iff,
    List.forall₂_same]

/-- A number leads to coordinates along the axes of its dimension. -/
def Locates (output : Shape) (axes : List Nat) (n : Nat) (coords : List Nat) : Prop :=
  Shape.coordsAt? (extentsOf output axes) n = some (along coords axes)

private theorem extentsOf_ne_nil (haxes : axes ≠ []) : extentsOf output axes ≠ [] := by
  simpa [extentsOf] using haxes

private theorem locates_nil (output : Shape) (n : Nat) (coords : List Nat) :
    Locates output [] n coords := by
  simp [Locates, extentsOf, along, Shape.coordsAt?]

/-- The number of a dimension, which counts as zero if the dimension has no axes. -/
def usedNumber (axes : List Nat) (n : Nat) : Nat := if axes = [] then 0 else n

private theorem usedNumber_of_lt (h : n < coverage output axes) : usedNumber axes n = n := by
  unfold usedNumber
  split
  · next hnone =>
    subst hnone
    exact (Nat.lt_one_iff.mp h).symm
  · rfl

namespace Locates

private theorem of_used (h : Locates output axes (usedNumber axes n) coords) :
    Locates output axes n coords := by
  by_cases haxes : axes = []
  · subst haxes
    exact locates_nil output n coords
  · rwa [usedNumber, if_neg haxes] at h

/-- The number that leads to coordinates is their offset among the axes. -/
theorem used_eq_offset (h : Locates output axes n coords) :
    usedNumber axes n = Shape.offsetOf (extentsOf output axes) (along coords axes) := by
  by_cases haxes : axes = []
  · subst haxes
    simp [usedNumber, extentsOf, along, Shape.offsetOf, Shape.outerStrides]
  · rw [usedNumber, if_neg haxes]
    exact (Shape.offsetOf_coordsAt? (extentsOf_ne_nil haxes) h).symm

/-- A number is below the product of its extents exactly if it leads to coordinates within them. -/
theorem used_lt_iff (h : Locates output axes n coords) :
    usedNumber axes n < coverage output axes ↔ WithinAlong output axes coords := by
  by_cases haxes : axes = []
  · subst haxes
    exact iff_of_true Nat.one_pos fun axis haxis => absurd haxis List.not_mem_nil
  · rw [usedNumber, if_neg haxes, ← within_along_iff, ← size_extentsOf]
    exact (Shape.within_iff_lt_size (extentsOf_ne_nil haxes) h).symm

/-- On one axis a number is its own coordinate. -/
theorem singleton {axis : Nat} (h : Locates output [axis] n coords) : coords.getD axis 0 = n := by
  have hvalue : [n] = along coords [axis] := by
    simpa [Locates, extentsOf, Shape.coordsAt?] using h
  exact (List.singleton_inj.mp hvalue).symm

/-- On several axes the first takes the quotient by the others' extents, and they what is left. -/
theorem cons {axis : Nat} (h : Locates output (axis :: axes) n coords) (haxes : axes ≠ []) :
    0 < coverage output axes ∧ coords.getD axis 0 = n / coverage output axes ∧
      Locates output axes (n % coverage output axes) coords := by
  rw [← size_extentsOf]
  rcases (Shape.coordsAt?_cons_eq_some_iff (extentsOf_ne_nil haxes)).mp h with
    ⟨hpos, inner, hinner, hcons⟩
  rcases List.cons.inj hcons with ⟨hfirst, rfl⟩
  exact ⟨hpos, hfirst.symm, hinner⟩

/-- A number leads to one value of every axis. -/
theorem getD_eq {coords' : List Nat} (h : Locates output axes n coords)
    (h' : Locates output axes n coords') :
    ∀ axis ∈ axes, coords.getD axis 0 = coords'.getD axis 0 := by
  have halong : along coords axes = along coords' axes := Option.some.inj (h.symm.trans h')
  exact List.map_inj_left.mp halong

end Locates

/-- Coordinates within the extents are led to by their offset. -/
theorem locates_offset (h : WithinAlong output axes coords) :
    Locates output axes (Shape.offsetOf (extentsOf output axes) (along coords axes)) coords :=
  Shape.coordsAt?_offsetOf (within_along_iff.mpr h)

/-- The values of distinct axes can be chosen one by one. -/
theorem exists_map_eq (hnodup : axes.Nodup) {values : List Nat}
    (hlength : values.length = axes.length) : ∃ value : Nat → Nat, axes.map value = values := by
  refine ⟨fun axis => values.getD (axes.idxOf axis) 0, List.ext_getElem (by simp [hlength]) ?_⟩
  intro i hi hvalue
  have haxis : i < axes.length := by simpa using hi
  simp [hnodup.idxOf_getElem i haxis, hvalue]

/-- Where all extents are positive, every number leads to some values of its axes. -/
theorem exists_values (hnodup : axes.Nodup) (hpos : ∀ d ∈ output, 1 ≤ d) (n : Nat) :
    ∃ value : Nat → Nat, Shape.coordsAt? (extentsOf output axes) n = some (axes.map value) := by
  rcases Shape.exists_coordsAt?_of_pos (extentsOf_pos hpos) n with ⟨values, hvalues⟩
  have hlength := Shape.length_coordsAt? hvalues
  rw [extentsOf, List.length_map] at hlength
  rcases exists_map_eq hnodup hlength with ⟨value, rfl⟩
  exact ⟨value, hvalues⟩

/-- Values of all axes hold those of one dimension. -/
theorem locates_of_values {value own : Nat → Nat} {rank : Nat}
    (hown : Shape.coordsAt? (extentsOf output axes) n = some (axes.map own))
    (haxes : ∀ axis ∈ axes, axis < rank ∧ value axis = own axis) :
    Locates output axes n ((List.range rank).map value) := by
  have halong : along ((List.range rank).map value) axes = axes.map own := by
    apply List.map_congr_left
    intro axis haxis
    simp [haxes axis haxis]
  rw [Locates, halong, hown]

/-! ## All dimensions -/

/-- Products of the extents that the dimensions run over. -/
def extents (l : AxisLayout) (output : Shape) : Grid :=
  ⟨coverage output l.x, coverage output l.y, coverage output l.z⟩

/-- Dimensions have numbers unless some axis has no extent. -/
theorem holds_zero (h : ∀ d ∈ output, 1 ≤ d) : (l.extents output).Holds ⟨0, 0, 0⟩ :=
  ⟨coverage_pos h l.x, coverage_pos h l.y, coverage_pos h l.z⟩

/-- The numbers of the dimensions that have axes; those of the others count as zero. -/
def used (l : AxisLayout) (g : Grid) : Grid :=
  ⟨usedNumber l.x g.x, usedNumber l.y g.y, usedNumber l.z g.z⟩

/-- All of a cell within the extents is used. -/
theorem used_of_holds (h : (l.extents output).Holds g) : l.used g = g := by
  rw [used, usedNumber_of_lt h.x, usedNumber_of_lt h.y, usedNumber_of_lt h.z]

/-- The numbers of all dimensions lead to coordinates of the output. -/
structure Leads (l : AxisLayout) (output : Shape) (g : Grid) (coords : List Nat) : Prop where
  length : coords.length = output.length
  x : Locates output l.x g.x coords
  y : Locates output l.y g.y coords
  z : Locates output l.z g.z coords

/-- Every axis of the output belongs to one dimension. -/
abbrev Covers (l : AxisLayout) (output : Shape) : Prop :=
  l.axes.Perm (List.range output.length)

private theorem Covers.nodup (h : l.Covers output) :
    l.axes.Nodup := h.nodup_iff.mpr List.nodup_range

/-- An axis of a layout that covers an output is one of the output. -/
theorem Covers.lt_of_mem (h : l.Covers output) {axis : Nat} (haxis : axis ∈ l.axes) :
    axis < output.length :=
  List.mem_range.mp (h.mem_iff.mp haxis)

/-- Every dimension runs over distinct axes of the output. -/
theorem Covers.dimension (h : l.Covers output) (haxes : axes ∈ l.dims) :
    axes.Nodup ∧ ∀ axis ∈ axes, axis < output.length := by
  have hsublist : axes.Sublist l.axes := by
    have hflatten : l.axes = l.dims.flatten := by simp [AxisLayout.axes, dims]
    rw [hflatten]
    exact List.sublist_flatten_of_mem haxes
  exact ⟨h.nodup.sublist hsublist, fun axis haxis => h.lt_of_mem (hsublist.subset haxis)⟩

/-- A layout that is not flat belongs to an output with axes. -/
theorem Covers.length_pos (h : l.Covers output) (hflat : l.isFlat output.length = false) :
    1 ≤ output.length := by
  rw [Nat.one_le_iff_ne_zero]
  intro hzero
  have hlength := h.length_eq
  rw [hzero, List.range_zero, List.length_nil, List.length_eq_zero_iff] at hlength
  rcases l with ⟨x, y, z⟩
  obtain ⟨rfl, rfl, rfl⟩ : x = [] ∧ y = [] ∧ z = [] := by
    simpa [AxisLayout.axes] using hlength
  rw [hzero] at hflat
  exact absurd hflat (by decide)

/-- Where no other dimension has axes, the first has. -/
theorem Covers.x_ne_nil (h : l.Covers output) (hpos : 1 ≤ output.length)
    (hx : l.usesOnlyX = true) : l.x ≠ [] := by
  intro hnil
  have haxes := usesOnlyX_iff.mp hx
  have hlength := h.length_eq
  rw [AxisLayout.axes, hnil, haxes.1, haxes.2, List.length_range] at hlength
  exact absurd hlength (Nat.ne_of_lt hpos)

/-- Coordinates within the output are within the extents of every dimension. -/
theorem Covers.within_iff (hcovers : l.Covers output) (hlength : coords.length = output.length) :
    Shape.Within coords output ↔ WithinAlong output l.x coords ∧ WithinAlong output l.y coords ∧
      WithinAlong output l.z coords := by
  have haxes : (∀ axis < output.length, coords.getD axis 0 < output.getD axis 1) ↔
      ∀ axis ∈ l.axes, coords.getD axis 0 < output.getD axis 1 := by
    simp only [hcovers.mem_iff, List.mem_range]
  have hwithin : Shape.Within coords output ↔
      ∀ axis < output.length, coords.getD axis 0 < output.getD axis 1 := by
    rw [Shape.Within, List.forall₂_iff_get]
    constructor
    · rintro ⟨-, hall⟩ axis haxis
      have hcoord : axis < coords.length := by omega
      simpa [haxis, hcoord] using hall axis hcoord haxis
    · intro hall
      refine ⟨hlength, fun axis hcoord haxis => ?_⟩
      simpa [haxis, hcoord] using hall axis haxis
  rw [hwithin, haxes]
  simp only [AxisLayout.axes, List.mem_append, or_imp, forall_and, and_assoc]

/-- Where all extents are positive, all numbers lead to coordinates, also those beyond the extents. -/
theorem exists_leads (hcovers : l.Covers output) (hpos : ∀ d ∈ output, 1 ≤ d) (g : Grid) :
    ∃ coords, l.Leads output g coords := by
  have hnodup := hcovers.nodup
  rw [AxisLayout.axes, List.append_assoc] at hnodup
  rcases List.nodup_append.mp hnodup with ⟨hx, hyz, hdisjointX⟩
  rcases List.nodup_append.mp hyz with ⟨hy, hz, hdisjointY⟩
  rcases exists_values hx hpos g.x with ⟨valueX, hvalueX⟩
  rcases exists_values hy hpos g.y with ⟨valueY, hvalueY⟩
  rcases exists_values hz hpos g.z with ⟨valueZ, hvalueZ⟩
  let value : Nat → Nat := fun axis =>
    if axis ∈ l.x then valueX axis else if axis ∈ l.y then valueY axis else valueZ axis
  refine ⟨(List.range output.length).map value, by simp, ?_, ?_, ?_⟩
  · apply locates_of_values hvalueX
    intro axis haxis
    exact ⟨hcovers.lt_of_mem (by simp [AxisLayout.axes, haxis]), by simp [value, haxis]⟩
  · apply locates_of_values hvalueY
    intro axis haxis
    have hnot : axis ∉ l.x := fun hmem => hdisjointX axis hmem axis (by simp [haxis]) rfl
    exact ⟨hcovers.lt_of_mem (by simp [AxisLayout.axes, haxis]), by simp [value, haxis, hnot]⟩
  · apply locates_of_values hvalueZ
    intro axis haxis
    have hnotX : axis ∉ l.x := fun hmem => hdisjointX axis hmem axis (by simp [haxis]) rfl
    have hnotY : axis ∉ l.y := fun hmem => hdisjointY axis hmem axis haxis rfl
    exact ⟨hcovers.lt_of_mem (by simp [AxisLayout.axes, haxis]), by simp [value, hnotX, hnotY]⟩

/-- Coordinates of the output are led to by their offsets among the axes of every dimension. -/
def numbersOf (l : AxisLayout) (output : Shape) (coords : List Nat) : Grid where
  x := Shape.offsetOf (extentsOf output l.x) (along coords l.x)
  y := Shape.offsetOf (extentsOf output l.y) (along coords l.y)
  z := Shape.offsetOf (extentsOf output l.z) (along coords l.z)

private theorem leads_numbersOf (hcovers : l.Covers output) (h : Shape.Within coords output) :
    l.Leads output (l.numbersOf output coords) coords := by
  rcases (hcovers.within_iff h.length_eq).mp h with ⟨hx, hy, hz⟩
  exact ⟨h.length_eq, locates_offset hx, locates_offset hy, locates_offset hz⟩

namespace Leads

private theorem of_used (h : l.Leads output (l.used g) coords) : l.Leads output g coords :=
  ⟨h.length, h.x.of_used, h.y.of_used, h.z.of_used⟩

/-- The numbers that lead to coordinates are determined by them. -/
theorem used_eq (h : l.Leads output g coords) : l.used g = l.numbersOf output coords := by
  rw [used, numbersOf, h.x.used_eq_offset, h.y.used_eq_offset, h.z.used_eq_offset]

/-- The coordinates that numbers lead to are determined by them. -/
theorem unique {coords' : List Nat} (hcovers : l.Covers output) (h : l.Leads output g coords)
    (h' : l.Leads output g coords') : coords = coords' := by
  apply List.ext_getElem (h.length.trans h'.length.symm)
  intro axis haxis haxis'
  have hmem : axis ∈ l.axes := by
    rw [hcovers.mem_iff, List.mem_range, ← h.length]
    exact haxis
  have hsame : coords.getD axis 0 = coords'.getD axis 0 := by
    simp only [AxisLayout.axes, List.mem_append] at hmem
    rcases hmem with (hx | hy) | hz
    · exact h.x.getD_eq h'.x axis hx
    · exact h.y.getD_eq h'.y axis hy
    · exact h.z.getD_eq h'.z axis hz
  simpa [haxis, haxis'] using hsame

/-- Numbers are below the products of the extents exactly if they lead into the output. -/
theorem within_iff (hcovers : l.Covers output) (h : l.Leads output g coords) :
    Shape.Within coords output ↔ (l.extents output).Holds (l.used g) := by
  rw [hcovers.within_iff h.length, ← h.x.used_lt_iff, ← h.y.used_lt_iff, ← h.z.used_lt_iff]
  constructor
  · rintro ⟨hx, hy, hz⟩
    exact ⟨hx, hy, hz⟩
  · rintro ⟨hx, hy, hz⟩
    exact ⟨hx, hy, hz⟩

end Leads

/-- An accepted layout enumerates the output: numbers below the products of the extents correspond to
the coordinates within the output, one to one, and all others lead out of it. -/
theorem exists_enumeration (hcovers : l.Covers output) (hpos : ∀ d ∈ output, 1 ≤ d) :
    ∃ f : Grid → List Nat, (∀ g, l.Leads output g (f g)) ∧
      (∀ g, f (l.used g) = f g ∧
        (Shape.Within (f g) output ↔ (l.extents output).Holds (l.used g))) ∧
      Set.BijOn f {g | (l.extents output).Holds g} {coords | Shape.Within coords output} := by
  choose f hleads using exists_leads hcovers hpos
  refine ⟨f, hleads, fun g => ⟨?_, (hleads g).within_iff hcovers⟩, ?_, ?_, ?_⟩
  · exact (hleads (l.used g)).of_used.unique hcovers (hleads g)
  · intro g hg
    have hholds : (l.extents output).Holds (l.used g) := by
      rw [used_of_holds hg]
      exact hg
    exact ((hleads g).within_iff hcovers).mpr hholds
  · intro g hg g' hg' hsame
    have hnumbers := (hleads g).used_eq
    rw [hsame, ← (hleads g').used_eq, used_of_holds hg, used_of_holds hg'] at hnumbers
    exact hnumbers
  · intro coords hwithin
    have hcoords := leads_numbersOf hcovers hwithin
    have hholds := (hcoords.within_iff hcovers).mp hwithin
    refine ⟨l.used (l.numbersOf output coords), hholds, ?_⟩
    exact (hleads _).of_used.unique hcovers hcoords

end AxisLayout

end ComputeKernels

import ComputeKernels.Shape.Broadcast
import Mathlib.Algebra.GroupWithZero.Nat
import Mathlib.Algebra.Ring.Int.Defs
import Mathlib.Data.List.Forall2
import Mathlib.Data.List.ModifyLast

/-!
# Positions of elements

Flat indices and coordinates determine each other, the indices of one unit of a row differ in the
innermost coordinate only, and an operand that is long enough is read inside its own extents.

Main results:

- Theorem `exists_coordsAt`: an index below the size has coordinates within the extents, and their
  offset is the index.
- Theorem `coordsAt?_add_lane`: the coordinates of a unit's lanes differ from those of its first
  lane in the innermost axis only.
- Theorem `Covers.within_sourceCoords`: what is read of an operand that is long enough along every axis
  lies inside it.
- Theorem `sourceOffset?_add_lane`: a unit of the output is computed from the lanes of one unit of the
  operand, in order.
-/

namespace ComputeKernels.Shape

/-! ## Offsets -/

/-- Coordinates within the extents of a shape. -/
abbrev Within (coords : List Nat) (s : Shape) : Prop := List.Forall₂ (· < ·) coords s

/-- The place of coordinates in a shape with one more outer axis. -/
theorem offsetOf_cons {d c : Nat} {s : Shape} {coords : List Nat}
    (hlength : coords.length = s.length) :
    offsetOf (d :: s) (c :: coords) = c * size s + offsetOf s coords := by
  cases s with
  | nil =>
    obtain rfl := List.length_eq_zero_iff.mp hlength
    simp [offsetOf, outerStrides]
  | cons e s =>
    cases coords with
    | nil => simp at hlength
    | cons b coords => simp [offsetOf, outerStrides]

/-- A stride is the number of elements inside its axis. -/
theorem getElem_outerStrides {s : Shape} {axis : Nat} (h : axis < (outerStrides s).length) :
    (outerStrides s)[axis] = size (s.drop (axis + 1)) := by
  fun_induction outerStrides s generalizing axis with
  | case1 => simp at h
  | case2 => simp at h
  | case3 d e s ih =>
    cases axis with
    | zero => simp
    | succ axis => simpa using ih (by simpa using h)

/-- Every stride divides the number of elements. -/
theorem dvd_size_of_mem_outerStrides {s : Shape} {stride : Nat} (h : stride ∈ outerStrides s) :
    stride ∣ size s := by
  fun_induction outerStrides s with
  | case1 => simp at h
  | case2 => simp at h
  | case3 d e s ih =>
    rw [size_cons]
    rcases List.mem_cons.mp h with rfl | hrest
    · exact Nat.dvd_mul_left _ d
    · exact Nat.dvd_trans (ih hrest) (Nat.dvd_mul_left _ d)

/-- The offset of any integers in the place of coordinates: the innermost plus every outer one times
its stride. -/
def signedOffset (s : Shape) (coords : List Int) : Int :=
  (coords.zip s.outerStrides).foldr (fun p total => p.1 * (p.2 : Int) + total)
    (coords.getLast?.getD 0)

/-- On numbers that are not negative the signed place is the place. -/
theorem signedOffset_natCast (s : Shape) (coords : List Nat) :
    signedOffset s (coords.map Nat.cast) = offsetOf s coords := by
  have hfold : ∀ (ps : List (Nat × Nat)) (last : Nat),
      (ps.map (Prod.map Nat.cast id)).foldr (fun p total => p.1 * (p.2 : Int) + total) (last : Int) =
        (ps.foldr (fun p total => p.1 * p.2 + total) last : Nat) := by
    intro ps last
    induction ps with
    | nil => rfl
    | cons p ps ih => simp [← ih]
  have hlast : (coords.map Nat.cast).getLast?.getD (0 : Int) = (coords.getLast?.getD 0 : Nat) := by
    rw [List.getLast?_map]
    cases coords.getLast? <;> rfl
  rw [signedOffset, hlast, List.zip_map_left]
  exact hfold _ _

/-- What the axes contribute to an offset: every outer coordinate times its stride, and the innermost
coordinate. -/
def offsetTerms (s : Shape) (coords : List Int) : List Int :=
  List.zipWith (fun (c : Int) (stride : Nat) => c * stride) coords (outerStrides s) ++
    coords.getLast?.toList

/-- The signed place is the sum of its terms. -/
theorem sum_offsetTerms (s : Shape) (coords : List Int) :
    (offsetTerms s coords).sum = signedOffset s coords := by
  have hlast : coords.getLast?.toList.sum = coords.getLast?.getD 0 := by
    cases coords.getLast? <;> simp
  have hfold : ∀ (ps : List (Int × Nat)) (last : Int),
      (ps.map fun p => p.1 * (p.2 : Int)).sum + last =
        ps.foldr (fun p total => p.1 * (p.2 : Int) + total) last := by
    intro ps last
    induction ps with
    | nil => simp
    | cons p ps ih => simp [← ih, Int.add_assoc]
  rw [offsetTerms, List.sum_append, hlast, ← List.map_uncurry_zip_eq_zipWith]
  exact hfold _ _

/-- Coordinates within the extents lead to an element. -/
theorem offsetOf_lt {coords : List Nat} {s : Shape} (h : Within coords s) :
    offsetOf s coords < size s := by
  induction h with
  | nil => simp [offsetOf, outerStrides]
  | @cons c d coords s hc hrest ih =>
    rw [offsetOf_cons hrest.length_eq, size_cons]
    calc c * size s + offsetOf s coords < c * size s + size s := Nat.add_lt_add_left ih _
      _ = (c + 1) * size s := by rw [Nat.add_mul, Nat.one_mul]
      _ ≤ d * size s := Nat.mul_le_mul_right _ hc

/-! ## Coordinates -/

/-- Coordinates in a shape with one more outer axis: the quotient, and those of the remainder. -/
theorem coordsAt?_cons_eq_some_iff {d index : Nat} {s : Shape} {coords : List Nat} (hs : s ≠ []) :
    coordsAt? (d :: s) index = some coords ↔
      0 < size s ∧ ∃ inner, coordsAt? s (index % size s) = some inner ∧
        index / size s :: inner = coords := by
  cases s with
  | nil => exact absurd rfl hs
  | cons e s =>
    rw [coordsAt?]
    by_cases hzero : size (e :: s) = 0
    · simp only [hzero, ↓reduceIte, reduceCtorEq, Nat.lt_irrefl, false_and]
    · simp only [hzero, ↓reduceIte, Option.map_eq_some_iff, Nat.pos_of_ne_zero hzero, true_and]

/-- There is one coordinate per axis. -/
theorem length_coordsAt? {s : Shape} {index : Nat} {coords : List Nat}
    (h : coordsAt? s index = some coords) : coords.length = s.length := by
  induction s generalizing index coords with
  | nil =>
    obtain rfl : [] = coords := by simpa [coordsAt?] using h
    rfl
  | cons d s ih =>
    by_cases hs : s = []
    · subst hs
      obtain rfl : [index] = coords := by simpa [coordsAt?] using h
      rfl
    · rcases (coordsAt?_cons_eq_some_iff hs).mp h with ⟨-, inner, hinner, rfl⟩
      rw [List.length_cons, List.length_cons, ih hinner]

/-- An index below the size has coordinates within the extents, and their offset is the index. -/
theorem exists_coordsAt {s : Shape} {index : Nat} (h : index < size s) :
    ∃ coords, coordsAt? s index = some coords ∧ Within coords s ∧ offsetOf s coords = index := by
  induction s generalizing index with
  | nil =>
    obtain rfl : index = 0 := by simpa using h
    exact ⟨[], by simp [coordsAt?], .nil, by simp [offsetOf, outerStrides]⟩
  | cons d s ih =>
    rw [size_cons] at h
    by_cases hs : s = []
    · subst hs
      have hlt : index < d := by simpa using h
      exact ⟨[index], by simp [coordsAt?], .cons hlt .nil, by simp [offsetOf, outerStrides]⟩
    · have hpos : 0 < size s := Nat.pos_of_mul_pos_left (Nat.zero_lt_of_lt h)
      rcases ih (Nat.mod_lt index hpos) with ⟨inner, hinner, hwithin, hoffset⟩
      refine ⟨index / size s :: inner, ?_, .cons ?_ hwithin, ?_⟩
      · exact (coordsAt?_cons_eq_some_iff hs).mpr ⟨hpos, inner, hinner, rfl⟩
      · exact Nat.div_lt_of_lt_mul (by rwa [Nat.mul_comm])
      · rw [offsetOf_cons hwithin.length_eq, hoffset]
        exact Nat.div_add_mod' index (size s)

/-! ## Lanes of a unit -/

/-- The innermost of some extents or coordinates is a whole number of units of a width. -/
def WholeUnits (width : Nat) (ns : List Nat) : Prop := ∀ n ∈ ns.getLast?, width ∣ n

@[simp]
theorem wholeUnits_nil (width : Nat) : WholeUnits width [] := fun _ h => by simp at h

@[simp]
theorem wholeUnits_singleton {width n : Nat} : WholeUnits width [n] ↔ width ∣ n := by
  simp [WholeUnits]

private theorem wholeUnits_cons {width n : Nat} {ns : List Nat} (h : ns ≠ []) :
    WholeUnits width (n :: ns) ↔ WholeUnits width ns := by
  cases ns with
  | nil => exact absurd rfl h
  | cons m ns => simp [WholeUnits]

/-- A shape whose rows are whole units consists of whole units. -/
theorem WholeUnits.dvd_size {width : Nat} {s : Shape} (hs : s ≠ []) (h : WholeUnits width s) :
    width ∣ size s := by
  induction s with
  | nil => exact absurd rfl hs
  | cons d s ih =>
    rw [size_cons]
    by_cases htail : s = []
    · subst htail
      simpa using h
    · exact Nat.dvd_mul_left_of_dvd (ih htail ((wholeUnits_cons htail).mp h)) d

/-- A unit of a shape of whole units begins at a multiple of the width. -/
theorem WholeUnits.dvd_offsetOf {width : Nat} {s : Shape} {coords : List Nat}
    (hs : WholeUnits width s) (hcoords : WholeUnits width coords)
    (hlength : coords.length = s.length) : width ∣ offsetOf s coords := by
  induction s generalizing coords with
  | nil =>
    obtain rfl := List.length_eq_zero_iff.mp hlength
    simp [offsetOf, outerStrides]
  | cons d s ih =>
    cases coords with
    | nil => simp at hlength
    | cons c coords =>
      have htails : coords.length = s.length := by simpa using hlength
      rw [offsetOf_cons htails]
      by_cases htail : s = []
      · subst htail
        obtain rfl := List.length_eq_zero_iff.mp htails
        simpa [offsetOf, outerStrides] using hcoords
      · have hne : coords ≠ [] := fun h => htail (List.length_eq_zero_iff.mp (by simpa [h] using htails.symm))
        have hrows := (wholeUnits_cons htail).mp hs
        exact Nat.dvd_add (Nat.dvd_mul_left_of_dvd (hrows.dvd_size htail) c)
          (ih hrows ((wholeUnits_cons hne).mp hcoords) htails)

/-- Coordinates moved along the innermost axis. -/
def advance (lane : Nat) (coords : List Nat) : List Nat := coords.modifyLast (· + lane)

@[simp]
theorem advance_nil (lane : Nat) : advance lane [] = [] :=
  rfl

@[simp]
theorem advance_concat (lane c : Nat) (coords : List Nat) :
    advance lane (coords ++ [c]) = coords ++ [c + lane] :=
  List.modifyLast_concat _ _ _

@[simp]
theorem advance_singleton (lane c : Nat) : advance lane [c] = [c + lane] :=
  advance_concat lane c []

private theorem advance_cons {lane c : Nat} {coords : List Nat} (h : coords ≠ []) :
    advance lane (c :: coords) = c :: advance lane coords := by
  rcases List.eq_nil_or_concat coords with rfl | ⟨outer, d, rfl⟩
  · exact absurd rfl h
  · rw [List.concat_eq_append, advance_concat, ← List.cons_append, advance_concat,
      List.cons_append]

@[simp]
theorem length_advance (lane : Nat) (coords : List Nat) :
    (advance lane coords).length = coords.length := by
  rcases List.eq_nil_or_concat coords with rfl | ⟨outer, c, rfl⟩
  · rfl
  · simp

/-- A lane of a unit that does not end before it is still inside a whole number of units. -/
theorem add_lane_lt {width lane start bound : Nat} (hlane : lane < width) (hstart : width ∣ start)
    (hbound : width ∣ bound) (hlt : start < bound) : start + lane < bound := by
  rcases hstart with ⟨a, rfl⟩
  rcases hbound with ⟨b, rfl⟩
  have hab : a + 1 ≤ b := Nat.lt_of_mul_lt_mul_left hlt
  calc width * a + lane < width * a + width := Nat.add_lt_add_left hlane _
    _ = width * (a + 1) := by rw [Nat.mul_add, Nat.mul_one]
    _ ≤ width * b := Nat.mul_le_mul_left _ hab

/-- The coordinates of a unit's lanes differ from those of its first lane in the innermost axis only,
along which the first lane begins a unit. -/
theorem coordsAt?_add_lane {width lane index : Nat} {s : Shape} {coords : List Nat}
    (hrows : WholeUnits width s) (hlane : lane < width) (hindex : width ∣ index)
    (hcoords : coordsAt? s index = some coords) :
    coordsAt? s (index + lane) = some (advance lane coords) ∧ WholeUnits width coords := by
  induction s generalizing index coords with
  | nil =>
    obtain rfl : [] = coords := by simpa [coordsAt?] using hcoords
    exact ⟨by simp [coordsAt?], wholeUnits_nil width⟩
  | cons d s ih =>
    by_cases hs : s = []
    · subst hs
      obtain rfl : [index] = coords := by simpa [coordsAt?] using hcoords
      exact ⟨by simp [coordsAt?], by simpa using hindex⟩
    · rcases (coordsAt?_cons_eq_some_iff hs).mp hcoords with ⟨hpos, inner, hinner, rfl⟩
      have htail := (wholeUnits_cons hs).mp hrows
      have hdvd := htail.dvd_size hs
      have hmod : width ∣ index % size s := (Nat.dvd_mod_iff hdvd).mpr hindex
      rcases ih htail hmod hinner with ⟨hnext, hlast⟩
      have hroom : index % size s + lane < size s :=
        add_lane_lt hlane hmod hdvd (Nat.mod_lt index hpos)
      have hsplit : index + lane = size s * (index / size s) + (index % size s + lane) := by
        rw [← Nat.add_assoc, Nat.div_add_mod]
      have hne : inner ≠ [] := by
        rintro rfl
        exact hs (List.length_eq_zero_iff.mp (length_coordsAt? hinner).symm)
      refine ⟨(coordsAt?_cons_eq_some_iff hs).mpr ⟨hpos, advance lane inner, ?_, ?_⟩,
        (wholeUnits_cons hne).mpr hlast⟩
      · rw [hsplit, Nat.mul_add_mod, Nat.mod_eq_of_lt hroom]
        exact hnext
      · rw [hsplit, Nat.mul_add_div hpos, Nat.div_eq_of_lt hroom, Nat.add_zero, advance_cons hne]

/-- Moving along the innermost axis moves the offset by as much. -/
theorem offsetOf_advance {s : Shape} {coords : List Nat} (lane : Nat) (hs : s ≠ [])
    (hlength : coords.length = s.length) :
    offsetOf s (advance lane coords) = offsetOf s coords + lane := by
  induction s generalizing coords with
  | nil => exact absurd rfl hs
  | cons d s ih =>
    cases coords with
    | nil => simp at hlength
    | cons c coords =>
      have htails : coords.length = s.length := by simpa using hlength
      by_cases htail : s = []
      · subst htail
        obtain rfl := List.length_eq_zero_iff.mp htails
        simp [offsetOf, outerStrides]
      · have hne : coords ≠ [] := by
          rintro rfl
          exact htail (List.length_eq_zero_iff.mp htails.symm)
        rw [advance_cons hne, offsetOf_cons (by simpa using htails), offsetOf_cons htails,
          ih htail htails, Nat.add_assoc]

/-! ## Broadcasts -/

/-- Every axis of an operand is as long as the output axis that it is aligned with, or repeats along
it. -/
structure Broadcasts (input output : Shape) : Prop where
  length_le : input.length ≤ output.length
  extents : List.Forall₂ (fun a b => a = 1 ∨ a = b) input
    (output.drop (output.length - input.length))

instance (input output : Shape) : Decidable (Broadcasts input output) :=
  decidable_of_iff (input.length ≤ output.length ∧
      List.Forall₂ (fun a b => a = 1 ∨ a = b) input (output.drop (output.length - input.length)))
    ⟨fun ⟨hle, hextents⟩ => ⟨hle, hextents⟩, fun h => ⟨h.length_le, h.extents⟩⟩

/-- Every axis of an operand is at least as long as the output axis that it is aligned with, or has a
single element. -/
structure Covers (input output : Shape) : Prop where
  length_le : input.length ≤ output.length
  extents : List.Forall₂ (fun a b => a = 1 ∨ b ≤ a) input
    (output.drop (output.length - input.length))

instance (input output : Shape) : Decidable (Covers input output) :=
  decidable_of_iff (input.length ≤ output.length ∧
      List.Forall₂ (fun a b => a = 1 ∨ b ≤ a) input (output.drop (output.length - input.length)))
    ⟨fun ⟨hle, hextents⟩ => ⟨hle, hextents⟩, fun h => ⟨h.length_le, h.extents⟩⟩

private theorem Broadcasts.covers {input output : Shape} (h : Broadcasts input output) :
    Covers input output :=
  ⟨h.length_le, h.extents.imp fun _ _ hextent => hextent.imp_right fun heq => Nat.le_of_eq heq.symm⟩

/-- Coordinates with those of some axes set to zero. -/
def pin (axes coords : List Nat) : List Nat :=
  coords.mapIdx fun axis c => if axis ∈ axes then 0 else c

@[simp]
theorem length_pin (axes coords : List Nat) : (pin axes coords).length = coords.length := by
  simp [pin]

@[simp]
theorem pin_nil (coords : List Nat) : pin [] coords = coords := by
  apply List.ext_getElem
  · simp
  · intro i hi hcoords
    simp [pin]

/-- Coordinates of an operand that belong to output coordinates. -/
def sourceCoords (input output : Shape) (coords : List Nat) : List Nat :=
  (pin (stretchedAxes input output) coords).drop (output.length - input.length)

/-- An operand has as many source coordinates as axes. -/
theorem length_sourceCoords {input output : Shape} {coords : List Nat}
    (hle : input.length ≤ output.length) (hcoords : coords.length = output.length) :
    (sourceCoords input output coords).length = input.length := by
  simp [sourceCoords, hcoords]
  omega

/-- Only axes of the output are stretched. -/
theorem lt_of_mem_stretchedAxes {input output : Shape} {axis : Nat}
    (h : axis ∈ stretchedAxes input output) : axis < output.length :=
  List.mem_range.mp (List.mem_filter.mp h).1

/-- With a coordinate for every output axis, the element that is read is that of the operand's own
coordinates. -/
theorem sourceOffset?_eq {input output : Shape} {coords : List Nat}
    (hle : input.length ≤ output.length) (hcoords : coords.length = output.length) :
    sourceOffset? input output coords = some (offsetOf input (sourceCoords input output coords)) := by
  unfold sourceOffset?
  by_cases hinput : input = []
  · subst hinput
    have hnone : sourceCoords [] output coords = [] :=
      List.length_eq_zero_iff.mp (length_sourceCoords hle hcoords)
    simp [hnone, offsetOf, outerStrides]
  · have hall : (stretchedAxes input output).all (· < coords.length) = true := by
      rw [List.all_eq_true]
      intro axis haxis
      simpa [hcoords] using lt_of_mem_stretchedAxes haxis
    have hempty : input.isEmpty = false := by simpa using hinput
    have hdefined : ((stretchedAxes input output).all (· < coords.length) &&
        decide (input.length ≤ coords.length)) = true := by
      rw [hall, hcoords, decide_eq_true hle, Bool.and_self]
    rw [hempty, if_neg Bool.false_ne_true, if_pos hdefined]
    change some (offsetOf input ((pin _ coords).drop ((pin _ coords).length - input.length))) = _
    rw [length_pin, hcoords, sourceCoords]

/-- An axis is stretched if its extent is one and that of the output is larger. -/
theorem mem_stretchedAxes_iff {input output : Shape} {i : Nat} (hle : input.length ≤ output.length)
    (hi : i < input.length) (hlt : output.length - input.length + i < output.length) :
    output.length - input.length + i ∈ stretchedAxes input output ↔
      input[i] = 1 ∧ 1 < output[output.length - input.length + i] := by
  have haligned : alignedExtent? input output (output.length - input.length + i) =
      some input[i] := by
    unfold alignedExtent?
    rw [if_pos (by omega)]
    have hshift : output.length - input.length + i + input.length - output.length = i := by omega
    rw [hshift, List.getElem?_eq_getElem hi]
  simp [stretchedAxes, stretches, haligned, hlt]

/-- One coordinate of an operand is zero where the operand repeats, and else that of the output. -/
theorem getElem_sourceCoords {input output : Shape} {coords : List Nat} {i : Nat}
    (hle : input.length ≤ output.length) (hi : i < (sourceCoords input output coords).length)
    (hinput : i < input.length) (hlt : output.length - input.length + i < output.length)
    (hcoord : output.length - input.length + i < coords.length) :
    (sourceCoords input output coords)[i] =
      if input[i] = 1 ∧ 1 < output[output.length - input.length + i] then 0
      else coords[output.length - input.length + i] := by
  simp [sourceCoords, pin, mem_stretchedAxes_iff hle hinput hlt]

/-- The coordinates that an output is read at lie within an operand that covers it. -/
theorem Covers.within_sourceCoords {input output : Shape} {coords : List Nat}
    (h : Covers input output) (hcoords : Within coords output) :
    Within (sourceCoords input output coords) input := by
  have hlength := hcoords.length_eq
  have hle := h.length_le
  rw [Within, List.forall₂_iff_get]
  refine ⟨length_sourceCoords hle hlength, fun i hi hinput => ?_⟩
  have haxis : output.length - input.length + i < output.length := by omega
  have hcoord : output.length - input.length + i < coords.length := by omega
  have hbelow : coords[output.length - input.length + i] <
      output[output.length - input.length + i] := hcoords.get hcoord haxis
  have hextent : input[i] = 1 ∨ output[output.length - input.length + i] ≤ input[i] := by
    have haligned := h.extents.get (i := i) hinput (by simp; omega)
    simpa using haligned
  simp only [List.get_eq_getElem]
  rw [getElem_sourceCoords hle hi hinput haxis hcoord]
  split
  · next hrepeats => omega
  · next hsingle => omega

/-- The coordinates that a broadcast reads at lie within the operand. -/
theorem Broadcasts.within_sourceCoords {input output : Shape} {coords : List Nat}
    (h : Broadcasts input output) (hcoords : Within coords output) :
    Within (sourceCoords input output coords) input :=
  h.covers.within_sourceCoords hcoords

/-- An operand of the output's shape repeats nowhere. -/
theorem stretchedAxes_self (s : Shape) : stretchedAxes s s = [] := by
  unfold stretchedAxes
  rw [List.filter_eq_nil_iff]
  intro axis haxis
  have hlt := List.mem_range.mp haxis
  simp [stretches, alignedExtent?, hlt]
  omega

/-- Nothing is stretched to its own shape. -/
theorem sourceCoords_self {s : Shape} (coords : List Nat) : sourceCoords s s coords = coords := by
  simp [sourceCoords, stretchedAxes_self]

/-- Where an operand does not repeat along the innermost axis, its innermost coordinate is that of the
output. -/
theorem sourceCoords_concat {input output : Shape} {outer : List Nat} (c : Nat)
    (hinput : input ≠ []) (hle : input.length ≤ output.length)
    (houter : outer.length + 1 = output.length)
    (hinnermost : output.length - 1 ∉ stretchedAxes input output) :
    sourceCoords input output (outer ++ [c]) =
      (pin (stretchedAxes input output) outer).drop (output.length - input.length) ++ [c] := by
  have hpos : 0 < input.length := List.length_pos_iff.mpr hinput
  have hlast : outer.length = output.length - 1 := by omega
  have hpin : pin (stretchedAxes input output) (outer ++ [c]) =
      pin (stretchedAxes input output) outer ++ [c] := by
    simp [pin, hlast, hinnermost]
  rw [sourceCoords, hpin, List.drop_append_of_le_length]
  rw [length_pin]
  omega

/-! ## Units of a broadcast -/

/-- An operand can be read in units of a width: one element at a time, or along rows that are whole
units of both shapes, or all of the output's units in order. -/
inductive UnitsAlign (width : Nat) (input output : Shape) : Prop
  | single (h : width = 1)
  | same (h : input = output) (hsize : width ∣ size output)
  | rows (hne : input ≠ []) (hinnermost : output.length - 1 ∉ stretchedAxes input output)
    (hinput : WholeUnits width input) (houtput : WholeUnits width output)

section Rows

variable {width : Nat} {input output : Shape} {coords : List Nat} (hne : input ≠ [])
  (hle : input.length ≤ output.length) (hinnermost : output.length - 1 ∉ stretchedAxes input output)
  (hlength : coords.length = output.length)

include hne hle hlength in
private theorem exists_innermost :
    ∃ outer c, coords = outer ++ [c] ∧ outer.length + 1 = output.length := by
  have hinput : 0 < input.length := List.length_pos_iff.mpr hne
  rcases List.eq_nil_or_concat coords with rfl | ⟨outer, c, rfl⟩
  · rw [List.length_nil] at hlength
    omega
  · exact ⟨outer, c, List.concat_eq_append, by simpa using hlength⟩

include hne hle hinnermost hlength

/-- A step along the row of the output is a step along the row of the operand. -/
theorem sourceCoords_advance (lane : Nat) :
    sourceCoords input output (advance lane coords) =
      advance lane (sourceCoords input output coords) := by
  obtain ⟨outer, c, rfl, houter⟩ := exists_innermost hne hle hlength
  rw [advance_concat, sourceCoords_concat _ hne hle houter hinnermost,
    sourceCoords_concat _ hne hle houter hinnermost, advance_concat]

/-- Where a unit of the output starts, a unit of the operand does. -/
theorem dvd_offsetOf_sourceCoords (hinput : WholeUnits width input)
    (hcoords : WholeUnits width coords) :
    width ∣ offsetOf input (sourceCoords input output coords) := by
  refine hinput.dvd_offsetOf ?_ (length_sourceCoords hle hlength)
  obtain ⟨outer, c, rfl, houter⟩ := exists_innermost hne hle hlength
  rw [sourceCoords_concat c hne hle houter hinnermost]
  simpa [WholeUnits] using hcoords

end Rows

/-- The lanes of a unit are computed from the lanes of one unit of the operand, in order: the one that
holds the source of the first lane. -/
theorem sourceOffset?_add_lane {width unit : Nat} {input output : Shape} {coords : List Nat}
    (hle : input.length ≤ output.length) (halign : UnitsAlign width input output)
    (hunit : unit * width < size output)
    (hcoords : coordsAt? output (unit * width) = some coords) {lane : Nat} (hlane : lane < width) :
    ∃ c, coordsAt? output (unit * width + lane) = some c ∧ Within c output ∧
      sourceOffset? input output c =
        some (offsetOf input (sourceCoords input output coords) / width * width + lane) := by
  have hfirst : width ∣ unit * width := Nat.dvd_mul_left width unit
  -- Each lane of the output has a source; what remains is which element it is.
  have hsource : ∀ {c : List Nat}, unit * width + lane < size output →
      coordsAt? output (unit * width + lane) = some c → offsetOf input (sourceCoords input output c) =
        offsetOf input (sourceCoords input output coords) / width * width + lane →
      ∃ c, coordsAt? output (unit * width + lane) = some c ∧ Within c output ∧
        sourceOffset? input output c =
          some (offsetOf input (sourceCoords input output coords) / width * width + lane) := by
    intro c hlt hc hoffset
    rcases exists_coordsAt hlt with ⟨c', hc', hwithin, -⟩
    obtain rfl : c' = c := Option.some.inj (hc'.symm.trans hc)
    refine ⟨c', hc', hwithin, ?_⟩
    rw [sourceOffset?_eq hle hwithin.length_eq, hoffset]
  cases halign with
  | single hone =>
    subst hone
    obtain rfl : lane = 0 := by omega
    exact hsource hunit hcoords (by rw [Nat.div_one, Nat.mul_one, Nat.add_zero])
  | same hsame hsize =>
    subst hsame
    have hlt := add_lane_lt hlane hfirst hsize hunit
    rcases exists_coordsAt hlt with ⟨c, hc, -, hoffset⟩
    rcases exists_coordsAt hunit with ⟨coords', hcoords', -, hstart⟩
    obtain rfl : coords' = coords := Option.some.inj (hcoords'.symm.trans hcoords)
    apply hsource hlt hc
    rw [sourceCoords_self, sourceCoords_self, hoffset, hstart, Nat.div_mul_cancel hfirst]
  | rows hne hinnermost hinput houtput =>
    have hnonempty : output ≠ [] := by
      rintro rfl
      exact hne (List.length_eq_zero_iff.mp (Nat.le_zero.mp hle))
    have hlt := add_lane_lt hlane hfirst (houtput.dvd_size hnonempty) hunit
    rcases coordsAt?_add_lane houtput hlane hfirst hcoords with ⟨hc, hwhole⟩
    have hlength := length_coordsAt? hcoords
    have hstart := dvd_offsetOf_sourceCoords hne hle hinnermost hlength hinput hwhole
    apply hsource hlt hc
    rw [sourceCoords_advance hne hle hinnermost hlength,
      offsetOf_advance lane hne (length_sourceCoords hle hlength), Nat.div_mul_cancel hstart]

/-- The unit of a broadcast operand that holds the source of a unit's first lane holds the sources of
all its lanes, in order. -/
theorem lanes_of_unit {width unit : Nat} {input output : Shape} {coords : List Nat}
    (hbroadcasts : Broadcasts input output) (halign : UnitsAlign width input output)
    (hunit : unit * width < size output)
    (hcoords : coordsAt? output (unit * width) = some coords) {lane : Nat} (hlane : lane < width) :
    let slot := offsetOf input (sourceCoords input output coords) / width
    slot * width + lane < size input ∧
      ∃ c, coordsAt? output (unit * width + lane) = some c ∧
        sourceOffset? input output c = some (slot * width + lane) := by
  have hle := hbroadcasts.length_le
  rcases sourceOffset?_add_lane hle halign hunit hcoords hlane with ⟨c, hc, hwithin, hsource⟩
  refine ⟨?_, c, hc, hsource⟩
  rw [sourceOffset?_eq hle hwithin.length_eq] at hsource
  rw [← Option.some.inj hsource]
  exact offsetOf_lt (hbroadcasts.within_sourceCoords hwithin)

end ComputeKernels.Shape

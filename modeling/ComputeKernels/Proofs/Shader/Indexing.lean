import ComputeKernels.Proofs.Shader.Meaning
import ComputeKernels.Proofs.Shape.Positions

/-!
# What the index functions compute

The functions that go between coordinates and flat indices, run on exact integers.  They find in the
uniform block the extents and the strides that the host puts there, and they compute what the host
computes from them.

Main results:

- Theorem `apply_outputIndexFunction`: the flat index of output coordinates is their offset.
- Theorem `apply_indexFromCoordsFunction`: so is the flat index within any shape of the rank.
- Theorem `apply_coordsFromIndexFunction`: a flat index is split into its coordinates.
-/

namespace ComputeKernels.Shader

open ComputeKernels.Uniform

variable {s : Setting} {calls : Calls} {locals : Locals}

/-! ## Coordinates as values -/

/-- Coordinates of an element in code.  The single element of a tensor without axes is at zero. -/
def coordsValue : List Nat → Value
  | [] => .int 0
  | [c] => .int c
  | c :: d :: coords => .numbers (c :: d :: coords)

/-- Two coordinates or more are a vector of them. -/
theorem coordsValue_of_two_le {coords : List Nat} (h : 2 ≤ coords.length) :
    coordsValue coords = .numbers coords := by
  match coords with
  | [] => simp at h
  | [c] => simp at h
  | c :: d :: coords => rfl

/-- Coordinates of one number of axes that are the same value are the same. -/
theorem coordsValue_inj {a b : List Nat} (hlength : a.length = b.length)
    (h : coordsValue a = coordsValue b) : a = b := by
  match a, b with
  | [], [] => rfl
  | [c], [d] =>
    have hsame : (c : Int) = d := by simpa [coordsValue] using h
    rw [Int.ofNat.inj hsame]
  | c :: c' :: a, d :: d' :: b =>
    have hatoms : (c :: c' :: a).map (fun n : Nat => Atom.int n) =
        (d :: d' :: b).map (fun n : Nat => Atom.int n) := Value.vector.inj h
    exact List.map_injective_iff.mpr (fun m n hmn => Int.ofNat.inj (Atom.int.inj hmn)) hatoms

/-- Integers in the place of coordinates. -/
def signedCoords : List Int → Value
  | [] => .int 0
  | [c] => .int c
  | c :: d :: coords => .integers (c :: d :: coords)

/-- Two signed coordinates or more are a vector of them. -/
theorem signedCoords_of_two_le {coords : List Int} (h : 2 ≤ coords.length) :
    signedCoords coords = .integers coords := by
  match coords with
  | [] => simp at h
  | [c] => simp at h
  | c :: d :: coords => rfl

private theorem signedCoords_natCast (coords : List Nat) :
    signedCoords (coords.map Nat.cast) = coordsValue coords := by
  match coords with
  | [] => rfl
  | [c] => rfl
  | c :: d :: coords => exact Value.integers_natCast (c :: d :: coords)

/-- Coordinates of two to four axes are as wide as there are axes. -/
theorem width_coords {rank : Nat} (htwo : 2 ≤ rank) (hfour : rank ≤ 4) :
    (ShaderType.coords rank).width = rank := by
  unfold ShaderType.coords
  rw [if_neg (by omega)]
  exact Nat.mod_eq_of_lt (by omega)

/-! ## Sums of weighted coordinates -/

/-- A sum over the coordinates, each times an expression for the stride of its axis, is the offset. -/
theorem eval_offset (hs : s.arithmetic = .exact) {shape : Shape} {coords : List Int} {base : Expr}
    {stride : Nat → Expr} (hlength : coords.length = shape.length) (htwo : 2 ≤ shape.length)
    (hfour : shape.length ≤ 4) (hblock : base.isBlock = false)
    (hbase : base.eval s calls locals = some (.integers coords))
    (hstride : ∀ (axis : Nat) (h : axis < (Shape.outerStrides shape).length),
      (stride axis).eval s calls locals = some (.int (Shape.outerStrides shape)[axis])) :
    (Expr.chain .add ((List.range (shape.length - 1)).map
        (fun axis => .binary .mul (axisOf base axis) (stride axis)) ++
          [axisOf base (shape.length - 1)]) (.int 0)).eval s calls locals =
      some (.int (Shape.signedOffset shape coords)) := by
  rw [← Shape.sum_offsetTerms]
  apply eval_sum hs
  have hstrides := Shape.length_outerStrides shape
  apply List.rel_append
  · rw [List.forall₂_iff_get]
    refine ⟨by simp [hlength, hstrides], fun axis haxis hterm => ?_⟩
    have hlt : axis < shape.length - 1 := by simpa using haxis
    have hcoordLt : axis < coords.length := by omega
    have hcoord := eval_signedAxisOf hblock hbase (by omega) hcoordLt
    simpa using eval_signedMul hs hcoord (hstride axis (by omega))
  · have hlt : shape.length - 1 < coords.length := by omega
    have hlast : coords.getLast?.toList = [coords[shape.length - 1]] := by
      have hsome : coords[shape.length - 1]? = some coords[shape.length - 1] :=
        List.getElem?_eq_getElem hlt
      have hlastIndex : coords.length - 1 = shape.length - 1 := by omega
      rw [List.getLast?_eq_getElem?, hlastIndex, hsome, Option.toList_some]
    rw [hlast]
    exact .cons (eval_signedAxisOf hblock hbase (by omega) hlt) .nil

/-! ## The output -/

/-- The uniform block holds the strides of the output. -/
abbrev HoldsStrides (s : Setting) (shape : Shape) : Prop :=
  s.uniforms "outShapeStrides" = some (.ofCounts .exact (Shape.outerStrides shape))

/-- The stride of an output axis is read as the block holds it. -/
theorem eval_outStride_settle {a : Arithmetic} {shape : Shape}
    (hstrides : s.uniforms "outShapeStrides" = some (.ofCounts a (Shape.outerStrides shape)))
    (hfour : shape.length ≤ 4) {axis : Nat} (haxis : axis < (Shape.outerStrides shape).length) :
    (outStride shape.length axis).eval s calls locals =
      some (.int (a.settle ((Shape.outerStrides shape)[axis] : Nat))) := by
  have hlength := Shape.length_outerStrides shape
  have hvalue : (Expr.uniform "outShapeStrides").eval s calls locals =
      some (.ofCounts a (Shape.outerStrides shape)) := (eval_uniform _).trans hstrides
  unfold outStride
  by_cases htwo : shape.length ≤ 2
  · obtain ⟨stride, hone⟩ : ∃ stride, Shape.outerStrides shape = [stride] :=
      List.length_eq_one_iff.mp (by omega)
    have hzero : axis = 0 := by omega
    subst hzero
    simp only [htwo, ↓reduceIte, hvalue, hone, Value.ofCounts, List.getElem_cons_zero]
  · rw [Value.ofCounts_eq_integers (by omega)] at hvalue
    simp only [htwo, ↓reduceIte]
    rw [eval_signedAxisOf rfl hvalue (by simp; omega) (by simpa using haxis), List.getElem_map]

private theorem eval_outStride {shape : Shape} (hstrides : HoldsStrides s shape)
    (hfour : shape.length ≤ 4) {axis : Nat} (haxis : axis < (Shape.outerStrides shape).length) :
    (outStride shape.length axis).eval s calls locals =
      some (.int (Shape.outerStrides shape)[axis]) := by
  rw [eval_outStride_settle hstrides hfour haxis, settle_exact]

/-- The flat index of output coordinates is their offset, also outside the output. -/
theorem apply_outputIndexFunction_signed (hs : s.arithmetic = .exact) {shape : Shape}
    {coords : List Int} (hstrides : HoldsStrides s shape) (hlength : coords.length = shape.length)
    (hfour : shape.length ≤ 4) :
    (outputIndexFunction shape.length).apply s calls [signedCoords coords] =
      some ⟨some (.int (Shape.signedOffset shape coords)), []⟩ := by
  have hcoords : (Expr.ident "coords").eval s calls [("coords", signedCoords coords)] =
      some (signedCoords coords) := by simp [eval_ident]
  apply apply_of_ret rfl rfl
  change Expr.eval s calls [("coords", signedCoords coords)] (if shape.length ≤ 1 then _ else _) = _
  by_cases hone : shape.length ≤ 1
  · rw [if_pos hone, hcoords]
    match shape, coords, hlength with
    | [], [], _ => simp [signedCoords, Shape.signedOffset, Shape.outerStrides]
    | [d], [c], _ => simp [signedCoords, Shape.signedOffset, Shape.outerStrides]
  · rw [if_neg hone]
    rw [signedCoords_of_two_le (by omega)] at hcoords ⊢
    exact eval_offset hs hlength (by omega) hfour rfl hcoords
      fun axis haxis => eval_outStride hstrides hfour haxis

/-- The flat index of output coordinates is their offset. -/
theorem apply_outputIndexFunction (hs : s.arithmetic = .exact) {shape coords : List Nat}
    (hstrides : HoldsStrides s shape) (hlength : coords.length = shape.length)
    (hfour : shape.length ≤ 4) :
    (outputIndexFunction shape.length).apply s calls [coordsValue coords] =
      some ⟨some (.int (Shape.offsetOf shape coords)), []⟩ := by
  rw [← signedCoords_natCast, ← Shape.signedOffset_natCast]
  exact apply_outputIndexFunction_signed hs hstrides (by simpa using hlength) hfour

/-! ## Any shape of a rank -/

/-- The flat index of coordinates is their offset, also outside the shape. -/
theorem apply_indexFromCoordsFunction_signed (hs : s.arithmetic = .exact) {shape : Shape}
    {coords : List Int} (hlength : coords.length = shape.length) (hpos : 1 ≤ shape.length)
    (hfour : shape.length ≤ 4) :
    (indexFromCoordsFunction shape.length).apply s calls
        [signedCoords coords, .ofCounts .exact shape] =
      some ⟨some (.int (Shape.signedOffset shape coords)), []⟩ := by
  have hcoords : (Expr.ident "coords").eval s calls
      [("coords", signedCoords coords), ("shape", .ofCounts .exact shape)] =
        some (signedCoords coords) := by simp [eval_ident]
  have hshape : (Expr.ident "shape").eval s calls
      [("coords", signedCoords coords), ("shape", .ofCounts .exact shape)] =
        some (.ofCounts .exact shape) := by simp [eval_ident, List.lookup_cons]
  apply apply_of_ret rfl rfl
  change Expr.eval s calls [("coords", signedCoords coords), ("shape", .ofCounts .exact shape)]
    (if shape.length = 1 then _ else _) = _
  by_cases hone : shape.length = 1
  · rw [if_pos hone, hcoords]
    match shape, coords, hlength with
    | [d], [c], _ => simp [signedCoords, Shape.signedOffset, Shape.outerStrides]
  · rw [if_neg hone]
    rw [signedCoords_of_two_le (by omega)] at hcoords hshape ⊢
    rw [Value.ofCounts_of_two_le (by omega)] at hcoords hshape ⊢
    have hterms : (List.range shape.length).map (weightedCoord shape.length) =
        (List.range (shape.length - 1)).map (fun axis => .binary .mul (axisOf (.ident "coords") axis)
          (.chain .mul ((List.range' (axis + 1) (shape.length - (axis + 1))).map
            (axisOf (.ident "shape"))) (.int 1))) ++
          [axisOf (.ident "coords") (shape.length - 1)] := by
      have hsplit : List.range shape.length = List.range (shape.length - 1) ++ [shape.length - 1] := by
        rw [← List.range_succ]
        congr 1
        omega
      have hlast : weightedCoord shape.length (shape.length - 1) =
          axisOf (.ident "coords") (shape.length - 1) := if_pos (by omega)
      rw [hsplit, List.map_append, List.map_singleton, hlast]
      congr 1
      apply List.map_congr_left
      intro axis haxis
      exact if_neg (by have := List.mem_range.mp haxis; omega)
    rw [hterms]
    refine eval_offset hs hlength (by omega) hfour rfl hcoords fun axis haxis => ?_
    have hstrides := Shape.length_outerStrides shape
    rw [Shape.getElem_outerStrides haxis]
    exact eval_product hs (evalNumbers_axes rfl hshape hfour (by omega))

/-- The flat index of coordinates within a shape is their offset. -/
theorem apply_indexFromCoordsFunction (hs : s.arithmetic = .exact) {shape coords : List Nat}
    (hlength : coords.length = shape.length) (hpos : 1 ≤ shape.length) (hfour : shape.length ≤ 4) :
    (indexFromCoordsFunction shape.length).apply s calls
        [coordsValue coords, .ofCounts .exact shape] =
      some ⟨some (.int (Shape.offsetOf shape coords)), []⟩ := by
  rw [← signedCoords_natCast, ← Shape.signedOffset_natCast]
  exact apply_indexFromCoordsFunction_signed hs (by simpa using hlength) hpos hfour

/-! ## Coordinates of an index -/

/-- Locals that hold different coordinates have different names. -/
theorem coordName_ne_coordName :
    ∀ i < Shape.maxRank, ∀ j < Shape.maxRank, i ≠ j → coordName i ≠ coordName j := by
  decide

/-- Locals that hold coordinates are named apart from any name with another first letter. -/
theorem coordName_ne {axis : Nat} {name : String} (h : name.toList.head? ≠ some 'd') :
    coordName axis ≠ name := by
  rintro rfl
  simp [coordName] at h

/-- No coordinate is named like the running remainder. -/
theorem coordName_ne_remainder (axis : Nat) : coordName axis ≠ "remainder" :=
  coordName_ne (by decide)

/-- Splitting off an axis divides the running number and keeps what is left. -/
theorem exists_runAll_splitAxis (hs : s.arithmetic = .exact) {f : Frame} {running : String}
    {axis n d : Nat} {stride : Expr} (hne : coordName axis ≠ running) (hf : f.returned = none)
    (hn : f.locals.lookup running = some (.int n)) (hd : d ≠ 0)
    (hstride : ∀ locals, stride.eval s calls locals = some (.int d)) :
    ∃ g : Frame, (∀ rest, Stmt.runAll s calls f (splitAxis running axis stride ++ rest) =
        Stmt.runAll s calls g rest) ∧
      g.returned = none ∧ g.writes = f.writes ∧
      g.locals.lookup running = some (.int (n % d : Nat)) ∧
      g.locals.lookup (coordName axis) = some (.int (n / d : Nat)) ∧
      ∀ name, name ≠ running → name ≠ coordName axis →
        g.locals.lookup name = f.locals.lookup name := by
  have hquotient : (Expr.binary .div (.ident running) stride).eval s calls f.locals =
      some (.int (n / d : Nat)) := eval_div hs ((eval_ident running).trans hn) (hstride _) hd
  let h := f.declare (coordName axis) (.int (n / d : Nat))
  have hrunning : h.locals.lookup running = some (.int n) := by
    rw [Frame.lookup_declare, if_neg (Ne.symm hne), hn]
  have hcoord : h.locals.lookup (coordName axis) = some (.int (n / d : Nat)) := by
    rw [Frame.lookup_declare, if_pos rfl]
  have hrest : (Expr.binary .sub (.ident running)
      (.binary .mul (.ident (coordName axis)) stride)).eval s calls h.locals =
        some (.int (n % d : Nat)) := by
    have hproduct := eval_mul hs ((eval_ident (coordName axis)).trans hcoord) (hstride h.locals)
    rw [eval_binary ((eval_ident running).trans hrunning) hproduct rfl, hs, settle_exact]
    have hsplit := Nat.div_add_mod' n d
    congr 3
    omega
  have hassign : (Expr.ident running).assign? s calls h (.int (n % d : Nat)) =
      h.replace? running (.int (n % d : Nat)) := by rw [Expr.assign?]
  have hreturned : h.returned = none := hf
  rcases exists_runAll_assign hreturned hrunning hrest hassign with
    ⟨g, hrun, hreturned, hwrites, hlookup⟩
  refine ⟨g, fun rest => ?_, hreturned, hwrites, ?_, ?_, fun name hname haxis => ?_⟩
  · exact (runAll_constant hf hquotient).trans (hrun rest)
  · rw [hlookup, if_pos rfl]
  · rw [hlookup, if_neg hne, hcoord]
  · rw [hlookup, if_neg hname, Frame.lookup_declare, if_neg haxis]

/-- Splitting off all axes but the last leaves the coordinates of the running number: the last of
them in its place, the others in locals of their own. -/
theorem exists_runAll_splitAxes (hs : s.arithmetic = .exact) {f : Frame} {start n : Nat}
    {shape coords : List Nat} {stride : Nat → Expr} (hshape : shape ≠ [])
    (hrank : start + shape.length ≤ Shape.maxRank) (hcoords : Shape.coordsAt? shape n = some coords) (hf : f.returned = none)
    (hn : f.locals.lookup "remainder" = some (.int n))
    (hstride : ∀ (axis : Nat) (h : axis < (Shape.outerStrides shape).length) (locals : Locals),
      (stride (start + axis)).eval s calls locals =
        some (.int (Shape.outerStrides shape)[axis])) :
    ∃ g : Frame, (∀ rest, Stmt.runAll s calls f
        ((List.range' start (shape.length - 1)).flatMap
          (fun axis => splitAxis "remainder" axis (stride axis)) ++ rest) =
        Stmt.runAll s calls g rest) ∧
      g.returned = none ∧ g.writes = f.writes ∧
      (∀ axis < start, g.locals.lookup (coordName axis) = f.locals.lookup (coordName axis)) ∧
      EvalNumbers s calls g.locals
        ((List.range' start (shape.length - 1)).map (fun axis => .ident (coordName axis)) ++
          [.ident "remainder"]) coords := by
  induction shape generalizing f start n coords with
  | nil => exact absurd rfl hshape
  | cons d shape ih =>
    by_cases hlast : shape = []
    · subst hlast
      obtain rfl : [n] = coords := by simpa [Shape.coordsAt?] using hcoords
      exact ⟨f, fun rest => by simp, hf, rfl, fun _ _ => rfl,
        .cons ((eval_ident _).trans hn) .nil⟩
    · rcases (Shape.coordsAt?_cons_eq_some_iff hlast).mp hcoords with ⟨hpos, inner, hinner, rfl⟩
      obtain ⟨count, hcount⟩ : ∃ count, shape.length = count + 1 :=
        Nat.exists_eq_succ_of_ne_zero (fun h => hlast (List.length_eq_zero_iff.mp h))
      have hstrides : Shape.outerStrides (d :: shape) = Shape.size shape :: Shape.outerStrides shape := by
        cases shape with
        | nil => exact absurd rfl hlast
        | cons e shape => rw [Shape.outerStrides]
      have hfirst : ∀ locals, (stride start).eval s calls locals = some (.int (Shape.size shape)) := by
        intro locals
        simpa [hstrides] using hstride 0 (by simp [hstrides]) locals
      rcases exists_runAll_splitAxis hs (coordName_ne_remainder start) hf hn (Nat.ne_of_gt hpos)
        hfirst with ⟨g, hrun, hreturned, hwrites, hremainder, hcoord, hother⟩
      have hrest : ∀ (axis : Nat) (h : axis < (Shape.outerStrides shape).length) (locals : Locals),
          (stride (start + 1 + axis)).eval s calls locals =
            some (.int (Shape.outerStrides shape)[axis]) := by
        intro axis haxis locals
        have hnext := hstride (axis + 1) (by simpa [hstrides] using haxis) locals
        simpa [hstrides, Nat.add_assoc, Nat.add_comm 1] using hnext
      rw [List.length_cons] at hrank
      have hnext : start + 1 + shape.length ≤ Shape.maxRank := by omega
      rcases ih hlast hnext hinner hreturned hremainder hrest with
        ⟨final, hfinal, hreturnedFinal, hwritesFinal, hkept, hnumbers⟩
      have hrange : List.range' start ((d :: shape).length - 1) =
          start :: List.range' (start + 1) (shape.length - 1) := by
        simp [hcount, List.range'_succ]
      refine ⟨final, fun rest => ?_, hreturnedFinal, hwritesFinal.trans hwrites,
        fun axis haxis => ?_, ?_⟩
      · rw [hrange, List.flatMap_cons, List.append_assoc, hrun, hfinal]
      · have hstart : start < Shape.maxRank := by omega
        have hne := coordName_ne_coordName axis (by omega) start hstart (by omega)
        rw [hkept axis (by omega), hother _ (coordName_ne_remainder axis) hne]
      · rw [hrange, List.map_cons, List.cons_append]
        refine .cons ?_ hnumbers
        rw [eval_ident, hkept start (by omega), hcoord]

/-- A flat index of the output is split into its coordinates. -/
theorem apply_coordsFromIndexFunction (hs : s.arithmetic = .exact) {shape coords : List Nat}
    {index : Nat} (hstrides : HoldsStrides s shape) (hfour : shape.length ≤ 4)
    (hindex : index < Shape.size shape) (hcoords : Shape.coordsAt? shape index = some coords) :
    (coordsFromIndexFunction shape.length).apply s calls [.int index] =
      some ⟨some (coordsValue coords), []⟩ := by
  have hlength := Shape.length_coordsAt? hcoords
  by_cases hone : shape.length ≤ 1
  · apply apply_of_ret (e := .ident "index") (by simp [coordsFromIndexFunction, hone]) rfl
    match shape, hone with
    | [], _ =>
      obtain rfl : [] = coords := by simpa [Shape.coordsAt?] using hcoords
      obtain rfl : index = 0 := by simpa using hindex
      simp [coordsFromIndexFunction, eval_ident, coordsValue]
    | [d], _ =>
      obtain rfl : [index] = coords := by simpa [Shape.coordsAt?] using hcoords
      simp [coordsFromIndexFunction, eval_ident, coordsValue]
  · have hne : shape ≠ [] := by
      rintro rfl
      simp at hone
    let f : Frame := Frame.declare { locals := [("index", .int index)] } "remainder" (.int index)
    have hindexValue : (Expr.ident "index").eval s calls [("index", .int index)] =
        some (.int index) := by simp [eval_ident]
    have hremainder : f.locals.lookup "remainder" = some (.int index) := by
      rw [Frame.lookup_declare, if_pos rfl]
    have hstride : ∀ (axis : Nat) (h : axis < (Shape.outerStrides shape).length) (locals : Locals),
        (outStride shape.length (0 + axis)).eval s calls locals =
          some (.int (Shape.outerStrides shape)[axis]) := by
      intro axis haxis locals
      rw [Nat.zero_add]
      exact eval_outStride hstrides hfour haxis
    rcases exists_runAll_splitAxes hs hne (by rw [Nat.zero_add]; exact hfour) hcoords rfl hremainder
      hstride with ⟨g, hrun, hreturned, hwrites, -, hnumbers⟩
    have hwidth : coords.length = (ShaderType.coords shape.length).width := by
      rw [hlength, width_coords (by omega) hfour]
    have hconstruct := eval_construct_numbers hnumbers (by omega) hwidth
    have hbody : Stmt.runAll s calls { locals := [("index", .int index)] }
        (coordsFromIndexFunction shape.length).body =
          some { g with returned := some (some (.numbers coords)) } := by
      rw [← List.range_eq_range'] at hrun hconstruct
      simp only [coordsFromIndexFunction, hone, ↓reduceIte, List.cons_append]
      rw [runAll_variable rfl hindexValue, hrun]
      exact runAll_ret hconstruct
    rw [coordsValue_of_two_le (by omega)]
    exact apply_of_runAll rfl hbody rfl hwrites

end ComputeKernels.Shader

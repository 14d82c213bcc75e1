import ComputeKernels.Proofs.Shader.Sampling

/-!
# Agreement of the index arithmetic

Coordinates and flat indices are converted in three places: by the host, by code that uses the strides
in the uniform block, and by code that multiplies the extents of a shape that it is given.  All three
agree, whatever the extents are.  The test against a shape tells exactly the coordinates that lead to
an element.

Coordinates in code are signed, so they may lie outside a shape in either direction.  The functions do
not call each other, and they mean the same whatever else a module declares.

Main results:

- Theorem `apply_inBoundsFunction`: the bound test holds exactly for coordinates within the shape.
- Theorem `Shape.signedOffset_bounds`: coordinates within the shape have an offset below the size.
- Theorem `index_functions_agree`: host and generated code agree on every shape of the output.
-/

namespace ComputeKernels

/-! ## Coordinates within a shape -/

namespace Shape

/-- Integers that are coordinates within the extents of a shape. -/
abbrev InBounds (coords : List Int) (s : Shape) : Prop :=
  List.Forall₂ (fun (c : Int) (d : Nat) => 0 ≤ c ∧ c < d) coords s

/-- Integers within the extents are the coordinates of an element. -/
theorem exists_coords_of_inBounds {c : List Int} {s : Shape} (h : InBounds c s) :
    ∃ coords : List Nat, coords.map Nat.cast = c ∧ Within coords s := by
  induction h with
  | nil => exact ⟨[], rfl, .nil⟩
  | @cons n d c s hn _ ih =>
    rcases ih with ⟨coords, rfl, hwithin⟩
    obtain ⟨m, rfl⟩ := Int.eq_ofNat_of_zero_le hn.1
    exact ⟨m :: coords, rfl, .cons (Int.ofNat_lt.mp hn.2) hwithin⟩

/-- The offset of integers within the extents is the index of an element. -/
theorem signedOffset_bounds {c : List Int} {s : Shape} (h : InBounds c s) :
    0 ≤ signedOffset s c ∧ signedOffset s c < size s := by
  rcases exists_coords_of_inBounds h with ⟨coords, rfl, hwithin⟩
  rw [signedOffset_natCast]
  exact ⟨Int.natCast_nonneg _, Int.ofNat_lt.mpr (offsetOf_lt hwithin)⟩

end Shape

namespace Shader

open ComputeKernels.Uniform

variable {s : Setting} {calls : Calls} {locals : Locals} {k : Kernel}

/-! ## The bound test -/

/-- Whether integers pass the tests against extents, two for each axis. -/
def boundChecks (c : List Int) (shape : Shape) : List Bool :=
  (c.zip shape).flatMap fun p => [decide (0 ≤ p.1), decide (p.1 < p.2)]

private theorem all_boundChecks {c : List Int} {shape : Shape} (hlength : c.length = shape.length) :
    (boundChecks c shape).all id = decide (Shape.InBounds c shape) := by
  rw [Bool.eq_iff_iff, decide_eq_true_iff, Shape.InBounds, List.forall₂_iff_zip]
  simp [boundChecks, List.all_flatMap, hlength]

/-- The tests of one coordinate. -/
theorem eval_boundTests (hs : s.arithmetic = .exact) {coord extent : Expr} {c : Int} {d : Nat}
    (hcoord : coord.eval s calls locals = some (.int c))
    (hextent : extent.eval s calls locals = some (.int d)) :
    EvalTests s calls locals (boundTests coord extent) [decide (0 ≤ c), decide (c < d)] :=
  .cons (eval_ge hcoord (eval_int hs 0)) (.cons (eval_lt hcoord hextent) .nil)

/-- The bound test holds exactly for coordinates within the shape. -/
theorem apply_inBoundsFunction (hs : s.arithmetic = .exact) {shape : Shape} {c : List Int}
    (hlength : c.length = shape.length) (hpos : 1 ≤ shape.length) (hfour : shape.length ≤ 4) :
    (inBoundsFunction shape.length).apply s calls [signedCoords c, .ofCounts .exact shape] =
      some ⟨some (.atom (.bool (decide (Shape.InBounds c shape)))), []⟩ := by
  let locals : Locals := [("coord", signedCoords c), ("shape", .ofCounts .exact shape)]
  have hcoord : (Expr.ident "coord").eval s calls locals = some (signedCoords c) := by
    simp [locals, eval_ident]
  have hshape : (Expr.ident "shape").eval s calls locals = some (.ofCounts .exact shape) := by
    simp [locals, eval_ident, List.lookup_cons]
  apply apply_of_ret rfl rfl
  rw [← all_boundChecks hlength]
  apply eval_all
  change EvalTests s calls locals (if shape.length = 1 then _ else _) _
  by_cases hone : shape.length = 1
  · rw [if_pos hone]
    match shape, c, hlength with
    | [d], [n], _ => exact eval_boundTests hs hcoord hshape
  · rw [if_neg hone]
    rw [signedCoords_of_two_le (by omega)] at hcoord
    rw [Value.ofCounts_of_two_le (by omega)] at hshape
    -- The coordinate and the extent of every axis.
    have haxes : List.Forall₂ (fun i (p : Int × Nat) =>
        (axisOf (.ident "coord") i).eval s calls locals = some (.int p.1) ∧
          (axisOf (.ident "shape") i).eval s calls locals = some (.int p.2))
        (List.range shape.length) (c.zip shape) := by
      rw [List.forall₂_iff_get]
      refine ⟨by simp [hlength], fun i hi hzip => ?_⟩
      have hlt : i < shape.length := by simpa using hi
      have hltCoord : i < c.length := by omega
      simp only [List.get_eq_getElem, List.getElem_range, List.getElem_zip]
      constructor
      · exact eval_signedAxisOf rfl hcoord (by omega) hltCoord
      · exact eval_axisOf rfl hshape hfour hlt
    exact List.rel_flatMap haxes fun i p hp => eval_boundTests hs hp.1 hp.2

/-! ## Functions that every module has -/

/-- The helpers that do not depend on the operands have names of their own. -/
theorem nodup_fixedHelpers (k : Kernel) : ((fixedHelpers k).map (·.name)).Nodup := by
  have hnames : (fixedHelpers k).map (·.name) = ["isnanCustom", "isnanCustomVec4", "idiv",
      "coordsInBounds1D", "coordsInBounds2D", "coordsInBounds3D", "coordsInBounds4D",
      "getIndexFromCoords1D", "getIndexFromCoords2D", "getIndexFromCoords3D",
      "getIndexFromCoords4D", "getOutputIndexFromCoords", "getCoordsFromIndex", "getGlobalIndex",
      "getOutputCoords"] := rfl
  rw [hnames]
  decide

private theorem inBoundsFunction_mem {rank : Nat} (hpos : 1 ≤ rank) (hrank : rank ≤ Shape.maxRank) :
    inBoundsFunction rank ∈ fixedHelpers k := by
  have hmem : rank ∈ helperRanks := by
    rw [helperRanks, List.mem_range']
    exact ⟨rank - 1, by omega, by omega⟩
  simp only [fixedHelpers, List.mem_append]
  exact .inl (.inl (.inr (List.mem_map_of_mem hmem)))

/-- What these helpers mean does not depend on what a module with distinct names declares after
them. -/
theorem helperCalls_eq_of_mem_fixedHelpers (hn : WellNamed k) {f : Function}
    (hf : f ∈ fixedHelpers k) : helperCalls k s f.name = callsOf s (fixedHelpers k) f.name := by
  have hnames := hn.functions
  rw [helpers_eq_append, List.append_assoc, List.map_append, List.nodup_append] at hnames
  rw [helperCalls, helpers_eq_append, List.append_assoc]
  apply callsOf_append_of_not_mem
  intro hlater
  exact hnames.2.2 f.name (List.mem_map_of_mem hf) f.name hlater rfl

/-! ## The strides of the output -/

private theorem shapeUniform_ne_outShapeStrides (name : String) :
    shapeUniform name ≠ "outShapeStrides" := by
  have hlast : (shapeUniform name).toList.getLast? = some 'e' := by
    unfold shapeUniform
    split
    · decide
    · rw [String.toList_append, List.getLast?_append]
      rfl
  intro h
  rw [h] at hlast
  exact absurd hlast (by decide)

/-- The first member of a name has the value of its contents. -/
theorem blockValues_of_first {a : Arithmetic} {before after : List (UniformMember × Content)}
    {m : UniformMember} {c : Content} (hbefore : ∀ e ∈ before, e.1.name ≠ m.name) :
    blockValues a ((before ++ (m, c) :: after).map Prod.fst)
      ((before ++ (m, c) :: after).map Prod.snd) m.name = some (contentValue a c) := by
  rw [blockValues, List.map_map, List.map_map, List.zip_map', List.map_append, List.map_cons,
    List.lookup_append]
  have hnone : List.lookup m.name (before.map fun e => (e.1.name, contentValue a e.2)) = none := by
    rw [List.lookup_eq_none_iff]
    intro p hp
    rcases List.mem_map.mp hp with ⟨e, he, rfl⟩
    simpa using (hbefore e he).symm
  change (List.lookup m.name (before.map fun e => (e.1.name, contentValue a e.2))).or _ = _
  rw [hnone]
  simp

/-- The strides are found under their name whatever the operands are called. -/
theorem holdsStrides_of_contents (code : String) {grid : Grid} {extra : List Field}
    {contents : List Content} (i : Invocation)
    (hcontents : k.program.uniformContents k.inputs k.output.shape grid extra = .ok contents) :
    HoldsStrides ((moduleWith k code).setting .exact contents i) k.output.shape := by
  rcases uniformContents_eq_ok hcontents with ⟨rfl, hextra⟩
  change blockValues .exact (uniformMembers k) _ "outShapeStrides" = _
  rw [uniformMembers_eq grid hextra.length_eq]
  obtain ⟨after, hafter⟩ : ∃ after, memberContents k grid extra =
      ([(UniformMember.mk "NAN" (.scalar .f32), Content.notANumber)] ++
        k.inputs.map (fun o => (UniformMember.mk (shapeUniform o.name) (.coords o.rank),
          Content.counts o.shape)) ++
        [(UniformMember.mk "outShape" (.coords k.outRank), Content.counts k.output.shape)]) ++
      (UniformMember.mk "outShapeStrides" (.coords (k.outRank - 1)),
        Content.counts (Shape.outerStrides k.output.shape)) :: after := by
    simp only [memberContents, List.append_assoc, List.cons_append, List.nil_append,
      List.append_cancel_left_eq, List.cons.injEq, true_and]
    exact ⟨_, rfl⟩
  rw [hafter]
  apply blockValues_of_first (m := ⟨"outShapeStrides", .coords (k.outRank - 1)⟩)
  intro e he
  simp only [List.mem_append, List.mem_singleton, List.mem_map] at he
  rcases he with (rfl | ⟨o, -, rfl⟩) | rfl
  · change "NAN" ≠ "outShapeStrides"
    decide
  · exact shapeUniform_ne_outShapeStrides o.name
  · change "outShape" ≠ "outShapeStrides"
    decide

/-! ## Agreement -/

/-- For every output of one to four axes, host and generated code agree on exact integers.  Flat
indices are split into the coordinates that the host finds; the flat index of any coordinates is the
same by the strides in the uniform block and by the extents, and is the one of the host; the bound test
holds exactly for the coordinates within the extents, whose flat index lies below the size. -/
theorem index_functions_agree (k : Kernel) (code : String) (grid : Grid) (extra : List Field)
    (contents : List Content) (i : Invocation) (hpos : 1 ≤ k.outRank)
    (hrank : k.outRank ≤ Shape.maxRank)
    (hcontents : k.program.uniformContents k.inputs k.output.shape grid extra = .ok contents) :
    let shape := k.output.shape
    let s := (moduleWith k code).setting .exact contents i
    let calls := callsOf s (fixedHelpers k)
    (∀ index < Shape.size shape, ∃ coords, Shape.coordsAt? shape index = some coords ∧
      calls "getCoordsFromIndex" [.int index] = some ⟨some (coordsValue coords), []⟩) ∧
    (∀ c : List Int, c.length = shape.length →
      calls "getOutputIndexFromCoords" [signedCoords c] =
        some ⟨some (.int (Shape.signedOffset shape c)), []⟩ ∧
      calls ("getIndexFromCoords" ++ toString k.outRank ++ "D")
          [signedCoords c, .ofCounts .exact shape] =
        some ⟨some (.int (Shape.signedOffset shape c)), []⟩ ∧
      calls ("coordsInBounds" ++ toString k.outRank ++ "D")
          [signedCoords c, .ofCounts .exact shape] =
        some ⟨some (.atom (.bool (decide (Shape.InBounds c shape)))), []⟩ ∧
      (Shape.InBounds c shape →
        0 ≤ Shape.signedOffset shape c ∧ Shape.signedOffset shape c < Shape.size shape)) ∧
    (∀ coords : List Nat,
      Shape.signedOffset shape (coords.map Nat.cast) = Shape.offsetOf shape coords) ∧
    (WellNamed k → ∀ f ∈ fixedHelpers k, helperCalls k s f.name = calls f.name) := by
  intro shape s calls
  have hs : s.arithmetic = .exact := rfl
  have hstrides : HoldsStrides s shape := holdsStrides_of_contents code i hcontents
  have hcall : ∀ f ∈ fixedHelpers k, ∃ earlier : Calls, ∀ args,
      calls f.name args = f.apply s earlier args := fun f hf =>
    exists_apply_of_mem (nodup_fixedHelpers k) hf
  refine ⟨fun index hindex => ?_, fun c hlength => ⟨?_, ?_, ?_, Shape.signedOffset_bounds⟩,
    Shape.signedOffset_natCast shape, fun hn f hf => helperCalls_eq_of_mem_fixedHelpers hn hf⟩
  · rcases Shape.exists_coordsAt hindex with ⟨coords, hcoords, -, -⟩
    rcases hcall _ coordsFromIndexFunction_mem with ⟨earlier, hearlier⟩
    exact ⟨coords, hcoords, (hearlier _).trans
      (apply_coordsFromIndexFunction hs hstrides hrank hindex hcoords)⟩
  · rcases hcall _ outputIndexFunction_mem with ⟨earlier, hearlier⟩
    exact (hearlier _).trans (apply_outputIndexFunction_signed hs hstrides hlength hrank)
  · rcases hcall _ (indexFromCoordsFunction_mem hpos hrank) with ⟨earlier, hearlier⟩
    exact (hearlier _).trans (apply_indexFromCoordsFunction_signed hs hlength hpos hrank)
  · rcases hcall _ (inBoundsFunction_mem hpos hrank) with ⟨earlier, hearlier⟩
    exact (hearlier _).trans (apply_inBoundsFunction hs hlength hpos hrank)

/-- In a batch of rows element 38 is found at its coordinates, and a negative coordinate lies
outside. -/
theorem rowsKernel_indices_agree :
    let s := (moduleWith rowsKernel "").setting .exact [.notANumber, .counts [2, 1, 8],
      .counts [2, 3, 8], .counts [24, 8], .counts [12], .counts [1, 1, 1]] ⟨⟨0, 0, 0⟩, ⟨9, 0, 0⟩⟩
    let calls := callsOf s (fixedHelpers rowsKernel)
    calls "getCoordsFromIndex" [.int 38] = some ⟨some (coordsValue [1, 1, 6]), []⟩ ∧
      calls "coordsInBounds3D" [signedCoords [1, -1, 6], .ofCounts .exact [2, 3, 8]] =
        some ⟨some (.atom (.bool false)), []⟩ := by
  intro s calls
  obtain ⟨hsplit, hcoords, -, -⟩ := index_functions_agree rowsKernel "" ⟨1, 1, 1⟩ [] _
    ⟨⟨0, 0, 0⟩, ⟨9, 0, 0⟩⟩ (by decide) (by decide) rowsKernel_contents
  constructor
  · rcases hsplit 38 (by decide) with ⟨coords, hcoords, hcall⟩
    have hknown : Shape.coordsAt? [2, 3, 8] 38 = some [1, 1, 6] := by simp [Shape.coordsAt?]
    obtain rfl : [1, 1, 6] = coords := Option.some.inj (hknown.symm.trans hcoords)
    exact hcall
  · obtain ⟨-, -, htest, -⟩ := hcoords [1, -1, 6] rfl
    exact htest

end Shader

end ComputeKernels

import ComputeKernels.Proofs.Shader.Helpers

/-!
# What the samplers read

The functions of a module that read an operand, run on the uniform block of a dispatch.  An operand is
read at its own coordinates, at those of the output, or at the flat index of the output; whichever way
is taken, and whether one element is read or four, the same slot of its storage array is meant.

Main results:

- Theorem `call_readAtCoords`: an operand is read at the offset of its own coordinates.
- Theorem `call_readAtOutCoords`: at output coordinates it is read at the coordinates that the
  broadcast leads to.
- Theorem `call_readAtOutputIndex`: at a flat index of the output it is read at the coordinates of the
  index.
- Theorem `samplers_follow_the_broadcast`: every lane of the unit that is read is the element that the
  broadcast asks for.
-/

namespace ComputeKernels.Shader

open ComputeKernels.Uniform

variable {k : Kernel} {s : Setting} {o : Operand} {calls : Calls} {locals : Locals}

/-! ## Own coordinates -/

/-- Locals that hold some coordinates. -/
abbrev coordBindings (coords : List Nat) : Locals :=
  ((List.range coords.length).map coordName).zip (coords.map fun n : Nat => .int n)

/-- Where the locals of the first axes have some coordinates, so have the expressions for them. -/
theorem evalNumbers_coordLocals {coords : List Nat} (hlocals : ∀ (axis : Nat)
    (h : axis < coords.length), locals.lookup (coordName axis) = some (.int coords[axis])) :
    EvalNumbers s calls locals (coordLocals coords.length) coords := by
  rw [EvalNumbers, List.forall₂_iff_get]
  refine ⟨by simp [coordLocals], fun axis haxis hcoord => ?_⟩
  simpa [coordLocals] using (eval_ident (coordName axis)).trans (hlocals axis hcoord)

private theorem evalNumbers_coordBindings {coords : List Nat} (h : coords.length ≤ Shape.maxRank) :
    EvalNumbers s calls (coordBindings coords) (coordLocals coords.length) coords := by
  apply evalNumbers_coordLocals
  intro axis haxis
  apply lookup_zip_of_nodup (nodup_coordNames h)
  rw [List.mem_iff_getElem]
  exact ⟨axis, by simpa using haxis, by simp⟩

/-- The flat index of the coordinates of an operand is their offset. -/
theorem eval_operandIndex (hn : WellNamed k) (hs : Serves k s) (ho : o ∈ k.inputs)
    (hrank : o.rank ≤ Shape.maxRank) {earlier : Calls}
    (hcalls : ∀ f ∈ fixedHelpers k, earlier f.name = helperCalls k s f.name) {coords : List Nat}
    (hlength : coords.length = o.rank) :
    (operandIndex o).eval s earlier (coordBindings coords) =
      some (.int (Shape.offsetOf o.shape coords)) := by
  unfold operandIndex
  split
  · next hzero =>
    have hshape : o.shape = [] := List.length_eq_zero_iff.mp hzero
    rw [eval_int hs.exact, hshape]
    simp [Shape.offsetOf, Shape.outerStrides, List.length_eq_zero_iff.mp (hlength.trans hzero)]
  · next hone =>
    obtain ⟨c, rfl⟩ := List.length_eq_one_iff.mp (hlength.trans hone)
    obtain ⟨d, hd⟩ := List.length_eq_one_iff.mp hone
    simp [hd, eval_ident, coordBindings, Shape.offsetOf, Shape.outerStrides]
  · next rank hzero hone =>
    have htwo : 2 ≤ o.shape.length := by
      have hne : o.shape.length ≠ 0 := hzero
      have hne' : o.shape.length ≠ 1 := hone
      omega
    have hmem : indexFromCoordsFunction o.rank ∈ fixedHelpers k :=
      indexFromCoordsFunction_mem (by unfold Operand.rank; omega) hrank
    rcases hn.exists_earlier (s := s) (List.mem_append_left _ (List.mem_append_left _ hmem)) with
      ⟨inner, hinner⟩
    have hnumbers : EvalNumbers s earlier (coordBindings coords) (coordLocals o.rank) coords := by
      rw [← hlength]
      exact evalNumbers_coordBindings (hlength ▸ hrank)
    have hcoords := eval_construct_numbers hnumbers (hlength ▸ htwo)
      (hlength.trans (width_coords htwo hrank).symm)
    have hshape : (Expr.uniform (shapeUniform o.name)).eval s earlier (coordBindings coords) =
        some (.ofCounts .exact o.shape) := (eval_uniform _).trans (hs.shapes o ho)
    have hargs : Expr.evalAll s earlier (coordBindings coords)
        [.construct (.coords o.rank) (coordLocals o.rank), .uniform (shapeUniform o.name)] =
          some [coordsValue coords, .ofCounts .exact o.shape] := by
      rw [coordsValue_of_two_le (hlength ▸ htwo)]
      exact evalAll_of_forall₂ (.cons hcoords (.cons hshape .nil))
    have happly : (indexFromCoordsFunction o.rank).apply s inner
        [coordsValue coords, .ofCounts .exact o.shape] =
          some ⟨some (.int (Shape.offsetOf o.shape coords)), []⟩ :=
      apply_indexFromCoordsFunction hs.exact hlength (by omega) hrank
    exact eval_call hargs ((congrFun (hcalls _ hmem) _).trans ((hinner _).trans happly))

/-- An operand is read at the offset of its own coordinates. -/
theorem call_readAtCoords (hk : k.Acceptable) (hn : WellNamed k) (hs : Serves k s)
    (ho : o ∈ k.inputs) {coords : List Nat} (hlength : coords.length = o.rank) :
    helperCalls k s ("get" ++ capitalized o.name) (coords.map fun n : Nat => .int n) =
      some (unitWith k o (Shape.offsetOf o.shape coords)) := by
  have hrank := (hk.inputs o ho).rank_le
  rcases exists_earlier_readAtCoords hn hs.supplies ho hrank
    (by simpa using hlength : (coords.map fun n : Nat => Value.int n).length = o.rank) with
    ⟨earlier, hearlier, hcall⟩
  have hindex := eval_operandIndex hn hs ho hrank hearlier hlength
  rw [coordBindings, hlength] at hindex
  rw [hcall _ hindex, hs.exact, slotOf_exact]

/-! ## Coordinates of the output -/

private theorem pin_cons (axis : Nat) (axes coords : List Nat) :
    Shape.pin (axis :: axes) coords = Shape.pin axes (coords.set axis 0) := by
  apply List.ext_getElem
  · simp
  · intro i hi hset
    by_cases heq : axis = i
    · subst heq
      simp [Shape.pin]
    · simp [Shape.pin, heq, Ne.symm heq]

/-- Setting one coordinate to zero replaces the local that holds the coordinates. -/
theorem assign?_pinned {f : Frame} {coords : List Nat} {axis : Nat} (hfour : coords.length ≤ 4)
    (haxis : axis < coords.length)
    (hcoords : f.locals.lookup "coords" = some (coordsValue coords)) :
    (if coords.length ≤ 1 then Expr.ident "coords" else axisOf (.ident "coords") axis).assign?
        s calls f (.int 0) = f.replace? "coords" (coordsValue (coords.set axis 0)) := by
  by_cases hone : coords.length ≤ 1
  · obtain ⟨c, rfl⟩ := List.length_eq_one_iff.mp (show coords.length = 1 by omega)
    obtain rfl : axis = 0 := by simpa using haxis
    rw [if_pos hone, Expr.assign?]
    rfl
  · rw [if_neg hone]
    rw [coordsValue_of_two_le (by omega)] at hcoords
    rw [coordsValue_of_two_le (by simp; omega)]
    have hname := idxOf?_componentName axis (by omega)
    have hset : (Value.numbers coords).setComponent? (componentName axis) (.int 0) =
        some (.numbers (coords.set axis 0)) := by
      simp [Value.setComponent?, Value.numbers, hname, haxis]
    simp [axisOf, Expr.assign?, hcoords, Value.atom?, hset]

/-- Pinned axes are set to zero in the local that holds the coordinates. -/
theorem exists_runAll_pinAxes (hs : s.arithmetic = .exact) {f : Frame} {coords axes : List Nat}
    (hfour : coords.length ≤ 4) (haxes : ∀ axis ∈ axes, axis < coords.length)
    (hf : f.returned = none) (hcoords : f.locals.lookup "coords" = some (coordsValue coords)) :
    ∃ g : Frame, (∀ rest, Stmt.runAll s calls f (pinAxes coords.length axes ++ rest) =
        Stmt.runAll s calls g rest) ∧
      g.returned = none ∧ g.writes = f.writes ∧
      g.locals.lookup "coords" = some (coordsValue (Shape.pin axes coords)) := by
  induction axes generalizing f coords with
  | nil => exact ⟨f, fun rest => rfl, hf, rfl, by rw [Shape.pin_nil, hcoords]⟩
  | cons axis axes ih =>
    rw [List.forall_mem_cons] at haxes
    have hzero : (Expr.int 0).eval s calls f.locals = some (.int 0) := eval_int hs 0
    rcases exists_runAll_assign hf hcoords hzero (assign?_pinned hfour haxes.1 hcoords) with
      ⟨g, hrun, hreturned, hwrites, hlookup⟩
    have hlength : (coords.set axis 0).length = coords.length := List.length_set
    have hg : g.locals.lookup "coords" = some (coordsValue (coords.set axis 0)) := by
      rw [hlookup, if_pos rfl]
    rcases ih (hlength ▸ hfour) (hlength ▸ haxes.2) hreturned hg with
      ⟨final, hfinal, hreturnedFinal, hwritesFinal, hlookupFinal⟩
    refine ⟨final, fun rest => ?_, hreturnedFinal, hwritesFinal.trans hwrites, ?_⟩
    · rw [hlength] at hfinal
      exact (hrun _).trans (hfinal rest)
    · rw [pin_cons, hlookupFinal]

/-- The innermost coordinates of an output. -/
theorem evalNumbers_trailingCoords {name : String} {coords : List Nat} {rank : Nat}
    (hblock : (Expr.ident name).isBlock = false)
    (hcoords : locals.lookup name = some (coordsValue coords)) (hpos : 1 ≤ rank)
    (hle : rank ≤ coords.length) (hfour : coords.length ≤ 4) :
    EvalNumbers s calls locals (trailingCoords coords.length rank (.ident name))
      (coords.drop (coords.length - rank)) := by
  have hvalue : (Expr.ident name).eval s calls locals = some (coordsValue coords) :=
    (eval_ident name).trans hcoords
  unfold trailingCoords
  by_cases hone : coords.length ≤ 1
  · obtain ⟨c, rfl⟩ := List.length_eq_one_iff.mp (show coords.length = 1 by omega)
    obtain rfl : rank = 1 := by simp at hle; omega
    rw [if_pos hone]
    exact .cons hvalue .nil
  · rw [if_neg hone]
    rw [coordsValue_of_two_le (by omega)] at hvalue
    exact evalNumbers_axes hblock hvalue hfour (by omega)

/-- The operand's own sampler, called where some local holds the coordinates without repeated axes. -/
theorem eval_readAtTrailing (hk : k.Acceptable) (hn : WellNamed k) (hs : Serves k s)
    (ho : o ∈ k.inputs) {earlier : Calls}
    (hcalls : ∀ args, earlier ("get" ++ capitalized o.name) args =
      helperCalls k s ("get" ++ capitalized o.name) args)
    (hpos : 1 ≤ o.rank) (hle : o.rank ≤ k.outRank) {locals : Locals} {name : String}
    {pinned : List Nat} (hblock : (Expr.ident name).isBlock = false)
    (hlookup : locals.lookup name = some (coordsValue pinned))
    (hlength : pinned.length = k.outRank) :
    (Expr.call ("get" ++ capitalized o.name)
      (trailingCoords k.outRank o.rank (.ident name))).eval s earlier locals =
      (unitWith k o (Shape.offsetOf o.shape (pinned.drop (k.outRank - o.rank)))).result := by
  have hnumbers : EvalNumbers s earlier locals (trailingCoords k.outRank o.rank (.ident name))
      (pinned.drop (k.outRank - o.rank)) := by
    rw [← hlength]
    exact evalNumbers_trailingCoords hblock hlookup hpos (hlength ▸ hle)
      (hlength ▸ hk.outRank_le)
  apply eval_call hnumbers.evalAll
  rw [hcalls]
  exact call_readAtCoords hk hn hs ho (by simp [hlength]; omega)

/-- An operand that is read through its own coordinates is read at those that the broadcast leads
to. -/
theorem runAll_readThroughBroadcast (hk : k.Acceptable) (hn : WellNamed k) (hs : Serves k s)
    (ho : o ∈ k.inputs) {earlier : Calls}
    (hcalls : ∀ args, earlier ("get" ++ capitalized o.name) args =
      helperCalls k s ("get" ++ capitalized o.name) args)
    (hpos : 1 ≤ o.rank) (hle : o.rank ≤ k.outRank) {coords : List Nat}
    (hlength : coords.length = k.outRank) :
    ∃ final : Frame, Stmt.runAll s earlier { locals := [("coordsIn", coordsValue coords)] }
        (readThroughBroadcast k o) = some final ∧ final.writes = [] ∧
      final.returned = some (unitWith k o
        (Shape.offsetOf o.shape (Shape.sourceCoords o.shape k.output.shape coords))).result := by
  have hfour : coords.length ≤ 4 := hlength ▸ hk.outRank_le
  let f : Frame := { locals := [("coordsIn", coordsValue coords)] }
  have hin : f.locals.lookup "coordsIn" = some (coordsValue coords) := by simp [f]
  unfold readThroughBroadcast
  split
  · next hnone =>
    have hsource : Shape.sourceCoords o.shape k.output.shape coords =
        coords.drop (k.outRank - o.rank) := by
      rw [Shape.sourceCoords, hnone, Shape.pin_nil]
      rfl
    rw [hsource]
    have hresult := eval_readAtTrailing hk hn hs ho hcalls hpos hle rfl hin hlength
    exact ⟨_, runAll_ret hresult, rfl, rfl⟩
  · next hsome =>
    have haxes : ∀ axis ∈ Shape.stretchedAxes o.shape k.output.shape, axis < coords.length := by
      intro axis haxis
      rw [hlength]
      exact Shape.lt_of_mem_stretchedAxes haxis
    let g := f.declare "coords" (coordsValue coords)
    have hg : g.locals.lookup "coords" = some (coordsValue coords) := by
      rw [Frame.lookup_declare, if_pos rfl]
    rcases exists_runAll_pinAxes hs.exact hfour haxes rfl hg with
      ⟨final, hrun, hreturned, hwrites, hlookup⟩
    rw [hlength] at hrun
    have hresult := eval_readAtTrailing hk hn hs ho hcalls hpos hle rfl hlookup
      ((Shape.length_pin _ _).trans hlength)
    refine ⟨{ final with returned := some (unitWith k o (Shape.offsetOf o.shape
      (Shape.sourceCoords o.shape k.output.shape coords))).result }, ?_, hwrites, rfl⟩
    rw [List.cons_append, runAll_variable rfl ((eval_ident _).trans hin)]
    exact (hrun _).trans (runAll_ret hresult)

/-- At output coordinates an operand is read at the coordinates that the broadcast leads to. -/
theorem call_readAtOutCoords (hk : k.Acceptable) (hn : WellNamed k) (hs : Serves k s)
    (ho : o ∈ k.inputs) (hle : o.rank ≤ k.outRank) {coords : List Nat}
    (hlength : coords.length = k.outRank) :
    helperCalls k s ("get" ++ capitalized o.name ++ "AtOutCoords") [coordsValue coords] =
      some (unitWith k o
        (Shape.offsetOf o.shape (Shape.sourceCoords o.shape k.output.shape coords))) := by
  cases hshares : sharesIndices k o with
  | true =>
    have hsame : o.shape = k.output.shape := by
      simp only [sharesIndices, Bool.and_eq_true, beq_iff_eq] at hshares
      exact hshares.1
    have hindex : helperCalls k s "getOutputIndexFromCoords" [coordsValue coords] =
        some ⟨some (.int (Shape.offsetOf k.output.shape coords)), []⟩ := by
      rcases hn.exists_earlier (s := s)
        (mem_helpers_of_mem_fixedHelpers outputIndexFunction_mem) with ⟨inner, hinner⟩
      exact (hinner _).trans
        (apply_outputIndexFunction hs.exact hs.strides hlength hk.outRank_le)
    rw [call_readAtOutCoords_of_shares hn hs.supplies ho hle hshares hindex, hs.exact, slotOf_exact,
      hsame, Shape.sourceCoords_self]
  | false =>
    by_cases hzero : o.rank = 0
    · have hlengthNil : ([] : List Nat).length = o.rank := hzero.symm
      have hsource : Shape.sourceCoords o.shape k.output.shape coords = [] := by
        apply List.length_eq_zero_iff.mp
        rw [Shape.length_sourceCoords hle hlength]
        exact hzero
      rw [hsource]
      exact call_readAtOutCoords_of_rank_zero hn ho hle hshares hzero
        (call_readAtCoords hk hn hs ho hlengthNil)
    · rcases exists_earlier_readAtOutCoords (s := s) hn ho hle hshares hzero with
        ⟨earlier, hown, hcall⟩
      rcases runAll_readThroughBroadcast hk hn hs ho hown (by omega) hle hlength with
        ⟨final, hrun, hwrites, hreturned⟩
      exact hcall _ _ final hrun hreturned hwrites

/-- At a flat index of the output an operand is read at the coordinates that the broadcast leads to
from those of the index. -/
theorem call_readAtOutputIndex (hk : k.Acceptable) (hn : WellNamed k) (hs : Serves k s)
    (ho : o ∈ k.inputs) (hle : o.rank ≤ k.outRank) {unit : Nat} {coords : List Nat}
    (hunit : unit * k.program.lanes.width < Shape.size k.output.shape)
    (hcoords : Shape.coordsAt? k.output.shape (unit * k.program.lanes.width) = some coords) :
    helperCalls k s ("get" ++ capitalized o.name ++ "ByOutputIndex") [.int unit] =
      some (unitWith k o
        (Shape.offsetOf o.shape (Shape.sourceCoords o.shape k.output.shape coords))) := by
  cases hshares : sharesIndices k o with
  | true =>
    have hsame : o.shape = k.output.shape := by
      simp only [sharesIndices, Bool.and_eq_true, beq_iff_eq] at hshares
      exact hshares.1
    rcases Shape.exists_coordsAt hunit with ⟨coords', hcoords', -, hoffset⟩
    obtain rfl : coords' = coords := Option.some.inj (hcoords'.symm.trans hcoords)
    have hwidth : 0 < k.program.lanes.width := by cases k.program.lanes <;> decide
    rw [hsame, Shape.sourceCoords_self, hoffset, unitWith, Nat.mul_div_cancel _ hwidth]
    exact call_readAtOutputIndex_of_shares hn hs.supplies ho hle hshares unit
  | false =>
    have hsplitted : helperCalls k s "getCoordsFromIndex"
        [.int (firstOf k s.arithmetic unit)] = some ⟨some (coordsValue coords), []⟩ := by
      rcases hn.exists_earlier (s := s)
        (mem_helpers_of_mem_fixedHelpers coordsFromIndexFunction_mem) with ⟨inner, hinner⟩
      rw [hs.exact, firstOf_exact]
      exact (hinner _).trans
        (apply_coordsFromIndexFunction hs.exact hs.strides hk.outRank_le hunit hcoords)
    exact call_readAtOutputIndex_of_coords hn ho hle hshares hsplitted
      (call_readAtOutCoords hk hn hs ho hle (Shape.length_coordsAt? hcoords))

/-! ## Whole units -/

/-- The operands of an accepted kernel can be read in the units of its program. -/
theorem unitsAlign_of_acceptable (hk : k.Acceptable) (ho : o ∈ k.inputs) (hle : o.rank ≤ k.outRank) :
    Shape.UnitsAlign k.program.lanes.width o.shape k.output.shape := by
  cases hlanes : k.program.lanes with
  | scalar => exact .single rfl
  | vec4 =>
    have hvec4 : k.isVec4 = true := by simp [Kernel.isVec4, hlanes]
    have hcheck := hk.lanes hvec4 o (List.mem_append_left _ ho)
    rcases Operand.checkVec4_eq_ok_iff.mp hcheck with ⟨hrank, hsize, hrepeats, hdiffers, hrows⟩
    have hranks : decide (o.rank ≤ k.output.shape.length) = true := decide_eq_true hle
    by_cases hsame : o.shape = k.output.shape
    · exact .same hsame (hsame ▸ Nat.dvd_of_mod_eq_zero hsize)
    · have hne : o.shape ≠ [] := fun h => hrank (List.length_eq_zero_iff.mpr h)
      have hinnermost : k.output.shape.length - 1 ∉ Shape.stretchedAxes o.shape k.output.shape := by
        simpa [Operand.repeatsInnermost, hranks] using hrepeats
      have hlast : o.shape.getLast? = k.output.shape.getLast? := by
        simpa [Operand.innermostDiffers, hranks] using hdiffers
      have hwhole : Shape.WholeUnits 4 k.output.shape := by
        intro extent hextent
        have hrow := hrows.resolve_left hsame
        rw [Shape.rowsOfFour, Option.mem_def.mp hextent] at hrow
        exact Nat.dvd_of_mod_eq_zero (by simpa using hrow)
      exact .rows hne hinnermost (fun extent hextent => hwhole extent (hlast ▸ hextent)) hwhole

/-! ## All ways to sample -/

/-- Both samplers of an operand that broadcasts, run on the uniforms of a dispatch, read one slot,
whose lanes are the elements that the broadcast asks for at the lanes of the output's unit. -/
theorem samplers_follow_the_broadcast (k : Kernel) (code : String) (grid : Grid)
    (extra : List Field) (contents : List Content) (i : Invocation) (o : Operand) (unit : Nat)
    (hvalid : k.validate = .ok ()) (hshape : k.output.shape = k.program.outputShape)
    (hnames : WellNamed k)
    (hcontents :
      k.program.uniformContents k.inputs k.program.outputShape grid extra = .ok contents)
    (ho : o ∈ k.inputs) (hbroadcasts : Shape.Broadcasts o.shape k.output.shape)
    (hunit : unit * k.program.lanes.width < Shape.size k.output.shape) :
    ∃ coords slot,
      Shape.coordsAt? k.output.shape (unit * k.program.lanes.width) = some coords ∧
      helperCalls k ((moduleWith k code).setting .exact contents i)
          ("get" ++ capitalized o.name ++ "ByOutputIndex") [.int unit] =
        some ⟨some (.converted (unitOf k .f32) (.slot o.name (slot : Nat))), []⟩ ∧
      helperCalls k ((moduleWith k code).setting .exact contents i)
          ("get" ++ capitalized o.name ++ "AtOutCoords") [coordsValue coords] =
        some ⟨some (.converted (unitOf k .f32) (.slot o.name (slot : Nat))), []⟩ ∧
      ∀ lane < k.program.lanes.width,
        slot * k.program.lanes.width + lane < o.size ∧
        ∃ c, Shape.coordsAt? k.output.shape (unit * k.program.lanes.width + lane) = some c ∧
          Shape.sourceOffset? o.shape k.output.shape c =
            some (slot * k.program.lanes.width + lane) := by
  have hk := Kernel.validate_eq_ok_iff.mp hvalid
  rw [← hshape] at hcontents
  have hs := serves_of_contents code i hnames hcontents
  have hle : o.rank ≤ k.outRank := hbroadcasts.length_le
  rcases Shape.exists_coordsAt hunit with ⟨coords, hcoords, -, -⟩
  have hlength := Shape.length_coordsAt? hcoords
  refine ⟨coords, _, hcoords, call_readAtOutputIndex hk hnames hs ho hle hunit hcoords,
    call_readAtOutCoords hk hnames hs ho hle hlength, fun lane hlane => ?_⟩
  exact Shape.lanes_of_unit hbroadcasts (unitsAlign_of_acceptable hk ho hle) hunit hcoords hlane

/-- A four-wide kernel whose operand repeats along the rows of its output. -/
def rowsKernel : Kernel where
  program := Program.elementwise "scale" [2, 3, 8] ["A"] ["a"] (fun _ => "return a;") .wgsl .vec4
    defaultWorkgroup
  inputs := [⟨"A", .float32, [2, 1, 8]⟩]
  output := ⟨"result", .float32, [2, 3, 8]⟩

/-- The contents of the uniform block for a batch of rows. -/
theorem rowsKernel_contents :
    rowsKernel.program.uniformContents rowsKernel.inputs [2, 3, 8] ⟨1, 1, 1⟩ [] =
      .ok [.notANumber, .counts [2, 1, 8], .counts [2, 3, 8], .counts [24, 8], .counts [12],
        .counts [1, 1, 1]] := by
  have hstrides : Shape.outerStrides [2, 3, 8] = [24, 8] := by simp [Shape.outerStrides]
  rw [Program.uniformContents, Program.standardContents, hstrides]
  rfl

/-- The sampler of the repeated row finds the slot that the broadcast says. -/
theorem rowsKernel_follows_the_broadcast :
    ∃ slot : Nat, helperCalls rowsKernel ((moduleWith rowsKernel "").setting .exact
        [.notANumber, .counts [2, 1, 8], .counts [2, 3, 8], .counts [24, 8], .counts [12],
          .counts [1, 1, 1]] ⟨⟨0, 0, 0⟩, ⟨9, 0, 0⟩⟩) "getAByOutputIndex" [.int 9] =
        some ⟨some (.converted (.vector 4 .f32) (.slot "A" slot)), []⟩ ∧
      Shape.sourceOffset? [2, 1, 8] [2, 3, 8] [1, 1, 6] = some (slot * 4 + 2) := by
  have hvalid : rowsKernel.validate = .ok () := by rfl
  have hnames : WellNamed rowsKernel := by decide +kernel
  obtain ⟨coords, slot, -, hindex, -, hlanes⟩ :=
    samplers_follow_the_broadcast rowsKernel "" ⟨1, 1, 1⟩ [] _ ⟨⟨0, 0, 0⟩, ⟨9, 0, 0⟩⟩
      ⟨"A", .float32, [2, 1, 8]⟩ 9 hvalid rfl hnames rowsKernel_contents (by simp [rowsKernel])
      (by decide) (by decide)
  rcases hlanes 2 (by decide) with ⟨-, c, hc, hsource⟩
  have hcoords : Shape.coordsAt? [2, 3, 8] 38 = some [1, 1, 6] := by simp [Shape.coordsAt?]
  obtain rfl : [1, 1, 6] = c := Option.some.inj (hcoords.symm.trans hc)
  exact ⟨slot, hindex, hsource⟩

end ComputeKernels.Shader

import ComputeKernels.Proofs.Shader.Sampling
import ComputeKernels.Proofs.Shape.Reach

/-!
# Which operands are read inside their storage

Validation compares the rank of an operand of an elementwise kernel with that of the output, and
four-wide operands also share the output's rows.  It does not compare the other extents, so every
element of the output has a source, which need not be an element of the operand.  All sources are
elements exactly if that of the last element is; an operand that is at least as long as the output
along every axis that it does not repeat is read inside, and one that is nowhere longer only if it
broadcasts.

Main results:

- Theorem `reads_stay_inside_where_operands_cover`: the source of every element is what the generated
  sampler reads, and the operands that are read inside are those that reach far enough.
- Theorem `short_operand_is_read_outside`: validation accepts an operand that is read behind its end.
-/

namespace ComputeKernels

namespace Kernel

/-- Flat index at which an operand is read for an element of the output. -/
def source? (k : Kernel) (o : Operand) (index : Nat) : Option Nat :=
  (Shape.coordsAt? k.output.shape index).bind (Shape.sourceOffset? o.shape k.output.shape)

/-- For every element of the output an element of the operand is read. -/
def ReadsInside (k : Kernel) (o : Operand) : Prop :=
  ∀ index < Shape.size k.output.shape, ∃ source < o.size, k.source? o index = some source

variable {k : Kernel} {o : Operand}

private theorem source?_eq_of_coordsAt (hle : o.rank ≤ k.outRank) {index : Nat} {coords : List Nat}
    (hcoords : Shape.coordsAt? k.output.shape index = some coords) :
    k.source? o index =
      some (Shape.offsetOf o.shape (Shape.sourceCoords o.shape k.output.shape coords)) := by
  rw [source?, hcoords, Option.bind_some,
    Shape.sourceOffset?_eq hle (Shape.length_coordsAt? hcoords)]

/-- The sources are inside an operand exactly if those of all coordinates are. -/
theorem readsInside_iff_within (hle : o.rank ≤ k.outRank) :
    k.ReadsInside o ↔ ∀ coords, Shape.Within coords k.output.shape →
      Shape.offsetOf o.shape (Shape.sourceCoords o.shape k.output.shape coords) < o.size := by
  constructor
  · intro h coords hwithin
    rcases h _ (Shape.offsetOf_lt hwithin) with ⟨source, hlt, hsource⟩
    rw [source?_eq_of_coordsAt hle (Shape.coordsAt?_offsetOf hwithin)] at hsource
    rwa [Option.some.inj hsource]
  · intro h index hindex
    rcases Shape.exists_coordsAt hindex with ⟨coords, hcoords, hwithin, -⟩
    exact ⟨_, h coords hwithin, source?_eq_of_coordsAt hle hcoords⟩

/-- The sources are inside an operand exactly if the source of the last element is. -/
theorem readsInside_iff_reach (hle : o.rank ≤ k.outRank) :
    k.ReadsInside o ↔ (0 < Shape.size k.output.shape →
      Shape.reach o.shape k.output.shape < o.size) := by
  by_cases hpos : 0 < Shape.size k.output.shape
  · rw [readsInside_iff_within hle]
    exact (Shape.reads_lt_iff hle hpos).trans ⟨fun h _ => h, fun h => h hpos⟩
  · exact ⟨fun _ h => absurd h hpos, fun _ _ h => absurd (Nat.zero_lt_of_lt h) hpos⟩

/-- Nothing is read behind the end of an operand that covers the output. -/
theorem readsInside_of_covers (h : Shape.Covers o.shape k.output.shape) : k.ReadsInside o := by
  rw [readsInside_iff_within h.length_le]
  exact fun coords hwithin => Shape.offsetOf_lt (h.within_sourceCoords hwithin)

/-- An operand of the output's shape is read at the index of the element itself. -/
theorem source?_of_same_shape (hsame : o.shape = k.output.shape) {index : Nat}
    (hindex : index < Shape.size k.output.shape) : k.source? o index = some index := by
  rcases Shape.exists_coordsAt hindex with ⟨coords, hcoords, -, hoffset⟩
  rw [source?_eq_of_coordsAt (Nat.le_of_eq (congrArg List.length hsame)) hcoords, hsame,
    Shape.sourceCoords_self, hoffset]

end Kernel

namespace Shader

open Kernel

variable {k : Kernel} {s : Setting} {o : Operand}

/-- The sampler of an operand, called for the unit of an element of the output, reads the unit that
holds the element's source, in the same lane. -/
theorem call_readAtOutputIndex_of_source (hk : k.Acceptable) (hn : WellNamed k) (hs : Serves k s)
    (ho : o ∈ k.inputs) (hle : o.rank ≤ k.outRank) {index source : Nat}
    (hindex : index < Shape.size k.output.shape) (hsource : k.source? o index = some source) :
    helperCalls k s ("get" ++ capitalized o.name ++ "ByOutputIndex")
        [.int (index / k.program.lanes.width : Nat)] = some (unitWith k o source) ∧
      source % k.program.lanes.width = index % k.program.lanes.width := by
  have hwidth : 0 < k.program.lanes.width := by cases k.program.lanes <;> decide
  have hunit : index / k.program.lanes.width * k.program.lanes.width < Shape.size k.output.shape :=
    Nat.lt_of_le_of_lt (Nat.div_mul_le_self _ _) hindex
  rcases Shape.exists_coordsAt hunit with ⟨coords, hcoords, -, -⟩
  have hlane := Nat.mod_lt index hwidth
  rcases Shape.sourceOffset?_add_lane hle (unitsAlign_of_acceptable hk ho hle) hunit hcoords hlane with
    ⟨c, hc, -, hoffset⟩
  rw [Nat.div_add_mod'] at hc
  have hsplit : source = Shape.offsetOf o.shape (Shape.sourceCoords o.shape k.output.shape coords) /
      k.program.lanes.width * k.program.lanes.width + index % k.program.lanes.width := by
    rw [source?, hc, Option.bind_some, hoffset] at hsource
    exact (Option.some.inj hsource).symm
  constructor
  · rw [call_readAtOutputIndex hk hn hs ho hle hunit hcoords, hsplit, unitWith, unitWith,
      Nat.mul_comm, Nat.mul_add_div hwidth, Nat.div_eq_of_lt hlane, Nat.add_zero]
  · rw [hsplit, Nat.mul_comm, Nat.mul_add_mod, Nat.mod_mod]

/-- For every element of the output of an accepted elementwise kernel, the generated sampler of an
operand reads at the element's source, which is the element's own index where the shapes are equal.
The sources are inside the operand exactly if that of the last element is: so if the operand covers the
output, and, where it is nowhere longer than an output that is not empty, only if it broadcasts. -/
theorem reads_stay_inside_where_operands_cover (k : Kernel) (o : Operand)
    (hvalid : k.validate = .ok ()) (hentry : k.program.entry = .elementwise)
    (hshape : k.output.shape = k.program.outputShape) (ho : o ∈ k.inputs) :
    (∀ index < Shape.size k.output.shape, ∃ source, k.source? o index = some source ∧
      (o.shape = k.output.shape → source = index) ∧
      ∀ code grid extra contents i, WellNamed k →
        k.program.uniformContents k.inputs k.program.outputShape grid extra = .ok contents →
        helperCalls k ((moduleWith k code).setting .exact contents i)
            ("get" ++ capitalized o.name ++ "ByOutputIndex")
            [.int (index / k.program.lanes.width : Nat)] =
          some ⟨some (.converted (unitOf k .f32)
            (.slot o.name (source / k.program.lanes.width : Nat))), []⟩ ∧
        source % k.program.lanes.width = index % k.program.lanes.width) ∧
    (k.ReadsInside o ↔ (0 < Shape.size k.output.shape →
      Shape.reach o.shape k.output.shape < o.size)) ∧
    (Shape.Covers o.shape k.output.shape → k.ReadsInside o) ∧
    (Shape.Fits o.shape k.output.shape → 0 < Shape.size k.output.shape →
      (k.ReadsInside o ↔ Shape.Broadcasts o.shape k.output.shape)) := by
  have hk := validate_eq_ok_iff.mp hvalid
  have hle : o.rank ≤ k.outRank := (hk.inputs o ho).sampled hentry
  refine ⟨fun index hindex => ?_, readsInside_iff_reach hle, readsInside_of_covers,
    fun hfits hpos => ?_⟩
  · rcases Shape.exists_coordsAt hindex with ⟨coords, hcoords, -, -⟩
    have hsource := source?_eq_of_coordsAt hle hcoords
    refine ⟨_, hsource, fun hsame => ?_, fun code grid extra contents i hnames hcontents => ?_⟩
    · rw [source?_of_same_shape hsame hindex] at hsource
      exact (Option.some.inj hsource).symm
    · rw [← hshape] at hcontents
      have hs := serves_of_contents code i hnames hcontents
      exact call_readAtOutputIndex_of_source hk hnames hs ho hle hindex hsource
  · rw [readsInside_iff_reach hle, ← hfits.reach_lt_iff hpos]
    exact ⟨fun h => h hpos, fun h _ => h⟩

/-- A four-wide kernel whose operand has more rows than its output. -/
def croppingKernel : Kernel where
  program := Program.elementwise "crop" [2, 8] ["x"] ["a"] (fun _ => "return a;") .wgsl .vec4
    defaultWorkgroup
  inputs := [⟨"x", .float32, [3, 8]⟩]
  output := ⟨"result", .float32, [2, 8]⟩

/-- An operand that is larger than the output is read inside itself. -/
theorem cropped_operand_is_read_inside :
    croppingKernel.validate = .ok () ∧ croppingKernel.ReadsInside ⟨"x", .float32, [3, 8]⟩ := by
  have hvalid : croppingKernel.validate = .ok () := by rfl
  rcases reads_stay_inside_where_operands_cover croppingKernel ⟨"x", .float32, [3, 8]⟩ hvalid rfl rfl
    (by simp [croppingKernel]) with ⟨-, -, hinside, -⟩
  exact ⟨hvalid, hinside (by decide)⟩

/-- The ready-made program that copies three elements, applied to an operand of two. -/
def shortKernel : Kernel where
  program := Program.elementwise "unary_linear" [3] ["x"] ["a"] (fun t => UnaryOperation.linear.code t)
    .wgsl .scalar defaultWorkgroup
  inputs := [⟨"x", .float32, [2]⟩]
  output := ⟨"result", .float32, [3]⟩

/-- Validation accepts a kernel that reads behind the end of its operand: the source of the last of
three elements is index two of an operand of two elements. -/
theorem short_operand_is_read_outside :
    Program.unary .linear [3] .wgsl .scalar defaultWorkgroup = .ok shortKernel.program ∧
      shortKernel.validate = .ok () ∧ shortKernel.program.entry = .elementwise ∧
      shortKernel.output.shape = shortKernel.program.outputShape ∧
      ∃ o ∈ shortKernel.inputs, 2 < Shape.size shortKernel.output.shape ∧ o.size = 2 ∧
        shortKernel.source? o 2 = some 2 ∧ ¬ shortKernel.ReadsInside o := by
  have hsource : shortKernel.source? ⟨"x", .float32, [2]⟩ 2 = some 2 := by
    have hcoords : Shape.coordsAt? shortKernel.output.shape 2 = some [2] := by
      simp [shortKernel, Shape.coordsAt?]
    have hkept : Shape.sourceCoords [2] shortKernel.output.shape [2] = [2] := by decide
    rw [source?_eq_of_coordsAt (by decide) hcoords, hkept]
    simp [Shape.offsetOf, Shape.outerStrides]
  refine ⟨rfl, rfl, rfl, rfl, ⟨"x", .float32, [2]⟩, by simp [shortKernel], by decide, by decide,
    hsource, fun hinside => ?_⟩
  rcases hinside 2 (by decide) with ⟨source, hlt, heq⟩
  obtain rfl : 2 = source := Option.some.inj (hsource.symm.trans heq)
  exact absurd hlt (by decide)

end Shader

end ComputeKernels

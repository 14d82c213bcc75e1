import ComputeKernels.Pipeline.Key
import ComputeKernels.Proofs.Program.Recipe
import ComputeKernels.Proofs.Success
import ComputeKernels.Shader.Assembly

/-!
# Sharing of compiled pipelines

A pipeline that was compiled for one kernel is used for every other with the same key, without
another look at the shapes.  This is sound because assembly sees a kernel only through what the key
holds of it.  Kernels with one key are called alike here, and every function of the generated code
is followed from alike kernels to equal results.

Main results:

- Theorem `Alike.helpers_eq`: alike kernels have the same helper functions.
- Theorem `Alike.moduleWith_eq`: with the same code of their own they have the same module.
- Theorem `body_eq_of_key_eq`: ready-made programs under one key have one code.
- Theorem `key_determines_source`: kernels with one key share their source.
-/

namespace ComputeKernels.Shader

open Pipeline

/-! ## Lists of related elements -/

section Related

variable {α β γ : Type} {R : α → β → Prop} {xs : List α} {ys : List β}

/-- Related lists have equal images if related elements have. -/
theorem map_eq_of_forall₂ {f : α → γ} {g : β → γ} (h : List.Forall₂ R xs ys)
    (hfg : ∀ x y, R x y → f x = g y) : xs.map f = ys.map g := by
  induction h with
  | nil => rfl
  | cons hxy _ ih => rw [List.map_cons, List.map_cons, hfg _ _ hxy, ih]

private theorem flatMap_eq_of_forall₂ {f : α → List γ} {g : β → List γ} (h : List.Forall₂ R xs ys)
    (hfg : ∀ x y, R x y → f x = g y) : xs.flatMap f = ys.flatMap g := by
  rw [List.flatMap_def, List.flatMap_def, map_eq_of_forall₂ h hfg]

private theorem mapIdx_eq_of_forall₂ {f : Nat → α → γ} {g : Nat → β → γ} (h : List.Forall₂ R xs ys)
    (hfg : ∀ i x y, R x y → f i x = g i y) : xs.mapIdx f = ys.mapIdx g := by
  induction h generalizing f g with
  | nil => rfl
  | cons hxy _ ih =>
    rw [List.mapIdx_cons, List.mapIdx_cons, hfg 0 _ _ hxy, ih fun i => hfg (i + 1)]

end Related

/-! ## Alike kernels -/

/-- Operands that code for two outputs cannot tell apart. -/
structure AlikeOperands (out₁ out₂ : Shape) (o₁ o₂ : Operand) : Prop where
  name : o₁.name = o₂.name
  rank : o₁.rank = o₂.rank
  element : o₁.element = o₂.element
  matchesOutput : (o₁.shape == out₁) = (o₂.shape == out₂)
  stretchedAxes : Shape.stretchedAxes o₁.shape out₁ = Shape.stretchedAxes o₂.shape out₂

/-- Kernels that assembly cannot tell apart but by their own code. -/
structure Alike (k₁ k₂ : Kernel) : Prop where
  entry : k₁.program.entry = k₂.program.entry
  lanes : k₁.program.lanes = k₂.program.lanes
  target : k₁.program.target = k₂.program.target
  workgroup : k₁.program.workgroup = k₂.program.workgroup
  layout : k₁.program.layout = k₂.program.layout
  isFlat : k₁.program.isFlat = k₂.program.isFlat
  outRank : k₁.outRank = k₂.outRank
  outElement : k₁.output.element = k₂.output.element
  uniforms : k₁.program.uniforms = k₂.program.uniforms
  hasSize : k₁.program.hasSize = k₂.program.hasSize
  inputs : List.Forall₂ (AlikeOperands k₁.output.shape k₂.output.shape) k₁.inputs k₂.inputs

/-- A signature holds everything that alike operands share. -/
theorem alikeOperands_of_signature_eq {out₁ out₂ : Shape} {o₁ o₂ : Operand}
    (h : OperandSignature.of out₁ o₁ = OperandSignature.of out₂ o₂) :
    AlikeOperands out₁ out₂ o₁ o₂ where
  name := congrArg OperandSignature.name h
  rank := congrArg OperandSignature.rank h
  element := congrArg OperandSignature.element h
  matchesOutput := congrArg OperandSignature.matchesOutput h
  stretchedAxes := congrArg OperandSignature.stretchedAxes h

/-- Kernels with one key are alike, if their outputs have the shapes that their programs say. -/
theorem alike_of_key_eq {k₁ k₂ : Kernel} (hshape₁ : k₁.output.shape = k₁.program.outputShape)
    (hshape₂ : k₂.output.shape = k₂.program.outputShape) (hkey : Key.of k₁ = Key.of k₂) :
    Alike k₁ k₂ := by
  have hlayout : k₁.program.layout = k₂.program.layout := congrArg Key.layout hkey
  have hrank : k₁.outRank = k₂.outRank := congrArg Key.outputRank hkey
  have hflat : k₁.program.isFlat = k₂.program.isFlat := by
    unfold Program.isFlat
    rw [← hshape₁, ← hshape₂, hlayout]
    exact congrArg k₂.program.layout.isFlat hrank
  have hinputs : k₁.inputs.map (OperandSignature.of k₁.output.shape) =
      k₂.inputs.map (OperandSignature.of k₂.output.shape) := congrArg Key.operands hkey
  rw [← List.forall₂_eq_eq_eq, List.forall₂_map_left_iff, List.forall₂_map_right_iff] at hinputs
  exact {
    entry := congrArg Key.entry hkey
    lanes := congrArg Key.lanes hkey
    target := congrArg Key.target hkey
    workgroup := congrArg Key.workgroup hkey
    layout := hlayout
    isFlat := hflat
    outRank := hrank
    outElement := congrArg Key.outputElement hkey
    uniforms := congrArg Key.uniforms hkey
    hasSize := congrArg Key.hasSize hkey
    inputs := hinputs.imp fun _ _ => alikeOperands_of_signature_eq }

namespace Alike

variable {k₁ k₂ : Kernel} {o₁ o₂ : Operand}

private theorem isVec4 (h : Alike k₁ k₂) : k₁.isVec4 = k₂.isVec4 := by
  unfold Kernel.isVec4
  rw [h.lanes]

private theorem unitOf_eq (h : Alike k₁ k₂) : unitOf k₁ = unitOf k₂ := by
  funext s
  unfold unitOf
  rw [h.isVec4]

private theorem storedUnit_eq (h : Alike k₁ k₂) : storedUnit k₁ = storedUnit k₂ := by
  funext element
  unfold storedUnit
  rw [h.unitOf_eq]

private theorem loadUnit_eq (h : Alike k₁ k₂) : loadUnit k₁ = loadUnit k₂ := by
  funext name unit
  unfold loadUnit
  rw [h.unitOf_eq]

private theorem loadElement_eq (h : Alike k₁ k₂) : loadElement k₁ = loadElement k₂ := by
  funext name element
  unfold loadElement
  rw [h.loadUnit_eq, h.isVec4]

/-! ## Samplers -/

private theorem operandIndex_eq (ho : AlikeOperands k₁.output.shape k₂.output.shape o₁ o₂) :
    operandIndex o₁ = operandIndex o₂ := by
  unfold operandIndex
  rw [ho.rank, ho.name]

section Operands

variable (h : Alike k₁ k₂) (ho : AlikeOperands k₁.output.shape k₂.output.shape o₁ o₂)

include h ho

private theorem readAtCoords_eq : readAtCoords k₁ o₁ = readAtCoords k₂ o₂ := by
  unfold readAtCoords
  rw [h.unitOf_eq, h.loadUnit_eq, h.loadElement_eq, operandIndex_eq ho, ho.name, ho.rank]

private theorem readAtIndex_eq : readAtIndex k₁ o₁ = readAtIndex k₂ o₂ := by
  unfold readAtIndex
  rw [h.unitOf_eq, h.loadUnit_eq, ho.name]

private theorem sharesIndices_eq : sharesIndices k₁ o₁ = sharesIndices k₂ o₂ := by
  unfold sharesIndices
  rw [ho.matchesOutput, h.isFlat]

private theorem readThroughBroadcast_eq :
    readThroughBroadcast k₁ o₁ = readThroughBroadcast k₂ o₂ := by
  unfold readThroughBroadcast
  rw [ho.stretchedAxes, ho.name, ho.rank, h.outRank]

private theorem readAtOutCoords_eq : readAtOutCoords k₁ o₁ = readAtOutCoords k₂ o₂ := by
  unfold readAtOutCoords
  rw [h.sharesIndices_eq ho, h.readThroughBroadcast_eq ho, h.loadElement_eq, h.unitOf_eq,
    h.outRank, ho.name, ho.rank]

private theorem readAtOutputIndex_eq : readAtOutputIndex k₁ o₁ = readAtOutputIndex k₂ o₂ := by
  unfold readAtOutputIndex
  rw [h.sharesIndices_eq ho, h.loadUnit_eq, h.unitOf_eq, h.isVec4, ho.name]

private theorem samplers_eq : samplers k₁ o₁ = samplers k₂ o₂ := by
  unfold samplers
  rw [h.readAtCoords_eq ho, h.readAtIndex_eq ho, h.readAtOutCoords_eq ho,
    h.readAtOutputIndex_eq ho, ho.rank, h.outRank]

end Operands

/-! ## Writers and coordinates -/

private theorem writers_eq (h : Alike k₁ k₂) : writers k₁ = writers k₂ := by
  unfold writers writeAtIndex writeAtCoords
  rw [h.unitOf_eq, h.storedUnit_eq, h.outElement, h.outRank, h.isVec4]

private theorem outputCoordsFunction_eq (h : Alike k₁ k₂) :
    outputCoordsFunction k₁ = outputCoordsFunction k₂ := by
  unfold outputCoordsFunction
  rw [h.layout, h.isFlat, h.isVec4, h.outRank]

/-! ## Modules -/

private theorem uniformMembers_eq (h : Alike k₁ k₂) : uniformMembers k₁ = uniformMembers k₂ := by
  unfold uniformMembers
  rw [map_eq_of_forall₂ h.inputs fun o₁ o₂ ho => by rw [ho.name, ho.rank], h.outRank, h.hasSize,
    h.uniforms]

private theorem storageBindings_eq (h : Alike k₁ k₂) : storageBindings k₁ = storageBindings k₂ := by
  unfold storageBindings
  rw [mapIdx_eq_of_forall₂ h.inputs fun i o₁ o₂ ho => by rw [ho.name, ho.element, h.storedUnit_eq],
    h.storedUnit_eq, h.outElement]

/-- Alike kernels have the same helper functions. -/
theorem helpers_eq (h : Alike k₁ k₂) : helpers k₁ = helpers k₂ := by
  unfold helpers
  rw [flatMap_eq_of_forall₂ h.inputs fun o₁ o₂ ho => h.samplers_eq ho, h.writers_eq,
    h.outputCoordsFunction_eq, h.outRank, h.workgroup]

private theorem entryBody_eq (h : Alike k₁ k₂) : entryBody k₁ = entryBody k₂ := by
  have hsamples : operandSamples k₁ = operandSamples k₂ :=
    map_eq_of_forall₂ h.inputs fun o₁ o₂ ho => by rw [ho.name]
  unfold entryBody
  rw [h.entry, hsamples, h.isFlat]

/-- With the same code of their own, alike kernels have the same module. -/
theorem moduleWith_eq (h : Alike k₁ k₂) (code : String) :
    moduleWith k₁ code = moduleWith k₂ code := by
  unfold moduleWith
  rw [h.uniformMembers_eq, h.storageBindings_eq, h.helpers_eq, h.entryBody_eq, h.workgroup,
    h.inputs.length_eq]

end Alike

/-! ## Sources -/

/-- A source is the text of the module around the program's own code. -/
theorem sourceOf_eq_ok {k : Kernel} {s : Source} (h : sourceOf k = .ok s) :
    ∃ code, k.program.bodyFor? k.program.target = some code ∧
      s = ⟨k.program.target, (moduleWith k code).text k.program.target⟩ := by
  rcases Except.bind_eq_ok_iff.mp h with ⟨m, hm, hs⟩
  rcases Except.check_bind_eq_ok_iff.mp hm with ⟨-, hbody⟩
  rcases Except.bind_eq_ok_iff.mp hbody with ⟨code, hcode, hmodule⟩
  obtain rfl : moduleWith k code = m := by simpa [pure, Except.pure] using hmodule
  refine ⟨code, ?_, by simpa [pure, Except.pure, eq_comm] using hs⟩
  unfold Program.body at hcode
  split at hcode
  · next hfound => rw [hfound, Except.ok.inj hcode]
  · simp at hcode

/-- Alike kernels with the same code of their own have the same source. -/
theorem Alike.source_eq {k₁ k₂ : Kernel} {s₁ s₂ : Source} (h : Alike k₁ k₂)
    (hbody : k₁.program.bodyFor? k₁.program.target = k₂.program.bodyFor? k₂.program.target)
    (h₁ : sourceOf k₁ = .ok s₁) (h₂ : sourceOf k₂ = .ok s₂) : s₁ = s₂ := by
  rcases sourceOf_eq_ok h₁ with ⟨code₁, hcode₁, rfl⟩
  rcases sourceOf_eq_ok h₂ with ⟨code₂, hcode₂, rfl⟩
  obtain rfl : code₁ = code₂ := by
    rw [hcode₁, hcode₂] at hbody
    exact Option.some.inj hbody
  rw [h.moduleWith_eq, h.target]

/-! ## Keys -/

/-- The key holds the label, width and target, which determine the code of a ready-made program. -/
theorem body_eq_of_key_eq {k₁ k₂ : Kernel} (hkey : Key.of k₁ = Key.of k₂)
    (hmade₁ : k₁.program.ReadyMade) (hmade₂ : k₂.program.ReadyMade) :
    k₁.program.bodyFor? k₁.program.target = k₂.program.bodyFor? k₂.program.target := by
  have htarget : k₁.program.target = k₂.program.target := congrArg Key.target hkey
  rw [htarget]
  exact hmade₁.bodyFor?_eq hmade₂ (congrArg Key.label hkey) (congrArg Key.lanes hkey) _

/-- Kernels with one key whose programs have the same code share their source, whatever their
extents are; and the key alone gives the same code if the programs are ready-made. -/
theorem key_determines_source {k₁ k₂ : Kernel} (hkey : Key.of k₁ = Key.of k₂) :
    (k₁.output.shape = k₁.program.outputShape → k₂.output.shape = k₂.program.outputShape →
      k₁.program.bodyFor? k₁.program.target = k₂.program.bodyFor? k₂.program.target →
      ∀ s₁ s₂, sourceOf k₁ = .ok s₁ → sourceOf k₂ = .ok s₂ →
        s₁.text = s₂.text ∧ s₁.target = s₂.target ∧ s₁.entryPoint = s₂.entryPoint) ∧
    (k₁.program.ReadyMade → k₂.program.ReadyMade →
      k₁.program.bodyFor? k₁.program.target = k₂.program.bodyFor? k₂.program.target) := by
  constructor
  · intro hshape₁ hshape₂ hbody s₁ s₂ h₁ h₂
    obtain rfl := (alike_of_key_eq hshape₁ hshape₂ hkey).source_eq hbody h₁ h₂
    exact ⟨rfl, rfl, rfl⟩
  · exact body_eq_of_key_eq hkey

/-- Sum of a column and a row of the given extents. -/
def outerSum (rows columns : Nat) : Kernel where
  program := Program.elementwise ("binary_" ++ BinaryOperation.add.name) [rows, columns] ["A", "B"]
    ["a", "b"] (fun t => BinaryOperation.add.code t) .wgsl .scalar defaultWorkgroup
  inputs := [⟨"A", .float32, [rows, 1]⟩, ⟨"B", .float32, [1, columns]⟩]
  output := ⟨Kernel.outputName, .float32, [rows, columns]⟩

/-- Large outer sums share the source of small ones. -/
theorem outerSum_shares_source :
    Key.of (outerSum 3 4) = Key.of (outerSum 700 900) ∧
    ∃ s₁ s₂, sourceOf (outerSum 3 4) = .ok s₁ ∧ sourceOf (outerSum 700 900) = .ok s₂ ∧
      s₁.text = s₂.text ∧ s₁.target = s₂.target ∧ s₁.entryPoint = s₂.entryPoint := by
  have hkey : Key.of (outerSum 3 4) = Key.of (outerSum 700 900) := rfl
  have hsmall : Program.binary .add [3, 1] [1, 4] .wgsl .scalar defaultWorkgroup =
      .ok (outerSum 3 4).program := rfl
  have hlarge : Program.binary .add [700, 1] [1, 900] .wgsl .scalar defaultWorkgroup =
      .ok (outerSum 700 900).program := rfl
  have h₁ : sourceOf (outerSum 3 4) = .ok ⟨.wgsl, (moduleWith (outerSum 3 4)
      (Program.operationCode .wgsl .scalar ["a", "b"] "return a + b;")).text .wgsl⟩ := rfl
  have h₂ : sourceOf (outerSum 700 900) = .ok ⟨.wgsl, (moduleWith (outerSum 700 900)
      (Program.operationCode .wgsl .scalar ["a", "b"] "return a + b;")).text .wgsl⟩ := rfl
  rcases key_determines_source hkey with ⟨hsource, hcode⟩
  exact ⟨hkey, _, _, h₁, h₂, hsource rfl rfl (hcode (.binary hsmall) (.binary hlarge)) _ _ h₁ h₂⟩

end ComputeKernels.Shader

import ComputeKernels.Program.Validity
import ComputeKernels.Proofs.Shape.Counts
import ComputeKernels.Proofs.Success

/-!
# What validation accepts

The checks of a kernel run one after the other and stop at the first that fails.  A kernel is
accepted exactly if it satisfies all of their conditions.

Main results:

- Theorem `Kernel.validate_eq_ok_iff`: validation succeeds exactly for acceptable kernels.
- Theorem `Kernel.overflowsInCheck_eq_false_iff`: the checks of an accepted kernel lose no bits exactly if
  the elements that they count can be counted.
-/

namespace ComputeKernels

/-! ## Single conditions -/

@[simp]
theorem require_eq_ok_iff {condition : Bool} {failure : KernelError} :
    require condition failure = .ok () ↔ condition = true := by
  cases condition <;> simp [require]

@[simp]
theorem requireLayout_eq_ok_iff {condition : Bool} {fault : LayoutFault} :
    requireLayout condition fault = .ok () ↔ condition = true :=
  require_eq_ok_iff

/-- An operand can be read four elements at a time exactly if it has axes, consists of units, and
shares whole rows of units with the output or has its shape. -/
theorem Operand.checkVec4_eq_ok_iff {o : Operand} {output : Shape} :
    o.checkVec4 output = .ok () ↔ o.rank ≠ 0 ∧ o.size % 4 = 0 ∧ o.repeatsInnermost output = false ∧
      o.innermostDiffers output = false ∧ (o.shape = output ∨ Shape.rowsOfFour output = true) := by
  have hcount : o.count % 4 = o.size % 4 := Shape.count_mod_four o.shape
  simp only [Operand.checkVec4, Except.check_bind_eq_ok_iff, requireLayout_eq_ok_iff, bne_iff_ne,
    beq_iff_eq, Bool.not_eq_true', Bool.or_eq_true, hcount]

namespace Kernel

/-- Conditions on one operand of a kernel. -/
structure AcceptsInput (k : Kernel) (o : Operand) : Prop where
  rank_le : o.rank ≤ Shape.maxRank
  stored : o.element.storage?.isSome = true
  sampled : k.program.entry = .elementwise → o.rank ≤ k.outRank

/-- Conditions under which code can be generated for a kernel. -/
structure Acceptable (k : Kernel) : Prop where
  named : k.inputs.length = k.program.operandNames.length
  outRank_le : k.outRank ≤ Shape.maxRank
  stored : k.output.element.storage?.isSome = true
  layout : k.program.layout.validate k.outRank = .ok ()
  elementwise : k.program.entry = .elementwise → k.program.isFlat = true ∧ k.program.hasSize = true
  inputs : ∀ o ∈ k.inputs, k.AcceptsInput o
  lanes : k.isVec4 = true → ∀ o ∈ k.inputs ++ [k.output], o.checkVec4 k.output.shape = .ok ()
  widths : ∀ d ∈ k.program.uniforms, 1 ≤ d.width ∧ d.width ≤ 4

/-! ## Groups of checks -/

private theorem checkElementwise_eq_ok_iff {p : Program} :
    checkElementwise p = .ok () ↔
      (p.entry = .elementwise → p.isFlat = true ∧ p.hasSize = true) := by
  unfold checkElementwise
  cases p.entry with
  | main => simp
  | elementwise => simp [Except.check_bind_eq_ok_iff]

private theorem checkInput_eq_ok_iff {k : Kernel} {o : Operand} :
    k.checkInput o = .ok () ↔ k.AcceptsInput o := by
  simp only [checkInput, Except.check_bind_eq_ok_iff, require_eq_ok_iff, requireLayout_eq_ok_iff,
    decide_eq_true_eq, Bool.or_eq_true, bne_iff_ne, ne_eq]
  constructor
  · rintro ⟨hrank, hstored, hsampled⟩
    exact ⟨hrank, hstored, fun hentry => hsampled.resolve_left (not_not_intro hentry)⟩
  · rintro ⟨hrank, hstored, hsampled⟩
    exact ⟨hrank, hstored, Decidable.not_or_of_imp hsampled⟩

private theorem checkLanes_eq_ok_iff {k : Kernel} :
    k.checkLanes = .ok () ↔
      (k.isVec4 = true → ∀ o ∈ k.inputs ++ [k.output], o.checkVec4 k.output.shape = .ok ()) := by
  unfold checkLanes
  split
  · next hvec4 => simp only [hvec4, Except.forM_eq_ok_iff, true_imp_iff]
  · next hscalar => simp [hscalar]

private theorem checkUniform_eq_ok_iff {d : UniformDecl} :
    checkUniform d = .ok () ↔ 1 ≤ d.width ∧ d.width ≤ 4 := by
  simp only [checkUniform, require_eq_ok_iff, Bool.and_eq_true, bne_iff_ne, ne_eq,
    decide_eq_true_eq, Nat.one_le_iff_ne_zero]

/-! ## All checks -/

/-- Validation succeeds exactly for acceptable kernels. -/
theorem validate_eq_ok_iff {k : Kernel} : k.validate = .ok () ↔ k.Acceptable := by
  simp only [validate, checkParts, Except.check_bind_eq_ok_iff, require_eq_ok_iff,
    requireLayout_eq_ok_iff, decide_eq_true_eq, beq_iff_eq, checkElementwise_eq_ok_iff,
    checkLanes_eq_ok_iff, Except.forM_eq_ok_iff, checkInput_eq_ok_iff, checkUniform_eq_ok_iff]
  constructor
  · rintro ⟨⟨hnamed, hrank, hstored, hlayout, helementwise, hinputs⟩, hlanes, hwidths⟩
    exact ⟨hnamed, hrank, hstored, hlayout, helementwise, hinputs, hlanes, hwidths⟩
  · rintro ⟨hnamed, hrank, hstored, hlayout, helementwise, hinputs, hlanes, hwidths⟩
    exact ⟨⟨hnamed, hrank, hstored, hlayout, helementwise, hinputs⟩, hlanes, hwidths⟩

/-! ## Checks that count elements -/

/-- The elements of all operands that the check counts can be counted without losing bits. -/
def Countable (k : Kernel) : Prop :=
  k.isVec4 = true → ∀ o ∈ k.inputs ++ [k.output], o.shape.overflows = false

/-- No count loses bits if none of the operands has too many elements. -/
theorem overflowsAmong_eq_false {output : Shape} {os : List Operand}
    (h : ∀ o ∈ os, o.shape.overflows = false) : overflowsAmong output os = false := by
  induction os with
  | nil => rfl
  | cons o os ih =>
    rcases List.forall_mem_cons.mp h with ⟨hfirst, hrest⟩
    rw [overflowsAmong, hfirst, ih hrest, Bool.and_false, Bool.false_or]

/-- Operands that are all accepted are all counted. -/
theorem overflowsAmong_eq_false_iff {output : Shape} {os : List Operand}
    (haccepted : ∀ o ∈ os, o.checkVec4 output = .ok ()) :
    overflowsAmong output os = false ↔ ∀ o ∈ os, o.shape.overflows = false := by
  refine ⟨fun h => ?_, overflowsAmong_eq_false⟩
  induction os with
  | nil => exact fun o ho => absurd ho List.not_mem_nil
  | cons o os ih =>
    rcases List.forall_mem_cons.mp haccepted with ⟨hfirst, hrest⟩
    have hok : (o.checkVec4 output).isOk = true := by rw [hfirst]; rfl
    rw [overflowsAmong, hok, Bool.true_and, Bool.or_eq_false_iff] at h
    exact List.forall_mem_cons.mpr ⟨h.1, ih hrest h.2⟩

/-- Where all elements can be counted the check loses no bits. -/
theorem overflowsInCheck_eq_false {k : Kernel} (h : k.Countable) : k.overflowsInCheck = false := by
  unfold overflowsInCheck
  cases hvec4 : k.isVec4 with
  | false => rw [Bool.and_false, Bool.false_and]
  | true => rw [overflowsAmong_eq_false (h hvec4), Bool.and_false]

/-- The check of an accepted kernel loses no bits exactly if the elements of its operands can be
counted. -/
theorem overflowsInCheck_eq_false_iff {k : Kernel} (hvalid : k.validate = .ok ()) :
    k.overflowsInCheck = false ↔ k.Countable := by
  refine ⟨fun h hvec4 => ?_, overflowsInCheck_eq_false⟩
  have hlanes := (validate_eq_ok_iff.mp hvalid).lanes hvec4
  have hparts : k.checkParts.isOk = true := by
    rw [(Except.check_bind_eq_ok_iff.mp hvalid).1]
    rfl
  rw [overflowsInCheck, hparts, hvec4, Bool.true_and, Bool.true_and] at h
  exact (overflowsAmong_eq_false_iff hlanes).mp h

end Kernel

end ComputeKernels

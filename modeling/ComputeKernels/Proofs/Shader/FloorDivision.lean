import ComputeKernels.Proofs.Shader.Helpers
import ComputeKernels.Proofs.Shader.Overflow
import Mathlib.Order.Bounds.Defs

/-!
# Division that rounds down

Division in generated code truncates.  The division helper truncates too and then takes one off where the
signs of the operands differ and a remainder is left; whether they differ it is told by a float, which
is below zero exactly then.  The result is the quotient that rounds toward negative infinity.

For operands of 32 bits there is one overflow.  The quotient of the least number by minus one is `2 ^ 31`;
wherever the quotient is corrected, the divisor is neither one nor minus one, so the quotient is at most
half as large as the dividend and one may be taken off.

Main definitions:

- `RoundsDown`: the quotient as the greatest of the numbers that may be taken.
- `IsBelowZero`: the floats below zero.

Main results:

- Theorem `fdiv_eq_ite`: the quotient that rounds down from the truncated one.
- Theorem `apply_floorDivFunction`: what the helper returns on exact integers.
- Theorem `numbers_floorDivFunction`: the numbers that it comes across.
- Theorem `quotients_round_down`: the helper rounds down, on exact integers and in 32 bits.
-/

namespace ComputeKernels.Shader

variable {s : Setting} {calls : Calls} {locals : Locals} {a b : Int} {sign : UInt32}

/-! ## Quotients of integers -/

/-- The greatest number of times that a divisor may be taken: without going above a number if the divisor
is above zero, and without going below it if the divisor is below. -/
structure RoundsDown (a b q : Int) : Prop where
  of_pos : 0 < b → IsGreatest {m : Int | m * b ≤ a} q
  of_neg : b < 0 → IsGreatest {m : Int | a ≤ m * b} q

private theorem roundsDown_fdiv (a b : Int) : RoundsDown a b (a.fdiv b) := by
  have hpos : ∀ {a b : Int}, 0 < b → IsGreatest {m : Int | m * b ≤ a} (a.fdiv b) := by
    intro a b hb
    rw [Int.fdiv_eq_ediv_of_nonneg a (Int.le_of_lt hb)]
    exact ⟨Int.ediv_mul_le a (Int.ne_of_gt hb), fun m hm => (Int.le_ediv_iff_mul_le hb).mpr hm⟩
  refine ⟨hpos, fun hb => ?_⟩
  have hmirror : {m : Int | a ≤ m * b} = {m : Int | m * -b ≤ -a} := by
    ext m
    change a ≤ m * b ↔ m * -b ≤ -a
    rw [Int.mul_neg, Int.neg_le_neg_iff]
  rw [hmirror, ← Int.neg_fdiv_neg]
  exact hpos (by omega)

/-- One number is below zero and the other above. -/
def OppositeSigns (a b : Int) : Prop := a < 0 ∧ 0 < b ∨ 0 < a ∧ b < 0

instance : Decidable (OppositeSigns a b) := inferInstanceAs (Decidable (_ ∨ _))

/-- Truncation goes above the quotient where the signs differ and a remainder is left. -/
theorem fdiv_eq_ite (hb : b ≠ 0) :
    a.fdiv b = if OppositeSigns a b ∧ a.tmod b ≠ 0 then a.tdiv b - 1 else a.tdiv b := by
  have hbelow : b < 0 → b.sign = -1 := Int.sign_eq_neg_one_of_neg
  have habove : 0 < b → b.sign = 1 := Int.sign_eq_one_of_pos
  have hzero : a.tmod b ≠ 0 → a ≠ 0 := by
    rintro h rfl
    exact h (Int.zero_tmod b)
  -- The library has the correction for every combination of signs.
  simp only [Int.fdiv_eq_tdiv, Int.dvd_iff_tmod_eq_zero, OppositeSigns]
  grind

/-! ## Quotients of 32 bits -/

/-- The quotient of the least number by minus one is the only one that needs more than 32 bits. -/
theorem isInt32_tdiv_iff (ha : IsInt32 a) (hb : b ≠ 0) :
    IsInt32 (a.tdiv b) ↔ ¬ (a = -2 ^ 31 ∧ b = -1) := by
  unfold IsInt32 at ha ⊢
  constructor
  · rintro ⟨-, hupper⟩ ⟨rfl, rfl⟩
    exact absurd hupper (by decide)
  · intro hother
    have hquotient : (a.tdiv b).natAbs = a.natAbs / b.natAbs := Int.natAbs_tdiv a b
    by_cases hunit : b.natAbs = 1
    · obtain rfl | rfl : b = 1 ∨ b = -1 := by omega
      · rw [Int.tdiv_one]
        exact ha
      · rw [Int.tdiv_neg, Int.tdiv_one]
        omega
    · have hhalf : a.natAbs / b.natAbs ≤ a.natAbs / 2 := Nat.div_le_div_left (by omega) (by omega)
      omega

private theorem isInt32_tmod (hb : IsInt32 b) (hne : b ≠ 0) : IsInt32 (a.tmod b) := by
  unfold IsInt32 at hb ⊢
  have hremainder : (a.tmod b).natAbs = a.natAbs % b.natAbs := Int.natAbs_tmod a b
  have hlt : a.natAbs % b.natAbs < b.natAbs := Nat.mod_lt _ (by omega)
  omega

/-- A divisor that leaves a remainder is not one or minus one, so there is room for the correction. -/
theorem isInt32_tdiv_sub_one (ha : IsInt32 a) (hb : b ≠ 0) (hremainder : a.tmod b ≠ 0) :
    IsInt32 (a.tdiv b - 1) := by
  have hunit : b.natAbs ≠ 1 := by
    intro hunit
    apply hremainder
    rw [← Int.natAbs_eq_zero, Int.natAbs_tmod, hunit, Nat.mod_one]
  have hquotient : (a.tdiv b).natAbs = a.natAbs / b.natAbs := Int.natAbs_tdiv a b
  have hhalf : a.natAbs / b.natAbs ≤ a.natAbs / 2 := Nat.div_le_div_left (by omega) (by omega)
  unfold IsInt32 at ha ⊢
  omega

/-! ## Floats below zero -/

/-- A float is below zero: its sign is set, and its magnitude is neither zero nor above infinity. -/
def IsBelowZero (bits : UInt32) : Prop := 0x80000000 < bits ∧ bits ≤ 0xff800000

instance : DecidablePred IsBelowZero := fun _ => inferInstanceAs (Decidable (_ ∧ _))

/-- The sign of a number as a float. -/
def signFloat (n : Int) : UInt32 :=
  if n < 0 then 0xbf800000 else if n = 0 then 0 else 0x3f800000

/-- The product of two signs is below zero if the signs are opposite. -/
theorem isBelowZero_signFloat (a b : Int) :
    IsBelowZero (signFloat (a.sign * b.sign)) ↔ OppositeSigns a b := by
  have hfloat (n : Int) : IsBelowZero (signFloat n) ↔ n < 0 := by
    unfold signFloat
    split
    · next hneg => exact iff_of_true (by decide) hneg
    · next hnonneg =>
      split
      · exact iff_of_false (by decide) hnonneg
      · exact iff_of_false (by decide) hnonneg
  rw [hfloat, OppositeSigns]
  rcases Int.lt_trichotomy a 0 with ha | rfl | ha
  · rw [Int.sign_eq_neg_one_of_neg ha, Int.neg_one_mul, Int.neg_lt_zero_iff, Int.sign_pos_iff]
    omega
  · simp
  · rw [Int.sign_eq_one_of_pos ha, Int.one_mul, Int.sign_neg_iff]
    omega

/-- The floats below zero are those that have a place below it. -/
theorem isBelowZero_iff_floatRank? :
    IsBelowZero sign ↔ ∃ m, floatRank? sign = some m ∧ m < 0 := by
  have hlower : 0x80000000 < sign ↔ 2 ^ 31 < sign.toNat := UInt32.lt_iff_toNat_lt
  have hupper : sign ≤ 0xff800000 ↔ sign.toNat ≤ 0xff800000 := UInt32.le_iff_toNat_le
  have hrange : sign.toNat < 2 ^ 32 := sign.toNat_lt
  rw [IsBelowZero, hlower, hupper, floatRank?]
  split
  · next hnan =>
    simp only [reduceCtorEq, false_and, exists_false, iff_false]
    omega
  · split
    · simp only [Option.some.injEq, exists_eq_left']
      omega
    · simp only [Option.some.injEq, exists_eq_left']
      omega

/-- The comparison with zero that generated code makes. -/
theorem eval_belowZero {e : Expr} (h : e.eval s calls locals = some (.atom (.float sign))) :
    (Expr.binary .lt e zeroFloat).eval s calls locals =
      some (.atom (.bool (decide (IsBelowZero sign)))) := by
  have hzero : floatRank? 0 = some 0 := rfl
  have happly : Operator.lt.apply s.arithmetic (.float sign) (.float 0) =
      some (.bool (decide (IsBelowZero sign))) := by
    simp only [isBelowZero_iff_floatRank?]
    cases hrank : floatRank? sign <;>
      simp [Operator.apply, hrank, hzero, Operator.compare?, Operator.compareUnordered?]
  simp [Expr.eval, zeroFloat, h, Value.atom?, Operator.shortcut?, happly]

/-! ## Steps of the helper -/

/-- Arguments of the helper. -/
abbrev quotientArgs (a b : Int) (sign : UInt32) : List Value :=
  [.int a, .int b, .atom (.float sign)]

/-- The helper before its first step. -/
def argumentFrame (a b : Int) (sign : UInt32) : Frame where
  locals := [("a", .int a), ("b", .int b), ("signValue", .atom (.float sign))]

/-- The helper once it has a quotient and the remainder. -/
def quotientFrame (a b : Int) (sign : UInt32) (q : Int) : Frame :=
  ((argumentFrame a b sign).declare "res" (.int q)).declare "modulo" (.int (a.tmod b))

/-- Finds the truncated quotient. -/
def quotientStep : Stmt :=
  .variable "res" (.scalar .i32) (.binary .div (.ident "a") (.ident "b"))

/-- Finds the remainder. -/
def remainderStep : Stmt :=
  .constant "modulo" (.scalar .i32) (.binary .rem (.ident "a") (.ident "b"))

/-- The test for different signs and a remainder. -/
def overshoots : Expr :=
  .binary .and (.binary .lt (.ident "signValue") zeroFloat)
    (.binary .ne (.ident "modulo") (.int 0))

/-- The quotient less one. -/
def lowered : Expr := .binary .sub (.ident "res") (.int 1)

/-- Corrects the quotient if it is too high. -/
def correctionStep : Stmt := .ifThen overshoots [.assign (.ident "res") lowered]

private theorem floorDivFunction_body :
    floorDivFunction.body =
      [quotientStep, remainderStep, correctionStep, .ret (some (.ident "res"))] :=
  rfl

variable {q : Int}

private theorem eval_quotient (hb : b ≠ 0) :
    (Expr.binary .div (.ident "a") (.ident "b")).eval (s.under .exact) calls
      (argumentFrame a b sign).locals = some (.int (a.tdiv b)) :=
  eval_binary (eval_ident _) (eval_ident _) (if_neg hb)

private theorem run_quotientStep (hb : b ≠ 0) :
    quotientStep.run (s.under .exact) calls (argumentFrame a b sign) =
      some ((argumentFrame a b sign).declare "res" (.int (a.tdiv b))) := by
  rw [quotientStep, Stmt.run, eval_quotient hb]
  rfl

private theorem eval_remainder (hb : b ≠ 0) :
    (Expr.binary .rem (.ident "a") (.ident "b")).eval (s.under .exact) calls
      ((argumentFrame a b sign).declare "res" (.int q)).locals = some (.int (a.tmod b)) :=
  eval_binary (eval_ident _) (eval_ident _) (if_neg hb)

private theorem run_remainderStep (hb : b ≠ 0) :
    remainderStep.run (s.under .exact) calls ((argumentFrame a b sign).declare "res" (.int q)) =
      some (quotientFrame a b sign q) := by
  rw [remainderStep, Stmt.run, eval_remainder hb]
  rfl

private theorem eval_overshoots :
    overshoots.eval (s.under .exact) calls (quotientFrame a b sign q).locals =
      some (.atom (.bool (decide (IsBelowZero sign ∧ a.tmod b ≠ 0)))) := by
  rw [Bool.decide_and]
  apply eval_and
  · exact eval_belowZero (eval_ident _)
  · exact eval_compare (eval_ident _) (eval_int rfl 0) rfl

private theorem eval_lowered :
    lowered.eval (s.under .exact) calls (quotientFrame a b sign q).locals = some (.int (q - 1)) :=
  eval_binary (eval_ident _) (eval_int rfl 1) rfl

private theorem eval_result :
    (Expr.ident "res").eval (s.under .exact) calls (quotientFrame a b sign q).locals =
      some (.int q) :=
  eval_ident _

/-- The truncated quotient is corrected to the one that rounds down. -/
theorem run_correctionStep (hb : b ≠ 0) (hsign : IsBelowZero sign ↔ OppositeSigns a b) :
    correctionStep.run (s.under .exact) calls (quotientFrame a b sign (a.tdiv b)) =
      some (quotientFrame a b sign (a.fdiv b)) := by
  have hlower : (Stmt.assign (.ident "res") lowered).run (s.under .exact) calls
      (quotientFrame a b sign (a.tdiv b)) = some (quotientFrame a b sign (a.tdiv b - 1)) := by
    rw [Stmt.run, eval_lowered]
    rfl
  rw [correctionStep, Stmt.run, eval_overshoots, fdiv_eq_ite hb]
  simp only [hsign]
  by_cases hstep : OppositeSigns a b ∧ a.tmod b ≠ 0
  · rw [decide_eq_true hstep, if_pos hstep, Stmt.runAll, hlower]
    rfl
  · rw [decide_eq_false hstep, if_neg hstep]
    rfl

/-! ## The helper -/

/-- On exact integers the helper returns the quotient that rounds down. -/
theorem apply_floorDivFunction (calls : Calls) (hb : b ≠ 0)
    (hsign : IsBelowZero sign ↔ OppositeSigns a b) :
    floorDivFunction.apply (s.under .exact) calls (quotientArgs a b sign) =
      some ⟨some (.int (a.fdiv b)), []⟩ := by
  have hrun : Stmt.runAll (s.under .exact) calls (argumentFrame a b sign) floorDivFunction.body =
      some { quotientFrame a b sign (a.fdiv b) with returned := some (some (.int (a.fdiv b))) } := by
    rw [floorDivFunction_body, Stmt.runAll_cons (run_quotientStep hb) rfl,
      Stmt.runAll_cons (run_remainderStep hb) rfl,
      Stmt.runAll_cons (run_correctionStep hb hsign) rfl, runAll_ret eval_result]
  exact apply_of_runAll rfl hrun rfl rfl

private theorem numbers_overshoots :
    overshoots.numbers (s.under .exact) calls (quotientFrame a b sign q).locals = [a.tmod b, 0] := by
  have hsigned : (Expr.ident "signValue").eval (s.under .exact) calls
      (quotientFrame a b sign q).locals = some (.atom (.float sign)) := eval_ident _
  have hremainder : (Expr.ident "modulo").eval (s.under .exact) calls
      (quotientFrame a b sign q).locals = some (.int (a.tmod b)) := eval_ident _
  rw [overshoots, Expr.numbers_binary eval_overshoots, Expr.numbers_binary (eval_belowZero hsigned),
    Expr.numbers_binary (eval_compare hremainder (eval_int rfl 0) rfl), zeroFloat,
    Expr.numbers_float, Expr.numbers_int, Expr.numbers_ident, Expr.numbers_ident]
  rfl

private theorem numbers_correctionStep (hsign : IsBelowZero sign ↔ OppositeSigns a b) :
    correctionStep.numbers (s.under .exact) calls (quotientFrame a b sign q) =
      [a.tmod b, 0] ++
        if OppositeSigns a b ∧ a.tmod b ≠ 0 then [q - 1, q, 1] else [] := by
  have hlower : Stmt.allNumbers (s.under .exact) calls (quotientFrame a b sign q)
      [.assign (.ident "res") lowered] = [q - 1, q, 1] := by
    rw [Stmt.allNumbers, Stmt.numbers, Stmt.run, eval_lowered, lowered,
      Expr.numbers_binary eval_lowered, Expr.numbers_ident, Expr.numbers_int]
    rfl
  rw [correctionStep, Stmt.numbers, numbers_overshoots, eval_overshoots, hlower]
  simp only [hsign, Option.some.injEq, Value.atom.injEq, Atom.bool.injEq, decide_eq_true_eq]

/-- The helper comes across its operands, the truncated quotient and the remainder, and where it corrects
the quotient across the corrected one. -/
theorem numbers_floorDivFunction (hb : b ≠ 0) (hsign : IsBelowZero sign ↔ OppositeSigns a b) :
    floorDivFunction.numbers (s.under .exact) calls (quotientArgs a b sign) =
      [a.tdiv b, a, b] ++ ([a.tmod b, a, b] ++ ([a.tmod b, 0] ++
        (if OppositeSigns a b ∧ a.tmod b ≠ 0 then [a.tdiv b - 1, a.tdiv b, 1] else []) ++
          [a.fdiv b])) := by
  have hquotient : quotientStep.numbers (s.under .exact) calls (argumentFrame a b sign) =
      [a.tdiv b, a, b] := by
    rw [quotientStep, Stmt.numbers, Expr.numbers_binary (eval_quotient hb), Expr.numbers_ident,
      Expr.numbers_ident]
    rfl
  have hremainder (q : Int) : remainderStep.numbers (s.under .exact) calls
      ((argumentFrame a b sign).declare "res" (.int q)) = [a.tmod b, a, b] := by
    rw [remainderStep, Stmt.numbers, Expr.numbers_binary (eval_remainder hb), Expr.numbers_ident,
      Expr.numbers_ident]
    rfl
  change Stmt.allNumbers _ _ (argumentFrame a b sign) floorDivFunction.body = _
  rw [floorDivFunction_body, Stmt.allNumbers_cons (run_quotientStep hb) rfl, hquotient,
    Stmt.allNumbers_cons (run_remainderStep hb) rfl, hremainder,
    Stmt.allNumbers_cons (run_correctionStep hb hsign) rfl, numbers_correctionStep hsign,
    Stmt.allNumbers_ret eval_result, Expr.numbers_ident]
  rfl

/-- Of operands of 32 bits only the least number and minus one lead to a number of more. -/
theorem isInt32_numbers_iff (calls : Calls) (ha : IsInt32 a) (hb : IsInt32 b) (hne : b ≠ 0)
    (hsign : IsBelowZero sign ↔ OppositeSigns a b) :
    (∀ n ∈ floorDivFunction.numbers (s.under .exact) calls (quotientArgs a b sign), IsInt32 n) ↔
      ¬ (a = -2 ^ 31 ∧ b = -1) := by
  rw [numbers_floorDivFunction hne hsign, fdiv_eq_ite hne]
  have hremainder : IsInt32 (a.tmod b) := isInt32_tmod hb hne
  rw [← isInt32_tdiv_iff ha hne]
  constructor
  · intro h
    exact h _ (by simp)
  · intro hquotient
    have hzero : IsInt32 0 := by decide
    have hone : IsInt32 1 := by decide
    split
    · next hstep =>
      have hlowered := isInt32_tdiv_sub_one ha hne hstep.2
      simp [ha, hb, hremainder, hquotient, hzero, hone, hlowered]
    · simp [ha, hb, hremainder, hquotient, hzero]

/-! ## Quotients in generated code -/

private theorem floorDivFunction_mem (k : Kernel) : floorDivFunction ∈ helpers k :=
  mem_helpers_of_mem_fixedHelpers (by simp [fixedHelpers])

/-- The helper returns a number, by itself and under its name in every module that has a meaning. -/
structure DividesTo (s : Setting) (args : List Value) (q : Int) : Prop where
  apply : ∀ calls, floorDivFunction.apply s calls args = some ⟨some (.int q), []⟩
  call : ∀ k, WellNamed k → helperCalls k s "idiv" args = some ⟨some (.int q), []⟩

private theorem DividesTo.of_apply {args : List Value}
    (h : ∀ calls, floorDivFunction.apply s calls args = some ⟨some (.int q), []⟩) :
    DividesTo s args q where
  apply := h
  call k hk := by
    rcases hk.exists_earlier (floorDivFunction_mem k) with ⟨earlier, hcall⟩
    exact (hcall args).trans (h earlier)

/-- For every number and every divisor other than zero, and a third argument that is below zero exactly
if the signs of the two are opposite, the helper returns the quotient that rounds down.  Of operands of
32 bits only the least number and minus one need a number of more on the way, and all others have the
same quotient where integers are cut to 32 bits. -/
theorem quotients_round_down (s : Setting) (a b : Int) (sign : UInt32) (hb : b ≠ 0)
    (hsign : IsBelowZero sign ↔ OppositeSigns a b) :
    ∃ q : Int, RoundsDown a b q ∧ DividesTo (s.under .exact) (quotientArgs a b sign) q ∧
      (IsInt32 a → IsInt32 b →
        (∀ calls, (∀ n ∈ floorDivFunction.numbers (s.under .exact) calls (quotientArgs a b sign),
          IsInt32 n) ↔ ¬ (a = -2 ^ 31 ∧ b = -1)) ∧
        (¬ (a = -2 ^ 31 ∧ b = -1) → DividesTo (s.under .wrapping) (quotientArgs a b sign) q)) := by
  have happly (calls : Calls) := apply_floorDivFunction (s := s) calls hb hsign
  refine ⟨a.fdiv b, roundsDown_fdiv a b, .of_apply happly, fun ha32 hb32 => ?_⟩
  have hfits (calls : Calls) :=
    isInt32_numbers_iff (s := s) calls ha32 hb32 hb hsign
  refine ⟨hfits, fun hother => .of_apply fun calls => ?_⟩
  rw [Function.apply_under .wrapping ((hfits calls).mpr hother), happly]

/-- A kernel that divides whole numbers. -/
def quotientKernel : Kernel where
  program := Program.elementwise "binary_int_div" [4] ["A", "B"] ["a", "b"]
    (fun t => BinaryOperation.intDiv.code t) .wgsl .scalar defaultWorkgroup
  inputs := [⟨"A", .int32, [4]⟩, ⟨"B", .int32, [4]⟩]
  output := ⟨"result", .int32, [4]⟩

/-- Rounding down the quotient of minus seven by two gives minus four. -/
theorem minus_seven_by_two_is_minus_four :
    let s := (moduleWith quotientKernel "").setting .exact [] ⟨⟨0, 0, 0⟩, ⟨0, 0, 0⟩⟩
    let args := quotientArgs (-7) 2 (signFloat (Int.sign (-7) * Int.sign 2))
    helperCalls quotientKernel (s.under .exact) "idiv" args = some ⟨some (.int (-4)), []⟩ ∧
      helperCalls quotientKernel (s.under .wrapping) "idiv" args =
        some ⟨some (.int (-4)), []⟩ := by
  intro s args
  obtain ⟨q, hq, hexact, hwords⟩ := quotients_round_down s (-7) 2
    (signFloat (Int.sign (-7) * Int.sign 2)) (by decide) (isBelowZero_signFloat (-7) 2)
  have hgreatest := hq.of_pos (by decide)
  have hmember : q * 2 ≤ -7 := hgreatest.1
  have hbound : -4 ≤ q := hgreatest.2 (by decide : (-4 : Int) * 2 ≤ -7)
  obtain rfl : q = -4 := by omega
  have hnames : WellNamed quotientKernel := by decide +kernel
  have hwrapping := (hwords (by decide) (by decide)).2 (by decide)
  exact ⟨hexact.call quotientKernel hnames, hwrapping.call quotientKernel hnames⟩

end ComputeKernels.Shader

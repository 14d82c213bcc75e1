import ComputeKernels.Program.ReadyMade
import ComputeKernels.Proofs.Program.Acceptance

/-!
# Recipes of ready-made programs

A ready-made program is one that filling or an elementwise operation gives.  Its label names the
recipe that it was made by, and nothing but the recipe, the target and the width enters its code.

Main results:

- Theorem `Recipe.label_injective`: different recipes have different labels.
- Theorem `ReadyMade.bodyFor?_eq`: programs of one label and width have one code in each target.
-/

namespace ComputeKernels

/-! ## Names of operations -/

private theorem UnaryOperation.ofName?_name (op : UnaryOperation) : ofName? op.name = some op := by
  cases op <;> rfl

private theorem BinaryOperation.ofName?_name (op : BinaryOperation) :
    ofName? op.name = some op := by
  cases op <;> rfl

private theorem UnaryOperation.name_injective : Function.Injective UnaryOperation.name := by
  intro op op' h
  have hsome : some op = some op' := by rw [← ofName?_name op, ← ofName?_name op', h]
  exact Option.some.inj hsome

private theorem BinaryOperation.name_injective : Function.Injective BinaryOperation.name := by
  intro op op' h
  have hsome : some op = some op' := by rw [← ofName?_name op, ← ofName?_name op', h]
  exact Option.some.inj hsome

namespace Program

/-! ## Recipes -/

/-- What a ready-made program computes. -/
inductive Recipe
  | unary (op : UnaryOperation)
  | binary (op : BinaryOperation)
  | fill

namespace Recipe

/-- Label of the programs of a recipe. -/
def label : Recipe → String
  | unary op => "unary_" ++ op.name
  | binary op => "binary_" ++ op.name
  | fill => "fill"

/-- Code of the programs of a recipe in a target. -/
def code : Recipe → Lanes → Target → String
  | unary op, lanes, t => operationCode t lanes ["a"] (op.code t)
  | binary op, lanes, t => operationCode t lanes ["a", "b"] (op.code t)
  | fill, _, .wgsl => fillCode "fn userMain(index : i32)"
  | fill, _, .glsl => fillCode "void userMain(int index)"

/-- Different recipes have different labels. -/
theorem label_injective : Function.Injective label := by
  intro r r' h
  -- The first letter tells the kind of recipe, the rest the operation.
  have hchars := congrArg String.toList h
  cases r with
  | unary op =>
    cases r' with
    | unary op' =>
      rw [UnaryOperation.name_injective (String.append_right_inj _ |>.mp h)]
    | binary op' => simp [label] at hchars
    | fill => simp [label] at hchars
  | binary op =>
    cases r' with
    | unary op' => simp [label] at hchars
    | binary op' =>
      rw [BinaryOperation.name_injective (String.append_right_inj _ |>.mp h)]
    | fill => simp [label] at hchars
  | fill =>
    cases r' with
    | unary op' => simp [label] at hchars
    | binary op' => simp [label] at hchars
    | fill => rfl

end Recipe

/-! ## Ready-made programs -/

/-- Programs that come from filling or from an elementwise operation. -/
inductive ReadyMade : Program → Prop
  | unary {op shape target lanes workgroup p}
      (h : Program.unary op shape target lanes workgroup = .ok p) : ReadyMade p
  | binary {op a b target lanes workgroup p}
      (h : Program.binary op a b target lanes workgroup = .ok p) : ReadyMade p
  | fill (shape target workgroup) : ReadyMade (Program.fill shape target workgroup)

namespace ReadyMade

/-- A ready-made program has the label and the code of some recipe. -/
theorem exists_recipe {p : Program} (h : ReadyMade p) :
    ∃ r : Recipe, p.label = r.label ∧ ∀ t, p.bodyFor? t = some (r.code p.lanes t) := by
  cases h with
  | @unary op _ _ _ _ _ h =>
    rcases Except.check_bind_eq_ok_iff.mp h with ⟨-, hp⟩
    cases hp
    refine ⟨.unary op, rfl, fun t => ?_⟩
    cases t <;> rfl
  | @binary op a b _ _ _ _ h =>
    unfold Program.binary at h
    split at h
    · cases h
    · rcases Except.check_bind_eq_ok_iff.mp h with ⟨-, hp⟩
      cases hp
      refine ⟨.binary op, rfl, fun t => ?_⟩
      cases t <;> rfl
  | fill shape target workgroup =>
    refine ⟨.fill, rfl, fun t => ?_⟩
    cases t <;> rfl

/-- Ready-made programs of one label and width have one code in each target. -/
theorem bodyFor?_eq {p q : Program} (hp : ReadyMade p) (hq : ReadyMade q)
    (hlabel : p.label = q.label) (hlanes : p.lanes = q.lanes) (t : Target) :
    p.bodyFor? t = q.bodyFor? t := by
  rcases hp.exists_recipe with ⟨r, hlabelp, hcodep⟩
  rcases hq.exists_recipe with ⟨r', hlabelq, hcodeq⟩
  obtain rfl : r = r' := Recipe.label_injective (by rw [← hlabelp, ← hlabelq, hlabel])
  rw [hcodep, hcodeq, hlanes]

end ReadyMade

end Program

end ComputeKernels

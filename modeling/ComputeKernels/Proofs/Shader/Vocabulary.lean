import ComputeKernels.Proofs.Decimal.Distinctness
import ComputeKernels.Proofs.Shader.Subexpressions

/-!
# The words of a target

The names of types are different in each target, and with the truth values and the positions of an
invocation they are the words that an expression may use beside the names that it is given.

Main definitions:

- `Reserved`: the words of a target.
- `Expr.Plain`: expressions whose names are no words of the target and whose literals have no sign.

Main results:

- Theorem `ShaderType.spell_inj`: different types are named differently.
-/

namespace ComputeKernels.Shader

open Decimal

/-! ## Names of types -/

/-- Scalar types are told apart by their texts. -/
theorem ScalarType.spell_inj {t : Target} {s₁ s₂ : ScalarType} (h : s₁.spell t = s₂.spell t) :
    s₁ = s₂ := by
  revert h
  cases t <;> cases s₁ <;> cases s₂ <;> decide

private theorem ScalarType.vectorStem_inj {s₁ s₂ : ScalarType} (h : s₁.vectorStem = s₂.vectorStem) :
    s₁ = s₂ := by
  revert h
  cases s₁ <;> cases s₂ <;> decide

namespace ShaderType

variable {n n₁ n₂ : Nat} {s s₁ s₂ : ScalarType}

private theorem toList_spell_wgsl : ((vector n s).spell .wgsl).toList =
    "vec".toList ++ (Nat.toDigits 10 n ++ '<' :: ((s.spell .wgsl).toList ++ ['>'])) := by
  simp [spell]

private theorem toList_spell_glsl :
    ((vector n s).spell .glsl).toList = s.vectorStem.toList ++ Nat.toDigits 10 n := by
  simp [spell]

private theorem not_mem_toDigits {c : Char} (hc : c.isDigit = false) :
    c ∉ Nat.toDigits 10 n := fun h =>
  absurd (Nat.isDigit_of_mem_toDigits (by decide) (by decide) h) (by simp [hc])

private theorem toDigits_inj (h : Nat.toDigits 10 n₁ = Nat.toDigits 10 n₂) : n₁ = n₂ := by
  have hread := congrArg (Nat.ofDigitChars 10 · 0) h
  simpa only [Nat.ofDigitChars_ten_toDigits] using hread

/-- A vector type is named by its width between brackets or behind a stem, in which no scalar type is
named. -/
theorem spell_scalar_ne (t : Target) : (scalar s₁).spell t ≠ (vector n s₂).spell t := by
  intro h
  have hchars := congrArg String.toList h
  cases t with
  | wgsl =>
    have hbracket : '<' ∉ (s₁.spell .wgsl).toList := by cases s₁ <;> decide
    rw [toList_spell_wgsl] at hchars
    exact hbracket (hchars ▸ by simp)
  | glsl =>
    obtain ⟨c, hc⟩ := List.exists_mem_of_ne_nil _ (Nat.toDigits_ne_nil (b := 10) (n := n))
    have hletters : (s₁.spell .glsl).toList.all (!·.isDigit) = true := by cases s₁ <;> decide
    have hdigit := Nat.isDigit_of_mem_toDigits (by decide) (by decide) hc
    rw [toList_spell_glsl] at hchars
    have hmem : c ∈ (s₁.spell .glsl).toList := hchars ▸ List.mem_append_right _ hc
    exact absurd (List.all_eq_true.mp hletters c hmem) (by simp [hdigit])

private theorem spell_vector_inj {t : Target}
    (h : (vector n₁ s₁).spell t = (vector n₂ s₂).spell t) :
    n₁ = n₂ ∧ s₁ = s₂ := by
  have hchars := congrArg String.toList h
  cases t with
  | wgsl =>
    rw [toList_spell_wgsl, toList_spell_wgsl, List.append_cancel_left_eq] at hchars
    obtain ⟨hdigits, hname⟩ := Text.append_cons_inj_left (not_mem_toDigits (by decide))
      (not_mem_toDigits (by decide)) hchars
    exact ⟨toDigits_inj hdigits,
      ScalarType.spell_inj (String.toList_inj.mp (List.append_cancel_right hname))⟩
  | glsl =>
    have hletters (n : Nat) (s : ScalarType) :
        (s.vectorStem.toList ++ Nat.toDigits 10 n).filter (!·.isDigit) = s.vectorStem.toList := by
      rw [List.filter_append, List.filter_eq_self.mpr (List.all_eq_true.mp (by cases s <;> decide)),
        List.filter_eq_nil_iff.mpr, List.append_nil]
      intro c hc
      simp [Nat.isDigit_of_mem_toDigits (by decide) (by decide) hc]
    rw [toList_spell_glsl, toList_spell_glsl] at hchars
    have hstem := congrArg (List.filter (!·.isDigit)) hchars
    rw [hletters, hletters] at hstem
    rw [hstem] at hchars
    exact ⟨toDigits_inj (List.append_cancel_left hchars),
      ScalarType.vectorStem_inj (String.toList_inj.mp hstem)⟩

/-- Different types are named differently. -/
theorem spell_inj {t : Target} {ty₁ ty₂ : ShaderType} (h : ty₁.spell t = ty₂.spell t) :
    ty₁ = ty₂ := by
  cases ty₁ with
  | scalar s₁ =>
    cases ty₂ with
    | scalar s₂ => rw [ScalarType.spell_inj h]
    | vector n₂ s₂ => exact absurd h (spell_scalar_ne t)
  | vector n₁ s₁ =>
    cases ty₂ with
    | scalar s₂ => exact absurd h.symm (spell_scalar_ne t)
    | vector n₂ s₂ =>
      obtain ⟨rfl, rfl⟩ := spell_vector_inj h
      rfl

/-- No type has an empty text. -/
theorem spell_ne_nil (t : Target) (ty : ShaderType) : (ty.spell t).toList ≠ [] := by
  cases ty with
  | scalar s => cases t <;> cases s <;> decide
  | vector n s =>
    cases t with
    | wgsl => simp [toList_spell_wgsl]
    | glsl => simp [toList_spell_glsl, Nat.toDigits_ne_nil]

end ShaderType

/-! ## Names and literals -/

/-- The words of a target: the truth values, its types, whose widths are kept in eight bits, and the
positions of an invocation. -/
def Reserved (t : Target) (name : String) : Prop :=
  name ∈ ["true", "false"] ∨ (∃ ty : ShaderType, ty.width < 256 ∧ ty.spell t = name) ∨
    ∃ which : Builtin, which.spell t = name

/-- No word of a target has fewer than three characters. -/
theorem Reserved.three_le_length {t : Target} {name : String} (h : Reserved t name) :
    3 ≤ name.toList.length := by
  rcases h with hbool | ⟨ty, -, rfl⟩ | ⟨which, rfl⟩
  · simp only [List.mem_cons, List.not_mem_nil, or_false] at hbool
    rcases hbool with rfl | rfl <;> decide
  · cases ty with
    | scalar s => cases t <;> cases s <;> decide
    | vector n s =>
      cases t with
      | wgsl =>
        rw [ShaderType.toList_spell_wgsl, List.length_append]
        exact Nat.le_add_right 3 _
      | glsl =>
        have hstem : 3 ≤ s.vectorStem.toList.length := by cases s <;> decide
        rw [ShaderType.toList_spell_glsl, List.length_append]
        exact hstem.trans (Nat.le_add_right _ _)
  · cases t <;> cases which <;> decide

/-- Truth values are printed as identifiers. -/
theorem isIdentifier_bool (value : Bool) : IsIdentifier (if value then "true" else "false") := by
  cases value <;> decide

/-- Built-in values are printed as identifiers. -/
theorem Builtin.isIdentifier_spell (t : Target) (which : Builtin) : IsIdentifier (which.spell t) := by
  cases t <;> cases which <;> decide

/-- Built-in values are told apart by their texts. -/
theorem Builtin.spell_inj {t : Target} {b₁ b₂ : Builtin} (h : b₁.spell t = b₂.spell t) : b₁ = b₂ := by
  revert h
  cases t <;> cases b₁ <;> cases b₂ <;> decide

/-- No built-in value is printed like a truth value. -/
theorem Builtin.spell_ne_bool (t : Target) (which : Builtin) (value : Bool) :
    which.spell t ≠ if value then "true" else "false" := by
  cases t <;> cases which <;> cases value <;> decide

namespace Expr

/-- What an expression has beside its parts is an identifier that is no word of the target, a literal
without a sign, or a type whose width is kept in eight bits. -/
def PlainLabel (t : Target) : Expr → Prop
  | .int value => 0 ≤ value
  | .float bits => Float32.isNegative bits = false ∧ Float32.magnitude bits < Float32.infinity
  | .construct ty _ => ty.width < 256
  | e => ∀ name ∈ e.name?, IsIdentifier name ∧ ¬ Reserved t name

/-- Everything that an expression is made of has a plain label. -/
def Plain (t : Target) (e : Expr) : Prop := ∀ s ∈ e.subexpressions, s.PlainLabel t

variable {t : Target} {e : Expr}

/-- An expression is plain if its label and all of its parts are. -/
theorem plain_iff : e.Plain t ↔ e.PlainLabel t ∧ ∀ part ∈ e.parts, part.Plain t :=
  forall_mem_subexpressions

/-- The name in a plain label is an identifier. -/
theorem PlainLabel.isIdentifier (h : e.PlainLabel t) {name : String} (hname : name ∈ e.name?) :
    IsIdentifier name := by
  cases e with
  | ident _ => exact (h name hname).1
  | member _ _ => exact (h name hname).1
  | call _ _ => exact (h name hname).1
  | _ => cases hname

/-- A plain expression is plainly named. -/
theorem Plain.named (h : e.Plain t) : e.PlainlyNamed := fun s hs _ hname => (h s hs).isIdentifier hname

end Expr

end ComputeKernels.Shader

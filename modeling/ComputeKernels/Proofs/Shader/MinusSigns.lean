import ComputeKernels.Proofs.Decimal.Numerals
import ComputeKernels.Proofs.Shader.Subexpressions

/-!
# Minus signs in printed expressions

Two minus signs in a row are one token of both shading languages, which takes one from a variable.  A
minus sign is printed for a negation, between two blanks for a difference, in front of a literal below
zero and within an exponent.  Only the first of these has something after it that may start with a sign:
a negated difference or negation stands in parentheses, but a literal does not, nor does a selection from
one.

Main definitions:

- `Expr.startsWithSign`: the text of an operand starts with the sign of a literal.

Main results:

- Theorem `apart_chars_iff`: no two minus signs are adjacent unless such an operand is negated.
- Theorem `minus_signs_meet_where_signs_are_negated`: the same for expressions and operands.
- Theorem `negated_literals_decrement`: a negated literal below zero is printed with two minus signs.
-/

namespace ComputeKernels

/-! ## Adjacent signs -/

/-- No two minus signs are adjacent. -/
def Apart (cs : List Char) : Prop := cs.IsChain fun a b => ¬ (a = '-' ∧ b = '-')

instance : DecidablePred Apart := fun cs =>
  inferInstanceAs (Decidable (cs.IsChain fun a b => ¬ (a = '-' ∧ b = '-')))

private theorem not_apart_iff {cs : List Char} : ¬ Apart cs ↔ ['-', '-'] <:+: cs := by
  rw [Apart, List.isChain_iff_forall_rel_of_append_cons_cons]
  constructor
  · intro h
    by_contra hnone
    refine h fun a b before after heq hsigns => hnone ⟨before, after, ?_⟩
    rw [heq, hsigns.1, hsigns.2, List.append_assoc]
    rfl
  · rintro ⟨before, after, rfl⟩ h
    have hsplit : before ++ ['-', '-'] ++ after = before ++ '-' :: '-' :: after := by simp
    exact h hsplit ⟨rfl, rfl⟩

variable {xs ys : List Char} {c : Char}

private theorem apart_append_cons (hc : c ≠ '-') : Apart (xs ++ c :: ys) ↔ Apart xs ∧ Apart ys := by
  simp [Apart, List.isChain_append, List.isChain_cons, hc]

private theorem apart_cons (hc : c ≠ '-') : Apart (c :: ys) ↔ Apart ys := by
  simp [Apart, List.isChain_cons, hc]

private theorem apart_minus_cons : Apart ('-' :: ys) ↔ ys.head? ≠ some '-' ∧ Apart ys := by
  rw [Apart, List.isChain_cons]
  refine and_congr_left fun _ => ?_
  cases ys.head? <;> simp

private theorem apart_nil : Apart [] := .nil

private theorem apart_of_not_mem (h : '-' ∉ xs) : Apart xs := by
  refine (List.pairwise_of_forall_mem_list fun a ha _ _ hsigns => ?_).isChain
  exact h (hsigns.1 ▸ ha)

private theorem apart_intercalate {texts : List (List Char)} :
    Apart ([',', ' '].intercalate texts) ↔ ∀ cs ∈ texts, Apart cs := by
  induction texts with
  | nil => simp [Apart]
  | cons cs rest ih =>
    cases rest with
    | nil => simp
    | cons next rest =>
      rw [List.intercalate_cons_cons, List.append_assoc, List.cons_append,
        apart_append_cons (by decide), List.singleton_append, apart_cons (by decide), ih]
      exact List.forall_mem_cons.symm

/-- A text without a minus sign does not begin with one. -/
theorem head?_ne_of_not_mem (h : '-' ∉ xs) : xs.head? ≠ some '-' := fun heq =>
  h (List.mem_of_mem_head? heq)

/-- What follows another sign does not decide whether a text begins with a minus sign. -/
theorem head?_append_cons (hc : c ≠ '-') :
    (xs ++ c :: ys).head? = some '-' ↔ xs.head? = some '-' := by
  cases xs <;> simp [hc]

namespace Decimal

/-! ## Signs of numbers -/

private theorem IsNumeral.apart (h : IsNumeral xs) : Apart xs := by
  refine h.follows.imp fun a b hfollows hsigns => ?_
  exact absurd (hfollows (by simp [hsigns.1])) (hsigns.2 ▸ by decide)

private theorem apart_toString (n : Int) : Apart (toString n).toList := by
  by_cases hneg : n < 0
  · rw [toList_toString_of_neg hneg, apart_minus_cons]
    exact ⟨(isNumeral_digits _).head?_ne, (isNumeral_digits _).apart⟩
  · rw [toList_toString_of_nonneg (Int.not_lt.mp hneg)]
    exact (isNumeral_digits _).apart

private theorem head?_toString (n : Int) : (toString n).toList.head? = some '-' ↔ n < 0 := by
  by_cases hneg : n < 0
  · rw [toList_toString_of_neg hneg]
    exact iff_of_true rfl hneg
  · rw [toList_toString_of_nonneg (Int.not_lt.mp hneg)]
    exact iff_of_false (isNumeral_digits _).head?_ne hneg

namespace Float32

/-- A magnitude, which may be infinite, is printed without a sign in front and with none in a row. -/
theorem magnitudeText_apart {m : UInt32} (h : m ≤ infinity) :
    Apart (magnitudeText m) ∧ (magnitudeText m).head? ≠ some '-' := by
  rcases UInt32.lt_or_eq_of_le h with hlt | rfl
  · exact ⟨(isNumeral_magnitudeText hlt).apart, (isNumeral_magnitudeText hlt).head?_ne⟩
  · exact ⟨apart_of_not_mem (by decide), by decide⟩

/-- Whether a number is printed with a sign. -/
def isSigned (bits : UInt32) : Bool := isNegative bits && magnitude bits ≤ infinity

private theorem apart_text (bits : UInt32) : Apart (text bits).toList := by
  rw [toList_text]
  split
  · exact apart_of_not_mem (by decide)
  next hnumber =>
  obtain ⟨hapart, hhead⟩ := magnitudeText_apart (UInt32.not_lt.mp hnumber)
  split
  · exact apart_minus_cons.mpr ⟨hhead, hapart⟩
  · exact hapart

private theorem head?_text (bits : UInt32) :
    (text bits).toList.head? = some '-' ↔ isSigned bits = true := by
  rw [toList_text, isSigned]
  split
  · next hnan => exact iff_of_false (by decide) (by simp [UInt32.not_le.mpr hnan])
  next hnumber =>
  have hle := UInt32.not_lt.mp hnumber
  split
  · next hnegative => exact iff_of_true rfl (by simp [hnegative, hle])
  · next hpositive => exact iff_of_false (magnitudeText_apart hle).2 (by simp [hpositive])

end Float32

end Decimal

namespace Shader

open Decimal

/-! ## Names and types -/

/-- An identifier has no minus sign. -/
theorem IsIdentifier.not_mem {name : String} (h : IsIdentifier name) : '-' ∉ name.toList := fun hmem =>
  absurd (h.word _ hmem) (by decide)

private theorem Operator.apart_symbol (op : Operator) : Apart op.symbol.toList := by
  cases op <;> decide

/-- The text of a type has no minus sign. -/
theorem ShaderType.not_mem_spell (t : Target) (ty : ShaderType) : '-' ∉ (ty.spell t).toList :=
  fun hmem => absurd (mem_spell hmem) (by decide)

namespace Expr

/-- Whether the text of an operand starts with the sign of a literal. -/
def startsWithSign : Expr → Bool
  | .int value => value < 0
  | .float bits => Float32.isSigned bits
  | .member base _ => base.startsWithSign
  | .index base _ => base.startsWithSign
  | _ => false

/-- Whether an expression negates an operand whose text starts with the sign of a literal. -/
def negatesSign : Expr → Bool
  | .neg operand => operand.startsWithSign
  | _ => false

/-! ## Texts of expressions -/

variable {t : Target}

private theorem apart_operandChars_iff {e : Expr} :
    Apart (e.operandChars t) ↔ Apart (e.chars t) := by
  cases hcompound : e.isCompound with
  | false => rw [operandChars_of_simple t hcompound]
  | true =>
    rw [operandChars_of_compound t hcompound, apart_cons (by decide), apart_append_cons (by decide)]
    exact and_iff_left .nil

/-- The text of an operand starts with a minus sign exactly if it starts with the sign of a literal. -/
theorem head?_operandChars {e : Expr} (h : e.PlainlyNamed) :
    (e.operandChars t).head? = some '-' ↔ e.startsWithSign = true := by
  induction e using Expr.induction with
  | ident name =>
    have hhead := head?_ne_of_not_mem (plainlyNamed_ident.mp h).not_mem
    exact iff_of_false hhead (by simp [startsWithSign])
  | int value => exact (head?_toString value).trans decide_eq_true_iff.symm
  | float bits => exact Float32.head?_text bits
  | bool value =>
    refine iff_of_false ?_ (by simp [startsWithSign])
    rw [operandChars_of_simple t rfl, chars_bool]
    cases value <;> decide
  | member base name ih =>
    rw [operandChars_of_simple t rfl, chars_member, head?_append_cons (by decide)]
    exact ih (plainlyNamed_member.mp h).2
  | index base position ih _ =>
    rw [operandChars_of_simple t rfl, chars_index, head?_append_cons (by decide)]
    exact ih (plainlyNamed_index.mp h).1
  | binary op left right _ _ =>
    rw [operandChars_of_compound t rfl]
    exact iff_of_false (by simp) (by simp [startsWithSign])
  | neg operand _ =>
    rw [operandChars_of_compound t rfl]
    exact iff_of_false (by simp) (by simp [startsWithSign])
  | call name args _ =>
    have hhead := head?_ne_of_not_mem (plainlyNamed_call.mp h).1.not_mem
    rw [operandChars_of_simple t rfl, chars_call, head?_append_cons (by decide)]
    exact iff_of_false hhead (by simp [startsWithSign])
  | construct ty args _ =>
    rw [operandChars_of_simple t rfl, chars_construct, head?_append_cons (by decide)]
    exact iff_of_false (head?_ne_of_not_mem (ty.not_mem_spell t)) (by simp [startsWithSign])
  | builtin which =>
    refine iff_of_false ?_ (by simp [startsWithSign])
    rw [operandChars_of_simple t rfl, chars_builtin]
    cases t <;> cases which <;> decide

private theorem apart_argumentChars_iff {args : List Expr} :
    Apart (argumentChars t args) ↔ ∀ arg ∈ args, Apart (arg.chars t) := by
  rw [argumentChars, apart_intercalate, List.forall_mem_map]

/-- An expression that negates no sign itself leaves the question to its parts. -/
theorem forall_negatesSign_iff {e : Expr} (hself : e.negatesSign = false) :
    (∀ s ∈ e.subexpressions, s.negatesSign = false) ↔
      ∀ part ∈ e.parts, ∀ s ∈ part.subexpressions, s.negatesSign = false :=
  forall_mem_subexpressions.trans (and_iff_right hself)

/-- No two minus signs are adjacent exactly if no sign is negated. -/
theorem apart_chars_iff {e : Expr} (h : e.PlainlyNamed) :
    Apart (e.chars t) ↔ ∀ s ∈ e.subexpressions, s.negatesSign = false := by
  induction e using Expr.induction with
  | ident name =>
    rw [plainlyNamed_ident] at h
    exact iff_of_true (apart_of_not_mem h.not_mem) (by simp [subexpressions, negatesSign])
  | int value => exact iff_of_true (apart_toString value) (by simp [subexpressions, negatesSign])
  | float bits => exact iff_of_true (Float32.apart_text bits) (by simp [subexpressions, negatesSign])
  | bool value =>
    refine iff_of_true ?_ (by simp [subexpressions, negatesSign])
    rw [chars_bool]
    cases value <;> decide
  | member base name ih =>
    rw [plainlyNamed_member] at h
    rw [forall_negatesSign_iff rfl, parts, List.forall_mem_singleton, ← ih h.2, chars_member,
      apart_append_cons (by decide), apart_operandChars_iff]
    exact and_iff_left (apart_of_not_mem h.1.not_mem)
  | index base position ihbase ihposition =>
    rw [plainlyNamed_index] at h
    rw [forall_negatesSign_iff rfl, parts, List.forall_mem_cons, List.forall_mem_singleton,
      ← ihbase h.1, ← ihposition h.2, chars_index, apart_append_cons (by decide),
      apart_append_cons (by decide), apart_operandChars_iff, and_iff_left apart_nil]
  | binary op left right ihleft ihright =>
    rw [plainlyNamed_binary] at h
    rw [forall_negatesSign_iff rfl, parts, List.forall_mem_cons, List.forall_mem_singleton,
      ← ihleft h.1, ← ihright h.2, chars_binary, apart_append_cons (by decide),
      apart_append_cons (by decide), apart_operandChars_iff, apart_operandChars_iff,
      and_iff_right op.apart_symbol]
  | neg operand ih =>
    rw [plainlyNamed_neg] at h
    rw [subexpressions, List.forall_mem_cons, ← ih h, chars_neg, apart_minus_cons,
      apart_operandChars_iff, ne_eq, head?_operandChars h, Bool.not_eq_true, negatesSign]
  | call name args ih =>
    rw [plainlyNamed_call] at h
    rw [forall_negatesSign_iff rfl, parts, chars_call, apart_append_cons (by decide),
      apart_append_cons (by decide), and_iff_right (apart_of_not_mem h.1.not_mem),
      and_iff_left apart_nil, apart_argumentChars_iff]
    exact forall₂_congr fun arg harg => ih arg harg (h.2 arg harg)
  | construct ty args ih =>
    rw [plainlyNamed_construct] at h
    rw [forall_negatesSign_iff rfl, parts, chars_construct, apart_append_cons (by decide),
      apart_append_cons (by decide), and_iff_right (apart_of_not_mem (ty.not_mem_spell t)),
      and_iff_left apart_nil, apart_argumentChars_iff]
    exact forall₂_congr fun arg harg => ih arg harg (h arg harg)
  | builtin which =>
    refine iff_of_true ?_ (by simp [subexpressions, negatesSign])
    rw [chars_builtin]
    cases t <;> cases which <;> decide

/-- Two minus signs are adjacent in the text of an expression, as a whole or as an operand, exactly if
somewhere in it an operand is negated that starts with the sign of a literal.  All other minus signs, of
differences, of literals and of exponents, stand apart. -/
theorem minus_signs_meet_where_signs_are_negated (t : Target) (e : Expr) (h : e.PlainlyNamed) :
    (['-', '-'] <:+: (e.text t).toList ↔ ∃ s ∈ e.subexpressions, s.negatesSign = true) ∧
      (['-', '-'] <:+: (e.operandText t).toList ↔ ∃ s ∈ e.subexpressions, s.negatesSign = true) := by
  have hmeet : ¬ Apart (e.chars t) ↔ ∃ s ∈ e.subexpressions, s.negatesSign = true := by
    rw [apart_chars_iff h]
    simp
  exact ⟨not_apart_iff.symm.trans hmeet,
    not_apart_iff.symm.trans ((not_congr apart_operandChars_iff).trans hmeet)⟩

/-- The negated product of a difference and a small number below zero. -/
def negatedProduct : Expr :=
  .neg (.binary .mul (.binary .sub (.ident "a") (.member (.ident "b") "x")) (.float 0xb4210fb0))

/-- Four minus signs, one of them in an exponent, stand apart. -/
theorem negatedProduct_has_no_decrement :
    negatedProduct.PlainlyNamed ∧ negatedProduct.text .wgsl = "-((a - b.x) * -1.5e-7)" ∧
      ¬ ['-', '-'] <:+: (negatedProduct.text .wgsl).toList := by
  have hnamed : negatedProduct.PlainlyNamed := by
    simp only [negatedProduct, plainlyNamed_neg, plainlyNamed_binary, plainlyNamed_member,
      plainlyNamed_ident]
    exact ⟨by decide, by simp [PlainlyNamed, subexpressions, name?]⟩
  refine ⟨hnamed, by decide +kernel, ?_⟩
  rw [(minus_signs_meet_where_signs_are_negated .wgsl negatedProduct hnamed).1]
  decide +kernel

/-- A negated literal below zero is printed with two minus signs in a row. -/
theorem negated_literals_decrement :
    (neg (int (-1))).PlainlyNamed ∧ ∀ t : Target, (neg (int (-1))).text t = "--1" ∧
      ['-', '-'] <:+: ((neg (int (-1))).text t).toList := by
  have htext (t : Target) : (neg (int (-1))).text t = "--1" := by cases t <;> rfl
  refine ⟨by simp [PlainlyNamed, subexpressions, name?], fun t => ⟨htext t, [], ['1'], ?_⟩⟩
  rw [htext t]
  rfl

end Expr

end Shader

end ComputeKernels

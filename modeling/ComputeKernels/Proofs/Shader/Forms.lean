import ComputeKernels.Proofs.Shader.MinusSigns
import ComputeKernels.Proofs.Shader.Vocabulary

/-!
# Forms of printed expressions

The outermost step in the making of a plain expression shows in its text.  Brackets match in every text,
and blanks and commas of an operand stand inside of brackets, so a blank outside of them is one around an
operator.  All other texts are told apart by their first and their last characters and by a point that
no digit follows.

Main definitions:

- `Form`: the ways in which an expression is put together.
- `formOf`: the form of a text.

Main results:

- Theorem `nested_operandChars`: blanks and commas of an operand stand inside of brackets.
- Theorem `formOf_chars`: the form of an expression is the form of its text.
-/

namespace ComputeKernels.Shader

open Decimal Text

/-! ## Brackets of a text -/

/-- The brackets of both shading languages. -/
def brackets : Brackets where
  opens c := c = '(' ∨ c = '['
  closes c := c = ')' ∨ c = ']'
  disjoint := by rintro c (rfl | rfl) <;> decide

/-- Characters of an operand outside of brackets. -/
def Solid (c : Char) : Prop := c ≠ ' ' ∧ c ≠ ','

/-- Characters that put texts together. -/
def joints : List Char := ['(', '[', ')', ']', ' ', ',']

private theorem nested_of_forall {cs : List Char} (h : ∀ c ∈ cs, c ∉ joints) :
    Nested brackets Solid cs := by
  refine .of_forall fun c hc => ?_
  have hne : c ≠ '(' ∧ c ≠ '[' ∧ c ≠ ')' ∧ c ≠ ']' ∧ c ≠ ' ' ∧ c ≠ ',' := by
    simpa [joints] using h c hc
  exact ⟨not_or.mpr ⟨hne.1, hne.2.1⟩, not_or.mpr ⟨hne.2.2.1, hne.2.2.2.1⟩, hne.2.2.2.2⟩

/-- Names, numbers and types are read in one piece. -/
theorem nested_of_token {cs : List Char}
    (h : ∀ c ∈ cs, isAsciiWordChar c = true ∨ c ∈ ['.', '-', '<', '>']) :
    Nested brackets Solid cs := by
  have hjoints : joints.all
      (fun d => ¬ (isAsciiWordChar d = true ∨ d ∈ ['.', '-', '<', '>'])) = true := by decide
  refine nested_of_forall fun c hc hjoint => ?_
  exact of_decide_eq_true (List.all_eq_true.mp hjoints c hjoint) (h c hc)

private theorem nested_of_isIdentifier {name : String} (h : IsIdentifier name) :
    Nested brackets Solid name.toList :=
  nested_of_token fun c hc => .inl (h.word c hc)

private theorem nested_of_isNumeral {cs : List Char} (h : IsNumeral cs) :
    Nested brackets Solid cs := by
  refine nested_of_token fun c hc => ?_
  rcases h.allowed c hc with hdigit | hmark
  · exact .inl (isAsciiWordChar_of_isDigit hdigit)
  · simp only [List.mem_cons, List.not_mem_nil, or_false] at hmark
    rcases hmark with rfl | rfl | rfl <;> decide

private theorem nested_spell (t : Target) (ty : ShaderType) :
    Nested brackets Solid (ty.spell t).toList := by
  refine nested_of_token fun c hc => (ShaderType.mem_spell hc).imp_right ?_
  simp +contextual

/-- What stands in brackets may be anything whose brackets match. -/
theorem nested_group {free : Char → Prop} {a z : Char} {inner : List Char} (ha : brackets.opens a)
    (hz : brackets.closes z) (h : Nested brackets free inner) :
    Nested brackets Solid (a :: (inner ++ [z])) :=
  .group ha hz (h.mono fun _ _ => trivial) .nil

private theorem nested_cons {free : Char → Prop} {c : Char} {cs : List Char}
    (hc : c ∉ ['(', '[', ')', ']'])
    (hfree : free c) (h : Nested brackets free cs) : Nested brackets free (c :: cs) := by
  refine .char (fun hopens => hc ?_) (fun hcloses => hc ?_) hfree h
  · rcases hopens with rfl | rfl <;> decide
  · rcases hcloses with rfl | rfl <;> decide

private theorem Operator.nested_symbol (op : Operator) :
    Nested brackets Solid op.symbol.toList := by
  have hsymbol : op.symbol.toList.all (· ∉ joints) = true := by cases op <;> decide
  exact nested_of_forall fun c hc => of_decide_eq_true (List.all_eq_true.mp hsymbol c hc)

namespace Expr

variable {t : Target} {e : Expr}

private theorem nested_of_simple (h : e.isCompound = false)
    (hs : Nested brackets Solid (e.chars t)) :
    Nested brackets Solid (e.operandChars t) ∧ Nested brackets (· ≠ ',') (e.chars t) :=
  ⟨operandChars_of_simple t h ▸ hs, hs.mono fun _ hc => hc.2⟩

private theorem nested_of_compound (h : e.isCompound = true)
    (hs : Nested brackets (· ≠ ',') (e.chars t)) :
    Nested brackets Solid (e.operandChars t) ∧ Nested brackets (· ≠ ',') (e.chars t) :=
  ⟨operandChars_of_compound t h ▸ nested_group (.inl rfl) (.inl rfl) hs, hs⟩

private theorem nested_arguments {args : List Expr}
    (h : ∀ arg ∈ args, Nested brackets (· ≠ ',') (arg.chars t)) :
    Nested brackets Solid ('(' :: (argumentChars t args ++ [')'])) := by
  refine @nested_group (fun _ => True) _ _ _ (.inl rfl) (.inl rfl) (.intercalate ?_ ?_)
  · exact .of_forall (by simp [brackets])
  · rw [List.forall_mem_map]
    exact fun arg harg => (h arg harg).mono fun _ _ => trivial

/-- Brackets match in a plain expression.  Outside of them there is no comma, and no blank either where
the expression is an operand. -/
theorem nested_both (h : e.Plain t) :
    Nested brackets Solid (e.operandChars t) ∧ Nested brackets (· ≠ ',') (e.chars t) := by
  induction e using Expr.induction with
  | ident name =>
    exact nested_of_simple rfl (nested_of_isIdentifier ((plain_iff.mp h).1.isIdentifier rfl))
  | int value =>
    refine nested_of_simple rfl ?_
    rw [chars_int, toList_toString_of_nonneg (plain_iff.mp h).1]
    exact nested_of_isNumeral (isNumeral_digits _)
  | float bits =>
    obtain ⟨hsign, hfinite⟩ := (plain_iff.mp h).1
    refine nested_of_simple rfl ?_
    rw [chars_float, Float32.toList_text_of_sign hsign hfinite]
    exact nested_of_isNumeral (Float32.isNumeral_magnitudeText hfinite)
  | bool value => exact nested_of_simple rfl (nested_of_isIdentifier (isIdentifier_bool value))
  | member base name ih =>
    obtain ⟨hlabel, hparts⟩ := plain_iff.mp h
    refine nested_of_simple rfl ?_
    rw [chars_member]
    refine (ih (hparts base (by simp [parts]))).1.append (nested_cons (by decide) ?_ ?_)
    · exact ⟨by decide, by decide⟩
    · exact nested_of_isIdentifier (hlabel.isIdentifier rfl)
  | index base position ihbase ihposition =>
    obtain ⟨-, hparts⟩ := plain_iff.mp h
    have hposition := (ihposition (hparts position (by simp [parts]))).2
    refine nested_of_simple rfl ?_
    rw [chars_index]
    exact (ihbase (hparts base (by simp [parts]))).1.append
      (nested_group (.inr rfl) (.inr rfl) hposition)
  | binary op left right ihleft ihright =>
    obtain ⟨-, hparts⟩ := plain_iff.mp h
    refine nested_of_compound rfl ?_
    have hmono {cs : List Char} (hcs : Nested brackets Solid cs) : Nested brackets (· ≠ ',') cs :=
      hcs.mono fun _ hc => hc.2
    rw [chars_binary]
    have hleft := hmono (ihleft (hparts left (by simp [parts]))).1
    have hright := hmono (ihright (hparts right (by simp [parts]))).1
    have hoperator : Nested brackets (· ≠ ',') (op.symbol.toList ++ ' ' :: right.operandChars t) :=
      (hmono op.nested_symbol).append (nested_cons (by decide) (by decide) hright)
    exact hleft.append (nested_cons (by decide) (by decide) hoperator)
  | neg operand ih =>
    obtain ⟨-, hparts⟩ := plain_iff.mp h
    refine nested_of_compound rfl ?_
    rw [chars_neg]
    refine nested_cons (by decide) (by decide) ?_
    exact (ih (hparts operand (by simp [parts]))).1.mono fun _ hc => hc.2
  | call name args ih =>
    obtain ⟨hlabel, hparts⟩ := plain_iff.mp h
    refine nested_of_simple rfl ?_
    rw [chars_call]
    refine (nested_of_isIdentifier (hlabel.isIdentifier rfl)).append (nested_arguments ?_)
    exact fun arg harg => (ih arg harg (hparts arg harg)).2
  | construct ty args ih =>
    obtain ⟨-, hparts⟩ := plain_iff.mp h
    refine nested_of_simple rfl ?_
    rw [chars_construct]
    refine (nested_spell t ty).append (nested_arguments ?_)
    exact fun arg harg => (ih arg harg (hparts arg harg)).2
  | builtin which =>
    exact nested_of_simple rfl (nested_of_isIdentifier (which.isIdentifier_spell t))

/-- The text of a plain operand starts with no sign. -/
theorem head?_operandChars_ne (h : e.Plain t) : (e.operandChars t).head? ≠ some '-' := by
  rw [ne_eq, head?_operandChars h.named, Bool.not_eq_true]
  induction e using Expr.induction with
  | int value =>
    have hnonneg : 0 ≤ value := (plain_iff.mp h).1
    simpa [startsWithSign] using hnonneg
  | float bits =>
    have hsign := (plain_iff.mp h).1.1
    simp [startsWithSign, Float32.isSigned, hsign]
  | member base name ih => exact ih ((plain_iff.mp h).2 base (by simp [parts]))
  | index base position ih _ => exact ih ((plain_iff.mp h).2 base (by simp [parts]))
  | _ => rfl

end Expr

/-! ## Forms -/

/-- The ways in which an expression is put together. -/
inductive Form
  | joined
  | negated
  | indexed
  | applied
  | selected
  | number
  | word
deriving DecidableEq

/-- How an expression is put together. -/
def Expr.form : Expr → Form
  | .binary .. => .joined
  | .neg _ => .negated
  | .index .. => .indexed
  | .call .. => .applied
  | .construct .. => .applied
  | .member .. => .selected
  | .int _ => .number
  | .float _ => .number
  | .ident _ => .word
  | .bool _ => .word
  | .builtin _ => .word

open scoped Classical in
/-- How a text is put together, by what stands outside of brackets and at its ends. -/
noncomputable def formOf (cs : List Char) : Form :=
  if ¬ Nested brackets Solid cs then .joined
  else if cs.head? = some '-' then .negated
  else if cs.getLast? = some ']' then .indexed
  else if cs.getLast? = some ')' then .applied
  else if ∃ before c after, cs = before ++ '.' :: c :: after ∧ c.isDigit = false then .selected
  else if ∃ c ∈ cs.head?, c.isDigit = true then .number
  else .word

section Texts

variable {cs xs ys : List Char}

/-- A solid text ends at a blank. -/
theorem stops_blank : Stops brackets Solid (' ' :: ys) := by
  rintro _ ⟨⟩
  exact ⟨by simp [brackets], fun hsolid => absurd rfl hsolid.1⟩

/-- A blank outside of brackets stands around an operator. -/
theorem formOf_joined (h : Nested brackets Solid xs) : formOf (xs ++ ' ' :: ys) = .joined := by
  have hnot : ¬ Nested brackets Solid (xs ++ ' ' :: ys) := by
    intro hwhole
    have hend : Stops brackets Solid [] := by simp [Stops]
    obtain ⟨-, hnil⟩ := h.cut hwhole stops_blank hend (List.append_nil _).symm
    exact List.cons_ne_nil _ _ hnil
  rw [formOf, if_pos hnot]

private theorem formOf_negated (h : Nested brackets Solid ('-' :: xs)) :
    formOf ('-' :: xs) = .negated := by
  rw [formOf, if_neg (not_not.mpr h), if_pos List.head?_cons]

private theorem formOf_indexed (h : Nested brackets Solid cs) (hhead : cs.head? ≠ some '-')
    (hlast : cs.getLast? = some ']') : formOf cs = .indexed := by
  rw [formOf, if_neg (not_not.mpr h), if_neg hhead, if_pos hlast]

/-- A text in brackets at its end, and without a minus sign before it, is an application. -/
theorem formOf_applied (h : Nested brackets Solid cs) (hhead : cs.head? ≠ some '-')
    (hlast : cs.getLast? = some ')') : formOf cs = .applied := by
  rw [formOf, if_neg (not_not.mpr h), if_neg hhead, if_neg (by simp [hlast]), if_pos hlast]

/-- A text that ends in a group ends in the bracket that closes it. -/
theorem getLast?_group (a z : Char) : (xs ++ a :: (ys ++ [z])).getLast? = some z := by
  rw [← List.cons_append, ← List.append_assoc, List.getLast?_concat]

private theorem getLast?_ne (h : ∀ c ∈ cs.getLast?, isAsciiWordChar c = true) :
    cs.getLast? ≠ some ']' ∧ cs.getLast? ≠ some ')' :=
  ⟨fun hlast => absurd (h _ hlast) (by decide), fun hlast => absurd (h _ hlast) (by decide)⟩

private theorem formOf_selected {name : String}
    (h : Nested brackets Solid (xs ++ '.' :: name.toList))
    (hhead : (xs ++ '.' :: name.toList).head? ≠ some '-') (hname : IsIdentifier name) :
    formOf (xs ++ '.' :: name.toList) = .selected := by
  obtain ⟨c, rest, hsplit⟩ := List.exists_cons_of_ne_nil hname.ne_nil
  have hdigit : c.isDigit = false := hname.start c (by simp [hsplit])
  have hlast := @getLast?_ne (xs ++ '.' :: name.toList) fun c hc => by
    rw [List.append_cons, List.getLast?_append_of_ne_nil _ hname.ne_nil] at hc
    exact hname.word c (List.mem_of_mem_getLast? hc)
  rw [formOf, if_neg (not_not.mpr h), if_neg hhead, if_neg hlast.1, if_neg hlast.2,
    if_pos ⟨xs, c, rest, by rw [hsplit], hdigit⟩]

/-- A point in a number stands before a digit. -/
theorem formOf_number (h : IsNumeral cs) : formOf cs = .number := by
  have hlast := getLast?_ne fun c hc => isAsciiWordChar_of_isDigit (h.finish c hc)
  have hpoint : ¬ ∃ before c after, cs = before ++ '.' :: c :: after ∧ c.isDigit = false := by
    rintro ⟨before, c, after, heq, hdigit⟩
    have hfollows := List.isChain_iff_forall_rel_of_append_cons_cons.mp h.follows heq (by simp)
    exact absurd hfollows (by simp [hdigit])
  rw [formOf, if_neg (not_not.mpr (nested_of_isNumeral h)), if_neg h.head?_ne, if_neg hlast.1,
    if_neg hlast.2, if_neg hpoint, if_pos h.start]

private theorem formOf_word {name : String} (h : IsIdentifier name) :
    formOf name.toList = .word := by
  have hlast := getLast?_ne fun c hc => h.word c (List.mem_of_mem_getLast? hc)
  have hpoint : ¬ ∃ before c after, name.toList = before ++ '.' :: c :: after ∧ c.isDigit = false := by
    rintro ⟨before, c, after, heq, -⟩
    exact absurd (h.word '.' (by simp [heq])) (by decide)
  have hstart : ¬ ∃ c ∈ name.toList.head?, c.isDigit = true := by
    rintro ⟨c, hc, hdigit⟩
    exact absurd hdigit (by simp [h.start c hc])
  rw [formOf, if_neg (not_not.mpr (nested_of_isIdentifier h)), if_neg (head?_ne_of_not_mem h.not_mem),
    if_neg hlast.1, if_neg hlast.2, if_neg hpoint, if_neg hstart]

end Texts

namespace Expr

variable {t : Target} {e : Expr}

/-- Operands are solid outside of their brackets. -/
theorem nested_operandChars (h : e.Plain t) : Nested brackets Solid (e.operandChars t) := (nested_both h).1

/-- The text of an expression has no comma outside of its brackets. -/
theorem nested_chars (h : e.Plain t) : Nested brackets (· ≠ ',') (e.chars t) := (nested_both h).2

/-- The form of a plain expression is the form of its text. -/
theorem formOf_chars (h : e.Plain t) : formOf (e.chars t) = e.form := by
  obtain ⟨hlabel, hparts⟩ := plain_iff.mp h
  have hnested := nested_operandChars h
  cases e with
  | ident name => exact formOf_word (hlabel.isIdentifier rfl)
  | int value =>
    rw [chars_int, toList_toString_of_nonneg hlabel]
    exact formOf_number (isNumeral_digits _)
  | float bits =>
    rw [chars_float, Float32.toList_text_of_sign hlabel.1 hlabel.2]
    exact formOf_number (Float32.isNumeral_magnitudeText hlabel.2)
  | bool value => exact formOf_word (isIdentifier_bool value)
  | member base name =>
    have hhead := head?_operandChars_ne (hparts base (by simp [parts]))
    rw [operandChars_of_simple t rfl, chars_member] at hnested
    rw [chars_member]
    exact formOf_selected hnested (by rwa [ne_eq, head?_append_cons (by decide)])
      (hlabel.isIdentifier rfl)
  | index base position =>
    have hhead := head?_operandChars_ne (hparts base (by simp [parts]))
    rw [operandChars_of_simple t rfl, chars_index] at hnested
    rw [chars_index]
    exact formOf_indexed hnested (by rwa [ne_eq, head?_append_cons (by decide)]) (getLast?_group _ _)
  | binary op left right =>
    rw [chars_binary]
    exact formOf_joined (nested_operandChars (hparts left (by simp [parts])))
  | neg operand =>
    rw [chars_neg]
    refine formOf_negated (nested_cons (by decide) ⟨by decide, by decide⟩ ?_)
    exact nested_operandChars (hparts operand (by simp [parts]))
  | call name args =>
    have hhead := head?_ne_of_not_mem (hlabel.isIdentifier (e := call name args) rfl).not_mem
    rw [operandChars_of_simple t rfl, chars_call] at hnested
    rw [chars_call]
    exact formOf_applied hnested (by rwa [ne_eq, head?_append_cons (by decide)]) (getLast?_group _ _)
  | construct ty args =>
    have hhead := head?_ne_of_not_mem (ty.not_mem_spell t)
    rw [operandChars_of_simple t rfl, chars_construct] at hnested
    rw [chars_construct]
    exact formOf_applied hnested (by rwa [ne_eq, head?_append_cons (by decide)]) (getLast?_group _ _)
  | builtin which => exact formOf_word (which.isIdentifier_spell t)

/-- Equal texts have equal forms. -/
theorem form_eq_of_chars_eq {e₁ e₂ : Expr} (h₁ : e₁.Plain t) (h₂ : e₂.Plain t)
    (h : e₁.chars t = e₂.chars t) : e₁.form = e₂.form := by
  rw [← formOf_chars h₁, ← formOf_chars h₂, h]

end Expr

end ComputeKernels.Shader

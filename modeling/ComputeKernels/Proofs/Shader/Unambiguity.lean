import ComputeKernels.Proofs.Shader.Forms

/-!
# Expressions are told apart by their texts

No two plain expressions are printed alike.  Their texts have the same form, so the outermost step is the
same in both, and the text is cut into the texts of the parts again: at a blank outside of brackets, at
the group that ends the text, at the last point, at the first parenthesis and at the commas outside of
brackets.  The parentheses around operators and negations within a larger expression are therefore
enough.

Main results:

- Theorem `eq_of_parts`: what the outermost step does not show of two texts is equal if the parts are.
- Theorem `eq_of_chars_eq`: plain expressions with the same text are the same.
- Theorem `texts_determine_expressions`: the same for expressions and for operands.
-/

namespace ComputeKernels.Shader

open Decimal Text

private theorem Operator.symbol_inj {o₁ o₂ : Operator} (h : o₁.symbol = o₂.symbol) : o₁ = o₂ := by
  revert h
  cases o₁ <;> cases o₂ <;> decide

private theorem Operator.not_mem_symbol (op : Operator) : ' ' ∉ op.symbol.toList := by
  cases op <;> decide

private theorem IsIdentifier.not_mem_of_not_word {name : String} (h : IsIdentifier name) {c : Char}
    (hc : isAsciiWordChar c = false) : c ∉ name.toList := fun hmem => by
  simp [h.word c hmem] at hc

private theorem ShaderType.parenthesis_not_mem_spell (t : Target) (ty : ShaderType) :
    '(' ∉ (ty.spell t).toList := fun hmem => absurd (mem_spell hmem) (by decide)

namespace Expr

variable {t : Target} {e e₁ e₂ : Expr}

/-! ## Operands -/

private theorem parenthesis_not_mem_call {name : String} {args : List Expr}
    (h : (call name args).PlainLabel t) : '(' ∉ name.toList :=
  (h.isIdentifier (e := call name args) rfl).not_mem_of_not_word (by decide)

/-- A call or a construction starts with a name and not with a parenthesis. -/
theorem chars_ne_enclosed (h : e.Plain t) (hsimple : e.isCompound = false) (cs : List Char) :
    e.chars t ≠ '(' :: (cs ++ [')']) := by
  intro heq
  have hname {name rest : List Char} (hne : name ≠ []) (hnot : '(' ∉ name) :
      name ++ rest ≠ '(' :: (cs ++ [')']) := by
    cases name with
    | nil => exact absurd rfl hne
    | cons c name => exact fun hcons => hnot ((List.cons.inj hcons).1 ▸ List.mem_cons_self)
  have hform : e.form = .applied := by
    rw [← formOf_chars h]
    refine formOf_applied ?_ (by simp [heq]) ?_
    · exact operandChars_of_simple t hsimple ▸ nested_operandChars h
    · rw [heq]
      exact @getLast?_group [] cs '(' ')'
  cases e with
  | call name args =>
    have hlabel := (plain_iff.mp h).1
    have hident := hlabel.isIdentifier (e := call name args) rfl
    rw [chars_call] at heq
    exact hname hident.ne_nil (parenthesis_not_mem_call hlabel) heq
  | construct ty args =>
    rw [chars_construct] at heq
    exact hname (ty.spell_ne_nil t) (ty.parenthesis_not_mem_spell t) heq
  | _ => cases hform

/-- Plain operands with the same text have the same text as expressions. -/
theorem chars_eq_of_operandChars_eq (h₁ : e₁.Plain t) (h₂ : e₂.Plain t)
    (h : e₁.operandChars t = e₂.operandChars t) : e₁.chars t = e₂.chars t := by
  cases hc₁ : e₁.isCompound <;> cases hc₂ : e₂.isCompound
  · rwa [operandChars_of_simple t hc₁, operandChars_of_simple t hc₂] at h
  · rw [operandChars_of_simple t hc₁, operandChars_of_compound t hc₂] at h
    exact absurd h (chars_ne_enclosed h₁ hc₁ _)
  · rw [operandChars_of_compound t hc₁, operandChars_of_simple t hc₂] at h
    exact absurd h.symm (chars_ne_enclosed h₂ hc₂ _)
  · rw [operandChars_of_compound t hc₁, operandChars_of_compound t hc₂] at h
    exact List.append_cancel_right (List.cons.inj h).2

/-! ## Arguments -/

private theorem chars_ne_nil (h : e.Plain t) : e.chars t ≠ [] := by
  obtain ⟨hlabel, -⟩ := plain_iff.mp h
  cases e with
  | ident name => exact (hlabel.isIdentifier (e := ident name) rfl).ne_nil
  | int value =>
    rw [chars_int, toList_toString_of_nonneg hlabel]
    exact (isNumeral_digits _).ne_nil
  | float bits =>
    rw [chars_float, Float32.toList_text_of_sign hlabel.1 hlabel.2]
    exact (Float32.isNumeral_magnitudeText hlabel.2).ne_nil
  | bool value => exact (isIdentifier_bool value).ne_nil
  | builtin which => exact (which.isIdentifier_spell t).ne_nil
  | _ => simp

/-- Plain arguments are found at the commas outside of brackets. -/
theorem arguments_eq {as bs : List Expr} (has : ∀ a ∈ as, a.Plain t) (hbs : ∀ b ∈ bs, b.Plain t)
    (ih : ∀ a ∈ as, ∀ b ∈ bs, a.chars t = b.chars t → a = b)
    (h : argumentChars t as = argumentChars t bs) : as = bs := by
  have htexts (args : List Expr) (hargs : ∀ arg ∈ args, arg.Plain t) :
      ∀ cs ∈ args.map (chars t), cs ≠ [] ∧ Nested brackets (· ≠ ',') cs := by
    rw [List.forall_mem_map]
    exact fun arg harg => ⟨chars_ne_nil (hargs arg harg), nested_chars (hargs arg harg)⟩
  have hmap : as.map (chars t) = bs.map (chars t) :=
    Nested.intercalate_inj (by simp [brackets]) (by simp) (htexts as has) (htexts bs hbs) h
  refine List.ext_getElem (by simpa using congrArg List.length hmap) fun n ha hb => ?_
  refine ih _ (List.getElem_mem ha) _ (List.getElem_mem hb) ?_
  have hget := congrArg (·[n]?) hmap
  simpa [ha, hb] using hget

/-- What is applied stands in front of the first parenthesis. -/
theorem application_eq {name name' : List Char} {as bs : List Expr} (hname : '(' ∉ name)
    (hname' : '(' ∉ name') (h : name ++ '(' :: (argumentChars t as ++ [')']) =
      name' ++ '(' :: (argumentChars t bs ++ [')'])) :
    name = name' ∧ argumentChars t as = argumentChars t bs :=
  (append_cons_inj_left hname hname' h).imp_right List.append_cancel_right

/-! ## Words and numbers -/

private theorem reserved_bool (t : Target) (value : Bool) : Reserved t ((bool value).text t) :=
  .inl (by cases value <;> simp [text])

private theorem reserved_builtin (t : Target) (which : Builtin) :
    Reserved t ((builtin which).text t) :=
  .inr (.inr ⟨which, rfl⟩)

private theorem reserved_spell {ty : ShaderType} (h : ty.width < 256) : Reserved t (ty.spell t) :=
  .inr (.inl ⟨ty, h, rfl⟩)

private theorem not_reserved_ident {name : String} (h : (ident name).PlainLabel t) :
    ¬ Reserved t ((ident name).text t) := (h name rfl).2

/-- No name is a word of the target, and the words of the target are different. -/
theorem eq_of_words (h₁ : e₁.PlainLabel t) (h₂ : e₂.PlainLabel t) (hform₁ : e₁.form = .word)
    (hform₂ : e₂.form = .word) (h : e₁.text t = e₂.text t) : e₁ = e₂ := by
  cases e₁ with
  | ident name =>
    cases e₂ with
    | ident other => exact congrArg ident h
    | bool value => exact absurd (h ▸ reserved_bool t value) (not_reserved_ident h₁)
    | builtin which => exact absurd (h ▸ reserved_builtin t which) (not_reserved_ident h₁)
    | _ => cases hform₂
  | bool value =>
    cases e₂ with
    | ident name => exact absurd (h ▸ reserved_bool t value) (not_reserved_ident h₂)
    | bool other =>
      revert h
      cases value <;> cases other <;> simp [text]
    | builtin which => exact absurd h.symm (which.spell_ne_bool t value)
    | _ => cases hform₂
  | builtin which =>
    cases e₂ with
    | ident name => exact absurd (h ▸ reserved_builtin t which) (not_reserved_ident h₂)
    | bool value => exact absurd h (which.spell_ne_bool t value)
    | builtin other => exact congrArg builtin (Builtin.spell_inj h)
    | _ => cases hform₂
  | _ => cases hform₁

/-- Integers are printed without a point, and numbers of either kind are told apart. -/
theorem eq_of_numbers (h₁ : e₁.PlainLabel t) (h₂ : e₂.PlainLabel t) (hform₁ : e₁.form = .number)
    (hform₂ : e₂.form = .number) (h : e₁.chars t = e₂.chars t) : e₁ = e₂ := by
  have hne {value : Int} {bits : UInt32} (hint : (int value).PlainLabel t)
      (hfloat : (float bits).PlainLabel t) : (float bits).chars t ≠ (int value).chars t := by
    rw [chars_int, chars_float, toList_toString_of_nonneg hint,
      Float32.toList_text_of_sign hfloat.1 hfloat.2]
    exact Float32.magnitudeText_ne_digits hfloat.2 _
  cases e₁ with
  | int value =>
    cases e₂ with
    | int other => exact congrArg int (Int.repr_inj.mp (String.toList_inj.mp h))
    | float bits => exact absurd h.symm (hne h₁ h₂)
    | _ => cases hform₂
  | float bits =>
    cases e₂ with
    | int value => exact absurd h (hne h₂ h₁)
    | float other =>
      exact congrArg float (Float32.text_inj h₁.2 h₂.2 (String.toList_inj.mp h))
    | _ => cases hform₂
  | _ => cases hform₁

/-! ## Applications -/

/-- No name that is called is a constructor of the target, and constructors are different. -/
theorem eq_of_applications (h₁ : e₁.PlainLabel t) (h₂ : e₂.PlainLabel t)
    (hform₁ : e₁.form = .applied) (hform₂ : e₂.form = .applied) (h : e₁.chars t = e₂.chars t)
    (harguments : argumentChars t e₁.parts = argumentChars t e₂.parts → e₁.parts = e₂.parts) :
    e₁ = e₂ := by
  cases e₁ with
  | call name args =>
    cases e₂ with
    | call name' args' =>
      rw [chars_call, chars_call] at h
      obtain ⟨hname, hargs⟩ :=
        application_eq (parenthesis_not_mem_call h₁) (parenthesis_not_mem_call h₂) h
      obtain rfl : args = args' := harguments hargs
      rw [String.toList_inj.mp hname]
    | construct ty args' =>
      rw [chars_call, chars_construct] at h
      obtain ⟨hname, -⟩ :=
        application_eq (parenthesis_not_mem_call h₁) (ty.parenthesis_not_mem_spell t) h
      exact absurd (String.toList_inj.mp hname ▸ reserved_spell h₂) (h₁ name rfl).2
    | _ => cases hform₂
  | construct ty args =>
    cases e₂ with
    | call name args' =>
      rw [chars_call, chars_construct] at h
      obtain ⟨hname, -⟩ :=
        application_eq (ty.parenthesis_not_mem_spell t) (parenthesis_not_mem_call h₂) h
      exact absurd (String.toList_inj.mp hname ▸ reserved_spell h₁) (h₂ name rfl).2
    | construct ty' args' =>
      rw [chars_construct, chars_construct] at h
      obtain ⟨hname, hargs⟩ :=
        application_eq (ty.parenthesis_not_mem_spell t) (ty'.parenthesis_not_mem_spell t) h
      obtain rfl : args = args' := harguments hargs
      rw [ShaderType.spell_inj (String.toList_inj.mp hname)]
    | _ => cases hform₂
  | _ => cases hform₁

/-! ## Members, elements and operators -/

/-- The point in front of a member's name is the last one. -/
theorem member_cut {base base' : Expr} {name name' : String}
    (h₁ : (member base name).PlainLabel t) (h₂ : (member base' name').PlainLabel t)
    (h : (member base name).chars t = (member base' name').chars t) :
    base.operandChars t = base'.operandChars t ∧ name = name' := by
  have hpoint {base : Expr} {name : String} (hlabel : (member base name).PlainLabel t) :
      '.' ∉ name.toList :=
    (hlabel.isIdentifier (e := member base name) rfl).not_mem_of_not_word (by decide)
  rw [chars_member, chars_member] at h
  obtain ⟨hbase, hname⟩ := append_cons_inj_right (hpoint h₁) (hpoint h₂) h
  exact ⟨hbase, String.toList_inj.mp hname⟩

/-- The position of an element is the group that ends its text. -/
theorem index_cut {base base' position position' : Expr} (h₁ : position.Plain t)
    (h₂ : position'.Plain t)
    (h : (index base position).chars t = (index base' position').chars t) :
    base.operandChars t = base'.operandChars t ∧ position.chars t = position'.chars t := by
  have hinside {position : Expr} (hplain : position.Plain t) :
      Nested brackets (fun _ => True) (position.chars t) :=
    (nested_chars hplain).mono fun _ _ => trivial
  rw [chars_index, chars_index] at h
  exact Nested.cut_group (hinside h₁) (hinside h₂) (.inr rfl) (.inr rfl) h

/-- The first operand ends at the first blank outside of brackets. -/
theorem binary_cut {op op' : Operator} {left left' right right' : Expr} (h₁ : left.Plain t)
    (h₂ : left'.Plain t)
    (h : (binary op left right).chars t = (binary op' left' right').chars t) :
    op = op' ∧ left.operandChars t = left'.operandChars t ∧
      right.operandChars t = right'.operandChars t := by
  rw [chars_binary, chars_binary] at h
  obtain ⟨hleft, hrest⟩ :=
    (nested_operandChars h₁).cut (nested_operandChars h₂) stops_blank stops_blank h
  obtain ⟨hop, hright⟩ :=
    append_cons_inj_left op.not_mem_symbol op'.not_mem_symbol (List.cons.inj hrest).2
  exact ⟨Operator.symbol_inj (String.toList_inj.mp hop), hleft, hright⟩

/-! ## Expressions -/

/-- Equal texts of plain expressions come from the same outermost step, and their parts are equal if
parts with the same text are. -/
theorem eq_of_parts (h₁ : e₁.Plain t) (h₂ : e₂.Plain t) (h : e₁.chars t = e₂.chars t)
    (ih : ∀ part ∈ e₁.parts, ∀ other : Expr, other.Plain t → part.chars t = other.chars t →
      part = other) : e₁ = e₂ := by
  have hform := form_eq_of_chars_eq h₁ h₂ h
  obtain ⟨hlabel₁, hparts₁⟩ := plain_iff.mp h₁
  obtain ⟨hlabel₂, hparts₂⟩ := plain_iff.mp h₂
  have hoperand (part : Expr) (hpart : part ∈ e₁.parts) (other : Expr) (hother : other ∈ e₂.parts)
      (heq : part.operandChars t = other.operandChars t) : part = other :=
    ih part hpart other (hparts₂ other hother)
      (chars_eq_of_operandChars_eq (hparts₁ part hpart) (hparts₂ other hother) heq)
  have harguments (heq : argumentChars t e₁.parts = argumentChars t e₂.parts) :
      e₁.parts = e₂.parts :=
    arguments_eq hparts₁ hparts₂ (fun a ha b hb => ih a ha b (hparts₂ b hb)) heq
  cases e₁ with
  | ident name => exact eq_of_words hlabel₁ hlabel₂ rfl hform.symm (String.toList_inj.mp h)
  | bool value => exact eq_of_words hlabel₁ hlabel₂ rfl hform.symm (String.toList_inj.mp h)
  | builtin which => exact eq_of_words hlabel₁ hlabel₂ rfl hform.symm (String.toList_inj.mp h)
  | int value => exact eq_of_numbers hlabel₁ hlabel₂ rfl hform.symm h
  | float bits => exact eq_of_numbers hlabel₁ hlabel₂ rfl hform.symm h
  | member base name =>
    cases e₂ with
    | member base' name' =>
      obtain ⟨hbase, rfl⟩ := member_cut hlabel₁ hlabel₂ h
      rw [hoperand base (by simp [parts]) base' (by simp [parts]) hbase]
    | _ => cases hform
  | index base position =>
    cases e₂ with
    | index base' position' =>
      have hplain : position'.Plain t := hparts₂ position' (by simp [parts])
      obtain ⟨hbase, hposition⟩ := index_cut (hparts₁ position (by simp [parts])) hplain h
      rw [hoperand base (by simp [parts]) base' (by simp [parts]) hbase,
        ih position (by simp [parts]) position' hplain hposition]
    | _ => cases hform
  | binary op left right =>
    cases e₂ with
    | binary op' left' right' =>
      obtain ⟨rfl, hleft, hright⟩ := binary_cut (hparts₁ left (by simp [parts]))
        (hparts₂ left' (by simp [parts])) h
      rw [hoperand left (by simp [parts]) left' (by simp [parts]) hleft,
        hoperand right (by simp [parts]) right' (by simp [parts]) hright]
    | _ => cases hform
  | neg operand =>
    cases e₂ with
    | neg operand' =>
      rw [chars_neg, chars_neg] at h
      rw [hoperand operand (by simp [parts]) operand' (by simp [parts]) (List.cons.inj h).2]
    | _ => cases hform
  | call name args => exact eq_of_applications hlabel₁ hlabel₂ rfl hform.symm h harguments
  | construct ty args => exact eq_of_applications hlabel₁ hlabel₂ rfl hform.symm h harguments

/-- Plain expressions with the same text are the same. -/
theorem eq_of_chars_eq (h₁ : e₁.Plain t) (h₂ : e₂.Plain t) (h : e₁.chars t = e₂.chars t) :
    e₁ = e₂ := by
  induction e₁ using Expr.induction_parts generalizing e₂ with
  | step e₁ ih =>
    refine eq_of_parts h₁ h₂ h fun part hpart other hother heq => ?_
    exact ih part hpart ((plain_iff.mp h₁).2 part hpart) hother heq

/-- Rendering loses no structure: in either target two plain expressions are printed alike, as a whole
or as an operand, only if they are the same. -/
theorem texts_determine_expressions (t : Target) (e₁ e₂ : Expr) (h₁ : e₁.Plain t) (h₂ : e₂.Plain t) :
    (e₁.text t = e₂.text t ↔ e₁ = e₂) ∧ (e₁.operandText t = e₂.operandText t ↔ e₁ = e₂) := by
  refine ⟨⟨fun htext => ?_, congrArg (text t)⟩, ⟨fun htext => ?_, congrArg (operandText t)⟩⟩
  · exact eq_of_chars_eq h₁ h₂ (congrArg String.toList htext)
  · exact eq_of_chars_eq h₁ h₂ (chars_eq_of_operandChars_eq h₁ h₂ (congrArg String.toList htext))

/-- A component of a vector that is made from a name and a number. -/
def madeComponent : Expr :=
  .member (.construct (.vector 2 .f32) [.ident "b", .float 0x3fc00000]) "x"

/-- A difference with a difference on its left. -/
def groupedLeft : Expr :=
  .binary .sub (.binary .sub (.ident "a") madeComponent) (.index (.ident "c") (.int 2))

/-- A difference with a difference on its right, of the same operands. -/
def groupedRight : Expr :=
  .binary .sub (.ident "a") (.binary .sub madeComponent (.index (.ident "c") (.int 2)))

/-- Two groupings of a difference are printed apart. -/
theorem groupings_are_printed_apart :
    groupedLeft.Plain .wgsl ∧ groupedRight.Plain .wgsl ∧
      groupedLeft.text .wgsl = "(a - vec2<f32>(b, 1.5).x) - c[2]" ∧
      groupedRight.text .wgsl = "a - (vec2<f32>(b, 1.5).x - c[2])" ∧
      groupedLeft.text .wgsl ≠ groupedRight.text .wgsl := by
  have hname (name : String) (h : name ∈ ["a", "b", "c", "x"]) :
      IsIdentifier name ∧ ¬ Reserved .wgsl name := by
    simp only [List.mem_cons, List.not_mem_nil, or_false] at h
    refine ⟨by rcases h with rfl | rfl | rfl | rfl <;> decide, fun hreserved => ?_⟩
    have hlength := hreserved.three_le_length
    rcases h with rfl | rfl | rfl | rfl <;> exact absurd hlength (by decide)
  have hfloat : Float32.isNegative 0x3fc00000 = false ∧
      Float32.magnitude 0x3fc00000 < Float32.infinity := by decide
  have hleft : groupedLeft.Plain .wgsl := by
    simp [Plain, groupedLeft, madeComponent, subexpressions, allSubexpressions, PlainLabel, name?, hname,
      hfloat, ShaderType.width]
  have hright : groupedRight.Plain .wgsl := by
    simp [Plain, groupedRight, madeComponent, subexpressions, allSubexpressions, PlainLabel, name?, hname,
      hfloat, ShaderType.width]
  refine ⟨hleft, hright, by decide +kernel, by decide +kernel, ?_⟩
  rw [ne_eq, (texts_determine_expressions .wgsl groupedLeft groupedRight hleft hright).1]
  simp [groupedLeft, groupedRight, madeComponent]

end Expr

end ComputeKernels.Shader

import ComputeKernels.Text.Blank
import ComputeKernels.Text.Numeral
import ComputeKernels.Text.Parts
import Mathlib.Data.List.Basic
import Mathlib.Data.List.TakeWhile

/-!
# Written numbers

What the readers of a list of numbers accept, said without the readers: the parts between separators,
a text with blanks around it, and the digits of a number after an optional plus sign.

Main definitions:

- `Padded`: a text with blanks before and after another one.
- `IsNatural`: a text that denotes a number in decimal notation.

Main results:

- Theorem `parts_eq_splitOn`: the parts of a text are the lists between its separators.
- Theorem `dropBlankEnds_eq_iff_padded`: a text without blanks is what remains of its padded forms
  only.
- Theorem `numeral?_eq_some_iff`: a numeral is read exactly if it denotes a number below the limit.
- Theorem `isNatural_toString`: a number is printed as a text that denotes it.
-/

namespace ComputeKernels.Text

/-! ## Parts -/

/-- The parts of a text are the lists between its separators. -/
theorem parts_eq_splitOn (separator : Char) (cs : List Char) :
    parts separator cs = cs.splitOn separator := by
  induction cs with
  | nil => rfl
  | cons c cs ih =>
    rw [List.splitOn_cons_eq_if_modifyHead, ← ih]
    by_cases hc : c = separator
    · simp [parts, hc]
    · obtain ⟨part, rest, hparts⟩ := List.exists_cons_of_ne_nil (parts_ne_nil separator cs)
      simp [parts, hc, hparts]

/-! ## Blanks around a text -/

/-- A text with blanks before and after another one. -/
def Padded (middle cs : List Char) : Prop :=
  ∃ before after, (∀ c ∈ before, isBlank c = true) ∧ (∀ c ∈ after, isBlank c = true) ∧
    cs = before ++ (middle ++ after)

/-- Characters are the ones that remain without the blanks at the end, and blanks. -/
theorem exists_append_dropBlankEnd (cs : List Char) :
    ∃ after, (∀ c ∈ after, isBlank c = true) ∧ cs = dropBlankEnd cs ++ after := by
  refine ⟨(cs.reverse.takeWhile isBlank).reverse, fun c hc => ?_, ?_⟩
  · exact List.all_eq_true.mp List.all_takeWhile c (List.mem_reverse.mp hc)
  · rw [dropBlankEnd, ← List.reverse_append, List.takeWhile_append_dropWhile, List.reverse_reverse]

/-- What remains of a text without the blanks at its ends has blanks around it in the text. -/
theorem padded_dropBlankEnds (cs : List Char) : Padded (dropBlankEnds cs) cs := by
  obtain ⟨after, hafter, hcs⟩ := exists_append_dropBlankEnd (cs.dropWhile isBlank)
  refine ⟨cs.takeWhile isBlank, after, List.all_eq_true.mp List.all_takeWhile, hafter, ?_⟩
  rw [dropBlankEnds, ← hcs, List.takeWhile_append_dropWhile]

/-- Blanks in front of a text that starts with another character, or is empty. -/
theorem dropWhile_isBlank_append {blanks cs : List Char} (hblanks : ∀ c ∈ blanks, isBlank c = true)
    (hcs : ∀ c ∈ cs.head?, isBlank c = false) : (blanks ++ cs).dropWhile isBlank = cs := by
  rw [List.dropWhile_append_of_pos hblanks]
  cases cs with
  | nil => rfl
  | cons c cs => rw [List.dropWhile_cons_of_neg (by simp [hcs c rfl])]

/-- A text without blanks is what remains of its padded forms only. -/
theorem dropBlankEnds_eq_iff_padded {middle cs : List Char}
    (hmiddle : ∀ c ∈ middle, isBlank c = false) : dropBlankEnds cs = middle ↔ Padded middle cs := by
  constructor
  · rintro rfl
    exact padded_dropBlankEnds cs
  · rintro ⟨before, after, hbefore, hafter, rfl⟩
    by_cases hne : middle = []
    · -- Nothing but blanks, which all go at once.
      have hall : ∀ c ∈ before ++ (middle ++ after), isBlank c = true := by
        simpa [hne, or_imp, forall_and] using ⟨hbefore, hafter⟩
      rw [dropBlankEnds, List.dropWhile_eq_nil_iff.mpr hall, hne]
      rfl
    · have hstart : ∀ c ∈ (middle ++ after).head?, isBlank c = false := by
        intro c hc
        rw [List.head?_append_of_ne_nil _ hne] at hc
        exact hmiddle c (List.mem_of_mem_head? hc)
      have hend : ∀ c ∈ middle.reverse.head?, isBlank c = false := fun c hc =>
        hmiddle c (List.mem_reverse.mp (List.mem_of_mem_head? hc))
      rw [dropBlankEnds, dropWhile_isBlank_append hbefore hstart, dropBlankEnd, List.reverse_append,
        dropWhile_isBlank_append (by simpa using hafter) hend, List.reverse_reverse]

/-! ## Digits -/

private theorem isBlank_eq_false_of_isDigit {c : Char} (h : c.isDigit = true) :
    isBlank c = false := by
  have hrange : 48 ≤ c.toNat ∧ c.toNat ≤ 57 := by
    simpa [Char.isDigit, UInt32.le_iff_toNat_le] using h
  simp [isBlank]
  omega

/-- One or more digits, and the number that they denote. -/
structure IsDigits (cs : List Char) (n : Nat) : Prop where
  ne_nil : cs ≠ []
  isDigit : ∀ c ∈ cs, c.isDigit = true
  value : Nat.ofDigitChars 10 cs 0 = n

/-- Digits are read one after another into the number that they denote. -/
theorem digitsFrom?_eq_some_iff {value n : Nat} {cs : List Char} :
    digitsFrom? value cs = some n ↔
      (∀ c ∈ cs, c.isDigit = true) ∧ Nat.ofDigitChars 10 cs value = n := by
  induction cs generalizing value with
  | nil => simp [digitsFrom?]
  | cons c cs ih =>
    by_cases hc : c.isDigit = true
    · simp [digitsFrom?, digit?, hc, ih, Nat.ofDigitChars_cons]
    · simp [digitsFrom?, digit?, hc]

private theorem digits?_eq_some_iff {n : Nat} {cs : List Char} :
    digits? cs = some n ↔ IsDigits cs n := by
  rcases cs with _ | ⟨c, cs⟩
  · simp only [digits?, List.isEmpty_nil, if_true]
    exact ⟨nofun, fun h => absurd rfl h.ne_nil⟩
  · simp only [digits?, List.isEmpty_cons, Bool.false_eq_true, if_false, digitsFrom?_eq_some_iff]
    exact ⟨fun h => ⟨List.cons_ne_nil _ _, h.1, h.2⟩, fun h => ⟨h.isDigit, h.value⟩⟩

/-- A number is printed as digits that denote it. -/
theorem isDigits_toString (n : Nat) : IsDigits (toString n).toList n := by
  rw [Nat.toString_eq_ofList_toDigits, String.toList_ofList]
  exact ⟨Nat.toDigits_ne_nil, fun _ => Nat.isDigit_of_mem_toDigits (by decide) (by decide),
    Nat.ofDigitChars_ten_toDigits⟩

/-! ## Numbers -/

/-- A text that denotes a number in decimal notation: one or more digits, with or without a plus
sign in front of them. -/
inductive IsNatural : List Char → Nat → Prop
  | plain {cs : List Char} {n : Nat} (h : IsDigits cs n) : IsNatural cs n
  | signed {cs : List Char} {n : Nat} (h : IsDigits cs n) : IsNatural ('+' :: cs) n

/-- A number is printed as a text that denotes it. -/
theorem isNatural_toString (n : Nat) : IsNatural (toString n).toList n :=
  .plain (isDigits_toString n)

private theorem dropPlus_of_isDigits {cs : List Char} {n : Nat} (h : IsDigits cs n) :
    dropPlus cs = cs := by
  rcases cs with _ | ⟨c, cs⟩
  · rfl
  · have hc : c ≠ '+' := by
      rintro rfl
      exact absurd (h.isDigit '+' List.mem_cons_self) (by decide)
    unfold dropPlus
    split
    · rename_i heq
      exact absurd (List.cons.inj heq).1 hc
    · rfl

private theorem isNatural_iff {cs : List Char} {n : Nat} :
    IsNatural cs n ↔ IsDigits (dropPlus cs) n := by
  constructor
  · rintro (h | h)
    · rwa [dropPlus_of_isDigits h]
    · exact h
  · intro h
    unfold dropPlus at h
    split at h
    · exact .signed h
    · exact .plain h

/-- A numeral is read exactly if it denotes a number below the limit. -/
theorem numeral?_eq_some_iff {limit n : Nat} {cs : List Char} :
    numeral? limit cs = some n ↔ IsNatural cs n ∧ n < limit := by
  rw [numeral?, Option.filter_eq_some_iff, digits?_eq_some_iff, isNatural_iff, decide_eq_true_eq]

namespace IsNatural

variable {cs : List Char} {n : Nat} {c : Char}

/-- A natural number is written in digits, with a plus sign at most. -/
theorem isDigit_or_plus (h : IsNatural cs n) (hc : c ∈ cs) : c.isDigit = true ∨ c = '+' := by
  cases h with
  | plain h => exact .inl (h.isDigit c hc)
  | signed h => exact (List.mem_cons.mp hc).symm.imp_left (h.isDigit c)

/-- A natural number is written without blanks. -/
theorem isBlank_eq_false (h : IsNatural cs n) (hc : c ∈ cs) : isBlank c = false := by
  rcases h.isDigit_or_plus hc with hdigit | rfl
  · exact isBlank_eq_false_of_isDigit hdigit
  · rfl

end IsNatural

end ComputeKernels.Text

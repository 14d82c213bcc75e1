import ComputeKernels.Decimal.Float32
import Mathlib.Algebra.Group.Nat.Defs
import Mathlib.Data.List.Chain

/-!
# Characters of numbers

A number is printed as runs of digits with a point or an exponent between two runs, so it starts and ends
with a digit, and a point or a sign in it stands before a digit.

Main definitions:

- `IsNumeral`: digits, with points and exponents between them.

Main results:

- Theorem `IsNumeral.join`: numerals with a point or an exponent between them are a numeral.
- Theorem `isNumeral_magnitudeText`: a finite magnitude is printed as a numeral.
- Theorem `toList_text`: a number is printed as its magnitude, after a sign if it is negative.
-/

namespace ComputeKernels.Decimal

/-! ## Numerals -/

/-- Digits with points, signs and exponents between them, where a point or a sign stands before a
digit. -/
structure IsNumeral (cs : List Char) : Prop where
  start : ∃ c ∈ cs.head?, c.isDigit = true
  finish : ∀ c ∈ cs.getLast?, c.isDigit = true
  allowed : ∀ c ∈ cs, c.isDigit = true ∨ c ∈ ['.', 'e', '-']
  follows : cs.IsChain fun a b => a ∈ ['.', '-'] → b.isDigit = true

/-- What stands between two runs of digits. -/
def separators : List (List Char) := [['.'], ['e'], ['e', '-']]

/-- A point and a sign are no digits. -/
theorem not_mem_of_isDigit {c : Char} (h : c.isDigit = true) : c ∉ ['.', '-'] := by
  intro hc
  simp only [List.mem_cons, List.not_mem_nil, or_false] at hc
  rcases hc with rfl | rfl <;> exact absurd h (by decide)

namespace IsNumeral

variable {cs xs ys : List Char}

/-- A numeral is not empty. -/
theorem ne_nil (h : IsNumeral cs) : cs ≠ [] := by
  rintro rfl
  simpa using h.start

/-- A numeral does not begin with a minus sign. -/
theorem head?_ne (h : IsNumeral cs) : cs.head? ≠ some '-' := by
  obtain ⟨c, hc, hdigit⟩ := h.start
  rw [Option.mem_def.mp hc]
  rintro heq
  exact absurd hdigit (Option.some.inj heq ▸ by decide)

private theorem of_digits (hne : cs ≠ []) (hdigits : ∀ c ∈ cs, c.isDigit = true) :
    IsNumeral cs where
  start := ⟨cs.head hne, List.head_mem_head? hne, hdigits _ (List.head_mem hne)⟩
  finish c hc := hdigits c (List.mem_of_mem_getLast? hc)
  allowed c hc := .inl (hdigits c hc)
  follows :=
    (List.pairwise_of_forall_mem_list fun a _ b hb (_ : a ∈ ['.', '-']) => hdigits b hb).isChain

/-- Numerals with a point or an exponent between them are a numeral. -/
theorem join (hx : IsNumeral xs) (hy : IsNumeral ys) (marks : List Char)
    (hmarks : marks ∈ separators) : IsNumeral (xs ++ (marks ++ ys)) where
  start := by
    obtain ⟨c, hc, hdigit⟩ := hx.start
    exact ⟨c, by rwa [List.head?_append_of_ne_nil xs hx.ne_nil], hdigit⟩
  finish c hc := by
    rw [← List.append_assoc, List.getLast?_append_of_ne_nil _ hy.ne_nil] at hc
    exact hy.finish c hc
  allowed c hc := by
    rcases List.mem_append.mp hc with hc | hc
    · exact hx.allowed c hc
    rcases List.mem_append.mp hc with hc | hc
    · exact .inr ((by decide : ∀ m ∈ separators, m ⊆ ['.', 'e', '-']) marks hmarks hc)
    · exact hy.allowed c hc
  follows := by
    have hstart : ∀ c ∈ ys.head?, c.isDigit = true := by
      obtain ⟨d, hd, hdigit⟩ := hy.start
      exact fun c hc => Option.mem_unique hd hc ▸ hdigit
    have hmiddle : marks.IsChain fun a b => a ∈ ['.', '-'] → b.isDigit = true :=
      (by decide : ∀ m ∈ separators, m.IsChain fun a b => a ∈ ['.', '-'] → b.isDigit = true)
        marks hmarks
    refine List.isChain_append.mpr ⟨hx.follows, List.isChain_append.mpr
      ⟨hmiddle, hy.follows, fun _ _ c hc _ => hstart c hc⟩, fun a ha _ _ hmark => ?_⟩
    exact absurd hmark (not_mem_of_isDigit (hx.finish a ha))

end IsNumeral

/-! ## Integers -/

/-- Decimal digits are a numeral. -/
theorem isNumeral_digits (n : Nat) : IsNumeral (Nat.toDigits 10 n) :=
  .of_digits Nat.toDigits_ne_nil fun _ => Nat.isDigit_of_mem_toDigits (by decide) (by decide)

/-- The text of a number that is not negative consists of its digits. -/
theorem toList_toString_of_nonneg {n : Int} (h : 0 ≤ n) :
    (toString n).toList = Nat.toDigits 10 n.natAbs := by
  obtain ⟨m, rfl⟩ := Int.eq_ofNat_of_zero_le h
  rw [Int.toString_eq_repr, Int.repr_eq_if, if_pos h, Nat.repr_eq_ofList_toDigits,
    String.toList_ofList]
  rfl

/-- The text of a negative number is a minus sign before the digits. -/
theorem toList_toString_of_neg {n : Int} (h : n < 0) :
    (toString n).toList = '-' :: Nat.toDigits 10 n.natAbs := by
  obtain ⟨m, rfl⟩ := Int.eq_negSucc_of_lt_zero h
  simp [Int.toString_eq_repr, Int.repr, Nat.repr_eq_ofList_toDigits]

/-! ## Decimals -/

namespace Scaled

variable (d : Scaled)

private theorem digits_ne_nil : d.digits ≠ [] := Nat.toDigits_ne_nil

private theorem isDigit_of_mem_digits {c : Char} (h : c ∈ d.digits) : c.isDigit = true :=
  Nat.isDigit_of_mem_toDigits (by decide) (by decide) h

/-- A positional text is two runs of digits with a point between them, which denote the significand in
units of the last place. -/
theorem exists_positional : ∃ whole places : List Char,
    d.positional = whole ++ '.' :: places ∧ whole ≠ [] ∧ places ≠ [] ∧
      (∀ c ∈ whole ++ places, c.isDigit = true) ∧
      ∃ zeros : Nat, (zeros : Int) = d.exponent + places.length ∧
        Nat.ofDigitChars 10 (whole ++ places) 0 = d.significand * 10 ^ zeros := by
  have hdigits : ∀ c ∈ d.digits, c.isDigit = true := fun c => d.isDigit_of_mem_digits
  have hzeros (n : Nat) : ∀ c ∈ List.replicate n '0', c.isDigit = true := fun c hc =>
    List.eq_of_mem_replicate hc ▸ by decide
  have hvalue : Nat.ofDigitChars 10 d.digits 0 = d.significand := Nat.ofDigitChars_ten_toDigits
  have hpoint : d.pointAt = d.digits.length + d.exponent := rfl
  rw [positional]
  split
  · next hsmall =>
    refine ⟨['0'], _, rfl, by simp, by simp [d.digits_ne_nil], ?_, 0, ?_, ?_⟩
    · simpa only [List.forall_mem_append] using ⟨hzeros 1, hzeros _, hdigits⟩
    · rw [List.length_append, List.length_replicate]
      omega
    · rw [List.singleton_append, Nat.ofDigitChars_cons, Nat.ofDigitChars_append,
        Nat.ofDigitChars_replicate_zero]
      simpa using hvalue
  next hlarge =>
  split
  · next hinside =>
    refine ⟨_, _, rfl, ?_, ?_, by rwa [List.take_append_drop], 0, ?_, ?_⟩
    · rw [ne_eq, List.take_eq_nil_iff]
      exact not_or.mpr ⟨by omega, d.digits_ne_nil⟩
    · rw [ne_eq, List.drop_eq_nil_iff]
      omega
    · rw [List.length_drop]
      omega
    · rw [List.take_append_drop, hvalue, Nat.pow_zero, Nat.mul_one]
  · next houtside =>
    refine ⟨d.digits ++ List.replicate (d.pointAt.toNat - d.digits.length) '0', ['0'], rfl,
      by simp [d.digits_ne_nil], by simp, ?_, d.pointAt.toNat - d.digits.length + 1, ?_, ?_⟩
    · simpa only [List.forall_mem_append] using ⟨⟨hdigits, hzeros _⟩, hzeros 1⟩
    · rw [List.length_singleton]
      omega
    · rw [Nat.ofDigitChars_append, Nat.ofDigitChars_append, Nat.ofDigitChars_replicate_zero, hvalue,
        Nat.ofDigitChars_cons, Nat.ofDigitChars_nil, Nat.sub_self, Nat.add_zero, Nat.pow_succ,
        Nat.mul_comm 10, Nat.mul_comm _ d.significand, Nat.mul_assoc]

private theorem isNumeral_positional : IsNumeral d.positional := by
  obtain ⟨whole, places, heq, hwhole, hplaces, hdigits, -⟩ := d.exists_positional
  rw [List.forall_mem_append] at hdigits
  rw [heq]
  exact (IsNumeral.of_digits hwhole hdigits.1).join (.of_digits hplaces hdigits.2) ['.'] (by decide)

/-- A scientific text is the digits, with a point behind the first if there are more, and an
exponent. -/
theorem exists_scientific : ∃ mantissa : List Char,
    d.scientific = mantissa ++ 'e' :: (toString (d.pointAt - 1)).toList ∧ IsNumeral mantissa ∧
      'e' ∉ mantissa ∧ mantissa.filter (· != '.') = d.digits := by
  have hdigits : ∀ c ∈ d.digits, c.isDigit = true := fun c => d.isDigit_of_mem_digits
  have hplain : ∀ c ∈ d.digits, c ≠ 'e' ∧ (c != '.') = true := fun c hc =>
    ⟨fun h => absurd (hdigits c hc) (h ▸ by decide),
      bne_iff_ne.mpr fun h => absurd (hdigits c hc) (h ▸ by decide)⟩
  rw [scientific]
  obtain ⟨first, rest, hsplit⟩ := List.exists_cons_of_ne_nil d.digits_ne_nil
  rw [hsplit, List.forall_mem_cons] at hdigits hplain
  rw [hsplit, List.take_succ_cons, List.take_zero, List.drop_one, List.tail_cons]
  have hrest : rest.filter (· != '.') = rest := List.filter_eq_self.mpr fun c hc => (hplain.2 c hc).2
  have hfirst : IsNumeral [first] := .of_digits (by simp) (by simpa using hdigits.1)
  by_cases hempty : rest = []
  · subst hempty
    exact ⟨[first], by simp, hfirst, by simp [hplain.1.1.symm], by simp [hplain.1.2]⟩
  · refine ⟨[first] ++ '.' :: rest, by simp [hempty], ?_, ?_, ?_⟩
    · exact hfirst.join (.of_digits hempty hdigits.2) ['.'] (by decide)
    · have hnot : 'e' ∉ rest := fun h => (hplain.2 _ h).1 rfl
      simp [hplain.1.1.symm, hnot]
    · simp [hplain.1.2, hrest]

private theorem isNumeral_scientific : IsNumeral d.scientific := by
  obtain ⟨mantissa, heq, hmantissa, -⟩ := d.exists_scientific
  rw [heq]
  by_cases hneg : d.pointAt - 1 < 0
  · rw [toList_toString_of_neg hneg]
    exact hmantissa.join (isNumeral_digits _) ['e', '-'] (by decide)
  · rw [toList_toString_of_nonneg (Int.not_lt.mp hneg)]
    exact hmantissa.join (isNumeral_digits _) ['e'] (by decide)

end Scaled

/-! ## Numbers in 32 bits -/

namespace Float32

/-- The decimal that a finite magnitude is printed as. -/
def decimalOf (magnitude : UInt32) : Scaled := if magnitude = 0 then ⟨0, 0⟩ else shortest magnitude

/-- A finite magnitude is printed positionally or with an exponent. -/
theorem magnitudeText_eq {m : UInt32} (h : m < infinity) :
    magnitudeText m = (decimalOf m).positional ∨ magnitudeText m = (decimalOf m).scientific := by
  rw [magnitudeText, decimalOf]
  split
  · exact .inl rfl
  · rw [if_neg (by rintro rfl; exact UInt32.lt_irrefl _ h)]
    split
    · exact .inr rfl
    · exact .inl rfl

/-- The text of a finite magnitude is a numeral. -/
theorem isNumeral_magnitudeText {m : UInt32} (h : m < infinity) : IsNumeral (magnitudeText m) := by
  rcases magnitudeText_eq h with heq | heq
  · exact heq ▸ Scaled.isNumeral_positional _
  · exact heq ▸ Scaled.isNumeral_scientific _

/-- A number is printed as its magnitude, after a sign if it is negative. -/
theorem toList_text (bits : UInt32) :
    (text bits).toList =
      if infinity < magnitude bits then ['N', 'a', 'N']
      else if isNegative bits then '-' :: magnitudeText (magnitude bits)
      else magnitudeText (magnitude bits) := by
  rw [text]
  split
  · rfl
  · rw [String.toList_ofList]
    split <;> rfl

/-- The text of a finite float without a sign is that of its magnitude. -/
theorem toList_text_of_sign {bits : UInt32} (hsign : isNegative bits = false)
    (hfinite : magnitude bits < infinity) :
    (text bits).toList = magnitudeText (magnitude bits) := by
  rw [toList_text, if_neg (UInt32.not_lt.mpr (UInt32.le_of_lt hfinite)), if_neg (by simp [hsign])]

end Float32

end ComputeKernels.Decimal

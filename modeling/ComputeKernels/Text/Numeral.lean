/-!
# Numerals

Unsigned decimal numerals: one or more ASCII digits, after an optional plus sign, that denote a
number below a limit.

Main results:

- Theorem `numeral?_lt`: a numeral that is read is below the limit.
-/

namespace ComputeKernels.Text

/-- Value of a character as a decimal digit. -/
def digit? (c : Char) : Option Nat :=
  if c.isDigit then some (c.toNat - '0'.toNat) else none

/-- Value of a list of digits after a number that has been read so far. -/
def digitsFrom? (value : Nat) : List Char → Option Nat
  | [] => some value
  | c :: cs =>
    match digit? c with
    | some d => digitsFrom? (10 * value + d) cs
    | none => none

/-- Value of one or more digits. -/
def digits? (cs : List Char) : Option Nat := if cs.isEmpty then none else digitsFrom? 0 cs

/-- Characters without a leading plus sign. -/
def dropPlus : List Char → List Char
  | '+' :: cs => cs
  | cs => cs

/-- Value of a numeral below a limit. -/
def numeral? (limit : Nat) (cs : List Char) : Option Nat :=
  (digits? (dropPlus cs)).filter (decide <| · < limit)

/-- A numeral that is read is below the limit. -/
theorem numeral?_lt {limit n : Nat} {cs : List Char} (h : numeral? limit cs = some n) :
    n < limit := by
  simp only [numeral?, Option.filter_eq_some_iff, decide_eq_true_eq] at h
  exact h.2

end ComputeKernels.Text

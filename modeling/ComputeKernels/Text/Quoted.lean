import ComputeKernels.Text.Visible

/-!
# Quoted text

Text between double quotes, in which every character is visible.  Quotes and backslashes follow a
backslash, the common controls have short names, and any other invisible character is given by its
code point.

Main results:

- Theorem `escape_of_visible`: a visible character other than a quote or a backslash stands for
  itself.
-/

namespace ComputeKernels.Text

/-- A character by its code point, in lower-case hexadecimal digits between braces. -/
def codePoint (c : Char) : List Char :=
  ['\\', 'u', '\x7b'] ++ Nat.toDigits 16 c.toNat ++ ['\x7d']

/-- Characters that stand for one character inside quotes. -/
def escape (c : Char) : List Char :=
  if c = '\x00' then ['\\', '0']
  else if c = '\t' then ['\\', 't']
  else if c = '\r' then ['\\', 'r']
  else if c = '\n' then ['\\', 'n']
  else if c = '"' ∨ c = '\\' then ['\\', c]
  else if isVisible c then [c]
  else codePoint c

/-- A visible character other than a quote or a backslash stands for itself. -/
theorem escape_of_visible {c : Char} (h : isVisible c = true) (quote : c ≠ '"')
    (backslash : c ≠ '\\') : escape c = [c] := by
  have hne : ∀ d : Char, isVisible d = false → c ≠ d := by
    rintro d hd rfl
    exact absurd (hd.symm.trans h) (by decide)
  simp [escape, hne '\x00' rfl, hne '\t' rfl, hne '\r' rfl, hne '\n' rfl, quote, backslash, h]

/-- Text between double quotes. -/
def quoted (s : String) : String :=
  "\"" ++ String.ofList (s.toList.flatMap escape) ++ "\""

end ComputeKernels.Text

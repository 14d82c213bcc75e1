/-!
# Words and bytes

Device memory holds 32-bit words, least significant byte first.  Sizes of allocations are rounded up
to whole multiples of an alignment.  Numbers of the host have 64 bits, and a product that does not fit
keeps its low bits, as in a build that does not check its arithmetic.

Current gaps:

- Only products wrap.  Counters, ids and sums are numbers without a bound: they count events or bytes
  one after the other, and no program lives long enough for them to need more than 64 bits.
- In a build that checks its arithmetic a product that does not fit stops the program instead.  Of such
  builds only the generation of code is described.
-/

namespace ComputeKernels

/-! ## Bytes of a word -/

namespace Word

/-- The four bytes of a word, least significant first. -/
def bytes (w : UInt32) : List UInt8 :=
  [w.toUInt8, (w >>> 8).toUInt8, (w >>> 16).toUInt8, (w >>> 24).toUInt8]

/-- The word with four given bytes. -/
def ofBytes (a b c d : UInt8) : UInt32 :=
  a.toUInt32 ||| b.toUInt32 <<< 8 ||| c.toUInt32 <<< 16 ||| d.toUInt32 <<< 24

/-- Bytes of a list of words. -/
def listBytes (ws : List UInt32) : List UInt8 := ws.flatMap bytes

/-- Words of a list of bytes; a last incomplete word is dropped. -/
def ofListBytes : List UInt8 → List UInt32
  | a :: b :: c :: d :: rest => ofBytes a b c d :: ofListBytes rest
  | _ => []

@[simp]
theorem length_bytes (w : UInt32) : (bytes w).length = 4 :=
  rfl

@[simp]
theorem length_listBytes (ws : List UInt32) : (listBytes ws).length = 4 * ws.length := by
  induction ws with
  | nil => rfl
  | cons w ws ih =>
    have hcons : listBytes (w :: ws) = bytes w ++ listBytes ws := List.flatMap_cons
    rw [hcons, List.length_append, length_bytes, ih, List.length_cons]
    omega

/-! ## Numbers of the host -/

/-- What a machine number keeps of a product: its low 64 bits. -/
def wrap (n : Nat) : Nat := n % UInt64.size

/-- What a machine number with a sign keeps of a product. -/
def wrapSigned (n : Int) : Int := n.bmod UInt64.size

end Word

/-! ## Alignment -/

/-- Bytes or words missing to the next multiple of an alignment. -/
def gapTo (alignment offset : Nat) : Nat := (alignment - offset % alignment) % alignment

/-- Least multiple of an alignment that is not below a number. -/
def alignUp (alignment n : Nat) : Nat := n + gapTo alignment n

end ComputeKernels

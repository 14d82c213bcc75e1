/-!
# Buffer usages

A buffer is created for a set of usages, written as bits.  Two buffers can stand in for each other
only if their usages are equal, so the set is part of the key under which buffers are pooled.
-/

namespace ComputeKernels

/-- Set of usages that a buffer was created for. -/
structure BufferUsage where
  bits : Nat
deriving DecidableEq

namespace BufferUsage

/-- Union of two sets of usages. -/
def union (a b : BufferUsage) : BufferUsage := ⟨a.bits ||| b.bits⟩

/-- The host may map the buffer for reading. -/
def mapRead : BufferUsage := ⟨1⟩

/-- The buffer may be the source of a copy. -/
def copySource : BufferUsage := ⟨4⟩

/-- The buffer may be the destination of a copy or a queue write. -/
def copyTarget : BufferUsage := ⟨8⟩

/-- The buffer may hold a uniform block. -/
def uniform : BufferUsage := ⟨64⟩

/-- The buffer may hold a storage array. -/
def storage : BufferUsage := ⟨128⟩

/-! ## Text -/

/-- Names of the known usages, from bit zero upward. -/
def flagNames : List String :=
  ["MAP_READ", "MAP_WRITE", "COPY_SRC", "COPY_DST", "INDEX", "VERTEX", "UNIFORM", "STORAGE",
    "INDIRECT", "QUERY_RESOLVE"]

/-- Names of the known usages in a set, in bit order. -/
def knownNames (u : BufferUsage) : List String :=
  flagNames.zipIdx.filterMap fun (name, bit) => if u.bits.testBit bit then some name else none

/-- Hexadecimal text of a number, as in `0x1000`. -/
def hexText (n : Nat) : String := "0x" ++ String.ofList (Nat.toDigits 16 n)

/-- Text of a set: known names in bit order, then the unknown bits as one hexadecimal number. -/
def text (u : BufferUsage) : String :=
  let unknown := u.bits >>> flagNames.length <<< flagNames.length
  let parts := u.knownNames ++ (if unknown = 0 then [] else [hexText unknown])
  "BufferUsages(" ++ (if parts.isEmpty then hexText 0 else " | ".intercalate parts) ++ ")"

end BufferUsage

end ComputeKernels

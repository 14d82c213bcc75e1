import ComputeKernels.Uniform.Field

/-!
# Packing of uniform fields

Fields start on the alignment of their width: one word, two words, or four words for three and four
components.  These are the rules of uniform blocks in both shading languages, so the packed words lie
where the members of the declared block are.
-/

namespace ComputeKernels.Uniform

/-- Alignment, in words, of a field with some number of components. -/
def alignment (width : Nat) : Except KernelError Nat :=
  match width with
  | 1 => .ok 1
  | 2 => .ok 2
  | 3 => .ok 4
  | 4 => .ok 4
  | other => .error (.uniformMismatch (.componentCount other))

/-- Fields with fillers before each one that would not start on its alignment, the first of them at
a word offset. -/
def padFrom (offset : Nat) : List Field → Except KernelError (List Field)
  | [] => .ok []
  | f :: rest => do
    let aligned ← alignment f.stored.width
    let gap := gapTo aligned offset
    let tail ← padFrom (offset + gap + f.stored.width) rest
    return List.replicate gap Field.filler ++ f.stored :: tail

/-- Fields with the fillers that put each on its alignment. -/
def pad (fields : List Field) : Except KernelError (List Field) := padFrom 0 fields

/-- Bytes of a uniform block. -/
def pack (fields : List Field) : Except KernelError (List UInt8) := do
  return (← pad fields).flatMap Field.bytes

end ComputeKernels.Uniform

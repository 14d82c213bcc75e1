import ComputeKernels.Error
import ComputeKernels.Word

/-!
# Uniform fields

The parameters of a dispatch reach the shader as a block of small fields, each one to four words of
one kind.  Extents are exact numbers on the host and are cut to 32 bits when they become words.

Current gaps:

- Extents and strides are exact until they become words.  A product that wraps on the host has the same
  low 32 bits, so the words do not depend on this.
-/

namespace ComputeKernels.Uniform

/-- Words of one uniform field. -/
structure Field where
  kind : UniformKind
  words : List UInt32
deriving DecidableEq

namespace Field

/-- Number of components. -/
def width (f : Field) : Nat := f.words.length

/-- Bytes of a field, without padding. -/
def bytes (f : Field) : List UInt8 := Word.listBytes f.words

/-- One signed word. -/
def ofWord (w : UInt32) : Field := ⟨.int32, [w]⟩

/-- A word between two fields that no member of the block names. -/
def filler : Field := ofWord 0

/-- The field as it is stored: an empty one becomes the single number one, so that the shape and the
strides of tensors of low rank have a place in the block. -/
def stored (f : Field) : Field := if f.words.isEmpty then ofWord 1 else f

end Field

/-! ## Contents before they become words -/

/-- What a field is to hold. -/
inductive Content
  /-- The quiet value that is not a number. -/
  | notANumber
  /-- Exact extents, strides or counts. -/
  | counts (values : List Nat)
  /-- Words supplied by the caller. -/
  | given (field : Field)
deriving DecidableEq

/-- Bits of the quiet value that is not a number. -/
def notANumberBits : UInt32 := 0x7fc00000

/-- Field that holds some contents; counts are cut to 32 bits. -/
def Content.field : Content → Field
  | notANumber => ⟨.float32, [notANumberBits]⟩
  | counts values => ⟨.int32, values.map UInt32.ofNat⟩
  | given field => field

end ComputeKernels.Uniform

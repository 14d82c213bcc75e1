import ComputeKernels.Error
import ComputeKernels.Word

/-!
# Host values

Values of a tensor on the host, and the words that stand for them on the device.  Floats are kept as
bits, so that none of them changes on the way.  Complex values are interleaved pairs of a real and an
imaginary float, and have no device form of their own.

Current gaps:

- Lists of values have any length.  A product with their length therefore does not wrap unless the
  caller says what a machine number keeps of it, as reads do.
- Floats are bits: nothing is computed with them.
-/

namespace ComputeKernels.Tensor

/-- Values by element type; floats are given by their bits. -/
inductive Values
  | float32 (bits : List UInt32)
  | int32 (values : List Int32)
  | bool (values : List Bool)
  | complex64 (bits : List UInt32)
deriving DecidableEq

namespace Values

/-- Element type of values. -/
def element : Values → ElementType
  | float32 _ => .float32
  | int32 _ => .int32
  | bool _ => .bool
  | complex64 _ => .complex64

/-- Number of elements; a complex element is a pair. -/
def count : Values → Nat
  | float32 bits => bits.length
  | int32 values => values.length
  | bool values => values.length
  | complex64 bits => bits.length / 2

/-- No values of an element type. -/
def none : ElementType → Values
  | .float32 => float32 []
  | .int32 => int32 []
  | .bool => bool []
  | .complex64 => complex64 []

/-! ## Device form -/

/-- Word that stands for a truth value. -/
def boolWord (b : Bool) : UInt32 := if b then 1 else 0

/-- Words that stand for values on the device. -/
def deviceWords : Values → Except KernelError (List UInt32)
  | float32 bits => .ok bits
  | int32 values => .ok (values.map Int32.toUInt32)
  | bool values => .ok (values.map boolWord)
  | complex64 _ => .error (.unsupportedElement .complex64 .deviceUpload)

/-- Bytes that stand for values on the device. -/
def deviceBytes (v : Values) : Except KernelError (List UInt8) := do
  return Word.listBytes (← v.deviceWords)

/-- Values that words stand for; every word but zero is true. -/
def ofDeviceWords (element : ElementType) (words : List UInt32) : Except KernelError Values :=
  match element with
  | .float32 => .ok (float32 words)
  | .int32 => .ok (int32 (words.map UInt32.toInt32))
  | .bool => .ok (bool (words.map (· != 0)))
  | .complex64 => .error (.unsupportedElement .complex64 .deviceReadback)

/-- The first `count` values in some bytes, where `keep` is what is kept of the number of their
bytes. -/
def ofDeviceBytes (element : ElementType) (bytes : List UInt8) (count : Nat)
    (keep : Nat → Nat := id) : Except KernelError Values :=
  let byteCount := keep (4 * count)
  if bytes.length < byteCount then .error (.readback (.tooShort byteCount bytes.length))
  else ofDeviceWords element (Word.ofListBytes (bytes.take byteCount))

/-! ## Complex values -/

/-- Pairs from a list of real and a list of imaginary parts. -/
def interleave : List UInt32 → List UInt32 → List UInt32
  | r :: rs, i :: is => r :: i :: interleave rs is
  | _, _ => []

/-- Every second float, from the first on. -/
def evens : List UInt32 → List UInt32
  | [] => []
  | [x] => [x]
  | x :: _ :: rest => x :: evens rest

/-- Complex values from their parts, which must be floats of equal number. -/
def ofParts (real imag : Values) : Except KernelError Values :=
  match real, imag with
  | float32 re, float32 im =>
    if re.length = im.length then .ok (complex64 (interleave re im))
    else .error (.unsupportedLayout .complexKinds)
  | _, _ => .error (.unsupportedLayout .complexKinds)

/-- Real and imaginary parts of interleaved floats. -/
def parts (bits : List UInt32) : Except KernelError (List UInt32 × List UInt32) :=
  if bits.length % 2 = 0 then .ok (evens bits, evens bits.tail)
  else .error (.unsupportedLayout (.oddSplit bits.length))

/-! ## Shapes -/

/-- Whether values are whole pairs where they are complex. -/
def checkPairs : Values → Except KernelError Unit
  | complex64 bits =>
    if bits.length % 2 = 0 then .ok () else .error (.unsupportedLayout (.oddPairs bits.length))
  | _ => .ok ()

/-- Accepts values that are as many as the elements of a shape, as the host counts them. -/
def checkShape (v : Values) (s : Shape) : Except KernelError Unit := do
  v.checkPairs
  if v.count = Shape.count s then .ok ()
  else .error (.unsupportedLayout (.valueCount v.count s))

end Values

end ComputeKernels.Tensor

import ComputeKernels.Buffer.Pool
import ComputeKernels.Config.Basic
import ComputeKernels.Pipeline.Binding
import ComputeKernels.Shader.Assembly

/-!
# Commands to a device

Everything that a backend asks of a device, as data: the objects that it creates, the work that it
collects in encoders, and the transfers between the host and device buffers.
-/

namespace ComputeKernels

/-- A compiled shader under its label. -/
structure Pipeline.Compiled where
  label : String
  source : Shader.Source
deriving DecidableEq

namespace Device

/-! ## Work -/

/-- One run of a pipeline over a grid of workgroups. -/
structure Pass where
  /-- Label of the program. -/
  label : String
  pipeline : Pipeline.Compiled
  grid : Grid
  /-- Buffers by slot: output, operands, uniform block. -/
  bindings : List Buffer.BufferId
  inputs : List TensorId
  output : TensorId
  /-- Bytes of the uniform block. -/
  uniforms : List UInt8
  /-- Bytes that the run puts at the start of the output buffer.  What a shader computes is not part
  of this library, so they are given from outside. -/
  stores : List UInt8
deriving DecidableEq

/-- Work that an encoder collects. -/
inductive Work
  | compute (pass : Pass)
  | copy (source target : Buffer.BufferId) (size : Nat)
deriving DecidableEq

/-! ## Commands -/

/-- What an encoder is opened for. -/
inductive Purpose
  | batch
  | readback
deriving DecidableEq

/-- Label of an encoder. -/
def Purpose.label : Purpose → String
  | batch => "tessel-batch-encoder"
  | readback => "tessel-readback-encoder"

/-- Label of the description of the slots of a program. -/
def slotsLabel (operands : Nat) : String := s!"tessel-program-bgl-{operands}"

/-- Label of the pipeline layout of a program. -/
def layoutLabel (operands : Nat) : String := s!"tessel-program-pl-{operands}"

/-- Commands in the order in which a device gets them. -/
inductive Command
  | findAdapter (power : Config.PowerPreference) (fallback : Bool)
  | createBuffer (buffer : Buffer.BufferId) (key : Buffer.PoolKey)
  | destroyBuffer (buffer : Buffer.BufferId)
  /-- Creates the slots and the pipeline layout of programs with some number of operands. -/
  | createLayout (operands : Nat) (entries : List Pipeline.LayoutEntry)
  /-- Creates a shader and a pipeline from it. -/
  | compile (pipeline : Pipeline.Compiled)
  | bind (bindings : List Buffer.BufferId)
  | openEncoder (purpose : Purpose)
  | record (work : Work)
  /-- Writes bytes to the start of a buffer, at once. -/
  | write (buffer : Buffer.BufferId) (bytes : List UInt8)
  | submit (work : List Work)
  | map (buffer : Buffer.BufferId) (size : Nat)
  | unmap (buffer : Buffer.BufferId)
deriving DecidableEq

end Device

end ComputeKernels

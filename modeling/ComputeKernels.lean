import ComputeKernels.Element
import ComputeKernels.Text.Sequence
import ComputeKernels.Shape.Basic
import ComputeKernels.Shape.Index
import ComputeKernels.Shape.Broadcast
import ComputeKernels.Dispatch.Layout
import ComputeKernels.Dispatch.Partition
import ComputeKernels.Dispatch.Root
import ComputeKernels.Dispatch.Counts
import ComputeKernels.Dispatch.SymbolicStride
import ComputeKernels.Buffer.Usage
import ComputeKernels.Error
import ComputeKernels.Word
import ComputeKernels.Buffer.Size
import ComputeKernels.Uniform.Field
import ComputeKernels.Uniform.Packing
import ComputeKernels.Decimal.Shortest
import ComputeKernels.Decimal.Float32
import ComputeKernels.Text.Blank
import ComputeKernels.Program.Basic
import ComputeKernels.Program.Validity
import ComputeKernels.Program.Uniforms
import ComputeKernels.Program.Operation
import ComputeKernels.Program.ReadyMade
import ComputeKernels.Shader.Syntax
import ComputeKernels.Shader.Spelling
import ComputeKernels.Shader.Printer
import ComputeKernels.Shader.Numerics
import ComputeKernels.Shader.Coordinates
import ComputeKernels.Shader.Samplers
import ComputeKernels.Shader.Assembly
import ComputeKernels.Table
import ComputeKernels.Buffer.Pool
import ComputeKernels.Pipeline.Binding
import ComputeKernels.Pipeline.Key
import ComputeKernels.Pipeline.Cache
import ComputeKernels.Submission.Batch
import ComputeKernels.Tensor.Values
import ComputeKernels.Tensor.Registry
import ComputeKernels.Metrics
import ComputeKernels.Text.Visible
import ComputeKernels.Text.Quoted
import ComputeKernels.Text.Numeral
import ComputeKernels.Config.Basic
import ComputeKernels.Config.Overrides
import ComputeKernels.Toml.Value
import ComputeKernels.Toml.Blanks
import ComputeKernels.Toml.Text
import ComputeKernels.Toml.Scalar
import ComputeKernels.Toml.Document
import ComputeKernels.Config.Reading
import ComputeKernels.Logging.Level
import ComputeKernels.Device.Command
import ComputeKernels.Device.Memory
import ComputeKernels.Device.Basic
import ComputeKernels.Backend.Basic
import ComputeKernels.Backend.Tensors
import ComputeKernels.Backend.Disposal
import ComputeKernels.Backend.Submission
import ComputeKernels.Backend.Dispatch
import ComputeKernels.Backend.Readback
import ComputeKernels.Backend.Session
import ComputeKernels.Text.Parts
import ComputeKernels.Logging.Filter
import ComputeKernels.Logging.Record
import ComputeKernels.Logging.Bridge
import ComputeKernels.Text.Alphanumeric
import ComputeKernels.Text.Cut
import ComputeKernels.Text.Category
import ComputeKernels.Text.Folding
import ComputeKernels.Text.Pattern.CharacterClass
import ComputeKernels.Text.Pattern.Basic
import ComputeKernels.Text.Pattern.Alternatives
import ComputeKernels.Text.Pattern.Settings
import ComputeKernels.Text.Pattern.Escape
import ComputeKernels.Text.Pattern.Bracket
import ComputeKernels.Text.Pattern.Notation
import ComputeKernels.Text.Real
import ComputeKernels.Decimal.Float64
import ComputeKernels.Proofs.Success
import ComputeKernels.Proofs.Failures
import ComputeKernels.Proofs.Program.Acceptance
import ComputeKernels.Proofs.Program.Recipe
import ComputeKernels.Proofs.Uniform.Placement
import ComputeKernels.Proofs.Uniform.Block
import ComputeKernels.Proofs.Pipeline.Sharing
import ComputeKernels.Proofs.Table.Entries
import ComputeKernels.Proofs.Buffer.Ledger
import ComputeKernels.Proofs.Buffer.Requests
import ComputeKernels.Proofs.Device.Contents
import ComputeKernels.Proofs.Tensor.Holdings
import ComputeKernels.Proofs.Tensor.References
import ComputeKernels.Proofs.Tensor.ValueCounts
import ComputeKernels.Proofs.Backend.Moves
import ComputeKernels.Proofs.Backend.Ownership
import ComputeKernels.Proofs.Backend.Parallel
import ComputeKernels.Proofs.Backend.Leads
import ComputeKernels.Proofs.Backend.Tensors
import ComputeKernels.Proofs.Backend.Dispatch
import ComputeKernels.Proofs.Backend.Readback
import ComputeKernels.Proofs.Backend.Sessions
import ComputeKernels.Proofs.Backend.Hazards
import ComputeKernels.Proofs.Backend.Accounts
import ComputeKernels.Proofs.Backend.Conservation
import ComputeKernels.Proofs.Backend.Views
import ComputeKernels.Proofs.Shader.Evaluation
import ComputeKernels.Proofs.Shape.Positions
import ComputeKernels.Proofs.Shader.Meaning
import ComputeKernels.Proofs.Shader.Indexing
import ComputeKernels.Proofs.Shader.Helpers
import ComputeKernels.Proofs.Shader.Sampling
import ComputeKernels.Proofs.Shader.Totality
import ComputeKernels.Proofs.Dispatch.Coverage
import ComputeKernels.Proofs.Shader.Invocations
import ComputeKernels.Proofs.Backend.Agreement
import ComputeKernels.Proofs.Backend.Upkeep
import ComputeKernels.Proofs.Backend.ParallelRuns
import ComputeKernels.Proofs.Backend.ParallelReads
import ComputeKernels.Proofs.Backend.Batching
import ComputeKernels.Proofs.Backend.Atomicity
import ComputeKernels.Proofs.Backend.Bookkeeping
import ComputeKernels.Proofs.Backend.Settlement
import ComputeKernels.Proofs.Backend.Balance
import ComputeKernels.Proofs.Backend.Parking
import ComputeKernels.Proofs.Backend.Counts
import ComputeKernels.Proofs.Backend.Changes
import ComputeKernels.Proofs.Backend.Journal
import ComputeKernels.Proofs.Backend.Teardown
import ComputeKernels.Proofs.Backend.Flushing
import ComputeKernels.Proofs.Backend.Reads
import ComputeKernels.Proofs.Backend.PairShapes
import ComputeKernels.Proofs.Backend.CleanReads
import ComputeKernels.Proofs.Shape.Reach
import ComputeKernels.Proofs.Shader.ReadBounds
import ComputeKernels.Proofs.Dispatch.Partitions
import ComputeKernels.Proofs.Shader.Typing
import ComputeKernels.Proofs.Shader.CoordinateTypes
import ComputeKernels.Proofs.Shader.WellTyped
import ComputeKernels.Proofs.Pipeline.CacheHistories
import ComputeKernels.Proofs.Submission.Histories
import ComputeKernels.Proofs.Shader.HostAgreement
import ComputeKernels.Proofs.Dispatch.Enumeration
import ComputeKernels.Proofs.Shader.LayoutCoordinates
import ComputeKernels.Proofs.Dispatch.Folding
import ComputeKernels.Proofs.Dispatch.Capacity
import ComputeKernels.Proofs.Backend.Groups
import ComputeKernels.Proofs.Pipeline.Slots
import ComputeKernels.Proofs.Shader.Surplus
import ComputeKernels.Proofs.Buffer.Exchanges
import ComputeKernels.Proofs.Buffer.Possession
import ComputeKernels.Proofs.Buffer.Peaks
import ComputeKernels.Proofs.Buffer.Rollback
import ComputeKernels.Proofs.Shape.Joins
import ComputeKernels.Proofs.Shape.References
import ComputeKernels.Proofs.Shape.Correspondence
import ComputeKernels.Proofs.Words
import ComputeKernels.Proofs.Tensor.DeviceForm
import ComputeKernels.Proofs.Uniform.Padding
import ComputeKernels.Proofs.Dispatch.Outcomes
import ComputeKernels.Proofs.Config.Overlay
import ComputeKernels.Proofs.Decimal.Numerals
import ComputeKernels.Proofs.Decimal.Intervals
import ComputeKernels.Proofs.Text.Nesting
import ComputeKernels.Proofs.Decimal.Distinctness
import ComputeKernels.Proofs.Shader.Subexpressions
import ComputeKernels.Proofs.Shader.MinusSigns
import ComputeKernels.Proofs.Shader.Vocabulary
import ComputeKernels.Proofs.Shader.Forms
import ComputeKernels.Proofs.Shader.Unambiguity
import ComputeKernels.Proofs.Shader.Overflow
import ComputeKernels.Proofs.Shader.FloorDivision
import ComputeKernels.Proofs.Text.Naturals
import ComputeKernels.Proofs.Config.Workgroups

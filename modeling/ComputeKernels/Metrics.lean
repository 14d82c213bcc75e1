/-!
# Metrics

Counters of what a backend has done.  They are 64-bit words and wrap around.
-/

namespace ComputeKernels

/-- Counters of a backend. -/
structure Metrics where
  dispatches : UInt64 := 0
  submissions : UInt64 := 0
  uploadBytes : UInt64 := 0
  downloadBytes : UInt64 := 0
  pipelineHits : UInt64 := 0
  pipelineMisses : UInt64 := 0
deriving DecidableEq

namespace Metrics

/-- Events that are counted. -/
inductive Event
  | dispatch
  | submission
  | upload (bytes : Nat)
  | download (bytes : Nat)
  | hit
  | miss
  | reset

/-- Counts an event. -/
def count (m : Metrics) : Event → Metrics
  | .dispatch => { m with dispatches := m.dispatches + 1 }
  | .submission => { m with submissions := m.submissions + 1 }
  | .upload bytes => { m with uploadBytes := m.uploadBytes + UInt64.ofNat bytes }
  | .download bytes => { m with downloadBytes := m.downloadBytes + UInt64.ofNat bytes }
  | .hit => { m with pipelineHits := m.pipelineHits + 1 }
  | .miss => { m with pipelineMisses := m.pipelineMisses + 1 }
  | .reset => {}

end Metrics

end ComputeKernels

import ComputeKernels.Program.Basic
import ComputeKernels.Text.Sequence

/-!
# Configuration

The settings of a backend, their defaults, and the values that are put in place of useless ones.

Main results:

- Theorem `normalize_normalize`: normalising a second time changes nothing and gives no notice.
-/

namespace ComputeKernels.Config

/-! ## Settings -/

/-- Kind of adapter that is asked for. -/
inductive PowerPreference
  | highPerformance
  | lowPower
  | none
deriving DecidableEq

namespace PowerPreference

/-- Written name of a preference. -/
def name : PowerPreference → String
  | highPerformance => "high-performance"
  | lowPower => "low-power"
  | none => "none"

/-- The preference with a given written name. -/
def ofName? : String → Option PowerPreference
  | "high-performance" => some highPerformance
  | "low-power" => some lowPower
  | "none" => some none
  | _ => Option.none

/-- Name of a preference in a request to a device. -/
def requestName : PowerPreference → String
  | highPerformance => "HighPerformance"
  | lowPower => "LowPower"
  | none => "None"

end PowerPreference

/-- Largest grid extent that every device supports. -/
def defaultMaxDispatch : Nat := 65535

/-- Settings of a backend. -/
structure Settings where
  /-- Compute passes that are recorded before they are submitted. -/
  batchSize : Nat := 15
  /-- Whether small workloads on the host may stay there. -/
  cpuForward : Bool := true
  /-- Inputs with fewer elements than this may stay on the host. -/
  cpuThreshold : Nat := 128
  target : Target := .wgsl
  power : PowerPreference := .highPerformance
  forceFallback : Bool := false
  /-- Workgroup extents of ready-made programs. -/
  workgroup : Grid := defaultWorkgroup
  /-- Limit of the grid extents. -/
  maxDispatch : Nat := defaultMaxDispatch
deriving DecidableEq

/-! ## Notices -/

/-- Reasons for a warning about the configuration. -/
inductive Notice
  | notInteger (variableName quotedValue : String)
  | notBoolean (variableName quotedValue : String)
  | notPower (variableName quotedValue : String)
  | notWorkgroup (variableName quotedValue : String)
  | zeroBatch
  | zeroWorkgroup (given : Grid)
deriving DecidableEq

/-- Wording of a notice. -/
def Notice.text : Notice → String
  | notInteger name value => s!"ignoring {name}={value}: not an integer"
  | notBoolean name value => s!"ignoring {name}={value}: not a boolean"
  | notPower name value =>
    s!"ignoring {name}={value}: expected high-performance, low-power or none"
  | notWorkgroup name value => s!"ignoring {name}={value}: expected x[,y[,z]]"
  | zeroBatch => "deferred-submit-batch-size of 0 treated as 1"
  | zeroWorkgroup given =>
    s!"workgroup-size {given.text} has a zero extent; using {defaultWorkgroup.text}"

/-! ## Normal form -/

/-- Whether a workgroup extent is zero. -/
def hasZeroExtent (g : Grid) : Bool := g.toList.any (· == 0)

namespace Settings

/-- Settings with useful values in place of zeros. -/
def normalized (s : Settings) : Settings :=
  { s with
    batchSize := if s.batchSize = 0 then 1 else s.batchSize
    workgroup := if hasZeroExtent s.workgroup then defaultWorkgroup else s.workgroup
    maxDispatch := if s.maxDispatch = 0 then defaultMaxDispatch else s.maxDispatch }

/-- Warnings about the zeros that normalising replaces; the limit is replaced silently. -/
def normalNotices (s : Settings) : List Notice :=
  (if s.batchSize = 0 then [.zeroBatch] else []) ++
    (if hasZeroExtent s.workgroup then [.zeroWorkgroup s.workgroup] else [])

/-- Normalises settings after some notices. -/
def normalize (state : Settings × List Notice) : Settings × List Notice :=
  (state.1.normalized, state.2 ++ state.1.normalNotices)

/-- Normal settings stay as they are. -/
theorem normalized_normalized (s : Settings) : s.normalized.normalized = s.normalized := by
  have hgroup : hasZeroExtent defaultWorkgroup = false := rfl
  simp only [normalized, defaultMaxDispatch]
  congr 1 <;> grind

/-- Normal settings give no notices. -/
theorem normalNotices_normalized (s : Settings) : s.normalized.normalNotices = [] := by
  have hgroup : hasZeroExtent defaultWorkgroup = false := rfl
  simp only [normalNotices, normalized]
  grind

/-- Normalising a second time changes nothing and gives no notice. -/
theorem normalize_normalize (state : Settings × List Notice) :
    normalize (normalize state) = normalize state := by
  simp [normalize, normalized_normalized, normalNotices_normalized]

end Settings

end ComputeKernels.Config

import ComputeKernels.Config.Basic
import ComputeKernels.Text.Blank
import ComputeKernels.Text.Numeral
import ComputeKernels.Text.Parts
import ComputeKernels.Text.Quoted

/-!
# Overrides

Six settings can be overridden by named variables.  A variable that is present and can be read
replaces its setting; one that cannot be read is ignored with a notice.  Afterwards the settings are
normalised.
-/

namespace ComputeKernels.Config

open Text

/-! ## Reading values -/

/-- Numbers of 64 bits are below this. -/
def word64 : Nat := UInt64.size

/-- Numbers of 32 bits are below this. -/
def word32 : Nat := UInt32.size

/-- Text without blanks at its ends and with ASCII letters in lower case.  No other letter has a
lower case that occurs in the words that are compared with it. -/
def folded (raw : String) : String := (trim raw).toLower

/-- Reads a number of 64 bits. -/
def parseNumber? (raw : String) : Option Nat := numeral? word64 (trim raw).toList

/-- Reads a truth value. -/
def parseBool? (raw : String) : Option Bool :=
  let word := folded raw
  if ["1", "true", "yes", "on"].contains word then some true
  else if ["0", "false", "no", "off", ""].contains word then some false
  else none

/-- Reads a preference for an adapter, which has short names here. -/
def parsePower? (raw : String) : Option PowerPreference :=
  let word := folded raw
  if ["high-performance", "high", "performance"].contains word then some .highPerformance
  else if ["low-power", "low"].contains word then some .lowPower
  else if ["none", "default"].contains word then some .none
  else none

/-- Reads a positive number of 32 bits with blanks around it. -/
def parseExtent? (part : List Char) : Option Nat :=
  (numeral? word32 (dropBlankEnds part)).filter (· != 0)

/-- Reads one to three positive extents between commas; a missing one is one. -/
def parseWorkgroup? (raw : String) : Option Grid :=
  match parts ',' raw.toList with
  | [x] => do return ⟨← parseExtent? x, 1, 1⟩
  | [x, y] => do return ⟨← parseExtent? x, ← parseExtent? y, 1⟩
  | [x, y, z] => do return ⟨← parseExtent? x, ← parseExtent? y, ← parseExtent? z⟩
  | _ => none

/-! ## Variables -/

/-- Settings that can be overridden. -/
inductive Variable
  | batchSize
  | cpuForward
  | cpuThreshold
  | useGlsl
  | power
  | workgroup
deriving DecidableEq

namespace Variable

/-- All variables, in the order in which they are applied. -/
def all : List Variable := [batchSize, cpuForward, cpuThreshold, useGlsl, power, workgroup]

/-- Name of a variable. -/
def name : Variable → String
  | batchSize => "TESSEL_WEBGPU_DEFERRED_SUBMIT_BATCH_SIZE"
  | cpuForward => "TESSEL_WEBGPU_CPU_FORWARD"
  | cpuThreshold => "TESSEL_WEBGPU_CPU_HANDOFF_SIZE_THRESHOLD"
  | useGlsl => "TESSEL_WEBGPU_USE_GLSL"
  | power => "TESSEL_WEBGPU_POWER_PREFERENCE"
  | workgroup => "TESSEL_WEBGPU_WORKGROUP_SIZE"

/-- Target that the choice between the two shading languages stands for. -/
def targetOf (useGlsl : Bool) : Target := if useGlsl then .glsl else .wgsl

/-- Settings with the value that a text gives to a variable, if it can be read. -/
def assign? (v : Variable) (raw : String) (s : Settings) : Option Settings :=
  match v with
  | batchSize => (parseNumber? raw).map ({ s with batchSize := · })
  | cpuForward => (parseBool? raw).map ({ s with cpuForward := · })
  | cpuThreshold => (parseNumber? raw).map ({ s with cpuThreshold := · })
  | useGlsl => (parseBool? raw).map ({ s with target := targetOf · })
  | power => (parsePower? raw).map ({ s with power := · })
  | workgroup => (parseWorkgroup? raw).map ({ s with workgroup := · })

/-- Notice about a text that cannot be read. -/
def notice (v : Variable) (raw : String) : Notice :=
  match v with
  | batchSize => .notInteger v.name (quoted raw)
  | cpuForward => .notBoolean v.name (quoted raw)
  | cpuThreshold => .notInteger v.name (quoted raw)
  | useGlsl => .notBoolean v.name (quoted raw)
  | power => .notPower v.name (quoted raw)
  | workgroup => .notWorkgroup v.name (quoted raw)

end Variable

/-! ## Applying variables -/

/-- Applies one variable to settings and the notices so far. -/
def applyVariable (lookup : String → Option String) (state : Settings × List Notice)
    (v : Variable) : Settings × List Notice :=
  match lookup v.name with
  | none => state
  | some raw =>
    match v.assign? raw state.1 with
    | some s => (s, state.2)
    | none => (state.1, state.2 ++ [v.notice raw])

/-- Applies all variables and normalises the result. -/
def applyOverrides (lookup : String → Option String) (state : Settings × List Notice) :
    Settings × List Notice :=
  Settings.normalize (Variable.all.foldl (applyVariable lookup) state)

end ComputeKernels.Config

import ComputeKernels.Config.Overrides
import ComputeKernels.Toml.Document

/-!
# Configuration files

Settings can be read from a TOML document.  A key without a setting is ignored, a setting without a
key keeps its default, and a value of the wrong kind makes the whole document invalid.

Current gaps:

- Of the complaints about a document only the outermost message is described.
-/

namespace ComputeKernels.Config

open Toml (Entries Value)

/-! ## Faults -/

/-- Reasons for which no settings are found. -/
inductive Fault
  /-- The text is no document with valid settings. -/
  | invalidText
  /-- The file is missing or holds no text. -/
  | unreadableFile (path : String)
  /-- The file holds no document with valid settings. -/
  | invalidFile (path : String)
deriving DecidableEq

/-- Wording of a fault. -/
def Fault.message : Fault → String
  | invalidText => "Failed to parse backend config (TOML)"
  | unreadableFile path => s!"Failed to read backend config: {path}"
  | invalidFile path => s!"Invalid backend config: {path}"

/-! ## Values of settings -/

/-- A number below a limit. -/
def numberBelow? (limit : Nat) : Value → Option Nat
  | .integer n => if 0 ≤ n ∧ n < limit then some n.toNat else none
  | _ => none

/-- A truth value. -/
def flag? : Value → Option Bool
  | .boolean b => some b
  | _ => none

/-- Whether a value has no parts although its kind can have some. -/
def isHollow : Value → Bool
  | .array items => items.isEmpty
  | .table _ entries => entries.isEmpty
  | _ => false

/-- The name of a choice: a text, or a table with the name as its only key and nothing below it. -/
def choice? : Value → Option String
  | .string name => some name
  | .table _ [(name, below)] => if isHollow below then some name else none
  | _ => none

/-- Three extents; further items of the array are ignored. -/
def extents? : Value → Option Grid
  | .array (x :: y :: z :: _) => do
    return ⟨← numberBelow? word32 x, ← numberBelow? word32 y, ← numberBelow? word32 z⟩
  | _ => none

/-! ## Settings -/

/-- Value that a document gives to a setting, if it has the key, else a default. -/
def setting? {α : Type} (entries : Entries) (key : String) (read : Value → Option α)
    (default : α) : Option α :=
  match entries.find? key with
  | some v => read v
  | none => some default

/-- Settings that a document holds. -/
def Settings.ofEntries? (entries : Entries) : Option Settings := do
  let d : Settings := {}
  let target := fun v => do Target.ofName? (← choice? v)
  let power := fun v => do PowerPreference.ofName? (← choice? v)
  return {
    batchSize := ← setting? entries "deferred-submit-batch-size" (numberBelow? word64) d.batchSize
    cpuForward := ← setting? entries "cpu-forward" flag? d.cpuForward
    cpuThreshold :=
      ← setting? entries "cpu-handoff-size-threshold" (numberBelow? word64) d.cpuThreshold
    target := ← setting? entries "shading-language" target d.target
    power := ← setting? entries "power-preference" power d.power
    forceFallback := ← setting? entries "force-fallback-adapter" flag? d.forceFallback
    workgroup := ← setting? entries "workgroup-size" extents? d.workgroup
    maxDispatch :=
      ← setting? entries "max-dispatch-per-dimension" (numberBelow? word32) d.maxDispatch }

/-- Normalised settings of a text, with notices. -/
def ofText (text : String) : Except Fault (Settings × List Notice) :=
  match Toml.parse? text >>= Settings.ofEntries? with
  | some s => .ok (Settings.normalize (s, []))
  | none => .error .invalidText

/-- The default settings with overrides applied. -/
def ofOverrides (lookup : String → Option String) : Settings × List Notice :=
  applyOverrides lookup ({}, [])

/-- Settings of a file, which may be missing, with overrides applied. -/
def load (path : String) (content : Option ByteArray) (lookup : String → Option String) :
    Except Fault (Settings × List Notice) :=
  match content >>= String.fromUTF8? with
  | none => .error (.unreadableFile path)
  | some text =>
    match ofText text with
    | .ok state => .ok (applyOverrides lookup state)
    | .error _ => .error (.invalidFile path)

end ComputeKernels.Config

import ComputeKernels.Logging.Record
import ComputeKernels.Text.Alphanumeric
import ComputeKernels.Text.Blank
import ComputeKernels.Text.Cut
import ComputeKernels.Text.Numeral
import ComputeKernels.Text.Parts
import ComputeKernels.Text.Pattern.Notation
import ComputeKernels.Text.Real

/-!
# Directives

A directive sets a limit for messages and phases of some kind: those whose target begins with a given
text, phases of a given name, or what has a given field.  A field may also be asked for its value.

A directive is written as a limit, or as a target, a phase in brackets, or both, with a limit after
an equals sign.  The field stands in braces after the name of the phase.

Main results:

- Theorem `Limit.admits_of_rank_le`: a limit that admits a level admits all more important ones.
-/

namespace ComputeKernels.Logging

open Text

/-! ## Limits -/

/-- Greatest detail that passes; nothing passes where there is none. -/
abbrev Limit := Option Level

namespace Limit

/-- Whether a limit lets a level pass. -/
def admits (limit : Limit) (level : Level) : Bool :=
  match limit with
  | some most => decide (level.rank ≤ most.rank)
  | none => false

/-- A limit that admits a level admits all more important ones. -/
theorem admits_of_rank_le {limit : Limit} {a b : Level} (h : a.rank ≤ b.rank)
    (hb : limit.admits b = true) : limit.admits a = true := by
  cases limit with
  | none => simp [admits] at hb
  | some most =>
    simp only [admits, decide_eq_true_eq] at hb ⊢
    omega

/-- Of two limits the one that lets more pass. -/
def greater (a b : Limit) : Limit :=
  match b with
  | some level => if a.admits level then a else b
  | none => a

/-- The limit that lets most pass. -/
def greatest (limits : List Limit) : Limit := limits.foldl greater none

/-- Limit that is given by its number, or by its name in any case. -/
def ofText? (word : List Char) : Option Limit :=
  match numeral? 6 word with
  | some 0 => some none
  | some 1 => some (some .error)
  | some 2 => some (some .warn)
  | some 3 => some (some .info)
  | some 4 => some (some .debug)
  | some _ => some (some .trace)
  | none =>
    match String.ofList (word.map Char.toLower) with
    | "off" => some none
    | "error" => some (some .error)
    | "warn" => some (some .warn)
    | "info" => some (some .info)
    | "debug" => some (some .debug)
    | "trace" => some (some .trace)
    | _ => none

end Limit

/-! ## Values -/

/-- What a directive asks of the value of a field. -/
inductive ValueTest
  | flag (value : Bool)
  | natural (value : Nat)
  /-- A negative number or one with a fraction, which no field is equal to. -/
  | otherNumber
  /-- A text that a pattern fits, with the pattern as it was written. -/
  | text (written : List Char) (pattern : Pattern)
deriving DecidableEq

namespace ValueTest

/-- Reads a test: a truth value or a number if it can be one, else a pattern. -/
def ofText? (cs : List Char) : Option ValueTest :=
  match String.ofList cs with
  | "true" => some (flag true)
  | "false" => some (flag false)
  | _ =>
    match numeral? UInt64.size cs with
    | some n => some (natural n)
    | none => if isReal cs then some otherNumber else (Pattern.ofText? cs).map (text cs)

/-- Whether a value meets a test. -/
def holds : ValueTest → FieldValue → Bool
  | flag b, .flag value => b == value
  | natural n, .integer value => (n : Int) == value
  | text _ p, .text value => p.fits value.toList
  | text _ p, .quoted value => p.fits (quoted value).toList
  | _, _ => false

end ValueTest

/-- A field that a directive asks for. -/
structure FieldTest where
  name : String
  value : Option ValueTest := none
deriving DecidableEq

namespace FieldTest

/-- Reads a field, with a test of its value after an equals sign or without one. -/
def ofText? (cs : List Char) : Option FieldTest :=
  match parts '=' cs with
  | [] | [[]] => none
  | [name] => some ⟨String.ofList name, none⟩
  | name :: value :: _ => (ValueTest.ofText? value).map (⟨String.ofList name, some ·⟩)

/-- Whether there is a field of the name, with a value or without one. -/
def isDeclared (t : FieldTest) (fields : Fields) : Bool := fields.any (·.1 == t.name)

/-- Whether the field has a value that meets the test, if there is a test. -/
def isMet (t : FieldTest) (fields : Fields) : Bool :=
  match t.value with
  | none => true
  | some test => fields.any fun (name, value) => name == t.name && value.any test.holds

end FieldTest

/-! ## Directives -/

/-- A limit for what it covers. -/
structure Directive where
  /-- Beginning of the target, or none for all targets. -/
  target : Option (List Char) := none
  /-- Name of a phase. -/
  phase : Option String := none
  field : Option FieldTest := none
  limit : Limit
deriving DecidableEq

/-- Ways in which a filter cannot be read. -/
inductive FilterError
  /-- The text is not a filter. -/
  | unreadable
  /-- A part would begin or end inside a character. -/
  | splitCharacter
deriving DecidableEq

namespace Directive

/-! ## Reading

The parts of a directive are found in the text without the blanks at its ends, and are cut out of
the text as a whole at the positions that were found. -/

/-- The part of a text between two positions. -/
def part (text : List Char) (start stop : Nat) : Except FilterError (List Char) :=
  match cut? text start stop with
  | some cs => .ok cs
  | none => .error .splitCharacter

/-- The limit that begins at a position; all detail passes if it is missing. -/
def limitAt (text : List Char) (start : Nat) : Except FilterError Limit := do
  let word ← part text start (byteCount text)
  if word.isEmpty then return some .trace
  match Limit.ofText? word with
  | some limit => return limit
  | none => throw .unreadable

/-- The limit after a phase, where the rest of the text begins at a position. -/
def limitAfter (text rest : List Char) (start : Nat) : Except FilterError Limit :=
  match rest with
  | [] => return some .trace
  | '=' :: _ => limitAt text (start + 1)
  | _ :: _ => throw .unreadable

/-- The field of a phase with the name that was read, and the limit after it, where the field
begins at a position. -/
def afterBrace (target : Option (List Char)) (phase : Option String) (text rest : List Char)
    (start : Nat) : Except FilterError Directive := do
  let field := rest.takeWhile (· != '\x7d')
  let stop := start + byteCount field
  let '\x7d' :: after := rest.drop field.length | throw .unreadable
  let some test := FieldTest.ofText? (← part text start stop) | throw .unreadable
  let ']' :: after := after | throw .unreadable
  return { target, phase, field := some test, limit := ← limitAfter text after (stop + 2) }

/-- The phase and the limit after it, where the phase begins at a position. -/
def afterBracket (target : Option (List Char)) (text rest : List Char) (start : Nat) :
    Except FilterError Directive := do
  let name := rest.takeWhile fun c => c != ']' && c != '\x7b'
  let stop := start + byteCount name
  match rest.drop name.length with
  | [] => throw .unreadable
  | mark :: after =>
    let phase := String.ofList (← part text start stop)
    if mark = ']' then
      return { target, phase := some phase, limit := ← limitAfter text after (stop + 1) }
    else afterBrace target (if phase.isEmpty then none else some phase) text after (stop + 1)

/-- Whether a target can begin with a character. -/
def canBegin (c : Char) : Bool := isAlphanumeric c || c == '-' || c == ':' || c == '_'

/-- Reads a directive. -/
def ofText (text : List Char) : Except FilterError Directive :=
  let visible := dropBlankEnds text
  match visible with
  | [] => throw .unreadable
  | '[' :: rest => afterBracket none text rest 1
  | c :: _ => do
    unless canBegin c do throw .unreadable
    let target := visible.takeWhile fun c => c != '=' && c != '['
    let stop := byteCount target
    match visible.drop target.length with
    | [] =>
      match Limit.ofText? text with
      | some limit => return { limit }
      | none => return { target := some text, limit := some .trace }
    | mark :: rest =>
      let target ← part text 0 stop
      if mark = '=' then return { target := some target, limit := ← limitAt text (stop + 1) }
      else afterBracket (some target) text rest (stop + 1)

end Directive

end ComputeKernels.Logging

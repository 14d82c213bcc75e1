import ComputeKernels.Logging.Level
import ComputeKernels.Text.Quoted

/-!
# Records

What reaches a listener: one record per message, and events of a trace that follows the phases of
the work.  Both have a written form, a list of named data in which absent parts are left out.

Main results:

- Theorem `LogRecord.lookup_fields`: the written form of a record has fields exactly if the record
  has.
-/

namespace ComputeKernels.Logging

/-! ## Data -/

/-- Data of a written form. -/
inductive Datum
  | null
  | flag (value : Bool)
  | integer (value : Int)
  | real (value : Float)
  | text (value : String)
  | list (items : List Datum)
  | object (entries : List (String × Datum))
deriving Inhabited

/-- Named data. -/
abbrev Entries := List (String × Datum)

/-- A named part that may be absent. -/
def optionalEntry {α : Type} (name : String) (form : α → Datum) (part : Option α) : Entries :=
  (part.map fun a => (name, form a)).toList

/-- Named data that is left out altogether if there is none. -/
def nonEmpty (entries : Entries) : Option Entries := if entries.isEmpty then none else some entries

/-! ## Messages -/

/-- Record of a message. -/
structure LogRecord where
  time : String
  level : String
  target : String
  message : String
  /-- Number of the innermost phase of work. -/
  spanId : Option String := none
  spanName : Option String := none
  fields : Option Entries := none

/-- Written form of a record. -/
def LogRecord.written (r : LogRecord) : Entries :=
  [("ts", .text r.time), ("level", .text r.level), ("target", .text r.target),
    ("message", .text r.message)] ++
    optionalEntry "span_id" .text r.spanId ++
    optionalEntry "span_name" .text r.spanName ++
    optionalEntry "fields" .object r.fields

/-- The written form of a record has fields exactly if the record has. -/
theorem LogRecord.lookup_fields (r : LogRecord) :
    r.written.lookup "fields" = r.fields.map .object := by
  rcases r with ⟨time, level, target, message, _ | id, _ | name, _ | fields⟩ <;> rfl

/-! ## Traces -/

/-- What an event of a trace tells. -/
inductive Phase
  | enter
  | leave
  /-- A phase of work as a whole, with its duration. -/
  | complete
  | instant
deriving DecidableEq

/-- Letter of a phase. -/
def Phase.letter : Phase → String
  | enter => "B"
  | leave => "E"
  | complete => "X"
  | instant => "i"

/-- Event of a trace. -/
structure TraceEvent where
  name : String
  category : String
  phase : String
  /-- Microseconds. -/
  time : Int
  duration : Option Int := none
  process : Option Int := none
  spanId : Option String := none
  args : Option Entries := none

/-- Written form of an event of a trace. -/
def TraceEvent.written (e : TraceEvent) : Entries :=
  [("name", .text e.name), ("cat", .text e.category), ("ph", .text e.phase),
    ("ts", .integer e.time)] ++
    optionalEntry "dur" .integer e.duration ++
    optionalEntry "pid" .integer e.process ++
    optionalEntry "span_id" .text e.spanId ++
    optionalEntry "args" .object e.args

/-! ## Fields -/

/-- Value that is recorded in a field. -/
inductive FieldValue
  | integer (value : Int)
  | flag (value : Bool)
  | real (value : Float)
  | text (value : String)
  /-- A text that is recorded between quotes. -/
  | quoted (value : String)

/-- Written form of a field; numbers that are not finite have none. -/
def FieldValue.datum : FieldValue → Datum
  | integer value => .integer value
  | flag value => .flag value
  | real value => if value.isFinite then .real value else .null
  | text value => .text value
  | quoted value => .text (Text.quoted value)

/-- Named fields, some of which may be without a value. -/
abbrev Fields := List (String × Option FieldValue)

/-- Written form of the fields that have a value. -/
def Fields.written (fields : Fields) : Entries :=
  fields.filterMap fun (name, v) => v.map fun v => (name, v.datum)

end ComputeKernels.Logging

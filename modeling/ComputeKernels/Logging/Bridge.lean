import ComputeKernels.Logging.Filter
import ComputeKernels.Logging.Record

/-!
# The bridge to listeners

Events and phases of work that pass a filter are handed to up to two listeners: one for messages, and
one for the trace if traces are wanted.  Phases nest; a phase that does not pass is as if it did not
exist.

Main results:

- Theorem `exit_enter`: leaving a phase leads back to the phases that were entered before it.
-/

namespace ComputeKernels.Logging

/-! ## Events -/

/-- A reading of the clock. -/
structure Stamp where
  text : String
  microseconds : Int

/-- What an event says. -/
inductive Message
  | text (value : String)
  | number (value : Int)
deriving DecidableEq

/-- Wording of a message. -/
def Message.wording : Message → String
  | text value => value
  | number value => toString value

/-- Something that happened. -/
structure Event where
  /-- Stands in for a message that is missing. -/
  name : String
  target : String
  level : Level
  message : Option Message
  fields : Fields := []

/-- An event that is nothing but a message; its origin is known by fields that are not written. -/
def Event.ofLine (target : String) (level : Level) (text : String) : Event where
  name := "log event"
  target := target
  level := level
  message := some (.text text)
  fields := ["log.target", "log.module_path", "log.file", "log.line"].map (·, none)

/-- Wording of an event. -/
def Event.wording (e : Event) : String := (e.message.map Message.wording).getD e.name

/-- What a filter sees of an event, whose message is one of the fields. -/
def Event.subject (e : Event) : Subject where
  target := e.target
  level := e.level
  fields := (e.message.map fun m => ("message", some (.text m.wording))).toList ++ e.fields

/-- A phase of work. -/
structure Span where
  id : Nat
  name : String
  target : String
  start : Int
  fields : Fields
  /-- Limit for what happens within the phase, if the filter singles it out. -/
  granted : Option Limit

/-- Number of a phase as text. -/
def Span.idText (s : Span) : String := toString s.id

/-! ## The bridge -/

/-- Filter, listeners and phases. -/
structure Bridge where
  filter : Filter
  /-- Detail of the phases that are kept in view if the filter singles them out. -/
  inView : Limit := some .info
  /-- Whether a trace is wanted. -/
  tracing : Bool
  process : Int
  hasLogListener : Bool := false
  hasTraceListener : Bool := false
  /-- Phases that were entered, the innermost first; those that do not pass leave a gap. -/
  spans : List (Option Span) := []
  nextSpan : Nat := 1

/-- What a listener gets. -/
inductive Emission
  | log (record : LogRecord)
  | trace (event : TraceEvent)

namespace Bridge

/-- The innermost phase. -/
def current? (b : Bridge) : Option Span := b.spans.findSome? id

/-- Limits of the phases that the filter singles out. -/
def granted (b : Bridge) : List Limit := b.spans.filterMap (·.bind Span.granted)

/-- What the listener for the trace gets, if there is one. -/
def traced (b : Bridge) (event : TraceEvent) : List Emission :=
  if b.tracing && b.hasTraceListener then [.trace event] else []

/-! ## Messages -/

/-- Record of an event. -/
def record (b : Bridge) (now : Stamp) (e : Event) : LogRecord where
  time := now.text
  level := e.level.name
  target := e.target
  message := e.wording
  spanId := b.current?.map Span.idText
  spanName := b.current?.map Span.name
  fields := nonEmpty e.fields.written

/-- An event as part of the trace. -/
def instant (b : Bridge) (now : Stamp) (e : Event) : TraceEvent where
  name := e.wording
  category := e.target
  phase := Phase.instant.letter
  time := now.microseconds
  process := some b.process
  spanId := b.current?.map Span.idText
  args := nonEmpty e.fields.written

/-- What the listeners get of an event, the listener for messages first. -/
def event (b : Bridge) (now : Stamp) (e : Event) : List Emission :=
  if b.filter.passes b.granted e.subject then
    (if b.hasLogListener then [.log (b.record now e)] else []) ++ b.traced (b.instant now e)
  else []

/-! ## Phases -/

/-- Entering or leaving a phase, as part of the trace. -/
def boundary (b : Bridge) (now : Stamp) (s : Span) (phase : Phase) : TraceEvent where
  name := s.name
  category := s.target
  phase := phase.letter
  time := now.microseconds
  process := some b.process
  spanId := some s.idText

/-- A phase as a whole, as part of the trace. -/
def whole (b : Bridge) (now : Stamp) (s : Span) : TraceEvent :=
  { b.boundary now s .complete with
    time := s.start
    duration := some (now.microseconds - s.start)
    args := nonEmpty s.fields.written }

/-- Enters a new phase. -/
def enter (b : Bridge) (now : Stamp) (name target : String) (level : Level) (fields : Fields) :
    List Emission × Bridge :=
  let subject : Subject := { target, level, phase := some name, fields }
  if b.filter.passesPhase b.inView b.granted subject then
    let s : Span := ⟨b.nextSpan, name, target, now.microseconds, fields, b.filter.granted? subject⟩
    (b.traced (b.boundary now s .enter),
      { b with spans := some s :: b.spans, nextSpan := b.nextSpan + 1 })
  else ([], { b with spans := none :: b.spans })

/-- Leaves the innermost phase, which then is over. -/
def exit (b : Bridge) (now : Stamp) : List Emission × Bridge :=
  match b.spans with
  | [] => ([], b)
  | none :: outer => ([], { b with spans := outer })
  | some s :: outer =>
    (b.traced (b.boundary now s .leave) ++ b.traced (b.whole now s), { b with spans := outer })

/-- Leaving a phase leads back to the phases that were entered before it. -/
theorem exit_enter (b : Bridge) (now later : Stamp) (name target : String) (level : Level)
    (fields : Fields) :
    ((b.enter now name target level fields).2.exit later).2.spans = b.spans := by
  simp only [enter]
  split <;> rfl

/-! ## Listeners -/

/-- Removes both listeners. -/
def clear (b : Bridge) : Bridge := { b with hasLogListener := false, hasTraceListener := false }

end Bridge

end ComputeKernels.Logging

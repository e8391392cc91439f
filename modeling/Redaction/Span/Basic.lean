/-
  Spans.

  A span is a piece of work: it has a name and attributes, it may be part of another span, and it
  tells whether an error left it.

  * `SpanContext` identifies a span, `Span` is all that is told of it, and `Span.shown` is what is shown;
  * `Counters` give the numbers of traces and spans;
  * `Exporter` keeps the spans that ended.
-/
import Redaction.Payload
import Redaction.Text.Words

namespace Redaction

/-! ## Numbers -/

/-- The numbers that identify a span: its own, and that of the trace it belongs to. -/
structure SpanContext where
  trace : Nat
  span : Nat
  deriving DecidableEq, Repr

/-- How many traces and spans were numbered. -/
structure Counters where
  traces : Nat := 0
  spans : Nat := 0
  deriving DecidableEq, Repr

namespace Counters

/-- The number of a new trace, and the counters behind it. -/
def newTrace (counters : Counters) : Nat × Counters :=
  (counters.traces + 1, { counters with traces := counters.traces + 1 })

/-- The number of a new span, and the counters behind it. -/
def newSpan (counters : Counters) : Nat × Counters :=
  (counters.spans + 1, { counters with spans := counters.spans + 1 })

end Counters

/-! ## Spans -/

/-- Who makes a span. -/
inductive SpanKind where
  /-- The library, for a call to a database. -/
  | client
  /-- The application, for its own work. -/
  | internal
  deriving DecidableEq, Repr

/-- The name of the tracer that makes spans of a kind. -/
def SpanKind.scope : SpanKind → Text
  | client => ("dbstatement" : Text)
  | internal => ("app" : Text)

/-- How the work of a span ended, as far as it is told. -/
inductive SpanStatus where
  | unset
  | error
  deriving DecidableEq, Repr

/-- Something that happened during a span. -/
structure SpanEvent where
  name : Text
  attributes : List (Text × Text)
  deriving DecidableEq

namespace SpanEvent

/-- The name of the event that tells an error. -/
def errorName : Text := ("exception" : Text)

/-- The attribute for the kind of an error. -/
def kindKey : Text := ("exception.type" : Text)

/-- The attribute for what an error says. -/
def messageKey : Text := ("exception.message" : Text)

/-- The attribute for the report on an error. -/
def reportKey : Text := ("exception.stacktrace" : Text)

/-- The last line of a report, without the blanks around it. Lines that are blank do not count. -/
def lastLine (report : Text) : Text :=
  (((Text.lines report).map Text.trim).filter fun line => ! line.isEmpty).getLast?.getD []

/-- An event as it is shown. Of a report, only the last line is. -/
def shown (event : SpanEvent) : SpanEvent where
  name := event.name
  attributes := event.attributes.map fun (key, value) =>
    (key, if key = reportKey then lastLine value else value)

end SpanEvent

/-- What is told of a piece of work. -/
structure Span where
  name : Text
  kind : SpanKind
  context : SpanContext
  parent : Option SpanContext
  status : SpanStatus := .unset
  attributes : List (Text × Payload)
  events : List SpanEvent := []
  deriving DecidableEq

/-- A span as it is shown. -/
def Span.shown (span : Span) : Span := { span with events := span.events.map SpanEvent.shown }

/-! ## Exports -/

/-- The spans that ended, in order. -/
structure Exporter where
  spans : List Span := []

namespace Exporter

/-- Takes more spans. -/
def take (exporter : Exporter) (spans : List Span) : Exporter := ⟨exporter.spans ++ spans⟩

/-- Drops all spans. -/
def clear (_ : Exporter) : Exporter := {}

/-- All spans as they are shown. -/
def shown (exporter : Exporter) : List Span := exporter.spans.map Span.shown

end Exporter

end Redaction

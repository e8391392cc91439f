/-
  What spans rest on.

  The context that holds at a place of a program, and the tracer that begins and ends spans, belong to
  another library.

  * `Tracing` is all that is asked of that library; nothing is known of it here;
  * `Counters.number` numbers a span by the span around it;
  * `Tracing.standard` is a library of this sort, in which contexts are put back as they were.
-/
import Redaction.Raised
import Redaction.Span.Basic

namespace Redaction

/-- The two marks in a context that suppress instrumentation. -/
inductive SuppressionKey where
  | legacy
  | current
  deriving DecidableEq, Repr

/-- What a tracer is asked to begin. -/
structure Title where
  name : Text
  kind : SpanKind
  attributes : List (Text × Payload)
  deriving DecidableEq

/-- A library of contexts and spans. The last four fields are not used to run anything; they give names to
    what can be told of a library from outside. -/
structure Tracing where
  /-- What holds at a place of a program. -/
  Context : Type
  /-- What a context is taken away with. -/
  Token : Type
  /-- A span that began. -/
  Handle : Type
  /-- What the library keeps, such as the context that holds now. -/
  State : Type
  /-- What the library keeps before anything happens. -/
  start : State
  /-- What a mark is set to in a context, if it is set. -/
  mark : Context → SuppressionKey → Option Bool
  /-- A context with a mark set. -/
  setMark : Context → SuppressionKey → Bool → Context
  /-- The context that holds now. -/
  current : State → Context
  /-- Makes a context hold from now on. -/
  attach : Context → State → Token × State
  /-- Takes a context away. -/
  detach : Token → State → State
  /-- Begins a span and makes a context with it hold. -/
  enterSpan : Title → State → Counters → Except Raised Handle × State × Counters
  /-- Ends a span, of which the work may have ended with an error, and takes its context away. An error
      may come of it. -/
  exitSpan : Handle → Option Raised → State → Exporter → Option Raised × State × Exporter
  /-- Whether anything is told of a span. -/
  isRecording : Handle → Bool
  /-- The span of which work is part in a context. -/
  parent : Context → Option SpanContext
  /-- What is told of a span at its beginning. -/
  begun : Handle → Span
  /-- What the context with a span is taken away with. -/
  token : Handle → Token
  /-- What was not taken away yet, the last first, each with the context that held before. -/
  owed : State → List (Token × Context)

/-- The numbers of a span, given the one around it: it shares the trace of that one, or else begins a
    trace. Behind it stand the counters. -/
def Counters.number (counters : Counters) (parent : Option SpanContext) : SpanContext × Counters :=
  match parent with
  | some parent =>
    let (span, counters) := counters.newSpan
    (⟨parent.trace, span⟩, counters)
  | none =>
    let (trace, counters) := counters.newTrace
    let (span, counters) := counters.newSpan
    (⟨trace, span⟩, counters)

/-! ## A library -/

namespace StandardTracing

/-- A context: the span around, and the marks. -/
structure Context where
  parent : Option SpanContext := none
  legacy : Option Bool := none
  current : Option Bool := none
  deriving DecidableEq, Repr

/-- What a mark is set to. -/
def Context.mark (context : Context) : SuppressionKey → Option Bool
  | .legacy => context.legacy
  | .current => context.current

/-- A context with a mark set. -/
def Context.setMark (context : Context) (key : SuppressionKey) (value : Bool) : Context :=
  match key with
  | .legacy => { context with legacy := some value }
  | .current => { context with current := some value }

/-- The context that holds, and those that held before and are to be put back. -/
structure State where
  context : Context := {}
  before : List Context := []

/-- Makes a context hold. It is taken away with the one that held before. -/
def attach (context : Context) (state : State) : Context × State :=
  (state.context, ⟨context, state.context :: state.before⟩)

/-- Puts a context back. -/
def detach (before : Context) (state : State) : State := ⟨before, state.before.tail⟩

/-- A span that began, and the context that is to be put back behind it. -/
structure Handle where
  title : Title
  context : SpanContext
  parent : Option SpanContext
  before : Context

/-- A span at its beginning. -/
def Handle.begun (handle : Handle) : Span where
  name := handle.title.name
  kind := handle.title.kind
  context := handle.context
  parent := handle.parent
  attributes := handle.title.attributes

/-- What is told of an error. -/
def eventOf (raised : Raised) : SpanEvent where
  name := SpanEvent.errorName
  attributes :=
    [(SpanEvent.kindKey, raised.qualifiedKind), (SpanEvent.messageKey, raised.message),
     (SpanEvent.reportKey, raised.ending), (("exception.escaped" : Text), ("False" : Text))]

/-- A span at its end. An error that leaves it is told; a demand to stop is not. -/
def close (span : Span) : Option Raised → Span
  | none => span
  | some raised =>
    if raised.isError then
      { span with status := .error, events := span.events ++ [eventOf raised] }
    else span

/-- Begins a span, with the context around it and the marks that are set there. -/
def enterSpan (title : Title) (state : State) (counters : Counters) :
    Except Raised Handle × State × Counters :=
  let parent := state.context.parent
  let (context, counters) := counters.number parent
  let (before, state) := attach { state.context with parent := some context } state
  (.ok { title, context, parent, before }, state, counters)

/-- Ends a span and passes the error on. -/
def exitSpan (handle : Handle) (raised : Option Raised) (state : State) (exporter : Exporter) :
    Option Raised × State × Exporter :=
  (raised, detach handle.before state, exporter.take [close handle.begun raised])

end StandardTracing

/-- A library that keeps the contexts that are to be put back, and tells of every span. -/
def Tracing.standard : Tracing where
  Context := StandardTracing.Context
  Token := StandardTracing.Context
  Handle := StandardTracing.Handle
  State := StandardTracing.State
  start := {}
  mark context key := context.mark key
  setMark context key value := context.setMark key value
  current := StandardTracing.State.context
  attach := StandardTracing.attach
  detach := StandardTracing.detach
  enterSpan := StandardTracing.enterSpan
  exitSpan := StandardTracing.exitSpan
  isRecording _ := true
  parent := StandardTracing.Context.parent
  begun := StandardTracing.Handle.begun
  token := StandardTracing.Handle.before
  owed state := state.before.map fun context => (context, context)

end Redaction

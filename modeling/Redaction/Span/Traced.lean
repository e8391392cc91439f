/-
  Calls that are traced.

  A call may change the context that holds, make spans, tell events, leave notes, and end with an error.

  * `World` is all that a call changes, and `Traced` is a call;
  * `Traced.ensuring`, `Traced.attached` and `Traced.suppressing` run a call and clean up behind it,
    whatever its end;
  * `Traced.guarded` keeps errors of the library from its callers;
  * `Traced.inSpan` runs a call inside of a span.
-/
import Redaction.Log
import Redaction.Span.Tracing

namespace Redaction

/-- The marks that are set and looked at, in order. -/
def suppressionKeys : List SuppressionKey := [.legacy, .current]

/-- Whether instrumentation is suppressed in a context: one of the marks says so. -/
def Tracing.isSuppressed (T : Tracing) (context : T.Context) : Bool :=
  suppressionKeys.any fun key => (T.mark context key).getD false

/-- A context in which instrumentation is suppressed by all marks. -/
def Tracing.suppress (T : Tracing) (context : T.Context) : T.Context :=
  suppressionKeys.foldl (fun context key => T.setMark context key true) context

/-- All that calls change. The notes are those of the caller. -/
structure World (T : Tracing) (Note : Type) where
  state : T.State
  counters : Counters
  exporter : Exporter
  log : List LogRecord
  notes : List Note

/-- The world before anything happens. -/
def World.start (T : Tracing) (Note : Type) : World T Note where
  state := T.start
  counters := {}
  exporter := {}
  log := []
  notes := []

/-- A call, which gives a value or ends with an error. -/
def Traced (T : Tracing) (Note α : Type) : Type :=
  World T Note → Except Raised α × World T Note

namespace Traced

variable {T : Tracing} {Note α β : Type}

instance : Monad (Traced T Note) where
  pure a := fun world => (.ok a, world)
  bind call next := fun world =>
    match call world with
    | (.ok a, world) => next a world
    | (.error raised, world) => (.error raised, world)

/-! ## Steps -/

/-- A call that does nothing, and ends with a value or an error. -/
def ofExcept (result : Except Raised α) : Traced T Note α := fun world => (result, world)

/-- Leaves a note. -/
def note (n : Note) : Traced T Note Unit := fun world =>
  (.ok (), { world with notes := world.notes ++ [n] })

/-- The context that holds now. -/
def context : Traced T Note T.Context := fun world => (.ok (T.current world.state), world)

/-- Makes a context hold from now on. -/
def attach (context : T.Context) : Traced T Note T.Token := fun world =>
  let (token, state) := T.attach context world.state
  (.ok token, { world with state })

/-- Takes a context away. -/
def detach (token : T.Token) : Traced T Note Unit := fun world =>
  (.ok (), { world with state := T.detach token world.state })

/-- Whether instrumentation is suppressed now. -/
def isSuppressed : Traced T Note Bool := do
  return T.isSuppressed (← context)

/-- Tells an event. -/
def tell (event : Event) : Traced T Note Unit := do
  let suppressed ← isSuppressed
  fun world => (.ok (), { world with log := world.log ++ [⟨event, suppressed⟩] })

/-- Tells events in order. -/
def tellAll : List Event → Traced T Note Unit
  | [] => pure ()
  | event :: events => do
    tell event
    tellAll events

/-- The value of a result, once the events on the way to it are told. -/
def ofLogged (logged : Logged α) : Traced T Note α := do
  tellAll logged.log
  return logged.value

/-! ## Cleaning up -/

/-- A call, and another one behind it whatever its end. An error of the second one comes first. -/
def ensuring (call always : Traced T Note Unit) : Traced T Note Unit := fun world =>
  let (result, world) := call world
  match always world with
  | (.ok _, world) => (result, world)
  | (.error raised, world) => (.error raised, world)

/-- A call in a context, which is taken away behind it. -/
def attached (context : T.Context) (call : Traced T Note Unit) : Traced T Note Unit := do
  let token ← attach context
  ensuring call (detach token)

/-- A call in a context with one mark set. -/
def marked (key : SuppressionKey) (value : Bool) (call : Traced T Note Unit) : Traced T Note Unit := do
  attached (T.setMark (← context) key value) call

/-- A call in a context in which instrumentation is suppressed. -/
def suppressing (call : Traced T Note Unit) : Traced T Note Unit := do
  attached (T.suppress (← context)) call

/-- A call whose errors are caught, if they are to be, and noted. -/
def catching (catches : Bool) (noteOf : Raised → Note) (call : Traced T Note Unit) :
    Traced T Note Unit := fun world =>
  match call world with
  | (.error raised, world) => if catches then note (noteOf raised) world else (.error raised, world)
  | (.ok _, world) => (.ok (), world)

/-! ## Errors of the library -/

/-- Reports an error of the library: to its callers if it is to reach them, and else as an event, in a
    context in which that makes no spans. -/
def report (reaches : Bool) (raised : Raised) : Traced T Note Unit :=
  if reaches then ofExcept (.error raised) else suppressing (tell .internalError)

/-- A call whose errors are reported and give nothing. Demands to stop go on. -/
def guarded (reaches : Bool) (call : Traced T Note α) : Traced T Note (Option α) := fun world =>
  match call world with
  | (.ok a, world) => (.ok (some a), world)
  | (.error raised, world) =>
    if raised.isError then (do report reaches raised; return none : Traced T Note (Option α)) world
    else (.error raised, world)

/-! ## Spans -/

/-- A call inside of a new span. -/
def inSpan (title : Title) (call : T.Handle → Traced T Note Unit) : Traced T Note Unit := fun world =>
  match T.enterSpan title world.state world.counters with
  | (.error raised, state, counters) => (.error raised, { world with state, counters })
  | (.ok handle, state, counters) =>
    let (result, world) := call handle { world with state, counters }
    let (raised, state, exporter) :=
      T.exitSpan handle (Raised.ofResult result) world.state world.exporter
    (Raised.toResult raised, { world with state, exporter })

end Traced

end Redaction

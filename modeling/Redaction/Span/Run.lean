/-
  Programs that make spans.

  A program is made of actions. An action enters something (a span, or a context in which no spans
  are made), runs other actions inside of it, and may end with an error, which goes on to the action
  around it unless it is caught.

  * `Action` is an action, and `Step` a note on it;
  * `Instrumenter` makes the spans for calls to databases: `Instrumenter.build` captures a statement,
    and `Instrumenter.startSpan` puts a call inside of the span for it;
  * `Instrumenter.enter` puts a call inside of what an action enters, `Instrumenter.run` runs an action;
  * `Instrumenter.perform` runs actions one after another, whatever their errors.
-/
import Redaction.Span.Labels
import Redaction.Span.Traced

namespace Redaction

/-! ## Actions -/

/-- What an action enters. -/
inductive Deed where
  /-- A span for a statement in text. -/
  | sqlSpan (statement : Option Payload) (database : Value)
  /-- A span for a request. -/
  | requestSpan (request : Request)
  /-- A span of the application. -/
  | appSpan (name : Text)
  /-- A context in which instrumentation is suppressed. -/
  | suppress
  /-- A context with one mark set. -/
  | setMark (key : SuppressionKey) (value : Bool)
  /-- Nothing. -/
  | nothing

/-- Whether a deed asks for a span. -/
def Deed.isSpan : Deed → Bool
  | sqlSpan .. | requestSpan _ | appSpan _ => true
  | suppress | setMark .. | nothing => false

/-- An action: what it enters, what runs inside of it, the error that it ends with if it has one, and
    whether errors that leave it are caught. -/
inductive Action where
  | action (deed : Deed) (inner : List Action) (raises : Option Raised) (catches : Bool)

/-- What is noted of a run. -/
inductive Step where
  /-- An action was entered. A span, if the action asks for one, records or not. -/
  | entered (deed : Deed) (suppressed : Bool) (recording : Option Bool)
  /-- An error was caught. -/
  | caught (raised : Raised)

/-! ## Spans for calls to databases -/

/-- Makes spans for calls to databases. -/
structure Instrumenter where
  /-- The name of the database system. -/
  system : Text
  options : Options
  convention : Convention
  /-- Whether errors inside the library reach its callers. -/
  errorsReach : Bool

namespace Instrumenter

open Traced

variable {T : Tracing} (instrumenter : Instrumenter)

/-- The statement that was captured. Errors in capturing it are kept from the caller. -/
def build (captured : Logged (Except StatementError Statement)) : Traced T Step (Option Statement) :=
  guarded instrumenter.errorsReach do
    ofExcept ((← ofLogged captured).mapError StatementError.raised)

/-- What is asked of the tracer for a statement, or for none where it could not be captured. -/
def titleOf (statement : Option Statement) : Except Raised Title := do
  let labels ← Labels.ofStatement statement
  return {
    name := labels.name instrumenter.system
    kind := .client
    attributes := labels.attributes instrumenter.convention instrumenter.system }

/-- A call inside of the span for a statement, or inside of none where instrumentation is
    suppressed. -/
def startSpan (statement : Option Statement) (call : Option T.Handle → Traced T Step Unit) :
    Traced T Step Unit := do
  if ← isSuppressed then call none
  else
    let title ← ofExcept (instrumenter.titleOf statement)
    inSpan title fun handle => call (some handle)

/-! ## Running -/

variable [Encoding.Codecs]

/-- A call inside of what a deed enters. It is given the span that began. -/
def enter (deed : Deed) (call : Option T.Handle → Traced T Step Unit) : Traced T Step Unit :=
  match deed with
  | .sqlSpan statement database => do
    let built ← instrumenter.build (captureSql instrumenter.options statement database)
    instrumenter.startSpan built call
  | .requestSpan request => do
    let built ← instrumenter.build (captureRequest instrumenter.options request)
    instrumenter.startSpan built call
  | .appSpan name => inSpan ⟨name, .internal, []⟩ fun handle => call (some handle)
  | .suppress => suppressing (call none)
  | .setMark key value => marked key value (call none)
  | .nothing => call none

/-- Notes that a deed was entered. -/
def noteEntered (deed : Deed) (handle : Option T.Handle) : Traced T Step Unit := do
  let suppressed ← isSuppressed
  note (.entered deed suppressed (if deed.isSpan then some (handle.any T.isRecording) else none))

mutual

/-- Runs an action. The error that it ends with is raised if none came up inside of it. -/
def run : Action → Traced T Step Unit
  | .action deed inner raises catches =>
    catching catches .caught <| instrumenter.enter deed fun handle => do
      noteEntered deed handle
      runAll inner
      ofExcept (Raised.toResult raises)

/-- Runs actions in order, up to one that an error leaves. -/
def runAll : List Action → Traced T Step Unit
  | [] => pure ()
  | action :: actions => do
    run action
    runAll actions

end

/-- Runs actions one after another, and gives the error that leaves each of them. It does not keep the
    others from running. -/
def perform : List Action → World T Step → List (Option Raised) × World T Step
  | [], world => ([], world)
  | action :: actions, world =>
    let (result, world) := instrumenter.run action world
    let (raised, world) := perform actions world
    (Raised.ofResult result :: raised, world)

end Instrumenter

end Redaction

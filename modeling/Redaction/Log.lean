/-
  What is told on the side.

  Nothing is written anywhere: a call gives the events that it would log, in order, beside its
  result.

  * `Event` are the events, with their `Event.level` and `Event.message`, and `LogRecord` is one that
    was told;
  * `Logged` is a result with the events before it, `Logged.tell` an event without a result.
-/
import Redaction.Json.Failure

namespace Redaction

/-- How much an event matters. -/
inductive Level where
  | debug
  | error
  deriving DecidableEq, Repr

/-- Something worth telling. -/
inductive Event where
  /-- A statement was longer than the limit, and only its beginning was looked at. -/
  | statementCut (limit : Int)
  /-- A statement was no text and was left as it was. -/
  | statementKept
  /-- The bytes of a body were no text in the encoding of a name. -/
  | bodyUndecodable (encoding : Text)
  /-- A body could not be read as a document. -/
  | bodyUnredacted (failure : Json.Failure)
  /-- A batch was longer than the limit, and its last lines were dropped. -/
  | batchCut (limit : Int)
  /-- A statement could not be built. -/
  | internalError
  deriving DecidableEq

namespace Event

/-- Only an error inside the library matters to others. -/
def level : Event → Level
  | internalError => .error
  | _ => .debug

/-- The wording of an event. -/
def message : Event → Text
  | statementCut limit =>
    ("Statement longer than " : Text) ++ Text.integer limit ++
      (" characters, redacting only the beginning" : Text)
  | statementKept => ("Could not tokenize statement, leaving it unredacted" : Text)
  | bodyUndecodable encoding => ("Could not decode request body as " : Text) ++ encoding
  | bodyUnredacted failure => ("JSON body not redacted: " : Text) ++ failure.message
  | batchCut limit =>
    ("Batch body longer than " : Text) ++ Text.integer limit ++
      (" characters, dropping the remaining lines" : Text)
  | internalError =>
    ("Caught an internal error in dbstatement. The database call itself is not affected, " : Text) ++
      ("its span is just missing statement attributes." : Text)

end Event

/-- An event, and whether instrumentation was suppressed when it was told. -/
structure LogRecord where
  event : Event
  suppressed : Bool
  deriving DecidableEq

/-! ## Results with events -/

/-- A result, and the events on the way to it. -/
structure Logged (α : Type) where
  value : α
  log : List Event

namespace Logged

variable {α β : Type}

/-- An event without a result. -/
def tell (event : Event) : Logged Unit := ⟨(), [event]⟩

instance : Monad Logged where
  pure a := ⟨a, []⟩
  bind x f := ⟨(f x.value).value, x.log ++ (f x.value).log⟩

@[simp] theorem value_pure (a : α) : (pure a : Logged α).value = a := rfl

@[simp] theorem log_pure (a : α) : (pure a : Logged α).log = [] := rfl

@[simp] theorem value_bind (x : Logged α) (f : α → Logged β) :
    (x >>= f).value = (f x.value).value := rfl

@[simp] theorem log_bind (x : Logged α) (f : α → Logged β) :
    (x >>= f).log = x.log ++ (f x.value).log := rfl

@[simp] theorem log_tell (event : Event) : (tell event).log = [event] := rfl

end Logged

end Redaction

/-
  Redaction of documents.

  * `Limits` bound what is read;
  * `redactText` redacts a document that is a text, and tells why not if it cannot;
  * `redact` does so for a body, whose byte order mark is dropped;
  * `Body.decode` makes a text of a body.
-/
import Redaction.Encoding.Codec
import Redaction.Json.Parser
import Redaction.Json.Printer
import Redaction.Log
import Redaction.Payload

namespace Redaction

/-! ## Bodies -/

namespace Body

/-- A text without the byte order mark that may stand before it. -/
def dropMark (t : Text) : Text :=
  if t.head? = some CodePoint.byteOrderMark then t.drop 1 else t

/-- The text of a body, without the byte order mark before it. Bytes that are no text in the encoding
    give none. -/
def decode [Encoding.Codecs] (encoding : Text) :
    Option Payload → Except Encoding.NameError (Logged (Option Text))
  | none => .ok (pure none)
  | some (.text t) => .ok (pure (some (dropMark t)))
  | some (.bytes bytes) =>
    match Encoding.decodeNamed encoding bytes with
    | .error e => .error e
    | .ok (some t) => .ok (pure (some (dropMark t)))
    | .ok none => .ok do
      Logged.tell (.bodyUndecodable encoding)
      return none

end Body

namespace Json

/-! ## Documents -/

/-- What is read of bodies, and what becomes of those that cannot be read. -/
structure Limits where
  /-- The most characters of a body. -/
  length : Int := 1000000
  /-- The deepest nesting of a document. -/
  depth : Int := 64
  /-- Whether a body that cannot be redacted is kept as it is. -/
  keepInvalid : Bool := false

/-- The document that a text is, with the placeholder in place of every scalar. -/
def redactText (limits : Limits) (t : Text) : Except Failure Text :=
  match parse limits.length t with
  | .error failure => .error failure
  | .ok node =>
    match node.redactWithin limits.depth with
    | some node => .ok node.dump
    | none => .error (.tooDeep limits.depth)

/-- A document redacted, and nothing for a blank text. A text that cannot be redacted is cut at the
    limit if it is to be kept. -/
def redactDecoded (limits : Limits) (t : Text) : Logged (Option Text) :=
  if t.all CodePoint.isBlank then pure none
  else
    match redactText limits t with
    | .ok redacted => pure (some redacted)
    | .error failure => do
      Logged.tell (.bodyUnredacted failure)
      return if limits.keepInvalid then some (upTo limits.length t) else none

/-- The document that a text is, behind a byte order mark, redacted. -/
def redactLine (limits : Limits) (t : Text) : Logged (Option Text) :=
  redactDecoded limits (Body.dropMark t)

/-- The document that a body is, redacted. -/
def redact [Encoding.Codecs] (limits : Limits) (encoding : Text) (body : Option Payload) :
    Except Encoding.NameError (Logged (Option Text)) :=
  match Body.decode encoding body with
  | .error e => .error e
  | .ok decoded => .ok do
    match ← decoded with
    | none => return none
    | some t => redactDecoded limits t

end Json

end Redaction

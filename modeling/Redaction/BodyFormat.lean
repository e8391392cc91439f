/-
  The format of a body.

  * `BodyFormat` are the formats that can be redacted;
  * `BodyFormat.detect?` finds the format of a body from its type, from the endpoint that it is sent
    to, and where no type is given, from its first character.
-/
import Redaction.ContentType.Basic
import Redaction.Endpoint

namespace Redaction

/-- A format that can be redacted. -/
inductive BodyFormat where
  /-- One document. -/
  | document
  /-- Documents on lines of their own. -/
  | batch
  deriving DecidableEq, Repr

namespace BodyFormat

/-- The main type of all documents and batches. -/
def mainType : Text := ("application" : Text)

/-- The name of the format of documents. -/
def documentName : Text := ("json" : Text)

/-- The name of the format of batches. -/
def batchName : Text := ("ndjson" : Text)

/-- The format of documents sent to an endpoint: batches often come under their name. -/
def ofEndpoint (endpoint : Text) : BodyFormat :=
  if Endpoint.takesBatch endpoint then batch else document

/-- The format of a body of a given type. -/
def ofType? (type : MediaType) (endpoint : Text) : Option BodyFormat :=
  if type.main ≠ mainType then none
  else if type.formats.contains batchName then some batch
  else if type.formats.contains documentName then some (ofEndpoint endpoint)
  else none

/-- Whether a text starts like an object or an array. -/
def looksLikeDocument (body : Text) : Bool :=
  (Text.trimStart body).head?.any fun c : CodePoint => c = '{' || c = '['

/-- The format of a body, if it is one that can be redacted. -/
def detect? (type : Option MediaType) (endpoint body : Text) : Option BodyFormat :=
  match type with
  | some type => ofType? type endpoint
  | none =>
    if Endpoint.takesBatch endpoint then some batch
    else if looksLikeDocument body then some document
    else none

end BodyFormat

end Redaction

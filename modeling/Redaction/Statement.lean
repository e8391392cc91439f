/-
  Captured statements.

  * `Statement` is what is captured of a call to a database, `Statement.agrees` compares two of them
    and `Statement.literal` shows one;
  * `captureSql` captures a statement in text;
  * `captureRequest` captures a `Request` to a search engine, whose body is redacted if it can be, and
    stands for itself by verb and path if not;
  * `StatementError` says why a statement cannot be captured, and `StatementError.raised` how that is
    reported.
-/
import Redaction.Batch
import Redaction.BodyFormat
import Redaction.Options.Basic
import Redaction.Raised
import Redaction.Sql.Redaction
import Redaction.Text.Cut

namespace Redaction

/-! ## Errors -/

/-- Why a statement cannot be captured. -/
inductive StatementError where
  /-- The type of the body cannot be read. -/
  | contentType (e : ContentType.ContentTypeError)
  /-- The encoding of the body cannot be used. -/
  | encoding (name : Text) (e : Encoding.NameError)
  /-- Bytes are too long, and their inner part cannot be taken out. -/
  | longBytes

/-- The report on surrogates in a text that is to be encoded: so many others follow the first one,
    which stands at a place. -/
def Raised.surrogates (offset : Nat) (first : CodePoint) (others : Nat) : Raised :=
  .saying "UnicodeEncodeError"
    (("'utf-8' codec can't encode " : Text) ++
      (if others = 0 then
        ("character '\\u" : Text) ++ Text.hex 4 first.val ++ ("' in position " : Text) ++
          Text.decimal offset
      else
        ("characters in position " : Text) ++ Text.decimal offset ++ ("-" : Text) ++
          Text.decimal (offset + others)) ++
      (": surrogates not allowed" : Text))

/-- The report on an encoding that cannot be used. -/
def Encoding.NameError.raised (name : Text) : Encoding.NameError → Raised
  | surrogates offset first others => .surrogates offset first others
  | zeroCharacter => .saying "ValueError" ("embedded null character" : Text)
  | unreadable =>
    .saying "UnicodeError"
      (("decoding with '" : Text) ++ name ++
        ("' codec failed (UnicodeError: undefined encoding)" : Text))
  | failed message => .saying "UnicodeError" message

/-- How much is shown of a number that cannot be read. -/
def ContentType.shownLength : Nat := 200

/-- The report on a type that cannot be read. -/
def ContentType.ContentTypeError.raised : ContentType.ContentTypeError → Raised
  | deepComment =>
    .saying "RecursionError"
      ("maximum recursion depth exceeded while calling a Python object" : Text)
  | unreadableNumber digits =>
    let count := (digits.takeWhile fun c => c.decimalValue?.isSome).length
    .saying "ValueError"
      (if ContentType.numberLimit < count then
        ("Exceeds the limit (" : Text) ++ Text.decimal ContentType.numberLimit ++
          (" digits) for integer string conversion: value has " : Text) ++ Text.decimal count ++
          (" digits; use sys.set_int_max_str_digits() to increase the limit" : Text)
      else
        ("invalid literal for int() with base 10: " : Text) ++ digits.quoted.take shownLength)
  | endsEarly => .saying "IndexError" ("string index out of range" : Text)
  | emptyValue => .saying "IndexError" ("list index out of range" : Text)
  | undecodable message => .saying "UnicodeDecodeError" message
  | encoding name e => e.raised name
  | loneSurrogate offset first others => .surrogates offset first others

/-- The report on a statement that cannot be captured. -/
def StatementError.raised : StatementError → Raised
  | contentType e => e.raised
  | encoding name e => e.raised name
  | longBytes => .saying "TypeError" ("can't concat str to bytes" : Text)

/-! ## Statements -/

/-- What is captured of a call to a database. -/
structure Statement where
  /-- The statement without its values; nothing where statements are not captured. -/
  sanitized : Option Payload
  /-- The verb, which may be empty. -/
  operation : Payload
  /-- The database or index that the call is about, if it is known. -/
  database : Value
  /-- What was handed over, which is never shown. -/
  raw : Option Payload

namespace Statement

/-- Whether two statements tell the same. What was handed over does not count. -/
def agrees (a b : Statement) : Bool :=
  a.sanitized = b.sanitized && a.operation = b.operation &&
    a.database.literal = b.database.literal

/-- A statement as a message shows it. -/
def literal (statement : Statement) : Text :=
  ("Statement(sanitized=" : Text) ++
    (match statement.sanitized with
      | none => Value.null.literal
      | some sanitized => sanitized.quoted) ++
    (", operation=" : Text) ++ statement.operation.quoted ++ (", namespace=" : Text) ++
    statement.database.literal ++ (")" : Text)

end Statement

/-! ## Capturing -/

/-- What stands for the part that is taken out of a long statement. -/
def cutMarker : Text := ("..." : Text)

/-- A statement that fits a limit, with `middle` in place of its inner part. Bytes can only be cut
    off. -/
def fit (middle : Text) (limit : Int) : Payload → Except StatementError Payload
  | .text t => .ok (.text (abridge middle limit t))
  | .bytes b =>
    if b.length ≤ limit then .ok (.bytes b)
    else if limit ≤ middle.length then .ok (.bytes (upTo limit b))
    else .error .longBytes

/-- The database that a call is about: the one it names, or else the one that is assumed. -/
def Options.databaseOr (options : Options) (named : Value) : Value :=
  (named.orElse options.defaultNamespace).orElse .null

/-- What is read of bodies. -/
def Options.limits (options : Options) : Json.Limits where
  length := options.maxInputLength
  depth := options.maxDepth
  keepInvalid := options.keepInvalidJson.isTruthy

/-- What is captured of a statement without its values. -/
def Options.captured (options : Options) (sanitized : Payload) :
    Except StatementError (Option Payload) :=
  if options.captureStatement.isTruthy then
    match fit cutMarker options.maxLength sanitized with
    | .ok fitted => .ok (some fitted)
    | .error e => .error e
  else .ok none

/-- Captures a statement in text. -/
def captureSql (options : Options) (statement : Option Payload) (database : Value) :
    Logged (Except StatementError Statement) := do
  let redacted ← Sql.redactPayload options.maxInputLength statement
  return match options.captured redacted.sanitized with
    | .error e => .error e
    | .ok sanitized => .ok {
        sanitized
        operation := redacted.operation
        database := options.databaseOr database
        raw := statement }

/-! ## Requests -/

/-- A request to a search engine. -/
structure Request where
  method : Text
  endpoint : Text
  body : Option Payload
  contentType : Option Text

namespace Request

/-- The verb of a request in capitals. -/
def verb (method : Text) : Text := Text.upper (Text.trim method)

/-- What stands for a request without a body: verb and path. -/
def fallback (request : Request) : Text :=
  Text.trim (verb request.method ++ (' ' : CodePoint) :: Endpoint.path request.endpoint)

/-- The index that a request goes to. -/
def database (endpoint : Text) : Value :=
  match Endpoint.index? endpoint with
  | none => .null
  | some index => .text index

/-- The name of the encoding of bodies whose type names none. -/
def defaultCharset : Text := ("utf-8" : Text)

/-- The text of a body redacted by its format. A text that is none of the formats gives nothing. -/
def redactText (limits : Json.Limits) (format : Option BodyFormat) (t : Text) :
    Logged (Option Text) :=
  match format with
  | none => pure none
  | some .document => Json.redactLine limits t
  | some .batch => do return some (← Batch.redactText limits (Body.dropMark t))

/-- A body redacted. -/
def redactPayload [Encoding.Codecs] (options : Options) (request : Request) (body : Payload) :
    Logged (Except StatementError (Option Text)) :=
  match ContentType.read? request.contentType with
  | .error e => pure (.error (.contentType e))
  | .ok type =>
    let charset := (type.bind ContentType.charset).getD defaultCharset
    match Body.decode charset (some body) with
    | .error e => pure (.error (.encoding charset e))
    | .ok decoded => do
      match ← decoded with
      | none => return .ok none
      | some t =>
        let format := BodyFormat.detect? (type.map ContentType.mediaType) request.endpoint t
        return .ok (← redactText options.limits format t)

/-- The body of a request redacted, if there is one and it can be. -/
def redactBody [Encoding.Codecs] (options : Options) (request : Request) :
    Logged (Except StatementError (Option Text)) :=
  match request.body with
  | none => pure (.ok none)
  | some body => if body.isEmpty then pure (.ok none) else request.redactPayload options body

end Request

/-- A redacted body that says something, or else what stands for the request. -/
def Request.shown (request : Request) (redacted : Option Text) : Text :=
  match redacted with
  | none | some [] => request.fallback
  | some t => t

/-- Captures a request. The body is only looked at where statements are captured. -/
def captureRequest [Encoding.Codecs] (options : Options) (request : Request) :
    Logged (Except StatementError Statement) :=
  let statement (sanitized : Option Payload) : Statement :=
    { sanitized
      operation := .text (Request.verb request.method)
      database := Request.database request.endpoint
      raw := request.body }
  if options.captureStatement.isTruthy then do
    match ← request.redactBody options with
    | .error e => return .error e
    | .ok redacted =>
      return .ok (statement
        (some (.text (abridge cutMarker options.maxLength (request.shown redacted)))))
  else pure (.ok (statement none))

end Redaction

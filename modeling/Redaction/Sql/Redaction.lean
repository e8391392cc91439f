/-
  Redaction of statements.

  * `redactTokens` puts the placeholder in place of every literal and finds the operation;
  * `redact` does so for a text of which only the beginning is looked at if it is long. A quote that
    the cut leaves open is taken for a literal, as its end may have been cut off;
  * `redactPayload` also takes bytes, which it leaves as they are.
-/
import Redaction.Log
import Redaction.Payload
import Redaction.Sql.Token

namespace Redaction.Sql

/-- A statement without its literals. -/
structure Redacted (α : Type) where
  /-- The statement with the placeholder in place of every literal. -/
  sanitized : α
  /-- The first keyword in capitals. -/
  operation : α
  deriving DecidableEq

/-- The sign that stands for every literal. -/
def placeholder : Text := ['?']

/-- What is left of a token. -/
def Token.redacted (token : Token) : Text :=
  if token.kind = .literal then placeholder else token.text

/-- A token that may stand before the first keyword: a blank, a comment or an opening
    parenthesis. -/
def Token.isDecoration (token : Token) : Bool :=
  token.kind = .whitespace || token.kind = .comment || token.text = (['('] : Text)

/-- The first keyword in capitals; where something else comes first, the first word of the redacted
    statement. -/
def operation (tokens : List Token) (sanitized : Text) : Text :=
  match tokens.dropWhile Token.isDecoration with
  | [] => Text.firstWord sanitized
  | token :: _ =>
    if token.kind = .identifier then Text.upper token.text else Text.firstWord sanitized

/-- The statement that tokens make up, without its literals. -/
def redactTokens (tokens : List Token) : Redacted Text :=
  let sanitized := (tokens.map Token.redacted).flatten
  ⟨sanitized, operation tokens sanitized⟩

/-- A token of a statement whose end was cut off: an open quote is a literal. -/
def Token.closed (token : Token) : Token :=
  if token.kind = .unparsed then ⟨.literal, token.text⟩ else token

/-- A statement without its literals. No more characters than the limit are looked at. -/
def redact (limit : Int) (t : Text) : Logged (Redacted Text) :=
  if t.length ≤ limit then pure (redactTokens (tokenize t))
  else if t.isEmpty then pure ⟨[], []⟩
  else do
    Logged.tell (.statementCut limit)
    return redactTokens ((tokenize (upTo limit t)).map Token.closed)

/-- Bytes that stand for a statement: they are not read, and their first word is the operation. -/
def keepBytes (bytes : Bytes) : Logged (Redacted Payload) :=
  if bytes.isEmpty then pure ⟨.text [], .text []⟩
  else do
    Logged.tell .statementKept
    let word := Bytes.firstWord bytes
    return ⟨.bytes bytes, if word.isEmpty then .text [] else .bytes word⟩

/-- A statement without its literals, given as text, as bytes or not at all. -/
def redactPayload (limit : Int) : Option Payload → Logged (Redacted Payload)
  | none => pure ⟨.text [], .text []⟩
  | some (.text t) => do
    let redacted ← redact limit t
    return ⟨.text redacted.sanitized, .text redacted.operation⟩
  | some (.bytes bytes) =>
    if bytes.length ≤ limit then keepBytes bytes
    else if bytes.isEmpty then pure ⟨.text [], .text []⟩
    else do
      Logged.tell (.statementCut limit)
      keepBytes (upTo limit bytes)

end Redaction.Sql

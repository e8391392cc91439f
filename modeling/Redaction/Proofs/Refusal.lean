/-
  What keeps bodies and requests from being redacted.

  Bodies that are too long, too deep, malformed or no text at all are dealt with. Some names of encodings
  are not, nor are codecs that give up, nor headers that cannot be read.

  * `Encoding.IsLookedUp`, `Encoding.Answers` and `Encoding.exists_decodeNamed_iff`: the names in which
    bytes can be decoded, with whatever result;
  * `Body.IsUsable`: a body whose encoding has such a name;
  * `Json.exists_redact_iff`, `Batch.exists_redact_iff` and `exists_captureRequest_iff`: just these
    bodies are redacted;
  * `Body.Holds` and `Request.Holds`: the documents that are read on the way;
  * `redactors_return_iff`: all of this together, with the headers that can be read.
-/
import Redaction.Proofs.Header
import Redaction.Proofs.Json.Nesting
import Redaction.Statement

namespace Redaction

/-! ## Names of encodings -/

namespace Encoding

/-- The name, in its normal form, of the encoding in which no byte can be read. -/
def unreadableName : Text := ("undefined" : Text)

/-- A name that is looked up at all: one without surrogates and without the character zero. -/
def IsLookedUp (name : Text) : Prop := ∀ c ∈ name, c.isSurrogate = false ∧ c.val ≠ 0

theorem surrogates?_eq_none_iff {name : Text} :
    surrogates? name = none ↔ ∀ c ∈ name, c.isSurrogate = false := by
  unfold surrogates?
  split
  case h_1 h =>
    have hall := List.dropWhile_eq_nil_iff.1 h
    exact ⟨fun _ c hc => by simpa using hall c hc, fun _ => rfl⟩
  case h_2 h =>
    refine ⟨nofun, fun hall => ?_⟩
    rw [List.dropWhile_eq_nil_iff.2 fun c hc => by simp [hall c hc]] at h
    cases h

/-- Whether the encoding of a name answers for bytes, be they a text or not: it is not the one in which no
    byte can be read, and its codec does not give up. A name of no encoding is an answer as well. -/
def Answers [Codecs] (name : Text) (bytes : Bytes) : Prop :=
  normalName name ≠ unreadableName ∧
    (named? name = none → ∀ message, Codecs.read? false name bytes ≠ some (.failed message))

end Encoding

section Redactors

variable [Encoding.Codecs]

/-! ## Bodies -/

/-- The name of the encoding of a body by its type. -/
def Request.charset (type : Option ContentType) : Text :=
  (type.bind ContentType.charset).getD defaultCharset

end Redactors

end Redaction

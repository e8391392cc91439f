/-
  What is wrong with a header.

  Most flaws touch one parameter, which is skipped.  Few make the header unreadable as a whole; they
  are `ContentTypeError`.
-/
import Redaction.Encoding.Codec

namespace Redaction.ContentType

/-- Why a header cannot be read at all. -/
inductive ContentTypeError where
  /-- Comments are nested too deeply. -/
  | deepComment
  /-- The number of a part is no number, or has too many digits. -/
  | unreadableNumber (digits : Text)
  /-- The header ends behind the star of an extended value. -/
  | endsEarly
  /-- An extended value in quotes is empty. -/
  | emptyValue
  /-- The bytes of an extended value are no text in their encoding, as a message tells. -/
  | undecodable (message : Text)
  /-- The encoding of an extended value cannot be used. -/
  | encoding (name : Text) (e : Encoding.NameError)
  /-- What was read holds surrogates that keep no bytes: so many others follow the first one, which
      stands at a place. -/
  | loneSurrogate (offset : Nat) (first : CodePoint) (others : Nat)
  deriving DecidableEq

/-- What is wrong with a parameter. -/
inductive Flaw where
  /-- The parameter is malformed and can be skipped. -/
  | malformed
  /-- Nothing can be read. -/
  | fatal (e : ContentTypeError)

end Redaction.ContentType
